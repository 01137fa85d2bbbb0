/-
  Paths of files. A path is kept as it was written, and its
  pieces are found by the rules of slashes: empty pieces and
  pieces of one dot do not count, apart from a dot at the
  very start.

  Key definitions include:
    * `Path`
    * `Path.lead`
    * `Path.trimEnd`
    * `Path.lastPiece?`
    * `Path.fileName?`
    * `Path.parent?`
    * `Path.ancestors`
    * `Path.stem?`
    * `Path.extension?`
    * `Path.join`
    * `Path.withExtension`
    * `Path.steps`
-/

------------------------------------------------------------
-- Paths
------------------------------------------------------------

namespace ShaderBindings

/- A path, as it is written. -/
structure Path where
  text : String
deriving DecidableEq, Repr

namespace Path

/- The characters of a path. -/
def chars (path : Path) : List Char :=
  path.text.toList

/- The path with the given characters. -/
def ofChars (cs : List Char) : Path :=
  ⟨String.ofList cs⟩

/- The path is empty. -/
def isEmpty (path : Path) : Bool :=
  path.text.isEmpty

/- The path starts at the root. -/
def isAbsolute (path : Path) : Bool :=
  path.chars.head? == some '/'

end Path

end ShaderBindings

------------------------------------------------------------
-- Pieces of a Path
------------------------------------------------------------

namespace ShaderBindings

namespace Path

/-
  The start of a path that counts by itself, and the body
  behind it: the slash of the root, or a piece of one dot.
-/
def lead : List Char → List Char × List Char
| '/' :: body => (['/'], body)
| ['.'] => (['.'], [])
| '.' :: '/' :: body => (['.'], '/' :: body)
| body => ([], body)

/- A reversed body without the pieces that do not count. -/
def trimReversed : List Char → List Char
| '/' :: rest => trimReversed rest
| '.' :: '/' :: rest => trimReversed rest
| ['.'] => []
| rest => rest

/- A body without the pieces at its end that do not count. -/
def trimEnd (body : List Char) : List Char :=
  (trimReversed body.reverse).reverse

/- What is left of a text before its last slash. -/
def beforeSlash (body : List Char) : List Char :=
  ((body.reverse.dropWhile fun c => c != '/').drop 1).reverse

/- What stands in a text behind its last slash. -/
def behindSlash (body : List Char) : List Char :=
  (body.reverse.takeWhile fun c => c != '/').reverse

/-
  The last piece of a path that counts, with everything
  before that piece.
-/
def lastPiece? (path : Path) :
    Option (List Char × List Char) :=
  let (start, body) := lead path.chars
  let kept := trimEnd body
  if kept.isEmpty then
    none
  else
    let piece := behindSlash kept
    some
      (start ++ kept.take (kept.length - piece.length), piece)

/-
  The name of the file: the last piece, unless it leads to
  the directory above.
-/
def fileName? (path : Path) : Option (List Char) :=
  match path.lastPiece? with
  | some (_, piece) =>
      if piece = ['.', '.'] then none else some piece
  | none => none

/- The path without its last piece. -/
def parent? (path : Path) : Option Path :=
  let (start, body) := lead path.chars
  let kept := trimEnd body
  if kept.isEmpty then
    if start = ['.'] then some ⟨""⟩ else none
  else
    some (ofChars (start ++ trimEnd (beforeSlash kept)))

/-
  A path and the paths above it, with at most as many as the
  fuel. Every parent is shorter than its path.
-/
def ancestorsWithin : Nat → Path → List Path
| 0, _ => []
| fuel + 1, path =>
    path ::
      (match path.parent? with
      | some above => ancestorsWithin fuel above
      | none => [])

/- A path and the paths above it, up to the last one. -/
def ancestors (path : Path) : List Path :=
  ancestorsWithin (path.chars.length + 1) path

end Path

end ShaderBindings

------------------------------------------------------------
-- Stems and Extensions
------------------------------------------------------------

namespace ShaderBindings

namespace Path

/-
  A file name parted at its last dot, into the stem and the
  extension. A dot at the start of the name parts nothing.
-/
def partName (name : List Char) :
    List Char × Option (List Char) :=
  let extension :=
    (name.reverse.takeWhile fun c => c != '.').reverse
  let stem := name.take (name.length - extension.length - 1)
  if extension.length = name.length ∨ stem = [] then
    (name, none)
  else
    (stem, some extension)

/- The name of the file without its extension. -/
def stem? (path : Path) : Option (List Char) :=
  path.fileName?.map fun name => (partName name).1

/- The extension of the name of the file. -/
def extension? (path : Path) : Option (List Char) :=
  path.fileName?.bind fun name => (partName name).2

/-
  The path up to the end of its stem, followed by a dot and
  an extension. A path without a stem stays as it is.
-/
def setExtension
    (path : Path)
    (extension : List Char) : Path :=
  match path.lastPiece?, path.stem? with
  | some (before, _), some stem =>
      ofChars (before ++ stem ++ '.' :: extension)
  | _, _ => path

/-
  The path with another extension. As many characters as the
  old extension has are cut from the end of the path before
  the new one is set.
-/
def withExtension
    (path : Path)
    (extension : List Char) : Path :=
  match path.extension? with
  | some old =>
      (ofChars
        (path.chars.take
          (path.chars.length - old.length))).setExtension
        extension
  | none => path.setExtension extension

end Path

end ShaderBindings

------------------------------------------------------------
-- Joining and Walking
------------------------------------------------------------

namespace ShaderBindings

namespace Path

/-
  A path behind another one. A slash is put between them
  unless there is one already; a path that starts at the
  root stands alone.
-/
def join
    (path : Path)
    (other : Path) : Path :=
  if other.isAbsolute then
    other
  else if path.isEmpty ∨ path.chars.getLast? = some '/' then
    ofChars (path.chars ++ other.chars)
  else
    ofChars (path.chars ++ '/' :: other.chars)

/- The pieces of a text between its slashes. -/
def splitSlashes : List Char → List (List Char)
| [] => [[]]
| c :: rest =>
    if c = '/' then
      [] :: splitSlashes rest
    else
      match splitSlashes rest with
      | [] => [[c]]
      | piece :: pieces => (c :: piece) :: pieces

/-
  The steps by which a path is walked from its start. A path
  that ends in a slash ends with a step that stays, since
  what stands before the slash has to be a directory.
-/
def steps (path : Path) : List String :=
  let pieces :=
    (splitSlashes path.chars).filter fun piece => piece ≠ []
  pieces.map String.ofList ++
    (if path.chars.getLast? = some '/' then ["."] else [])

end Path

end ShaderBindings
