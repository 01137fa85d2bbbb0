import ShaderBindings.Failure

/-
  Pairs of shader files. The two stages of one shader lie in
  one directory under the same stem, and are told apart by
  their extensions in any letter case.

  Key definitions include:
    * `Stage`
    * `Stage.ofPath?`
    * `ShaderPair`
    * `ShaderPair.ofFile`
    * `ShaderPair.outputPath`
-/

------------------------------------------------------------
-- Stages
------------------------------------------------------------

namespace ShaderBindings

/- A stage of a shader program. -/
inductive Stage where
| vertex
| fragment
deriving DecidableEq, Repr

namespace Stage

/- The extension of the files of a stage. -/
def extension : Stage → List Char
| .vertex => ['v', 'e', 'r', 't']
| .fragment => ['f', 'r', 'a', 'g']

/- The other stage. -/
def partner : Stage → Stage
| .vertex => .fragment
| .fragment => .vertex

/- The stage that an extension stands for. -/
def ofExtension? (extension : List Char) : Option Stage :=
  let lowered := extension.map Char.toLower
  if lowered = Stage.vertex.extension then
    some .vertex
  else if lowered = Stage.fragment.extension then
    some .fragment
  else
    none

/- The stage of the file at a path. -/
def ofPath? (path : Path) : Option Stage :=
  path.extension?.bind ofExtension?

end Stage

end ShaderBindings

------------------------------------------------------------
-- Pairs
------------------------------------------------------------

namespace ShaderBindings

/-
  A pair of files under one base name. The primary file is
  read first.
-/
structure ShaderPair where
  baseName : String
  primary : Path
  partner : Path
deriving DecidableEq, Repr

namespace ShaderPair

/- The pair that the file at a path belongs to. -/
def ofFile (path : Path) : Except PairError ShaderPair :=
  match Stage.ofPath? path with
  | none => .error (.unsupportedExtension path)
  | some stage =>
      .ok {
        baseName := String.ofList (path.stem?.getD [])
        primary := path
        partner := path.withExtension stage.partner.extension }

/-
  Where the code of a pair is written: into the given
  directory, or next to the primary file.
-/
def outputPath
    (pair : ShaderPair)
    (fileName : String)
    (outDir : Option Path) : Path :=
  let directory :=
    match outDir with
    | some directory => directory
    | none => pair.primary.parent?.getD ⟨""⟩
  directory.join ⟨fileName⟩

end ShaderPair

end ShaderBindings

------------------------------------------------------------
-- Pairs among the Files of a Directory
------------------------------------------------------------

namespace ShaderBindings

namespace ShaderPair

/- Files by their stems, in the order of the stems. -/
abbrev ByStem :=
  List (String × Path)

/- Put a file in the place of its stem. -/
def insertStem
    (stem : String)
    (path : Path) :
    ByStem → ByStem
| [] => [(stem, path)]
| (other, kept) :: rest =>
    if stem < other then
      (stem, path) :: (other, kept) :: rest
    else if stem = other then
      (stem, path) :: rest
    else
      (other, kept) :: insertStem stem path rest

/-
  Take one file into account. A vertex shader always takes
  the place of its stem, a fragment shader only an empty
  one, and other files do not count.
-/
def addFile
    (found : ByStem)
    (path : Path) : ByStem :=
  match Stage.ofPath? path, path.stem? with
  | some stage, some name =>
      let stem := String.ofList name
      if stage = .vertex ∨ (found.lookup stem).isNone then
        insertStem stem path found
      else
        found
  | _, _ => found

/- The pairs among files, in the order of their stems. -/
def amongFiles (files : List Path) :
    Except PairError (List ShaderPair) :=
  (files.foldl addFile []).mapM fun item => ofFile item.2

end ShaderPair

end ShaderBindings
