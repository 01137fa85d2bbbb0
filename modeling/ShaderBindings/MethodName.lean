import ShaderBindings.Declaration
import ShaderBindings.Text.Blank
import ShaderBindings.Text.LetterCase

/-
  The names of the generated methods. Names of declarations
  are written in lower-case words joined by underscores, and
  two declarations clash when their methods share a name.

  Key definitions include:
    * `MethodName.snakeCase`
    * `MethodName.uniformSetter`
    * `MethodName.attributeSetter`
    * `MethodName.aggregateSetter`
    * `MethodName.setters`
    * `MethodClash`
    * `MethodClash.find?`
-/

------------------------------------------------------------
-- Lower-Case Words
------------------------------------------------------------

namespace ShaderBindings

namespace MethodName

open Text

/-
  A new word starts at an upper-case character that follows
  a lower-case one or a number, and at the last upper-case
  character of a run when a lower-case one follows it.
-/
def startsWord
    (previous : Option Char)
    (next : Option Char) : Bool :=
  match previous with
  | none => false
  | some p =>
      isLower p || isNumeric p ||
        (isUpper p && next.any isLower)

/- Lower-case words, given the character before the text. -/
def snakeFrom
    (previous : Option Char) :
    List Char → List Char
| [] => []
| c :: rest =>
    if isUpper c then
      (if startsWord previous rest.head? then ['_'] else []) ++
        lowered c ++ snakeFrom (some c) rest
    else
      c :: snakeFrom (some c) rest

/- A name in lower-case words joined by underscores. -/
def snakeCase (name : String) : String :=
  String.ofList (snakeFrom none name.toList)

end MethodName

end ShaderBindings

------------------------------------------------------------
-- Setters
------------------------------------------------------------

namespace ShaderBindings

namespace MethodName

/- The method that sets a uniform. -/
def uniformSetter (name : String) : String :=
  "set_" ++ snakeCase name

/- The method that configures a vertex attribute. -/
def attributeSetter (name : String) : String :=
  "set_" ++ snakeCase name ++ "_attribute"

/- The method that configures all vertex attributes. -/
def aggregateSetter : String :=
  "set_vertex_attributes"

/- What the aggregate setter is made from, in words. -/
def aggregateSource : String :=
  "vertex attributes"

/-
  Every setter with the name of what it is made from: the
  attributes, all of them together when there are any, and
  the uniforms.
-/
def setters
    (uniforms : List Uniform)
    (attributes : List Attribute) :
    List (String × String) :=
  attributes.map
      (fun declared =>
        (attributeSetter declared.name, declared.name)) ++
    (if attributes.isEmpty then
      []
    else
      [(aggregateSetter, aggregateSource)]) ++
    uniforms.map
      (fun declared =>
        (uniformSetter declared.name, declared.name))

end MethodName

end ShaderBindings

------------------------------------------------------------
-- Clashes
------------------------------------------------------------

namespace ShaderBindings

/- Two declarations whose methods share a name. -/
structure MethodClash where
  method : String
  first : String
  second : String
deriving DecidableEq, Repr

namespace MethodClash

/-
  The first setter in a list whose method is already taken,
  by one of the setters seen or by an earlier one.
-/
def firstRepeat?
    (seen : List (String × String)) :
    List (String × String) → Option MethodClash
| [] => none
| (method, source) :: rest =>
    match seen.lookup method with
    | some first => some { method, first, second := source }
    | none => firstRepeat? ((method, source) :: seen) rest

/- The earliest clash among the setters of an interface. -/
def find?
    (uniforms : List Uniform)
    (attributes : List Attribute) : Option MethodClash :=
  firstRepeat? [] (MethodName.setters uniforms attributes)

end MethodClash

end ShaderBindings
