import ShaderBindings.Event
import ShaderBindings.VertexLayout

/-
  The interface of a shader: its declarations together with
  the name of the class that binds them. An interface is
  checked while it is built; what strict mode rejects is
  otherwise logged as a warning.

  Key definitions include:
    * `className?`
    * `Interface`
    * `Interface.checkUniforms`
    * `Interface.checkAttributes`
    * `Interface.build`
-/

------------------------------------------------------------
-- Class Names
------------------------------------------------------------

namespace ShaderBindings

/-
  The name of the class for a base name: its first character
  in upper case, and the kind of class at the end.
-/
def className? (baseName : String) :
    Except GenerationError String :=
  match baseName.toList with
  | [] => .error (.invalidName baseName)
  | first :: rest =>
      .ok (String.ofList (Text.raised first ++ rest) ++ "Shader")

/- What a class is made from. -/
structure Interface where
  className : String
  baseName : String
  uniforms : List Uniform
  attributes : List Attribute
deriving DecidableEq, Repr

end ShaderBindings

------------------------------------------------------------
-- Checks
------------------------------------------------------------

namespace ShaderBindings

namespace Interface

/-
  What strict mode rejects with an error is otherwise only
  logged.
-/
def report
    (strict : Bool)
    (error : GenerationError)
    (warning : Event) :
    Logged GenerationError Unit :=
  if strict then .fail error else .note warning

/- Report every uniform whose name was seen before. -/
def checkUniforms
    (strict : Bool)
    (shader : String)
    (seen : List String) :
    List Uniform → Logged GenerationError Unit
| [] => .done ()
| declared :: rest => do
    if seen.contains declared.name then
      report strict (.duplicateUniform declared.name)
        (.uniformRepeated shader declared)
    checkUniforms strict shader (declared.name :: seen) rest

/-
  Report every attribute whose location was seen before,
  with the latest name seen there, and every attribute whose
  type has no known size.
-/
def checkAttributes
    (strict : Bool)
    (shader : String)
    (seen : List (UInt32 × String)) :
    List Attribute → Logged GenerationError Unit
| [] => .done ()
| declared :: rest => do
    match seen.lookup declared.location with
    | some previous =>
        report strict
          (.duplicateLocation declared.location declared.name)
          (.locationReused shader previous declared)
    | none => pure ()
    if !declared.type.isMapped then
      report strict
        (.unmappedAttributeType declared.name
          declared.typeToken)
        (.typeUnmapped shader declared)
    checkAttributes strict shader
      ((declared.location, declared.name) :: seen) rest

/-
  In strict mode, reject methods that share a name. Without
  strict mode they are reported when the code is written.
-/
def checkMethods
    (strict : Bool)
    (uniforms : List Uniform)
    (attributes : List Attribute) :
    Logged GenerationError Unit :=
  if strict then
    match MethodClash.find? uniforms attributes with
    | some clash => .fail (.duplicateMethod clash)
    | none => .done ()
  else
    .done ()

/- The interface of declarations under a base name. -/
def build
    (strict : Bool)
    (baseName : String)
    (uniforms : List Uniform)
    (attributes : List Attribute) :
    Logged GenerationError Interface := do
  let className ← Logged.ofExcept (className? baseName)
  checkUniforms strict baseName [] uniforms
  checkAttributes strict baseName [] attributes
  checkMethods strict uniforms attributes
  return { className, baseName, uniforms, attributes }

end Interface

end ShaderBindings
