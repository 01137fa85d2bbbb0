import ShaderBindings.Binding.Printer
import ShaderBindings.Declaration.Scan

/-
  From the text of a shader to the code of its binding.

  Key definitions include:
    * `Declarations.events`
    * `GenerationOptions`
    * `Generated`
    * `generate`
-/

------------------------------------------------------------
-- Events of a Scan
------------------------------------------------------------

namespace ShaderBindings

namespace Declarations

/-
  What a scan logs: every declaration that it finds, and how
  many there are.
-/
def events (found : Declarations) : List Event :=
  found.uniforms.map Event.uniformFound ++
    found.attributes.map Event.attributeFound ++
    [.scanned found.uniforms.length found.attributes.length]

end Declarations

end ShaderBindings

------------------------------------------------------------
-- Generation
------------------------------------------------------------

namespace ShaderBindings

/- How strict a generation is, and the names that it uses. -/
structure GenerationOptions where
  strict : Bool
  names : BindingOptions
deriving DecidableEq, Repr

/- What is generated for one shader. -/
structure Generated where
  interface : Interface
  stride : UInt32
  offsets : List UInt32
  fileName : String
  source : String
deriving DecidableEq, Repr

/- The code of an interface. -/
def writeCode
    (names : BindingOptions)
    (interface : Interface) :
    Logged GenerationError String := do
  let binding ← Binding.ofInterface names interface
  return binding.render

/- Generate the binding of a shader. -/
def generate
    (options : GenerationOptions)
    (baseName : String)
    (source : String) :
    Logged GenerationError Generated := do
  let found := Declarations.ofSource source
  Logged.noteAll found.events
  if found.isEmpty then
    Logged.note (.nothingDeclared baseName)
  let interface ←
    Interface.build options.strict baseName found.uniforms
      found.attributes
  let source ← writeCode options.names interface
  let layout := VertexLayout.ofAttributes interface.attributes
  return {
    interface
    stride := layout.stride
    offsets := layout.offsets
    fileName := interface.className ++ ".rs"
    source }

end ShaderBindings
