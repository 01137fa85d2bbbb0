import ShaderBindings.Binding
import ShaderBindings.Code.Document

/-
  The code of a binding: a banner, the module, and in it the
  import, the class and its methods.

  Key definitions include:
    * `Binding.page`
    * `Binding.literalWidth`
    * `Method.lines`
    * `Binding.lines`
    * `Binding.render`
-/

------------------------------------------------------------
-- Decisions of the Format
------------------------------------------------------------

namespace ShaderBindings

open Code

namespace Binding

/-
  Lines have 89 columns and at least room for 60, and depth
  is shown by four blanks.
-/
def page : Page where
  margin := 89
  least := 60
  step := 4

/- A struct literal wider than this is broken. -/
def literalWidth : Nat :=
  34

/- The comment at the top of the code. -/
def banner : String :=
  "// This file is auto-generated and any change will be " ++
    "overwritten on the next update."

end Binding

end ShaderBindings

------------------------------------------------------------
-- Pieces of Code
------------------------------------------------------------

namespace ShaderBindings

namespace Code

namespace Document

/- A gap that is nothing when it is not broken. -/
def cut : Document :=
  .gap ⟨false, false, false⟩

/- A gap that is a blank when it is not broken. -/
def blank : Document :=
  .gap ⟨true, false, false⟩

/- The gap before a closing bracket. -/
def closing : Document :=
  .gap ⟨false, false, true⟩

/- The gap before a closing bracket, with a last comma. -/
def closingComma : Document :=
  .gap ⟨false, true, true⟩

/- Items with commas between them. -/
def commaSeparated : List Document → Document
| [] => .empty
| [item] => item
| item :: rest =>
    item ++ .text "," ++ blank ++ commaSeparated rest

/-
  What stands inside brackets: items that are broken one to
  a line, with a comma behind the last one as well.
-/
def items (contents : List Document) : Document :=
  .box 1 none (cut ++ commaSeparated contents ++ closingComma)

/- Items in parentheses. -/
def inParentheses (contents : List Document) : Document :=
  .text "(" ++ items contents ++ .text ")"

end Document

end Code

end ShaderBindings

------------------------------------------------------------
-- Statements
------------------------------------------------------------

namespace ShaderBindings

open Code
open Upload

namespace Method

/- The word for a pointer format in the code. -/
def formatWord : PointerFormat → String
| .float => "AttribFormat::Float"
| .int => "AttribFormat::Int"
| .unmapped => "AttribFormat::Unmapped"

/- A call of a method of the shader. -/
def shaderCall
    (name : String)
    (arguments : List Document) : Document :=
  .box 1 none
      (.text "self.shader" ++ Document.cut ++
        .text ("." ++ name) ++
        .box 0 none (Document.inParentheses arguments)) ++
    .text ";"

/- A call of another method of the class. -/
def ownCall (name : Ident) : Line :=
  Line.ofText ("self." ++ name.text ++ "();")

/- The arguments that configure an attribute. -/
def pointerArguments
    (pointer : AttributePointer) : List Document := [
  .text (toString pointer.location.toNat),
  .text (toString pointer.components.toNat),
  .text (formatWord pointer.format),
  .text (toString pointer.stride.toNat),
  .text (toString pointer.offset.toNat)]

/- The name of an element, formatted from its index. -/
def elementName (uniform : String) : Document :=
  .text "&format!(" ++
    .box 1 none
      (Document.cut ++
        .text (Text.literal (uniform ++ "[\x7bi\x7d]")) ++
        Document.closing) ++
    .text ")"

/- A literal of the class around a new shader. -/
def classLiteral (program : String) : Document :=
  .box 1 (some Binding.literalWidth)
      (.text "Self \x7b" ++ Document.blank ++
        .text "shader: " ++
        .text "Shader::new" ++
        Document.inParentheses
          [.text (Text.literal program)] ++
        .gap ⟨true, true, true⟩) ++
    .text "\x7d"

/- The item that holds the one instance of the class. -/
def instanceItem (className : Ident) : Document :=
  .box 0 none
    (.text "static INSTANCE: std::sync::OnceLock<" ++
      Document.items [.text className.text] ++
      .text "> = " ++ .seam ++
      .text "std::sync::OnceLock::new();")

end Method

end ShaderBindings

------------------------------------------------------------
-- Methods
------------------------------------------------------------

namespace ShaderBindings

open Code

namespace Method

/- The heading of a method with a parameter. -/
def setterHeading
    (name : Ident)
    (parameter : String) : Document :=
  .text ("pub fn " ++ name.text) ++
    Document.inParentheses [.text "&self", .text parameter]

/- A method as lines of code. -/
def lines
    (className : Ident)
    (method : Method) : List Line :=
  match method.body with
  | .makeShader program =>
      Line.block
        (.text ("fn " ++ method.name.text ++ "() -> Self"))
        [⟨0, classLiteral program⟩]
  | .shareInstance =>
      Line.block
        (.text
          ("pub fn " ++ method.name.text ++
            "() -> &'static Self"))
        [⟨0, instanceItem className⟩,
          Line.ofText "INSTANCE.get_or_init(Self::new)"]
  | .lendShader =>
      Line.block
        (.text
          ("pub fn " ++ method.name.text ++
            "(&self) -> &Shader"))
        [Line.ofText "&self.shader"]
  | .configure pointer =>
      Line.block
        (.text ("pub fn " ++ method.name.text) ++
          Document.inParentheses [.text "&self"])
        [⟨0, shaderCall "vertex_attrib_pointer"
          (pointerArguments pointer)⟩]
  | .callEach methods =>
      Line.block
        (.text ("pub fn " ++ method.name.text) ++
          Document.inParentheses [.text "&self"])
        (methods.map ownCall)
  | .set setter uniform hostType byValue =>
      Line.block
        (setterHeading method.name
          ("value: " ++ (if byValue then "" else "&") ++
            hostType.text))
        [⟨0, shaderCall setter.text
          [.text (Text.literal uniform), .text "value"]⟩]
  | .setEach setter uniform hostType byValue =>
      Line.block
        (setterHeading method.name
          ("values: &[" ++ hostType.text ++ "]"))
        (Line.block
          (.text
            "for (i, value) in values.iter().enumerate()")
          [⟨0, shaderCall setter.text
            [elementName uniform,
              .text (if byValue then "*value" else "value")]⟩])

end Method

end ShaderBindings

------------------------------------------------------------
-- Bindings
------------------------------------------------------------

namespace ShaderBindings

open Code

namespace Binding

/- A binding as lines of code. -/
def lines (binding : Binding) : List Line :=
  let name := binding.className.text
  Line.block (.text ("pub mod " ++ binding.module.text))
    ([Line.ofText
        ("use " ++ binding.runtime.text ++ "::prelude::*;")] ++
      Line.block (.text ("pub struct " ++ name))
        [Line.ofText "shader: Shader,"] ++
      Line.block (.text ("impl " ++ name))
        (binding.methods.flatMap
          (Method.lines binding.className)))

/- The text of a binding. -/
def render (binding : Binding) : String :=
  banner ++ "\n\n" ++ Line.renderAll page binding.lines

end Binding

end ShaderBindings
