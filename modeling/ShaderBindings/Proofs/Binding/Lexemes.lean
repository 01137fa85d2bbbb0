import ShaderBindings.Proofs.Binding.Statements
import ShaderBindings.Proofs.Binding.Words

/-
  The lexemes in the code of a binding. However long its
  words are, and however its lines are broken, the code of a
  binding has the lexemes that are spelled out here.

  Key definitions include:
    * `Method.spelling`
    * `RuntimePath.spelling`
    * `Binding.spelling`

  Key theorems include:
    * `Method.reads_lines`
    * `RuntimePath.import_reads`
    * `Binding.lexemes_render`
-/

------------------------------------------------------------
-- Methods
------------------------------------------------------------

namespace ShaderBindings

open Code
open Code.Document
open Upload

namespace Method

/-
  The lexemes of a method. Behind the last item in brackets
  there is no comma, as it is left out when it is read.
-/
def spelling
    (className : Ident)
    (method : Method) : List Lexeme :=
  let name : List Lexeme := [.word method.name.text.toList]
  match method.body with
  | .makeShader program =>
      [lexemes "fn", name, lexemes "() -> Self \x7b",
        lexemes "Self \x7b shader: Shader::new(",
        [.literal program.toList],
        lexemes ") \x7d", lexemes "\x7d"].flatten
  | .shareInstance =>
      [lexemes "pub fn", name,
        lexemes "() -> &'static Self \x7b",
        lexemes "static INSTANCE: std::sync::OnceLock<",
        [.word className.text.toList],
        lexemes "> = std::sync::OnceLock::new();",
        lexemes "INSTANCE.get_or_init(Self::new)",
        lexemes "\x7d"].flatten
  | .lendShader =>
      [lexemes "pub fn", name,
        lexemes "(&self) -> &Shader \x7b",
        lexemes "&self.shader", lexemes "\x7d"].flatten
  | .configure pointer =>
      [lexemes "pub fn", name, lexemes "(&self) \x7b",
        lexemes "self.shader.vertex_attrib_pointer(",
        pointerSpelling pointer,
        lexemes ");", lexemes "\x7d"].flatten
  | .callEach methods =>
      [lexemes "pub fn", name, lexemes "(&self) \x7b",
        methods.flatMap ownSpelling, lexemes "\x7d"].flatten
  | .set setter uniform hostType byValue =>
      [lexemes "pub fn", name, lexemes "(&self, value:",
        lexemes (if byValue then "" else "&"),
        [.word hostType.text.toList],
        lexemes ") \x7b",
        lexemes "self.shader.", [.word setter.text.toList],
        lexemes "(", [.literal uniform.toList],
        lexemes ", value);", lexemes "\x7d"].flatten
  | .setEach setter uniform hostType byValue =>
      [lexemes "pub fn", name, lexemes "(&self, values: &[",
        [.word hostType.text.toList],
        lexemes "]) \x7b",
        lexemes "for (i, value) in values.iter().enumerate()",
        lexemes "\x7b",
        lexemes "self.shader.", [.word setter.text.toList],
        lexemes "(&format!(",
        [.literal (Text.elementTemplate uniform).toList],
        lexemes "),",
        lexemes (if byValue then "*" else ""),
        lexemes "value);", lexemes "\x7d \x7d"].flatten

variable {className name setter : Ident}
variable {uniform : String}
variable {hostType : HostType}
variable {byValue : Bool}

/- A title is read as its words. -/
theorem title_reads
    (hName : IsWhole name.text) :
    (Document.text ("pub fn " ++ name.text)).Reads Complete
      Ended
      (lexemes "pub fn" ++ [.word name.text.toList]) := by
  have hStart :
      (Document.text "pub fn ").Reads Complete Complete
        (lexemes "pub fn") :=
    Reads.fixed rfl (Complete.admits _) rfl
  exact hStart.text_append (Reads.word hName).of_ready

theorem receiver_reads :
    (Document.text "&self").Reads Ready Ended
      (lexemes "&self") :=
  Reads.fixed_word rfl (Ready.admits rfl rfl) rfl

/- The heading of a method with the receiver alone. -/
theorem receiverHeading_reads
    (hName : IsWhole name.text) :
    (Document.text ("pub fn " ++ name.text) ++
        inParentheses [.text "&self"]).Reads Complete Ended
      [lexemes "pub fn", [.word name.text.toList],
        lexemes "(&self)"].flatten := by
  have hReceiver :=
    Reads.inParentheses (.cons receiver_reads .nil)
      (List.cons_ne_nil _ _)
  have hHeading :=
    ((title_reads hName).append hReceiver).to_ended
  have hParameters :
      lexemes "(&self)" =
        [.mark '('] ++ lexemes "&self" ++ [.mark ')'] :=
    rfl
  rw [hParameters]
  simpa [List.intercalate] using hHeading

/- The heading of a method with a parameter. -/
theorem setterHeading_reads
    {parameter : String}
    {part : List Lexeme}
    (hName : IsWhole name.text)
    (hParameter :
      (Document.text parameter).Reads Ready Ended part) :
    (setterHeading name parameter).Reads Complete Ended
      [lexemes "pub fn", [.word name.text.toList],
        lexemes "(&self,", part, lexemes ")"].flatten := by
  have hParameters :=
    Reads.inParentheses
      (.cons receiver_reads (.cons hParameter .nil))
      (List.cons_ne_nil _ _)
  have hHeading :=
    ((title_reads hName).append hParameters).to_ended
  have hReceiver :
      lexemes "(&self," =
        [.mark '('] ++ lexemes "&self" ++ [.mark ','] :=
    rfl
  have hClosed : lexemes ")" = [.mark ')'] :=
    rfl
  rw [hReceiver, hClosed]
  simpa [setterHeading, List.intercalate] using hHeading

theorem makeShader_reads
    {program : String}
    (hName : IsWhole name.text) :
    Line.Reads Complete Complete
      (spelling className ⟨name, .makeShader program⟩)
      (lines className ⟨name, .makeShader program⟩) := by
  have hStart :
      (Document.text "fn ").Reads Complete Complete
        (lexemes "fn") :=
    Reads.fixed rfl (Complete.admits _) rfl
  have hResult :
      (Document.text "() -> Self").Reads Ended Ended
        (lexemes "() -> Self") :=
    Reads.fixed_word rfl (Ended.admits rfl) rfl
  have hHeading :=
    (hStart.text_append (Reads.word hName).of_ready).text_append
      hResult
  have hBody :=
    Line.Reads.ended 0
      (classLiteral_reads program).to_ended
  have hMethod := Line.Reads.block hHeading hBody.to_due
  have hSplit :
      lexemes "() -> Self \x7b" =
        lexemes "() -> Self" ++ lexemes "\x7b" :=
    rfl
  simpa [spelling, lines, hSplit] using hMethod

theorem shareInstance_reads
    (hClass : IsWhole className.text)
    (hName : IsWhole name.text) :
    Line.Reads Complete Complete
      (spelling className ⟨name, .shareInstance⟩)
      (lines className ⟨name, .shareInstance⟩) := by
  have hResult :
      (Document.text "() -> &'static Self").Reads Ended Ended
        (lexemes "() -> &'static Self") :=
    Reads.fixed_word rfl (Ended.admits rfl) rfl
  have hHeading := (title_reads hName).text_append hResult
  have hItem :=
    Line.Reads.ended 0
      (instanceItem_reads hClass).to_ended
  have hGet :
      Line.Reads Complete Complete
        (lexemes "INSTANCE.get_or_init(Self::new)")
        [Line.ofText "INSTANCE.get_or_init(Self::new)"] :=
    Line.Reads.ended 0
      (Reads.fixed rfl (Complete.admits _) rfl).to_ended
  have hMethod :=
    Line.Reads.block hHeading (hItem.append hGet).to_due
  have hSplit :
      lexemes "() -> &'static Self \x7b" =
        lexemes "() -> &'static Self" ++ lexemes "\x7b" :=
    rfl
  simpa [spelling, lines, hSplit] using hMethod

theorem lendShader_reads
    (hName : IsWhole name.text) :
    Line.Reads Complete Complete
      (spelling className ⟨name, .lendShader⟩)
      (lines className ⟨name, .lendShader⟩) := by
  have hResult :
      (Document.text "(&self) -> &Shader").Reads Ended Ended
        (lexemes "(&self) -> &Shader") :=
    Reads.fixed_word rfl (Ended.admits rfl) rfl
  have hHeading := (title_reads hName).text_append hResult
  have hShader :
      Line.Reads Complete Complete (lexemes "&self.shader")
        [Line.ofText "&self.shader"] :=
    Line.Reads.ended 0
      (Reads.fixed_word rfl (Complete.admits _) rfl)
  have hMethod := Line.Reads.block hHeading hShader.to_due
  have hSplit :
      lexemes "(&self) -> &Shader \x7b" =
        lexemes "(&self) -> &Shader" ++ lexemes "\x7b" :=
    rfl
  simpa [spelling, lines, hSplit] using hMethod

/- The heading of a method without parameters opens a block. -/
theorem receiver_opens :
    lexemes "(&self) \x7b" =
      lexemes "(&self)" ++ lexemes "\x7b" :=
  rfl

theorem configure_reads
    {pointer : AttributePointer}
    (hName : IsWhole name.text) :
    Line.Reads Complete Complete
      (spelling className ⟨name, .configure pointer⟩)
      (lines className ⟨name, .configure pointer⟩) := by
  have hCall :=
    Line.Reads.ended 0
      (pointerCall_reads pointer).to_ended
  have hMethod :=
    Line.Reads.block (receiverHeading_reads hName) hCall.to_due
  simpa [spelling, lines, receiver_opens] using hMethod

theorem callEach_reads
    {methods : List Ident}
    (hName : IsWhole name.text)
    (hMethods : ∀ method ∈ methods, IsWhole method.text) :
    Line.Reads Complete Complete
      (spelling className ⟨name, .callEach methods⟩)
      (lines className ⟨name, .callEach methods⟩) := by
  have hCalls :
      Line.Reads Complete Complete
        (methods.flatMap ownSpelling)
        (methods.map ownCall) := by
    rw [List.map_eq_flatMap]
    apply Line.Reads.flatMap
    intro method hMethod
    exact ownCall_reads (hMethods method hMethod)
  have hMethod :=
    Line.Reads.block (receiverHeading_reads hName)
      hCalls.to_due
  simpa [spelling, lines, receiver_opens] using hMethod

/- A setter of the shader is called with a value. -/
theorem setterCall_reads
    {target : Document}
    {value : String}
    {part last : List Lexeme}
    (hSetter : IsWhole setter.text)
    (hTarget : target.Reads Ready Ended part)
    (hValue : (Document.text value).Reads Ready Ended last) :
    Line.Reads Complete Complete
      [lexemes "self.shader.", [.word setter.text.toList],
        lexemes "(", part, lexemes ",", last,
        lexemes ");"].flatten
      [⟨0, shaderCall setter.text [target, .text value]⟩] := by
  have hCall :=
    shaderCall_reads hSetter
      (.cons hTarget (.cons hValue .nil))
      (List.cons_ne_nil _ _)
  exact Line.Reads.ended 0
    (by simpa [List.intercalate] using hCall.to_ended)

theorem set_reads
    (hName : IsWhole name.text)
    (hSetter : IsWhole setter.text)
    (hHost : IsWhole hostType.text) :
    Line.Reads Complete Complete
      (spelling className
        ⟨name, .set setter uniform hostType byValue⟩)
      (lines className
        ⟨name, .set setter uniform hostType byValue⟩) := by
  have hValue :
      (Document.text "value: ").Reads Ready Complete
        (lexemes "value:") :=
    Reads.fixed rfl (Ready.admits rfl rfl) rfl
  have hReference :
      (Document.text (if byValue then "" else "&")).Reads
        Complete Complete
        (lexemes (if byValue then "" else "&")) := by
    cases byValue with
    | true => exact Reads.text_empty
    | false => exact Reads.fixed rfl (Complete.admits _) rfl
  have hParameter :=
    (hValue.text_append hReference).text_append
      (Reads.word hHost).of_ready
  have hArgument : IsWhole "value" :=
    isWhole_of_all (by decide) rfl
  have hCall :=
    setterCall_reads hSetter
      (Reads.literal uniform).to_ended (Reads.word hArgument)
  have hMethod :=
    Line.Reads.block (setterHeading_reads hName hParameter)
      hCall.to_due
  have hHeading :
      lexemes "(&self, value:" =
        lexemes "(&self," ++ lexemes "value:" :=
    rfl
  have hOpened : lexemes ") \x7b" = lexemes ")" ++ lexemes "\x7b" :=
    rfl
  have hClosed :
      lexemes ", value);" =
        lexemes "," ++ (.word "value".toList :: lexemes ");") :=
    rfl
  simpa [spelling, lines, hHeading, hOpened, hClosed]
    using hMethod

theorem setEach_reads
    (hName : IsWhole name.text)
    (hSetter : IsWhole setter.text)
    (hHost : IsWhole hostType.text) :
    Line.Reads Complete Complete
      (spelling className
        ⟨name, .setEach setter uniform hostType byValue⟩)
      (lines className
        ⟨name, .setEach setter uniform hostType byValue⟩) := by
  have hValues :
      (Document.text "values: &[").Reads Ready Complete
        (lexemes "values: &[") :=
    Reads.fixed rfl (Ready.admits rfl rfl) rfl
  have hEnd :
      (Document.text "]").Reads Ended Ended (lexemes "]") :=
    (Reads.fixed rfl (Ended.admits rfl) rfl).to_ended
  have hParameter :=
    (hValues.text_append (Reads.word hHost).of_ready).text_append
      hEnd
  have hLoop :
      (Document.text
        "for (i, value) in values.iter().enumerate()").Reads
          Complete Ended
        (lexemes
          "for (i, value) in values.iter().enumerate()") :=
    (Reads.fixed rfl (Complete.admits _) rfl).to_ended
  have hValue :
      (Document.text
          (if byValue then "*value" else "value")).Reads Ready
        Ended
        (lexemes (if byValue then "*" else "") ++
          [.word "value".toList]) := by
    cases byValue with
    | true =>
        exact Reads.fixed_word rfl (Ready.admits rfl rfl) rfl
    | false =>
        exact Reads.fixed_word rfl (Ready.admits rfl rfl) rfl
  have hCall :=
    setterCall_reads hSetter (elementName_reads uniform) hValue
  have hMethod :=
    Line.Reads.block (setterHeading_reads hName hParameter)
      (Line.Reads.block hLoop hCall.to_due).to_due
  have hHeading :
      lexemes "(&self, values: &[" =
        lexemes "(&self," ++ lexemes "values: &[" :=
    rfl
  have hOpened :
      lexemes "]) \x7b" =
        lexemes "]" ++ (lexemes ")" ++ lexemes "\x7b") :=
    rfl
  have hFormat :
      lexemes "(&format!(" =
        lexemes "(" ++ lexemes "&format!(" :=
    rfl
  have hTarget : lexemes ")," = lexemes ")" ++ lexemes "," :=
    rfl
  have hClosed :
      lexemes "value);" = .word "value".toList :: lexemes ");" :=
    rfl
  have hBraces :
      lexemes "\x7d \x7d" = lexemes "\x7d" ++ lexemes "\x7d" :=
    rfl
  simpa [spelling, lines, hHeading, hOpened, hFormat, hTarget,
    hClosed, hBraces] using hMethod

end Method

end ShaderBindings

------------------------------------------------------------
-- Bindings
------------------------------------------------------------

namespace ShaderBindings

open Code
open Code.Document

namespace Code

namespace RuntimePath

/- The lexemes of a segment and of what parts it from others. -/
def segmentSpelling (segment : String) : List Lexeme :=
  .word segment.toList :: lexemes "::"

/- The lexemes of the names of a path. -/
def spelling (path : RuntimePath) : List Lexeme :=
  [lexemes (if path.rooted then "::" else ""),
    (path.segments ++ ["prelude"]).flatMap segmentSpelling,
    lexemes "*;"].flatten

/- Segments that are joined are read one after the other. -/
theorem segments_reads
    {segments : List String}
    (hWhole : ∀ segment ∈ segments, IsWhole segment)
    (hSome : segments ≠ []) :
    (Document.text
        (String.intercalate "::" segments ++ "::")).Reads
      Complete Complete
      (segments.flatMap segmentSpelling) := by
  have hColons :
      (Document.text "::").Reads Ended Complete
        (lexemes "::") :=
    Reads.fixed rfl (Ended.admits rfl) rfl
  induction segments with
  | nil => exact absurd rfl hSome
  | cons segment rest ih =>
      rcases List.forall_mem_cons.mp hWhole with
        ⟨hSegment, hOthers⟩
      have hFirst :=
        (Reads.word hSegment).of_ready.text_append hColons
      cases rest with
      | nil => simpa [segmentSpelling] using hFirst
      | cons next others =>
          have hRest := ih hOthers (List.cons_ne_nil _ _)
          have hAll := hFirst.text_append hRest
          rw [String.intercalate_cons_cons]
          simpa [segmentSpelling, String.append_assoc]
            using hAll

/- Names are imported from the path that is written. -/
theorem import_reads
    {path : RuntimePath}
    (hWhole : ∀ segment ∈ path.segments, IsWhole segment)
    (hSome : path.segments ≠ []) :
    Line.Reads Complete Complete
      (lexemes "use" ++ path.spelling)
      [Line.ofText
        ("use " ++ path.text ++ "::prelude::*;")] := by
  have hUse :
      (Document.text "use ").Reads Complete Complete
        (lexemes "use") :=
    Reads.fixed rfl (Complete.admits _) rfl
  have hRoot :
      (Document.text (if path.rooted then "::" else "")).Reads
        Complete Complete
        (lexemes (if path.rooted then "::" else "")) := by
    cases path.rooted with
    | true => exact Reads.fixed rfl (Complete.admits _) rfl
    | false => exact Reads.text_empty
  have hPrelude :
      (Document.text "prelude::*;").Reads Complete Complete
        (lexemes "prelude::*;") :=
    Reads.fixed rfl (Complete.admits _) rfl
  have hImport :=
    ((hUse.text_append hRoot).text_append
      (segments_reads hWhole hSome)).text_append hPrelude
  have hSplit :
      lexemes "prelude::*;" =
        segmentSpelling "prelude" ++ lexemes "*;" :=
    rfl
  have hText :
      "use " ++ path.text ++ "::prelude::*;" =
        "use " ++ (if path.rooted then "::" else "") ++
          (String.intercalate "::" path.segments ++ "::") ++
          "prelude::*;" := by
    simp [RuntimePath.text, String.append_assoc]
  rw [hText]
  apply Line.Reads.ended
  simpa [Line.ofText, spelling, hSplit]
    using hImport.to_ended

end RuntimePath

end Code

/- The lines of a method are read as its lexemes. -/
theorem Method.reads_lines
    {className : Ident}
    {method : Method}
    (hClass : IsWhole className.text)
    (hMethod : method.WordsWhole) :
    Line.Reads Complete Complete (method.spelling className)
      (method.lines className) := by
  rcases method with ⟨name, body⟩
  rcases hMethod with ⟨hName, hBody⟩
  cases body with
  | makeShader program => exact makeShader_reads hName
  | shareInstance => exact shareInstance_reads hClass hName
  | lendShader => exact lendShader_reads hName
  | configure pointer => exact configure_reads hName
  | callEach methods => exact callEach_reads hName hBody
  | set setter uniform hostType byValue =>
      exact set_reads hName hBody.1 hBody.2
  | setEach setter uniform hostType byValue =>
      exact setEach_reads hName hBody.1 hBody.2

namespace Binding

variable {binding : Binding}

/- The lexemes of a binding. -/
def spelling (binding : Binding) : List Lexeme :=
  let name : List Lexeme := [.word binding.className.text.toList]
  [lexemes "pub mod", [.word binding.module.text.toList],
    lexemes "\x7b use", binding.runtime.spelling,
    lexemes "pub struct", name,
    lexemes "\x7b shader: Shader \x7d impl", name,
    lexemes "\x7b",
    binding.methods.flatMap
      (Method.spelling binding.className),
    lexemes "\x7d \x7d"].flatten

/- Methods one after the other are read in this order. -/
theorem reads_methods
    {className : Ident}
    {methods : List Method}
    (hClass : IsWhole className.text)
    (hMethods : ∀ method ∈ methods, method.WordsWhole) :
    Line.Reads Complete Complete
      (methods.flatMap (Method.spelling className))
      (methods.flatMap (Method.lines className)) := by
  apply Line.Reads.flatMap
  intro method hMethod
  exact Method.reads_lines hClass (hMethods method hMethod)

/- A word behind the words of an item. -/
theorem item_reads
    {name : String}
    {c : Char}
    {rest : List Char}
    (start : String)
    (hStart : start.toList = c :: rest)
    (hClosed :
      (Lexing.start.read start.toList).pending = .nothing)
    (hName : IsWhole name) :
    (Document.text (start ++ name)).Reads Complete Ended
      (lexemes start ++ [.word name.toList]) :=
  (Reads.fixed hStart (Complete.admits c) hClosed).text_append
    (Reads.word hName).of_ready

/- The lines of a binding are read as its lexemes. -/
theorem reads_lines
    (hWords : binding.WordsWhole) :
    Line.Reads Complete Complete binding.spelling
      binding.lines := by
  have hClass := hWords.className
  have hUse :=
    RuntimePath.import_reads hWords.runtime hWords.located
  have hShader :
      (Document.text "shader: Shader").Reads Complete Ended
        (lexemes "shader: Shader") :=
    Reads.fixed_word rfl (Complete.admits _) rfl
  have hComma : (Document.text ",").Reads Ended Due [] :=
    Reads.text_of_admits rfl (Ended.admits rfl) Due.isRelative
      (Or.inr rfl)
  have hField :
      Line.Reads Complete Due (lexemes "shader: Shader")
        [Line.ofText ("shader: Shader" ++ ",")] :=
    Line.Reads.due 0
      (by simpa [Line.ofText] using hShader.text_append hComma)
  have hStruct :=
    Line.Reads.block
      (item_reads "pub struct " rfl rfl hClass)
      hField
  have hImpl :=
    Line.Reads.block
      (item_reads "impl " rfl rfl hClass)
      (reads_methods hClass hWords.methods).to_due
  have hModule :=
    Line.Reads.block
      (item_reads "pub mod " rfl rfl hWords.module)
      ((hUse.append hStruct).append hImpl).to_due
  have hOpened :
      lexemes "\x7b use" = lexemes "\x7b" ++ lexemes "use" :=
    rfl
  have hClosed :
      lexemes "\x7b shader: Shader \x7d impl" =
        lexemes "\x7b" ++ (lexemes "shader: Shader" ++
          (lexemes "\x7d" ++ lexemes "impl ")) :=
    rfl
  have hBraces :
      lexemes "\x7d \x7d" = lexemes "\x7d" ++ lexemes "\x7d" :=
    rfl
  have hStarts :
      lexemes "pub mod" = lexemes "pub mod " ∧
        lexemes "pub struct" = lexemes "pub struct " :=
    ⟨rfl, rfl⟩
  simpa [spelling, lines, hOpened, hClosed, hBraces,
    hStarts.1, hStarts.2] using hModule

/- The code of a binding has its lexemes. -/
theorem lexemes_render
    (hWords : binding.WordsWhole) :
    lexemes binding.render = binding.spelling := by
  have hBanner :
      Lexing.start.read (banner ++ "\n\n").toList =
        Lexing.start := by
    decide +kernel
  have hLines :=
    reads_lines hWords page 0 [] Lexing.start rfl
  have hRead :
      Lexing.start.read binding.render.toList =
        ⟨binding.spelling, .nothing⟩ := by
    rw [render, String.toList_append, Lexing.read_append,
      hBanner]
    simpa [Complete] using hLines
  rw [lexemes, hRead]
  rfl

end Binding

end ShaderBindings
