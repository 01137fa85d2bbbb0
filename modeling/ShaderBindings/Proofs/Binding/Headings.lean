import ShaderBindings.Binding.Printer
import ShaderBindings.Proofs.Binding.Words
import ShaderBindings.Proofs.Code.Layout

/-
  The headings in the code of a binding. Every method is
  written under one heading, and nothing else that is
  written, broken over several lines or not, is one. So the
  functions in the code are the methods of the binding, in
  order.

  Key theorems include:
    * `Method.shaderCall_leads`
    * `Method.head_lines`
    * `Binding.functionNames_render`
-/

------------------------------------------------------------
-- Literals
------------------------------------------------------------

namespace ShaderBindings

namespace Text

/- No digit ends a line. -/
theorem newline_not_mem_toDigits (number : Nat) :
    '\n' ∉ Nat.toDigits 16 number := by
  have hDigit :
      ∀ digit < 16, Nat.digitChar digit ≠ '\n' := by
    decide
  induction number using Nat.strongRecOn with
  | ind number ih =>
      rw [Nat.toDigits_eq_if (by decide)]
      split
      · rename_i hSmall
        rw [List.mem_singleton]
        exact (hDigit number hSmall).symm
      · rename_i hLarge
        rw [List.mem_append, List.mem_singleton, not_or]
        constructor
        · exact ih (number / 16) (by omega)
        · exact (hDigit (number % 16)
            (Nat.mod_lt _ (by decide))).symm

theorem newline_not_mem_codeEscape (c : Char) :
    '\n' ∉ codeEscape c := by
  simp [codeEscape, newline_not_mem_toDigits]

/- An escape does not end the line. -/
theorem newline_not_mem_escape (c : Char) :
    '\n' ∉ escape c := by
  have hCode := newline_not_mem_codeEscape c
  unfold escape
  split_ifs with hNull hTab hNewline
  · decide
  · decide
  · decide
  · decide
  · decide
  · decide
  · exact hCode
  · rw [List.mem_singleton]
    exact fun hSame => hNewline hSame.symm
  · exact hCode

theorem newline_not_mem_literalChars (cs : List Char) :
    '\n' ∉ literalChars cs := by
  induction cs with
  | nil => simp [literalChars]
  | cons c rest ih =>
      rw [literalChars, List.mem_append, not_or]
      refine ⟨?_, ih⟩
      split
      · decide
      · exact newline_not_mem_escape c

/- A literal stands on one line. -/
theorem newline_not_mem_literal (text : String) :
    '\n' ∉ (literal text).toList := by
  simp [literal, enquote, newline_not_mem_literalChars]

end Text

end ShaderBindings

------------------------------------------------------------
-- Documents
------------------------------------------------------------

namespace ShaderBindings

namespace Code

namespace Document

/- A literal settles its line. -/
theorem literal_leads (content : String) :
    (Document.text (Text.literal content)).Leads Open
      Settled := by
  apply Leads.text_settling
  refine ⟨Text.newline_not_mem_literal content, ?_⟩
  rw [Text.literal, Text.enquote, String.toList_ofList]
  exact ⟨[], '"', _, rfl, by simp, rfl⟩

theorem cut_leads :
    cut.Leads Open Open :=
  Leads.gap_open rfl

theorem commaSeparated_leads
    {contents : List Document}
    (hContents :
      ∀ content ∈ contents, content.Leads Open Open) :
    (commaSeparated contents).Leads Open Open := by
  have hComma : (Document.text ",").Leads Open Settled :=
    Leads.fixed rfl
  induction contents with
  | nil => exact Leads.empty
  | cons item rest ih =>
      have hItem := hContents item List.mem_cons_self
      have hRest :=
        ih fun content hContent =>
          hContents content (List.mem_cons_of_mem item hContent)
      cases rest with
      | nil => exact hItem
      | cons next others =>
          exact ((hItem.append hComma).append
            Leads.gap).append hRest

/- Items do not settle their lines by themselves. -/
theorem items_leads
    {contents : List Document}
    (hContents :
      ∀ content ∈ contents, content.Leads Open Open) :
    (items contents).Leads Open Open :=
  Leads.box
    ((cut_leads.append (commaSeparated_leads hContents)).append
      (Leads.gap_open rfl))

/- Parentheses settle the line behind them. -/
theorem inParentheses_leads
    {before : Standing (List (List Char))}
    {contents : List Document}
    (hOpen : (Document.text "(").Leads before Settled)
    (hContents :
      ∀ content ∈ contents, content.Leads Open Open) :
    (inParentheses contents).Leads before Settled := by
  have hClose : (Document.text ")").Leads Open Settled :=
    Leads.fixed rfl
  exact (hOpen.append
    (Leads.of_open (items_leads hContents))).append hClose

end Document

end Code

end ShaderBindings

------------------------------------------------------------
-- Statements
------------------------------------------------------------

namespace ShaderBindings

open Code
open Document
open Upload

namespace Code

theorem IsUnparted.newline
    {text : String}
    (hUnparted : IsUnparted text) :
    '\n' ∉ text.toList :=
  fun hMember => hUnparted '\n' hMember (by decide)

theorem IsUnparted.blank
    {text : String}
    (hUnparted : IsUnparted text) :
    ' ' ∉ text.toList :=
  fun hMember => hUnparted ' ' hMember (by decide)

theorem IsUnparted.bracket
    {text : String}
    (hUnparted : IsUnparted text) :
    '(' ∉ text.toList :=
  fun hMember => hUnparted '(' hMember (by decide)

/- An unparted text keeps a line open. -/
theorem IsUnparted.leads
    {text : String}
    (hUnparted : IsUnparted text) :
    (Document.text text).Leads Open Open :=
  Leads.text_word hUnparted.newline hUnparted.blank

/- A fixed unparted text keeps a line open. -/
theorem word_leads
    {word : String}
    (hWord :
      (word.toList.all fun c => !partingChars.contains c) =
        true) :
    (Document.text word).Leads Open Open :=
  (isUnparted_of_all hWord).leads

/- A number in decimal digits is unparted. -/
theorem isUnparted_toString (number : Nat) :
    IsUnparted (toString number) := by
  have hDigits :
      partingChars.all fun c => !c.isDigit := by
    decide
  intro c hMember hParting
  rw [Nat.toString_eq_repr, Nat.toList_repr] at hMember
  have hDigit :=
    Nat.isDigit_of_mem_toDigits (by decide) (by decide)
      hMember
  have hNone := List.all_eq_true.mp hDigits c hParting
  simp [hDigit] at hNone

/- A fixed start with a mark settles, whatever follows. -/
theorem settles_start
    {start rest : String}
    (hStart : isSettling start.toList = true)
    (hRest : '\n' ∉ rest.toList) :
    Settles (start ++ rest).toList := by
  rw [String.toList_append]
  exact (settles_of_isSettling hStart).append hRest

end Code

namespace Method

/- A call settles its line, however it is broken. -/
theorem shaderCall_leads
    {name : String}
    {arguments : List Document}
    (hName : IsUnparted name)
    (hArguments :
      ∀ argument ∈ arguments, argument.Leads Open Open) :
    (shaderCall name arguments).Leads Open Settled := by
  have hShader :
      (Document.text "self.shader").Leads Open Settled :=
    Leads.fixed rfl
  have hMember :
      (Document.text ("." ++ name)).Leads Open Settled :=
    Leads.text_settling (settles_start rfl hName.newline)
  have hCall :
      (inParentheses arguments).Leads Settled Settled :=
    inParentheses_leads (Leads.text_settled (by decide))
      hArguments
  have hEnd : (Document.text ";").Leads Settled Settled :=
    Leads.text_settled (by decide)
  exact (Leads.box
    (((hShader.append Leads.gap).append hMember).append
      (Leads.box hCall))).append hEnd

theorem pointerArguments_leads
    (pointer : AttributePointer) :
    ∀ argument ∈ pointerArguments pointer,
      argument.Leads Open Open := by
  have hWord :
      (Document.text (formatWord pointer.format)).Leads Open
        Open := by
    cases pointer.format with
    | float => exact word_leads rfl
    | int => exact word_leads rfl
    | unmapped => exact word_leads rfl
  intro argument hArgument
  simp only [pointerArguments, List.mem_cons,
    List.not_mem_nil, or_false] at hArgument
  rcases hArgument with rfl | rfl | rfl | rfl | rfl
  · exact (isUnparted_toString _).leads
  · exact (isUnparted_toString _).leads
  · exact hWord
  · exact (isUnparted_toString _).leads
  · exact (isUnparted_toString _).leads

theorem elementName_leads (uniform : String) :
    (elementName uniform).Leads Open Settled := by
  have hStart :
      (Document.text "&format!(").Leads Open Settled :=
    Leads.fixed rfl
  have hClose : (Document.text ")").Leads Open Settled :=
    Leads.fixed rfl
  exact (hStart.append (Leads.box
    ((Leads.gap.append (literal_leads _)).append
      Leads.gap))).append hClose

theorem classLiteral_leads (program : String) :
    (classLiteral program).Leads Open Settled := by
  have hStart :
      (Document.text "Self \x7b").Leads Open Settled :=
    Leads.fixed rfl
  have hField :
      (Document.text "shader: ").Leads Open Settled :=
    Leads.fixed rfl
  have hNew :
      (Document.text "Shader::new").Leads Settled Settled :=
    Leads.text_settled (by decide)
  have hProgram :
      (inParentheses [.text (Text.literal program)]).Leads
        Settled Settled := by
    apply inParentheses_leads (Leads.text_settled (by decide))
    intro content hContent
    rw [List.mem_singleton.mp hContent]
    exact Leads.to_open (literal_leads program)
  have hEnd : (Document.text "\x7d").Leads Open Settled :=
    Leads.fixed rfl
  exact (Leads.box
    (((((hStart.append Leads.gap).append hField).append
      hNew).append hProgram).append Leads.gap)).append hEnd

theorem instanceItem_leads
    {className : Ident}
    (hName : IsUnparted className.text) :
    (instanceItem className).Leads Open Settled := by
  have hStart :
      (Document.text
        "static INSTANCE: std::sync::OnceLock<").Leads Open
          Settled :=
    Leads.fixed rfl
  have hClass :
      (Document.items [.text className.text]).Leads Open
        Open := by
    apply items_leads
    intro content hContent
    rw [List.mem_singleton.mp hContent]
    exact hName.leads
  have hClose : (Document.text "> = ").Leads Open Settled :=
    Leads.fixed rfl
  have hNew :
      (Document.text "std::sync::OnceLock::new();").Leads
        Settled Settled :=
    Leads.text_settled (by decide)
  exact Leads.box
    ((((hStart.append (Leads.of_open hClass)).append
      hClose).append Leads.seam).append hNew)

/- A call of another method has no heading. -/
theorem ownCall_head
    {name : Ident}
    (hName : IsUnparted name.text) :
    Line.Head [] [ownCall name] := by
  apply Line.Head.ofText
  rw [String.append_assoc]
  exact settles_start rfl (by simpa using hName.newline)

end Method

end ShaderBindings

------------------------------------------------------------
-- Headings of Methods
------------------------------------------------------------

namespace ShaderBindings

open Code
open Document

namespace Code

/- The bracket behind the name of a function is due. -/
def Titled : Standing (List (List Char)) :=
  fun names text => Settled names (text ++ ['('])

/- A title and its bracket settle the heading of a line. -/
theorem heading_leads
    {start name tail : String}
    {rest : List Char}
    (hStart :
      start.toList = "fn ".toList ∨
        start.toList = "pub fn ".toList)
    (hName : IsUnparted name)
    (hTail : tail.toList = '(' :: rest)
    (hRest : '\n' ∉ rest) :
    (Document.text (start ++ name ++ tail)).Leads
      (Line.Fresh [name.toList]) Settled := by
  apply Leads.text
  rintro names text ⟨rfl, count, rfl⟩
  have hHeading :=
    (settled_heading hStart hName.newline hName.bracket
      count).append hRest
  simpa [hTail] using hHeading

theorem title_leads
    {start name : String}
    (hStart :
      start.toList = "fn ".toList ∨
        start.toList = "pub fn ".toList)
    (hName : IsUnparted name) :
    (Document.text (start ++ name)).Leads
      (Line.Fresh [name.toList]) Titled := by
  apply Leads.text
  rintro names text ⟨rfl, count, rfl⟩
  have hHeading :=
    settled_heading hStart hName.newline hName.bracket count
  unfold Titled
  simpa using hHeading

/- Parameters behind a title settle it. -/
theorem parameters_leads
    {contents : List Document}
    (hContents :
      ∀ content ∈ contents, content.Leads Open Open) :
    (inParentheses contents).Leads Titled Settled := by
  apply inParentheses_leads ?_ hContents
  apply Leads.text
  intro names text hTitled
  exact hTitled

theorem receiver_leads :
    (Document.text "&self").Leads Open Open :=
  word_leads rfl

end Code

namespace Method

theorem setterHeading_leads
    {name : Ident}
    {parameter : String}
    (hName : IsUnparted name.text)
    (hParameter : Settles parameter.toList) :
    (setterHeading name parameter).Leads
      (Line.Fresh [name.text.toList]) Settled := by
  have hTitle :
      (Document.text ("pub fn " ++ name.text)).Leads
        (Line.Fresh [name.text.toList]) Titled :=
    title_leads (Or.inr rfl) hName
  refine Leads.append hTitle (parameters_leads ?_)
  intro content hContent
  simp only [List.mem_cons, List.not_mem_nil, or_false]
    at hContent
  rcases hContent with rfl | rfl
  · exact receiver_leads
  · exact Leads.to_open (Leads.text_settling hParameter)

/- A heading without parameters but the receiver. -/
theorem callHeading_leads
    {name : Ident}
    (hName : IsUnparted name.text) :
    (Document.text ("pub fn " ++ name.text) ++
        inParentheses [.text "&self"]).Leads
      (Line.Fresh [name.text.toList]) Settled := by
  have hTitle :
      (Document.text ("pub fn " ++ name.text)).Leads
        (Line.Fresh [name.text.toList]) Titled :=
    title_leads (Or.inr rfl) hName
  refine Leads.append hTitle (parameters_leads ?_)
  intro content hContent
  rw [List.mem_singleton.mp hContent]
  exact receiver_leads

end Method

end ShaderBindings

------------------------------------------------------------
-- Methods
------------------------------------------------------------

namespace ShaderBindings

open Code
open Document
open Upload

namespace Method

variable {className name setter : Ident}
variable {uniform : String}
variable {hostType : HostType}
variable {byValue : Bool}

theorem makeShader_head
    {program : String}
    (hName : IsUnparted name.text) :
    Line.Head [name.text.toList]
      (lines className ⟨name, .makeShader program⟩) :=
  Line.Head.block
    (heading_leads (Or.inl rfl) hName rfl (by decide))
    (Line.Head.settled (classLiteral_leads program))

theorem shareInstance_head
    (hClass : IsUnparted className.text)
    (hName : IsUnparted name.text) :
    Line.Head [name.text.toList]
      (lines className ⟨name, .shareInstance⟩) := by
  have hItem :
      Line.Head [] [⟨0, instanceItem className⟩] :=
    Line.Head.settled (instanceItem_leads hClass)
  have hCall :
      Line.Head []
        [Line.ofText "INSTANCE.get_or_init(Self::new)"] :=
    Line.Head.ofText (settles_of_isSettling rfl)
  exact Line.Head.block
    (heading_leads (Or.inr rfl) hName rfl (by decide))
    (hItem.append hCall)

theorem lendShader_head
    (hName : IsUnparted name.text) :
    Line.Head [name.text.toList]
      (lines className ⟨name, .lendShader⟩) :=
  Line.Head.block
    (heading_leads (Or.inr rfl) hName rfl (by decide))
    (Line.Head.ofText (settles_of_isSettling rfl))

theorem configure_head
    {pointer : AttributePointer}
    (hName : IsUnparted name.text) :
    Line.Head [name.text.toList]
      (lines className ⟨name, .configure pointer⟩) :=
  Line.Head.block (callHeading_leads hName)
    (Line.Head.settled
      (shaderCall_leads (isUnparted_of_all rfl)
        (pointerArguments_leads pointer)))

theorem callEach_head
    {methods : List Ident}
    (hName : IsUnparted name.text)
    (hMethods : ∀ method ∈ methods, IsUnparted method.text) :
    Line.Head [name.text.toList]
      (lines className ⟨name, .callEach methods⟩) := by
  apply Line.Head.block (callHeading_leads hName)
  induction methods with
  | nil => exact Line.Head.nil
  | cons method rest ih =>
      have hFirst :=
        ownCall_head (hMethods method List.mem_cons_self)
      have hRest :=
        ih fun other hOther =>
          hMethods other (List.mem_cons_of_mem method hOther)
      exact hFirst.append hRest

/- A call of a setter of the shader has no heading. -/
theorem setterCall_head
    {target : Document}
    {value : String}
    (hSetter : IsUnparted setter.text)
    (hTarget : target.Leads Open Settled)
    (hValue : IsUnparted value) :
    Line.Head []
      [⟨0, shaderCall setter.text [target, .text value]⟩] := by
  apply Line.Head.settled
  apply shaderCall_leads hSetter
  intro argument hArgument
  simp only [List.mem_cons, List.not_mem_nil, or_false]
    at hArgument
  rcases hArgument with rfl | rfl
  · exact Leads.to_open hTarget
  · exact hValue.leads

theorem set_head
    (hName : IsUnparted name.text)
    (hSetter : IsUnparted setter.text)
    (hHost : IsUnparted hostType.text) :
    Line.Head [name.text.toList]
      (lines className
        ⟨name, .set setter uniform hostType byValue⟩) := by
  have hParameter :
      Settles
        ("value: " ++ (if byValue then "" else "&") ++
          hostType.text).toList := by
    rw [String.append_assoc]
    apply settles_start rfl
    cases byValue with
    | true => simpa using hHost.newline
    | false => simpa using hHost.newline
  exact Line.Head.block (setterHeading_leads hName hParameter)
    (setterCall_head hSetter (literal_leads uniform)
      (isUnparted_of_all rfl))

theorem setEach_head
    (hName : IsUnparted name.text)
    (hSetter : IsUnparted setter.text)
    (hHost : IsUnparted hostType.text) :
    Line.Head [name.text.toList]
      (lines className
        ⟨name, .setEach setter uniform hostType byValue⟩) := by
  have hParameter :
      Settles ("values: &[" ++ hostType.text ++ "]").toList := by
    rw [String.append_assoc]
    exact settles_start rfl (by simpa using hHost.newline)
  have hLoop :
      (Document.text
        "for (i, value) in values.iter().enumerate()").Leads
          (Line.Fresh []) Settled :=
    Line.leads_of_fresh (Leads.fixed rfl)
  have hValue :
      IsUnparted (if byValue then "*value" else "value") := by
    cases byValue with
    | true => exact isUnparted_of_all rfl
    | false => exact isUnparted_of_all rfl
  exact Line.Head.block (setterHeading_leads hName hParameter)
    (Line.Head.block hLoop
      (setterCall_head hSetter (elementName_leads uniform)
        hValue))

/- Every method is written under the heading of its name. -/
theorem head_lines
    {method : Method}
    (hClass : IsWhole className.text)
    (hMethod : method.WordsWhole) :
    Line.Head [method.name.text.toList]
      (method.lines className) := by
  rcases method with ⟨name, body⟩
  rcases hMethod with ⟨hName, hBody⟩
  cases body with
  | makeShader program =>
      exact makeShader_head hName.unparted
  | shareInstance =>
      exact shareInstance_head hClass.unparted hName.unparted
  | lendShader => exact lendShader_head hName.unparted
  | configure pointer => exact configure_head hName.unparted
  | callEach methods =>
      exact callEach_head hName.unparted fun other hOther =>
        (hBody other hOther).unparted
  | set setter uniform hostType byValue =>
      exact set_head hName.unparted hBody.1.unparted
        hBody.2.unparted
  | setEach setter uniform hostType byValue =>
      exact setEach_head hName.unparted hBody.1.unparted
        hBody.2.unparted

end Method

end ShaderBindings

------------------------------------------------------------
-- Code of a Binding
------------------------------------------------------------

namespace ShaderBindings

open Code
open Document

namespace Code

/- The heading of a public item that is no function. -/
theorem public_leads
    {start name : String}
    {mark : Char}
    {word : List Char}
    (hStart : start.toList = "pub ".toList ++ mark :: word)
    (hWord : '\n' ∉ word)
    (hMark : isMark mark = true)
    (hName : IsUnparted name) :
    (Document.text (start ++ name)).Leads (Line.Fresh [])
      Settled := by
  apply Leads.text
  rintro names text ⟨rfl, count, rfl⟩
  have hRest : '\n' ∉ word ++ name.toList := by
    simp [hWord, hName.newline]
  have hSettled := settled_public hRest hMark count
  simpa [hStart] using hSettled

/- Unparted words stand on one line, joined into a path. -/
theorem newline_not_mem_intercalate
    {words : List String}
    (hWords : ∀ word ∈ words, IsUnparted word) :
    '\n' ∉ (String.intercalate "::" words).toList := by
  induction words with
  | nil => simp
  | cons word rest ih =>
      have hWord :=
        (hWords word List.mem_cons_self).newline
      have hRest :=
        ih fun other hOther =>
          hWords other (List.mem_cons_of_mem word hOther)
      cases rest with
      | nil => simpa using hWord
      | cons next others =>
          rw [String.intercalate_cons_cons,
            String.toList_append, List.mem_append, not_or]
          exact ⟨by simp [hWord], hRest⟩

/- The text of a path stands on one line. -/
theorem RuntimePath.newline_not_mem_text
    {path : RuntimePath}
    (hSegments :
      ∀ segment ∈ path.segments, IsUnparted segment) :
    '\n' ∉ path.text.toList := by
  have hJoined := newline_not_mem_intercalate hSegments
  unfold RuntimePath.text
  cases path.rooted with
  | true => simpa using hJoined
  | false => simpa using hJoined

end Code

namespace Binding

variable {binding : Binding}

/- Methods one after the other are written in this order. -/
theorem head_methods
    {className : Ident}
    {methods : List Method}
    (hClass : IsWhole className.text)
    (hMethods : ∀ method ∈ methods, method.WordsWhole) :
    Line.Head
      (methods.map fun method => method.name.text.toList)
      (methods.flatMap (Method.lines className)) := by
  induction methods with
  | nil => exact Line.Head.nil
  | cons method rest ih =>
      have hFirst :=
        Method.head_lines hClass
          (hMethods method List.mem_cons_self)
      have hRest :=
        ih fun other hOther =>
          hMethods other (List.mem_cons_of_mem method hOther)
      exact hFirst.append hRest

/- The headings in a binding are those of its methods. -/
theorem head_lines
    (hWords : binding.WordsWhole) :
    Line.Head
      (binding.methods.map fun method =>
        method.name.text.toList)
      binding.lines := by
  have hClass := hWords.className
  have hModule :
      (Document.text ("pub mod " ++ binding.module.text)).Leads
        (Line.Fresh []) Settled :=
    public_leads rfl (by decide) rfl hWords.module.unparted
  have hUse :
      Line.Head []
        [Line.ofText
          ("use " ++ binding.runtime.text ++
            "::prelude::*;")] := by
    have hPath :=
      RuntimePath.newline_not_mem_text fun segment hSegment =>
        (hWords.runtime segment hSegment).unparted
    apply Line.Head.ofText
    rw [String.append_assoc]
    exact settles_start rfl (by simpa using hPath)
  have hStruct :
      (Document.text
        ("pub struct " ++ binding.className.text)).Leads
          (Line.Fresh []) Settled :=
    public_leads rfl (by decide) rfl hClass.unparted
  have hField :
      Line.Head [] [Line.ofText "shader: Shader,"] :=
    Line.Head.ofText (settles_of_isSettling rfl)
  have hImpl :
      (Document.text
        ("impl " ++ binding.className.text)).Leads
          (Line.Fresh []) Settled :=
    Line.leads_of_fresh
      (Leads.text_settling (settles_start rfl hClass.unparted.newline))
  have hMethods := head_methods hClass hWords.methods
  have hBody :=
    (hUse.append (Line.Head.block hStruct hField)).append
      (Line.Head.block hImpl hMethods)
  exact Line.Head.block hModule hBody

/-
  The functions in the code of a binding are its methods, in
  order.
-/
theorem functionNames_render
    {options : BindingOptions}
    {interface : Interface}
    (hBinding :
      (ofInterface options interface).result = .ok binding) :
    functionNames binding.render = binding.methodNames := by
  have hLines :=
    (head_lines (wordsWhole_of_ofInterface
      hBinding)).headings_eq page
  have hBanner : headings banner.toList = [] := by
    decide +kernel
  have hHeadings :
      headings binding.render.toList =
        binding.methods.map fun method =>
          method.name.text.toList := by
    simp only [render, String.toList_append]
    have hText :
        banner.toList ++ "\n\n".toList ++
            (Line.renderAll page binding.lines).toList =
          banner.toList ++ '\n' :: ([] ++ '\n' ::
            (Line.renderAll page binding.lines).toList) := by
      simp
    rw [hText, headings_append_newline,
      headings_append_newline, hBanner, hLines]
    rfl
  rw [functionNames, hHeadings, methodNames, List.map_map]
  apply List.map_congr_left
  intro method _
  exact String.ofList_toList

end Binding

end ShaderBindings
