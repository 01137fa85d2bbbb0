import ShaderBindings.Proofs.Binding.Headings
import ShaderBindings.Proofs.Binding.Parts
import ShaderBindings.Proofs.Code.Condensed

/-
  The code that configures an attribute. Whatever the length
  of its name, and however its lines are broken, the code of
  a binding has a function for every placed attribute with
  one call in it, and the last two numbers of the call are
  the stride and the offset in decimal digits.

  Key definitions include:
    * `Code.pointerFunction`
    * `Code.Configures`

  Key theorems include:
    * `Code.Document.inParentheses_prints`
    * `Binding.lines_among`
    * `Binding.configures_render`
-/

------------------------------------------------------------
-- Statements
------------------------------------------------------------

namespace ShaderBindings

open Code
open Document
open Upload

namespace Code

theorem IsUnparted.condensed_eq
    {text : String}
    (hUnparted : IsUnparted text) :
    condensed text = text.toList :=
  condensed_eq_toList hUnparted.blank hUnparted.newline

theorem IsUnparted.prints
    {text : String}
    (hUnparted : IsUnparted text) :
    (Document.text text).Prints (· = text.toList) :=
  Document.Prints.text hUnparted.condensed_eq

namespace Document

theorem cut_prints : cut.Prints (· = []) :=
  Prints.gap_silent rfl

theorem blank_prints : blank.Prints (· = []) :=
  Prints.gap_silent rfl

theorem closingComma_prints :
    closingComma.Prints (Around [] []) :=
  Prints.gap_around _

/- Items print their texts with commas between them. -/
theorem commaSeparated_prints
    {texts : List String}
    (hTexts : ∀ text ∈ texts, IsUnparted text) :
    (commaSeparated (texts.map Document.text)).Prints
      (· = (String.intercalate "," texts).toList) := by
  have hComma : (Document.text ",").Prints (· = [',']) :=
    Prints.text rfl
  induction texts with
  | nil => exact Prints.empty
  | cons text rest ih =>
      have hText := (hTexts text List.mem_cons_self).prints
      have hRest :=
        ih fun other hOther =>
          hTexts other (List.mem_cons_of_mem text hOther)
      cases rest with
      | nil =>
          rw [String.intercalate_singleton]
          exact hText
      | cons next others =>
          have hAll :=
            ((hText.exactly_append hComma).exactly_append
              blank_prints).exactly_append hRest
          rw [String.intercalate_cons_cons,
            String.toList_append, String.toList_append]
          rwa [List.append_nil] at hAll

/-
  Parentheses print their items. When they are broken there
  is a comma behind the last item.
-/
theorem inParentheses_prints
    {texts : List String}
    (hTexts : ∀ text ∈ texts, IsUnparted text) :
    (inParentheses (texts.map Document.text)).Prints
      (Around
        ('(' :: (String.intercalate "," texts).toList)
        [')']) := by
  have hContents :=
    (cut_prints.exactly_append
      (commaSeparated_prints hTexts)).append_around
      closingComma_prints
  rw [List.append_nil] at hContents
  have hItems :
      (items (texts.map Document.text)).Prints
        (Around (String.intercalate "," texts).toList []) :=
    Prints.box hContents
  have hOpen : (Document.text "(").Prints (· = ['(']) :=
    Prints.text rfl
  exact
    (hOpen.append_around hItems).around_append
      (Prints.text rfl)

end Document

end Code

namespace Method

/- A call of the shader prints its name and its arguments. -/
theorem shaderCall_prints
    {name : String}
    {texts : List String}
    (hName : IsUnparted name)
    (hTexts : ∀ text ∈ texts, IsUnparted text) :
    (shaderCall name (texts.map Document.text)).Prints
      (Around
        ("self.shader." ++ name ++ "(" ++
          String.intercalate "," texts).toList
        ");".toList) := by
  have hShader :
      (Document.text "self.shader" ++ Document.cut).Prints
        (· = "self.shader".toList) :=
    (Prints.text rfl).exactly_append cut_prints
  have hMember :
      (Document.text ("." ++ name)).Prints
        (· = '.' :: name.toList) := by
    apply Prints.text
    rw [condensed_append, hName.condensed_eq]
    rfl
  have hEnd : (Document.text ";").Prints (· = [';']) :=
    Prints.text rfl
  have hCall :
      (Document.box 0 none
          (inParentheses (texts.map Document.text))).Prints
        (Around
          ('(' :: (String.intercalate "," texts).toList)
          [')']) :=
    Prints.box (inParentheses_prints hTexts)
  have hStatement :
      (shaderCall name (texts.map Document.text)).Prints
        (Around
          ("self.shader".toList ++ '.' :: name.toList ++
            '(' :: (String.intercalate "," texts).toList)
          ([')'] ++ [';'])) :=
    (Prints.box
      ((hShader.exactly_append hMember).append_around
        hCall)).around_append hEnd
  simpa using hStatement

/- The heading of a method without parameters. -/
theorem receiverHeading_prints
    {name : Ident}
    (hName : IsUnparted name.text) :
    (Document.text ("pub fn " ++ name.text) ++
        inParentheses [.text "&self"] ++ .text " \x7b").Prints
      (Around ("pubfn" ++ name.text ++ "(&self").toList
        ")\x7b".toList) := by
  have hStart :
      (Document.text ("pub fn " ++ name.text)).Prints
        (· = "pubfn".toList ++ name.text.toList) := by
    apply Prints.text
    rw [condensed_append, hName.condensed_eq]
    rfl
  have hSelf : ∀ text ∈ ["&self"], IsUnparted text := by
    intro text hText
    rw [List.mem_singleton.mp hText]
    exact isUnparted_of_all rfl
  have hReceiver := inParentheses_prints hSelf
  rw [String.intercalate_singleton] at hReceiver
  have hBrace : (Document.text " \x7b").Prints (· = ['\x7b']) :=
    Prints.text rfl
  have hHeading :=
    (hStart.append_around hReceiver).around_append hBrace
  simpa using hHeading

/- The words of the arguments of a pointer, in order. -/
def pointerWords (pointer : AttributePointer) : List String := [
  toString pointer.location.toNat,
  toString pointer.components.toNat,
  formatWord pointer.format,
  toString pointer.stride.toNat,
  toString pointer.offset.toNat]

theorem isUnparted_of_mem_pointerWords
    {pointer : AttributePointer}
    {word : String}
    (hWord : word ∈ pointerWords pointer) :
    IsUnparted word := by
  simp only [pointerWords, List.mem_cons, List.not_mem_nil,
    or_false] at hWord
  rcases hWord with rfl | rfl | rfl | rfl | rfl
  · exact isUnparted_toString _
  · exact isUnparted_toString _
  · cases pointer.format <;> exact isUnparted_of_all rfl
  · exact isUnparted_toString _
  · exact isUnparted_toString _

/- A pointer is configured by a call with its words. -/
theorem pointerCall_prints (pointer : AttributePointer) :
    (shaderCall "vertex_attrib_pointer"
        (pointerArguments pointer)).Prints
      (Around
        ("self.shader.vertex_attrib_pointer(" ++
          String.intercalate ","
            (pointerWords pointer)).toList
        ");".toList) := by
  have hCallee :
      "self.shader.vertex_attrib_pointer(" =
        "self.shader." ++ "vertex_attrib_pointer" ++ "(" := by
    decide +kernel
  have hName : IsUnparted "vertex_attrib_pointer" :=
    isUnparted_of_all rfl
  have hArguments :
      pointerArguments pointer =
        (pointerWords pointer).map Document.text :=
    rfl
  rw [hArguments, hCallee]
  apply shaderCall_prints hName
  intro word hWord
  exact isUnparted_of_mem_pointerWords hWord

end Method

end ShaderBindings

------------------------------------------------------------
-- Functions That Configure
------------------------------------------------------------

namespace ShaderBindings

open Code
open Document
open Form
open Upload

namespace Code

/-
  The function that configures an attribute, without blanks
  and line ends. Behind the last item in parentheses there
  may be a comma.
-/
def pointerFunction
    (declared : Attribute)
    (stride offset : Nat)
    (comma last : String) : String :=
  "pubfn" ++ MethodName.attributeSetter declared.name ++
    "(&self" ++ comma ++ ")\x7b" ++
    "self.shader.vertex_attrib_pointer(" ++
    String.intercalate "," [
      toString declared.location.toNat,
      toString declared.type.componentCount.toNat,
      Method.formatWord declared.type.format,
      toString stride,
      toString offset] ++ last ++ ");" ++ "\x7d"

/-
  The code has a function that configures an attribute with a
  stride and an offset.
-/
def Configures
    (code : String)
    (declared : Attribute)
    (stride offset : Nat) : Prop :=
  ∃ comma ∈ ["", ","],
    ∃ last ∈ ["", ","],
      (pointerFunction declared stride offset comma
          last).toList <:+:
        condensed code

end Code

namespace Binding

/- The lines of a method are among those of its binding. -/
theorem lines_among
    {binding : Binding}
    {method : Method}
    (hMethod : method ∈ binding.methods) :
    Line.indent
        (Line.indent (method.lines binding.className)) <:+:
      binding.lines := by
  have hAmong :
      method.lines binding.className <:+:
        binding.methods.flatMap
          (Method.lines binding.className) := by
    rcases List.append_of_mem hMethod with
      ⟨before, behind, hMethods⟩
    rw [hMethods, List.flatMap_append, List.flatMap_cons,
      ← List.append_assoc]
    exact List.infix_append _ _ _
  have hBlock :
      ∀ {part whole : List Line} (heading : Document),
        part <:+: whole →
          Line.indent part <:+: Line.block heading whole := by
    intro part whole heading hPart
    exact (hPart.map _).trans (List.infix_append _ _ _)
  apply hBlock
  exact (hBlock _ hAmong).trans
    (List.suffix_append _ _).isInfix

/- The method of an attribute is written as its function. -/
theorem condensed_configuring
    {stride : UInt32}
    {entry : LayoutEntry}
    (className : Ident)
    (hName :
      IsUnparted
        (MethodName.attributeSetter entry.declared.name))
    (page : Page) :
    ∃ comma ∈ ["", ","],
      ∃ last ∈ ["", ","],
        condensed
            (Line.renderAll page
              (Line.indent
                (Line.indent
                  ((configuring stride entry).lines
                    className)))) =
          (pointerFunction entry.declared stride.toNat
            entry.offset.toNat comma last).toList := by
  have hHeading :=
    @Method.receiverHeading_prints
      ⟨MethodName.attributeSetter entry.declared.name⟩ hName
  have hCall :=
    Method.pointerCall_prints (pointerOf stride entry)
  have hEnd :
      (Document.text "\x7d").Prints (· = "\x7d".toList) :=
    Prints.text rfl
  rcases Line.condensed_render hHeading 2 page with
    ⟨comma, hComma, hFirst⟩
  rcases Line.condensed_render hCall 3 page with
    ⟨last, hLast, hSecond⟩
  have hThird := Line.condensed_render hEnd 2 page
  refine ⟨comma, hComma, last, hLast, ?_⟩
  have hLines :
      Line.indent
          (Line.indent
            ((configuring stride entry).lines className)) =
        [⟨2, Document.text
            ("pub fn " ++
              MethodName.attributeSetter
                entry.declared.name) ++
            inParentheses [.text "&self"] ++ .text " \x7b"⟩,
          ⟨3, Method.shaderCall "vertex_attrib_pointer"
            (Method.pointerArguments
              (pointerOf stride entry))⟩,
          ⟨2, .text "\x7d"⟩] :=
    rfl
  rw [hLines, Line.condensed_renderAll]
  simp only [List.flatMap_cons, List.flatMap_nil]
  rw [hFirst, hSecond, hThird]
  unfold pointerFunction
  simp only [String.toList_append, List.append_assoc,
    List.append_nil]
  rfl

/-
  The code of a binding has a function for every attribute
  that is placed.
-/
theorem configures_render
    {options : BindingOptions}
    {interface : Interface}
    {binding : Binding}
    (hNamed : interface.declarations.NamedByWords)
    (hBinding :
      (ofInterface options interface).result = .ok binding)
    {entry : LayoutEntry}
    (hEntry :
      entry ∈ VertexLayout.place 0 interface.attributes) :
    Configures binding.render entry.declared
      (VertexLayout.extent 0 interface.attributes).toNat
      entry.offset.toNat := by
  have hMember :=
    configuring_mem_of_methodsOf hNamed
      (of_ofInterface hBinding).1 hEntry
  have hWords :=
    (wordsWhole_of_ofInterface hBinding).methods _ hMember
  rcases condensed_configuring binding.className
      hWords.name.unparted page with
    ⟨comma, hComma, last, hLast, hFunction⟩
  refine ⟨comma, hComma, last, hLast, ?_⟩
  rw [← hFunction, render, condensed_append]
  exact (Line.condensed_sublines (lines_among hMember)
    page).trans (List.suffix_append _ _).isInfix

end Binding

end ShaderBindings
