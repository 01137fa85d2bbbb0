import Mathlib.Data.List.Forall2
import ShaderBindings.Binding.Printer
import ShaderBindings.Proofs.Code.LexemeLayout
import ShaderBindings.Proofs.Text.Template

/-
  The lexemes of statements. A call of the shader, a literal
  and an item of a class may be broken over lines, with a
  comma behind the last of their parts, and are read as the
  same lexemes however they are broken.

  Key definitions include:
    * `Method.pointerSpelling`
    * `Method.ownSpelling`

  Key theorems include:
    * `Document.Reads.items`
    * `Document.Reads.inParentheses`
    * `Method.shaderCall_reads`
    * `Method.pointerCall_reads`
    * `Method.elementName_reads`
-/

------------------------------------------------------------
-- Items
------------------------------------------------------------

namespace ShaderBindings

open Upload

namespace Code

namespace Document

namespace Reads

/- Nothing is read of a gap that only breaks a line. -/
theorem cut
    {lexed : Lexed}
    (hCalm : lexed.IsCalm) :
    Document.cut.Reads lexed lexed [] :=
  gap rfl hCalm

theorem blank
    {lexed : Lexed}
    (hCalm : lexed.IsCalm) :
    Document.blank.Reads lexed lexed [] :=
  gap rfl hCalm

/- Items are read with commas between them. -/
theorem commaSeparated
    {contents : List Document}
    {parts : List (List Lexeme)}
    (hContents :
      List.Forall₂
        (fun content part => content.Reads Ready Ended part)
        contents parts)
    (hSome : contents ≠ []) :
    (Document.commaSeparated contents).Reads Ready Ended
      (List.intercalate [.mark ','] parts) := by
  have hComma :
      (Document.text ",").Reads Ended Ready [.mark ','] :=
    text_of_admits rfl (Ended.admits rfl) Ready.isRelative
      (Or.inr ⟨[], rfl, rfl⟩)
  induction hContents with
  | nil => exact absurd rfl hSome
  | cons hItem hRest ih =>
      rename_i item part rest parts
      cases hRest with
      | nil => simpa [Document.commaSeparated] using hItem
      | cons hNext hOthers =>
          have hBehind := ih (List.cons_ne_nil _ _)
          have hAll :=
            ((hItem.append hComma).append
              (blank Ready.isCalm)).append hBehind
          simpa [Document.commaSeparated, List.intercalate]
            using hAll

/- Items may be broken, with a comma behind the last one. -/
theorem items
    {contents : List Document}
    {parts : List (List Lexeme)}
    (hContents :
      List.Forall₂
        (fun content part => content.Reads Ready Ended part)
        contents parts)
    (hSome : contents ≠ []) :
    (Document.items contents).Reads Complete Due
      (List.intercalate [.mark ','] parts) := by
  have hGap :
      (Document.gap ⟨false, true, true⟩).Reads Ended Due [] :=
    gap_comma rfl
  have hAll :=
    ((cut Complete.isCalm).append
      (commaSeparated hContents hSome).of_ready).append hGap
  rw [List.append_nil] at hAll
  exact box 1 none hAll

/- Parentheses are read around their items. -/
theorem inParentheses
    {contents : List Document}
    {parts : List (List Lexeme)}
    (hContents :
      List.Forall₂
        (fun content part => content.Reads Ready Ended part)
        contents parts)
    (hSome : contents ≠ []) :
    (Document.inParentheses contents).Reads Ended Complete
      ([.mark '('] ++ List.intercalate [.mark ','] parts ++
        [.mark ')']) := by
  have hOpen :
      (Document.text "(").Reads Ended Complete [.mark '('] :=
    fixed rfl (Ended.admits rfl) rfl
  have hClose :
      (Document.text ")").Reads Due Complete [.mark ')'] :=
    fixed rfl (Due.admits rfl rfl rfl) rfl
  exact (hOpen.append (items hContents hSome)).append hClose

end Reads

end Document

end Code

end ShaderBindings

------------------------------------------------------------
-- Statements
------------------------------------------------------------

namespace ShaderBindings

open Code
open Code.Document
open Upload

namespace Method

/- The lexemes of a number in decimal digits. -/
def numberSpelling (number : UInt32) : List Lexeme :=
  [.word (toString number.toNat).toList]

/- The lexemes of the arguments that configure an attribute. -/
def pointerSpelling
    (pointer : AttributePointer) : List Lexeme :=
  [numberSpelling pointer.location,
    lexemes ",",
    numberSpelling pointer.components,
    lexemes ",",
    lexemes (formatWord pointer.format),
    lexemes ",",
    numberSpelling pointer.stride,
    lexemes ",",
    numberSpelling pointer.offset].flatten

/- Nothing but digits makes up a number. -/
theorem isWhole_toString (number : Nat) :
    IsWhole (toString number) := by
  have hNonempty : Nat.toDigits 10 number ≠ [] :=
    List.ne_nil_of_length_pos Nat.length_toDigits_pos
  rw [Nat.toString_eq_repr, ← String.ofList_toList
    (s := number.repr), Nat.toList_repr]
  apply isWhole_ofList hNonempty
  intro c hMember
  have hDigit :=
    Nat.isDigit_of_mem_toDigits (by decide) (by decide)
      hMember
  exact isOfWord_of_class (by decide) hDigit

theorem number_reads (number : UInt32) :
    (Document.text (toString number.toNat)).Reads Ready Ended
      (numberSpelling number) :=
  Reads.word (isWhole_toString number.toNat)

theorem formatWord_reads (format : PointerFormat) :
    (Document.text (formatWord format)).Reads Ready Ended
      (lexemes (formatWord format)) := by
  have hAdmits : Lexed.Admits Ready 'A' :=
    Ready.admits rfl rfl
  cases format with
  | float => exact Reads.fixed_word rfl hAdmits rfl
  | int => exact Reads.fixed_word rfl hAdmits rfl
  | unmapped => exact Reads.fixed_word rfl hAdmits rfl

/- A call of the shader is read as one, broken or not. -/
theorem shaderCall_reads
    {name : String}
    {arguments : List Document}
    {parts : List (List Lexeme)}
    (hName : IsWhole name)
    (hArguments :
      List.Forall₂
        (fun argument part => argument.Reads Ready Ended part)
        arguments parts)
    (hSome : arguments ≠ []) :
    (shaderCall name arguments).Reads Complete Complete
      [lexemes "self.shader.", [.word name.toList],
        lexemes "(", List.intercalate (lexemes ",") parts,
        lexemes ");"].flatten := by
  have hShader :
      (Document.text "self.shader").Reads Complete Ended
        (lexemes "self.shader") :=
    Reads.fixed_word rfl (Complete.admits _) rfl
  have hDot :
      (Document.text ".").Reads Ended Complete
        (lexemes ".") :=
    Reads.fixed rfl (Ended.admits rfl) rfl
  have hMember :
      (Document.text ("." ++ name)).Reads Ended Ended
        (lexemes "." ++ [.word name.toList]) :=
    Reads.text_append hDot (Reads.word hName).of_ready
  have hEnd :
      (Document.text ";").Reads Complete Complete
        (lexemes ";") :=
    Reads.fixed rfl (Complete.admits _) rfl
  have hCall :=
    (Reads.box 1 none
      (((hShader.append (Reads.cut Ended.isCalm)).append
        hMember).append
        (Reads.box 0 none
          (Reads.inParentheses hArguments hSome)))).append hEnd
  have hOpened :
      lexemes "self.shader." =
        lexemes "self.shader" ++ lexemes "." :=
    rfl
  have hClosed : lexemes ");" = [.mark ')'] ++ lexemes ";" :=
    rfl
  have hComma : lexemes "," = [.mark ','] :=
    rfl
  have hBracket : lexemes "(" = [.mark '('] :=
    rfl
  rw [hOpened, hClosed, hComma, hBracket]
  simpa [shaderCall] using hCall

/- The lexemes of a call of another method of the class. -/
def ownSpelling (name : Ident) : List Lexeme :=
  [lexemes "self.", [.word name.text.toList],
    lexemes "();"].flatten

theorem ownCall_reads
    {name : Ident}
    (hName : IsWhole name.text) :
    Line.Reads Complete Complete (ownSpelling name)
      [ownCall name] := by
  have hSelf :
      (Document.text "self.").Reads Complete Complete
        (lexemes "self.") :=
    Reads.fixed rfl (Complete.admits _) rfl
  have hEnd :
      (Document.text "();").Reads Ended Complete
        (lexemes "();") :=
    Reads.fixed rfl (Ended.admits rfl) rfl
  have hCall :=
    ((hSelf.text_append (Reads.word hName).of_ready).text_append
      hEnd).to_ended
  exact Line.Reads.ended 0
    (by simpa [ownCall, ownSpelling, Line.ofText] using hCall)

/- The arguments that configure an attribute are its numbers. -/
theorem pointerCall_reads (pointer : AttributePointer) :
    (shaderCall "vertex_attrib_pointer"
        (pointerArguments pointer)).Reads Complete Complete
      [lexemes "self.shader.vertex_attrib_pointer(",
        pointerSpelling pointer, lexemes ");"].flatten := by
  have hName : IsWhole "vertex_attrib_pointer" :=
    isWhole_of_all (by decide) rfl
  have hArguments :
      List.Forall₂
        (fun argument part => argument.Reads Ready Ended part)
        (pointerArguments pointer)
        [numberSpelling pointer.location,
          numberSpelling pointer.components,
          lexemes (formatWord pointer.format),
          numberSpelling pointer.stride,
          numberSpelling pointer.offset] := by
    refine .cons (number_reads _) (.cons (number_reads _)
      (.cons (formatWord_reads _) (.cons (number_reads _)
        (.cons (number_reads _) .nil))))
  have hCall :=
    shaderCall_reads hName hArguments (List.cons_ne_nil _ _)
  have hCallee :
      lexemes "self.shader.vertex_attrib_pointer(" =
        [lexemes "self.shader.",
          [.word "vertex_attrib_pointer".toList],
          lexemes "("].flatten :=
    rfl
  rw [hCallee]
  simpa [pointerSpelling, List.intercalate] using hCall

/- The name of an element is formatted from its template. -/
theorem elementName_reads (uniform : String) :
    (elementName uniform).Reads Ready Ended
      [lexemes "&format!(",
        [.literal (Text.elementTemplate uniform).toList],
        lexemes ")"].flatten := by
  have hStart :
      (Document.text "&format!(").Reads Ready Complete
        (lexemes "&format!(") :=
    Reads.fixed rfl (Ready.admits rfl rfl) rfl
  have hTemplate :=
    Reads.literal (uniform ++ "[\x7bi\x7d]")
  have hClose :
      (Document.text ")").Reads Complete Complete
        (lexemes ")") :=
    Reads.fixed rfl (Complete.admits _) rfl
  have hClosing :
      Document.closing.Reads Complete Complete [] :=
    Reads.gap rfl Complete.isCalm
  have hName :=
    ((hStart.append
      (Reads.box 1 none
        (((Reads.cut Complete.isCalm).append
          hTemplate.of_ready).append hClosing))).append
      hClose).to_ended
  simpa [elementName, Text.elementTemplate] using hName

/- A literal of the class is read around its program. -/
theorem classLiteral_reads (program : String) :
    (classLiteral program).Reads Complete Complete
      [lexemes "Self \x7b shader: Shader::new(",
        [.literal program.toList],
        lexemes ") \x7d"].flatten := by
  have hSelf :
      (Document.text "Self \x7b").Reads Complete Complete
        (lexemes "Self \x7b") :=
    Reads.fixed rfl (Complete.admits _) rfl
  have hField :
      (Document.text "shader: ").Reads Complete Complete
        (lexemes "shader: ") :=
    Reads.fixed rfl (Complete.admits _) rfl
  have hNew :
      (Document.text "Shader::new").Reads Complete Ended
        (lexemes "Shader::new") :=
    Reads.fixed_word rfl (Complete.admits _) rfl
  have hProgram :=
    Reads.inParentheses
      (.cons (Reads.literal program).to_ended .nil)
      (List.cons_ne_nil _ _)
  have hClose :
      (Document.text "\x7d").Reads Due Complete
        (lexemes "\x7d") :=
    Reads.fixed rfl (Due.admits rfl rfl rfl) rfl
  have hGap :
      (Document.gap ⟨true, true, true⟩).Reads Complete Due
        [] :=
    (Reads.gap_comma rfl).of_ended
  have hLiteral :=
    (Reads.box 1 (some Binding.literalWidth)
      (((((hSelf.append (Reads.blank Complete.isCalm)).append
        hField).append hNew).append hProgram).append
        hGap)).append hClose
  have hOpened :
      lexemes "Self \x7b shader: Shader::new(" =
        [lexemes "Self \x7b", lexemes "shader: ",
          lexemes "Shader::new", [.mark '(']].flatten :=
    rfl
  have hClosed :
      lexemes ") \x7d" = .mark ')' :: lexemes "\x7d" :=
    rfl
  rw [hOpened, hClosed]
  simpa [classLiteral, List.intercalate] using hLiteral

/- The instance of the class is made on first use. -/
theorem instanceItem_reads
    {className : Ident}
    (hClass : IsWhole className.text) :
    (instanceItem className).Reads Complete Complete
      [lexemes "static INSTANCE: std::sync::OnceLock<",
        [.word className.text.toList],
        lexemes "> = std::sync::OnceLock::new();"].flatten := by
  have hStart :
      (Document.text
        "static INSTANCE: std::sync::OnceLock<").Reads Complete
          Complete
        (lexemes "static INSTANCE: std::sync::OnceLock<") :=
    Reads.fixed rfl (Complete.admits _) rfl
  have hItem :=
    Reads.items (.cons (Reads.word hClass) .nil)
      (List.cons_ne_nil _ _)
  have hClose :
      (Document.text "> = ").Reads Due Complete
        (lexemes "> = ") :=
    Reads.fixed rfl (Due.admits rfl rfl rfl) rfl
  have hNew :
      (Document.text "std::sync::OnceLock::new();").Reads
        Complete Complete
        (lexemes "std::sync::OnceLock::new();") :=
    Reads.fixed rfl (Complete.admits _) rfl
  have hMade :=
    Reads.box 0 none
      ((((hStart.append hItem).append hClose).append
        Reads.seam).append hNew)
  have hClosed :
      lexemes "> = std::sync::OnceLock::new();" =
        lexemes "> = " ++
          lexemes "std::sync::OnceLock::new();" :=
    rfl
  rw [hClosed]
  simpa [instanceItem, List.intercalate] using hMade

end Method

end ShaderBindings
