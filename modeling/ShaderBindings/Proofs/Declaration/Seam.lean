import ShaderBindings.Proofs.Declaration.Search
import ShaderBindings.Proofs.Declaration.Spelling

/-
  Texts that are put one behind the other. A declaration has
  its only semicolon at its end and no brace at all, so none
  goes on behind a text that ends with one of these. What is
  found in both texts together is then what is found in the
  first one, followed by what is found in the second.

  Key definitions include:
    * `isSeal`
    * `Sealed`
    * `DeclarationForm.SpelledBy`

  Key theorems include:
    * `Sealed.exists_isSeal`
    * `DeclarationForm.SpelledBy.read?_append`
    * `DeclarationForm.SpelledBy.exists_read?_of_append`
    * `DeclarationForm.SpelledBy.search_append`
    * `Declarations.ofSource_append`
-/

------------------------------------------------------------
-- Sealed Texts
------------------------------------------------------------

namespace ShaderBindings

open Text

/- A character that no declaration goes on behind. -/
def isSeal (c : Char) : Bool :=
  c == ';' || c == '}'

/-
  The last character of a text that is not white space is a
  seal, if there is such a character.
-/
def Sealed (text : List Char) : Prop :=
  ∀ c ∈ (text.filter fun c => !isBlank c).getLast?,
    isSeal c = true

instance (text : List Char) : Decidable (Sealed text) :=
  decidable_of_iff
    ((text.filter fun c => !isBlank c).getLast?.all isSeal)
    (Option.all_eq_true _ _)

/- No character of a text is a seal. -/
def Unsealed (text : List Char) : Prop :=
  ∀ c ∈ text, isSeal c = false

instance (text : List Char) : Decidable (Unsealed text) :=
  decidable_of_iff (text.all fun c => !isSeal c)
    (by simp [Unsealed])

theorem unsealed_append_iff
    {text rest : List Char} :
    Unsealed (text ++ rest) ↔
      Unsealed text ∧ Unsealed rest :=
  List.forall_mem_append

namespace Sealed

/- The end of a sealed text is sealed. -/
theorem of_isSuffix
    {text rest : List Char}
    (hSealed : Sealed text)
    (hEnd : rest <:+ text) :
    Sealed rest := by
  rcases hEnd with ⟨front, rfl⟩
  intro c hLast
  apply hSealed c
  rw [List.filter_append, List.getLast?_append]
  rw [Option.mem_def] at hLast
  rw [hLast]
  rfl

/- A sealed text that is not white space holds a seal. -/
theorem exists_isSeal
    {text : List Char}
    {c : Char}
    (hSealed : Sealed text)
    (hMember : c ∈ text)
    (hBlank : isBlank c = false) :
    ∃ d ∈ text, isSeal d = true := by
  have hSome : c ∈ text.filter fun c => !isBlank c := by
    simp [hMember, hBlank]
  have hLast :=
    List.getLast?_eq_some_getLast (List.ne_nil_of_mem hSome)
  refine ⟨_, ?_, hSealed _ hLast⟩
  exact List.mem_of_mem_filter (List.getLast_mem _)

end Sealed

end ShaderBindings

------------------------------------------------------------
-- Forms That Are Spelled
------------------------------------------------------------

namespace ShaderBindings

open Form
open Text

namespace DeclarationForm

variable {α σ : Type}

/-
  The declarations of a form are read exactly where they are
  spelled. A spelling does not start with white space, and no
  character in front of its last one is a seal.
-/
structure SpelledBy
    (form : DeclarationForm α)
    (chars : σ → List Char)
    (declared : σ → α) : Prop where
  read?_eq_some_iff :
    ∀ {text rest : List Char} {found : α},
      form.read? text = some (found, rest) ↔
        ∃ spelling,
          text = chars spelling ++ rest ∧
            found = declared spelling
  stops_blank :
    ∀ spelling rest, Stops isBlank (chars spelling ++ rest)
  unsealed :
    ∀ spelling, Unsealed (chars spelling).dropLast

namespace SpelledBy

variable {form : DeclarationForm α}
variable {chars : σ → List Char}
variable {declared : σ → α}
variable {text rest more : List Char}
variable {found : α}

/- What is read is read whatever follows the text. -/
theorem read?_append
    (hSpelled : form.SpelledBy chars declared)
    (hRead : form.read? text = some (found, rest))
    (more : List Char) :
    form.read? (text ++ more) =
      some (found, rest ++ more) := by
  rcases hSpelled.read?_eq_some_iff.mp hRead with
    ⟨spelling, rfl, hFound⟩
  exact hSpelled.read?_eq_some_iff.mpr
    ⟨spelling, List.append_assoc _ _ _, hFound⟩

/-
  What is read at the start of a sealed text ends within this
  text. It would hold a seal in front of its end otherwise,
  as its first character is not white space.
-/
theorem exists_read?_of_append
    (hSpelled : form.SpelledBy chars declared)
    {c : Char}
    (hSealed : Sealed (c :: text))
    (hRead :
      form.read? (c :: text ++ more) = some (found, rest)) :
    ∃ inner, form.read? (c :: text) = some (found, inner) := by
  rcases hSpelled.read?_eq_some_iff.mp hRead with
    ⟨spelling, hText, hFound⟩
  rcases List.append_eq_append_iff.mp hText with
    ⟨beyond, hChars, _⟩ | ⟨inner, hInner, _⟩
  · cases beyond with
    | nil =>
        rw [List.append_nil] at hChars
        refine ⟨[], hSpelled.read?_eq_some_iff.mpr ?_⟩
        exact
          ⟨spelling, by rw [hChars, List.append_nil], hFound⟩
    | cons d beyond =>
        have hStart := hSpelled.stops_blank spelling rest
        rw [← hText, List.cons_append, stops_cons] at hStart
        rcases hSealed.exists_isSeal List.mem_cons_self hStart
          with ⟨last, hMember, hLast⟩
        have hFront :
            last ∈ (chars spelling).dropLast := by
          rw [hChars,
            List.dropLast_append_of_ne_nil (by simp)]
          exact List.mem_append_left _ hMember
        rw [hSpelled.unsealed spelling last hFront]
          at hLast
        cases hLast
  · exact
      ⟨inner, hSpelled.read?_eq_some_iff.mpr
        ⟨spelling, hInner, hFound⟩⟩

/-
  A search of a sealed text with another text behind it finds
  what it finds in each of them.
-/
theorem search_append
    (hSpelled : form.SpelledBy chars declared)
    (hSealed : Sealed text)
    (more : List Char) :
    form.search (text ++ more) =
      form.search text ++ form.search more := by
  fun_induction search form text with
  | case1 => rfl
  | case2 c text declaration rest hRead _ ih =>
      rcases hSpelled.read?_eq_some_iff.mp hRead with
        ⟨spelling, hText, _⟩
      have hRest := hSealed.of_isSuffix ⟨_, hText.symm⟩
      rw [search_of_read? (hSpelled.read?_append hRead more),
        ih hRest, List.cons_append]
  | case3 c text hRead ih =>
      have hNone :
          form.read? (c :: text ++ more) = none := by
        rw [Option.eq_none_iff_forall_ne_some]
        rintro ⟨found, rest⟩ hSome
        rcases hSpelled.exists_read?_of_append hSealed hSome
          with ⟨inner, hInner⟩
        rw [hRead] at hInner
        cases hInner
      rw [List.cons_append] at hNone ⊢
      rw [search_of_read?_eq_none hNone]
      exact ih (hSealed.of_isSuffix (List.suffix_cons c text))

end SpelledBy

end DeclarationForm

end ShaderBindings

------------------------------------------------------------
-- Spellings End with Their Only Seal
------------------------------------------------------------

namespace ShaderBindings

open Form
open Text

/- A run of a class without the seals holds no seal. -/
theorem Form.Run.unsealed
    {p : Char → Bool}
    (run : Run p)
    (hSemicolon : p ';' = false)
    (hBrace : p '}' = false) :
    Unsealed run.chars := by
  intro c hMember
  have hClass := run.forall_mem c hMember
  rw [Bool.eq_false_iff]
  intro hSeal
  rcases Bool.or_eq_true_iff.mp hSeal with hEnd | hEnd
  · rw [beq_iff_eq.mp hEnd, hSemicolon] at hClass
    cases hClass
  · rw [beq_iff_eq.mp hEnd, hBrace] at hClass
    cases hClass

theorem Form.unsealed_blanks (run : Blanks) :
    Unsealed run.chars :=
  run.unsealed (by decide) (by decide)

theorem Form.unsealed_word (run : Run isWordChar) :
    Unsealed run.chars :=
  run.unsealed (by decide) (by decide)

theorem Form.unsealed_brackets
    (size : Option (Run isWordChar)) :
    Unsealed (brackets size) := by
  cases size with
  | none => simp [brackets, Unsealed]
  | some size =>
      rw [brackets, ← List.singleton_append]
      simp only [unsealed_append_iff]
      exact ⟨by decide, unsealed_word size, by decide⟩

/- Uniforms are spelled with their only seal at the end. -/
theorem Uniform.form_spelledBy :
    Uniform.form.SpelledBy Uniform.Spelling.chars
      Uniform.Spelling.declared where
  read?_eq_some_iff := by
    intro text rest found
    constructor
    · exact Uniform.exists_spelling_of_read?
    · rintro ⟨spelling, rfl, rfl⟩
      exact Uniform.read?_spelling spelling rest
  stops_blank := by
    intro spelling rest
    exact stops_cons.mpr (by decide)
  unsealed := by
    intro spelling
    have hKeyword : Unsealed Uniform.keyword := by decide
    simp only [Uniform.Spelling.chars, List.flatten_cons,
      List.flatten_nil, List.append_nil,
      ← List.append_assoc, List.dropLast_concat,
      unsealed_append_iff]
    simp only [hKeyword, unsealed_blanks, unsealed_word,
      unsealed_brackets, and_self]

/- Attributes are spelled with their only seal at the end. -/
theorem Attribute.form_spelledBy :
    Attribute.form.SpelledBy Attribute.Spelling.chars
      Attribute.Spelling.declared where
  read?_eq_some_iff := by
    intro text rest found
    constructor
    · exact Attribute.exists_spelling_of_read?
    · rintro ⟨spelling, rfl, rfl⟩
      exact Attribute.read?_spelling spelling rest
  stops_blank := by
    intro spelling rest
    exact stops_cons.mpr (by decide)
  unsealed := by
    intro spelling
    have hFixed :
        ∀ text ∈ [Attribute.keyword, ['('],
          Attribute.locationWord, ['='], [')'],
          Attribute.inputWord], Unsealed text := by
      decide
    have hNumeral : Unsealed spelling.numeral.chars :=
      spelling.numeral.unsealed (by decide) (by decide)
    simp only [List.forall_mem_cons] at hFixed
    simp only [Attribute.Spelling.chars, List.flatten_cons,
      List.flatten_nil, List.append_nil,
      ← List.append_assoc, List.dropLast_concat,
      unsealed_append_iff]
    simp only [hFixed, hNumeral, unsealed_blanks,
      unsealed_word, and_self]

end ShaderBindings

------------------------------------------------------------
-- Declarations of Two Texts
------------------------------------------------------------

namespace ShaderBindings

namespace Declarations

/- Declarations of a text in front of those of another one. -/
instance : Append Declarations where
  append first second := {
    uniforms := first.uniforms ++ second.uniforms
    attributes := first.attributes ++ second.attributes }

/-
  The declarations of a sealed text with another one behind
  it are those of the two texts.
-/
theorem ofSource_append
    {first : String}
    (hSealed : Sealed first.toList)
    (second : String) :
    ofSource (first ++ second) =
      ofSource first ++ ofSource second := by
  have hUniforms :=
    Uniform.form_spelledBy.search_append hSealed second.toList
  have hAttributes :=
    Attribute.form_spelledBy.search_append hSealed
      second.toList
  simp only [← Uniform.form_seekable.scan_eq_search]
    at hUniforms
  simp only [← Attribute.form_seekable.scan_eq_search]
    at hAttributes
  rw [ofSource, String.toList_append, ofChars, hUniforms,
    hAttributes]
  rfl

/- A declaration may go on behind a text without a seal. -/
example :
    ofSource "uniform float" ++ ofSource " time;" =
        { uniforms := [], attributes := [] } ∧
      ofSource ("uniform float" ++ " time;") =
        { uniforms := [
            { typeToken := "float"
              name := "time"
              isArray := false }]
          attributes := [] } := by
  decide +kernel

end Declarations

end ShaderBindings
