import ShaderBindings.Proofs.Declaration.Search
import ShaderBindings.Proofs.Declaration.Spelling

/-
  Texts in which declarations of both kinds stand one after
  the other, with other texts around them. Each kind is
  scanned over the spellings of the other kind, and those are
  silent: a keyword in them is followed by nothing that reads
  as a declaration.

  Key definitions include:
    * `Filler`
    * `Written`
    * `Passage`

  Key theorems include:
    * `DeclarationForm.Seekable.silent_run`
    * `Uniform.Spelling.silent`
    * `Attribute.Spelling.silent`
    * `DeclarationForm.search_parts`
    * `ofSource_passage`
-/

------------------------------------------------------------
-- Silent Pieces
------------------------------------------------------------

namespace ShaderBindings

open Form
open Text

/-
  A keyword made of word characters does not go on in a text
  that starts with another character.
-/
theorem not_overlaps_of_stops
    {keyword rest : List Char}
    (hKeyword : ∀ c ∈ keyword, isWordChar c = true)
    (hRest : Stops isWordChar rest) :
    ¬ Overlaps keyword rest := by
  rintro ⟨start, hStart, _, hEnd⟩
  cases hDrop : keyword.drop start with
  | nil =>
      rw [List.drop_eq_nil_iff] at hDrop
      omega
  | cons c tail =>
      have hMember : c ∈ keyword :=
        List.mem_of_mem_drop (i := start) (by simp [hDrop])
      rw [hDrop] at hEnd
      rcases hEnd with ⟨after, rfl⟩
      have hOutside := stops_cons.mp hRest
      simp [hKeyword c hMember] at hOutside

namespace DeclarationForm

namespace Seekable

variable {α : Type}
variable {form : DeclarationForm α}

/- Where the keyword does not start, nothing is read. -/
theorem silent_of_notMem
    (hSeekable : form.Seekable)
    {text rest : List Char}
    (hHead : ∀ c ∈ text, form.keyword.head? ≠ some c) :
    form.Silent text rest := by
  intro start hStart
  apply hSeekable.read?_eq_none
  rintro ⟨after, hKeyword⟩
  rw [List.drop_eq_getElem_cons hStart] at hKeyword
  cases hFirst : form.keyword with
  | nil => exact form.keyword_ne_nil hFirst
  | cons k keyword =>
      rw [hFirst, List.cons_append, List.cons_append,
        List.cons.injEq] at hKeyword
      apply hHead text[start] (List.getElem_mem hStart)
      rw [hFirst, ← hKeyword.1, List.head?_cons]

/-
  A run of word characters is silent when nothing is read at
  a keyword inside it. The keyword would lie inside the run,
  with some tail of the run behind it.
-/
theorem silent_run
    (hSeekable : form.Seekable)
    (hKeyword : ∀ c ∈ form.keyword, isWordChar c = true)
    (run : Run isWordChar)
    {rest : List Char}
    (hRest : Stops isWordChar rest)
    (hRead :
      ∀ tail : Run isWordChar,
        form.read? (form.keyword ++ (tail.chars ++ rest)) =
          none) :
    form.Silent run.chars rest := by
  intro start hStart
  by_cases hInside : form.keyword <+: run.chars.drop start
  · rcases hInside with ⟨tail, hTail⟩
    have hRun : ∀ c ∈ tail, isWordChar c = true := by
      intro c hMember
      apply run.forall_mem
      apply List.mem_of_mem_drop
      rw [← hTail]
      exact List.mem_append_right _ hMember
    rw [← hTail, List.append_assoc]
    exact hRead ⟨tail, hRun⟩
  · apply hSeekable.read?_eq_none
    intro hStarts
    rcases isPrefix_drop_or_overlaps hStart hStarts with
      hPrefix | hOverlaps
    · exact hInside hPrefix
    · exact not_overlaps_of_stops hKeyword hRest hOverlaps

end Seekable

end DeclarationForm

end ShaderBindings

------------------------------------------------------------
-- Attributes in Uniforms
------------------------------------------------------------

namespace ShaderBindings

open Form
open Text

/- A parenthesis does not occur in a word. -/
theorem isOpen_eq_false_of_isWordChar
    {c : Char}
    (hWord : isWordChar c = true) :
    (c == '(') = false := by
  rw [beq_eq_false_iff_ne]
  rintro rfl
  simp [show isWordChar '(' = false by decide] at hWord

/- White space is not a character of words or of keywords. -/
theorem ne_of_isBlank
    {c k : Char}
    (hKey : isWordChar k = true)
    (hBlank : isBlank c = true) :
    k ≠ c := by
  rintro rfl
  simp [isWordChar_eq_false_of_isBlank hBlank] at hKey

/- Every keyword is made of word characters. -/
theorem Uniform.keyword_isWord :
    ∀ c ∈ Uniform.keyword, isWordChar c = true :=
  List.all_eq_true.mp (by decide)

theorem Attribute.keyword_isWord :
    ∀ c ∈ Attribute.keyword, isWordChar c = true :=
  List.all_eq_true.mp (by decide)

/- Without its parenthesis no attribute is read. -/
theorem Attribute.read?_eq_none_of_stops
    {text : List Char}
    (hOpen : Stops (· == '(') (blanks text)) :
    Attribute.read? (Attribute.keyword ++ text) = none := by
  have hNone : keyword? ['('] (blanks text) = none := by
    cases hText : blanks text with
    | nil => rfl
    | cons c rest =>
        rw [hText, stops_cons, beq_eq_false_iff_ne] at hOpen
        simp [keyword?, Ne.symm hOpen]
  simp [Attribute.read?, hNone]

/-
  Behind a keyword in a word there is no parenthesis, when
  there is none behind the word and its white space.
-/
theorem Attribute.read?_run
    (tail : Run isWordChar)
    {rest : List Char}
    (hRest : Stops (· == '(') (blanks rest)) :
    Attribute.form.read?
      (Attribute.form.keyword ++ (tail.chars ++ rest)) =
        none := by
  apply Attribute.read?_eq_none_of_stops
  cases hTail : tail.chars with
  | nil => exact hRest
  | cons c chars =>
      have hWord : isWordChar c = true :=
        tail.forall_mem c (by simp [hTail])
      simp [blanks, isBlank_eq_false_of_isWordChar hWord,
        isOpen_eq_false_of_isWordChar hWord]

/- In a text without its first letter no attribute starts. -/
theorem Attribute.silent_of_notMem
    {text rest : List Char}
    (hOther : 'l' ∉ text) :
    Attribute.form.Silent text rest := by
  apply Attribute.form_seekable.silent_of_notMem
  rintro c hMember hHead
  cases hHead
  exact hOther hMember

/- In white space no attribute starts. -/
theorem Attribute.silent_gap
    (gap : Gap)
    (rest : List Char) :
    Attribute.form.Silent gap.chars rest := by
  apply Attribute.silent_of_notMem
  intro hMember
  exact ne_of_isBlank (by decide)
    (gap.forall_mem 'l' hMember) rfl

/- In a word no attribute starts. -/
theorem Attribute.silent_run
    (run : Run isWordChar)
    {rest : List Char}
    (hRest : Stops isWordChar rest)
    (hOpen : Stops (· == '(') (blanks rest)) :
    Attribute.form.Silent run.chars rest :=
  Attribute.form_seekable.silent_run Attribute.keyword_isWord
    run hRest fun tail => Attribute.read?_run tail hOpen

/- In the size of an array no attribute starts. -/
theorem Attribute.silent_brackets
    (size : Option (Run isWordChar))
    (rest : List Char) :
    Attribute.form.Silent (brackets size) rest := by
  cases size with
  | none => exact DeclarationForm.silent_nil
  | some size =>
      have hSize :
          Attribute.form.Silent size.chars (']' :: rest) :=
        Attribute.silent_run size
          (stops_cons.mpr (by decide))
          (by simp +decide [blanks])
      rw [brackets, ← List.singleton_append]
      simp only [DeclarationForm.silent_append_iff]
      exact
        ⟨Attribute.silent_of_notMem (by decide), hSize,
          Attribute.silent_of_notMem (by decide)⟩

/- No attribute starts in a uniform. -/
theorem Uniform.Spelling.silent
    (spelling : Uniform.Spelling)
    (rest : List Char) :
    Attribute.form.Silent spelling.chars rest := by
  have hKeyword :
      ∀ text, Attribute.form.Silent Uniform.keyword text := by
    intro text
    exact Attribute.silent_of_notMem (by decide)
  have hSemicolon : Attribute.form.Silent [';'] rest :=
    Attribute.silent_of_notMem (by decide)
  simp only [chars, List.flatten_cons, List.flatten_nil,
    List.append_nil, DeclarationForm.silent_append_iff,
    List.append_assoc, List.cons_append, List.nil_append]
  refine
    ⟨hKeyword _, Attribute.silent_gap _ _, ?_,
      Attribute.silent_gap _ _, ?_,
      Attribute.silent_brackets _ _, hSemicolon⟩
  · apply Attribute.silent_run spelling.typeToken.toRun
      (stops_gap _ _)
    rw [blanks_run spelling.beforeName.toRun (stops_word _ _)]
    exact spelling.name.stops_append _ fun _ =>
      isOpen_eq_false_of_isWordChar
  · apply Attribute.silent_run spelling.name.toRun
      (stops_brackets _ _)
    cases spelling.size with
    | none => simp +decide [brackets, blanks]
    | some size => simp +decide [brackets, blanks]

end ShaderBindings

------------------------------------------------------------
-- Uniforms in Attributes
------------------------------------------------------------

namespace ShaderBindings

open Form
open Text

/- Without white space behind its keyword none is read. -/
theorem Uniform.read?_eq_none_of_stops
    {text : List Char}
    (hText : Stops isBlank text) :
    Uniform.read? (Uniform.keyword ++ text) = none := by
  simp [Uniform.read?, blanks?_eq_none hText]

/-
  A keyword that goes on as a word, or that a semicolon
  follows, is no uniform.
-/
theorem Uniform.read?_run
    (tail : Run isWordChar)
    {rest : List Char}
    (hTail : tail.chars = [] → Stops isBlank rest) :
    Uniform.read?
      (Uniform.keyword ++ (tail.chars ++ rest)) = none := by
  apply Uniform.read?_eq_none_of_stops
  cases hChars : tail.chars with
  | nil => exact hTail hChars
  | cons c chars =>
      have hWord : isWordChar c = true :=
        tail.forall_mem c (by simp [hChars])
      exact stops_cons.mpr (isBlank_eq_false_of_isWordChar hWord)

/- A keyword with a single word behind it is no uniform. -/
theorem Uniform.read?_gap_word
    (gap : Gap)
    (word : Word)
    (rest : List Char) :
    Uniform.read?
      (Uniform.keyword ++
        (gap.chars ++ (word.chars ++ ';' :: rest))) = none := by
  have hWord :
      word? (word.chars ++ ';' :: rest) =
        some (word.text, ';' :: rest) :=
    word?_token word (stops_cons.mpr (by decide))
  have hSemicolon : blanks? (';' :: rest) = none :=
    blanks?_eq_none (stops_cons.mpr (by decide))
  simp [Uniform.read?, blanks?_token gap (stops_word _ _),
    hWord, hSemicolon]

/- In a text without its first letter no uniform starts. -/
theorem Uniform.silent_of_notMem
    {text rest : List Char}
    (hOther : 'u' ∉ text) :
    Uniform.form.Silent text rest := by
  apply Uniform.form_seekable.silent_of_notMem
  rintro c hMember hHead
  cases hHead
  exact hOther hMember

/- In white space no uniform starts. -/
theorem Uniform.silent_blanks
    (run : Blanks)
    (rest : List Char) :
    Uniform.form.Silent run.chars rest := by
  apply Uniform.silent_of_notMem
  intro hMember
  exact ne_of_isBlank (by decide)
    (run.forall_mem 'u' hMember) rfl

/- In a numeral no uniform starts. -/
theorem Uniform.silent_numeral
    (numeral : Numeral)
    (rest : List Char) :
    Uniform.form.Silent numeral.chars rest := by
  apply Uniform.silent_of_notMem
  intro hMember
  have hDigit := numeral.forall_mem 'u' hMember
  simp +decide at hDigit

/- No uniform starts in an attribute. -/
theorem Attribute.Spelling.silent
    (spelling : Attribute.Spelling)
    (rest : List Char) :
    Uniform.form.Silent spelling.chars rest := by
  have hKeyword :
      ∀ text, Stops isWordChar text →
        Uniform.form.Silent Attribute.keyword text := by
    intro text hText
    apply Uniform.form_seekable.silent_of_free
    · decide
    · exact not_overlaps_of_stops Uniform.keyword_isWord hText
  have hFixed :
      ∀ text ∈ [['('], locationWord, ['='], [')'], inputWord,
        [';']], ∀ rest, Uniform.form.Silent text rest := by
    intro text hMember rest
    apply Uniform.silent_of_notMem
    revert text
    decide
  simp only [chars, List.flatten_cons, List.flatten_nil,
    List.append_nil, DeclarationForm.silent_append_iff,
    List.append_assoc]
  refine
    ⟨hKeyword _ ?_, Uniform.silent_blanks _ _,
      hFixed _ (by simp) _, Uniform.silent_blanks _ _,
      hFixed _ (by simp) _, Uniform.silent_blanks _ _,
      hFixed _ (by simp) _, Uniform.silent_blanks _ _,
      Uniform.silent_numeral _ _, Uniform.silent_blanks _ _,
      hFixed _ (by simp) _, Uniform.silent_blanks _ _,
      hFixed _ (by simp) _, Uniform.silent_blanks _ _, ?_,
      Uniform.silent_blanks _ _, ?_, hFixed _ (by simp) _⟩
  · apply spelling.beforeOpen.stops_append
    · intro c hBlank
      exact isWordChar_eq_false_of_isBlank hBlank
    · exact stops_cons.mpr (by decide)
  · apply Uniform.form_seekable.silent_run
      Uniform.keyword_isWord spelling.typeToken.toRun
      (stops_gap _ _)
    intro tail
    cases hTail : tail.chars with
    | nil => exact Uniform.read?_gap_word _ _ _
    | cons c chars =>
        rw [← hTail]
        apply Uniform.read?_run
        simp [hTail]
  · apply Uniform.form_seekable.silent_run
      Uniform.keyword_isWord spelling.name.toRun
      (stops_cons.mpr (by decide))
    intro tail
    exact Uniform.read?_run tail fun _ =>
      stops_cons.mpr (by decide)

end ShaderBindings

------------------------------------------------------------
-- Passages
------------------------------------------------------------

namespace ShaderBindings

/-
  A text without the keyword of a declaration. It may be
  empty, and it may end with the start of a keyword.
-/
structure Filler where
  chars : List Char
  uniform_free : ¬ Uniform.keyword <:+: chars
  attribute_free : ¬ Attribute.keyword <:+: chars

/- A declaration of either kind as it is written. -/
inductive Written where
| ofUniform (spelling : Uniform.Spelling)
| ofAttribute (spelling : Attribute.Spelling)

namespace Written

/- The characters of a written declaration. -/
def chars : Written → List Char
| .ofUniform spelling => spelling.chars
| .ofAttribute spelling => spelling.chars

/- What is declared, when it is a uniform. -/
def uniform? : Written → Option Uniform
| .ofUniform spelling => some spelling.declared
| .ofAttribute _ => none

/- What is declared, when it is an attribute. -/
def attribute? : Written → Option Attribute
| .ofUniform _ => none
| .ofAttribute spelling => some spelling.declared

end Written

/-
  Declarations in a row: a text before them, and each with
  the text behind it.
-/
structure Passage where
  opening : Filler
  parts : List (Written × Filler)

namespace Passage

/- The characters of declarations with what is behind them. -/
def partChars (parts : List (Written × Filler)) : List Char :=
  parts.flatMap fun part => part.1.chars ++ part.2.chars

/- The text of a passage. -/
def text (passage : Passage) : String :=
  String.ofList
    (passage.opening.chars ++ partChars passage.parts)

/- What a passage declares, each kind in order. -/
def declarations (passage : Passage) : Declarations where
  uniforms :=
    passage.parts.filterMap fun part => part.1.uniform?
  attributes :=
    passage.parts.filterMap fun part => part.1.attribute?

end Passage

end ShaderBindings

------------------------------------------------------------
-- Scanning a Passage
------------------------------------------------------------

namespace ShaderBindings

open Passage

/- A written declaration starts with one of the keywords. -/
theorem Written.starts_with_keyword (written : Written) :
    Uniform.keyword <+: written.chars ∨
      Attribute.keyword <+: written.chars := by
  cases written with
  | ofUniform spelling =>
      exact Or.inl (List.prefix_append _ _)
  | ofAttribute spelling =>
      exact Or.inr (List.prefix_append _ _)

/- No keyword goes on in a written declaration. -/
theorem Passage.not_overlaps_partChars
    {keyword : List Char}
    (hLength : keyword.length ≤ 7)
    (hUniform : ¬ Overlaps keyword Uniform.keyword)
    (hAttribute : ¬ Overlaps keyword Attribute.keyword)
    (parts : List (Written × Filler)) :
    ¬ Overlaps keyword (partChars parts) := by
  intro hOverlaps
  cases parts with
  | nil =>
      rcases hOverlaps with ⟨start, hStart, _, hEnd⟩
      rw [partChars, List.flatMap_nil, List.prefix_nil,
        List.drop_eq_nil_iff] at hEnd
      omega
  | cons part parts =>
      rw [partChars, List.flatMap_cons, List.append_assoc]
        at hOverlaps
      rcases part.1.starts_with_keyword with
        ⟨rest, hChars⟩ | ⟨rest, hChars⟩
      · rw [← hChars, List.append_assoc] at hOverlaps
        apply hUniform
        exact hOverlaps.of_append
          (Nat.le_trans hLength (by decide))
      · rw [← hChars, List.append_assoc] at hOverlaps
        apply hAttribute
        exact hOverlaps.of_append
          (Nat.le_trans hLength (by decide))

namespace DeclarationForm

variable {α : Type}

/-
  A form reads its own declarations, and the declarations of
  the other kind are silent.
-/
structure Distinguishes
    (form : DeclarationForm α)
    (declared? : Written → Option α) : Prop where
  read?_chars :
    ∀ {written : Written} {declaration : α} (rest : List Char),
      declared? written = some declaration →
        form.read? (written.chars ++ rest) =
          some (declaration, rest)
  silent_chars :
    ∀ {written : Written} (rest : List Char),
      declared? written = none →
        form.Silent written.chars rest
  silent_filler :
    ∀ (filler : Filler) (parts : List (Written × Filler)),
      form.Silent filler.chars (partChars parts)

/- The declarations of one kind are found in order. -/
theorem Distinguishes.search_parts
    {form : DeclarationForm α}
    {declared? : Written → Option α}
    (hForm : form.Distinguishes declared?)
    (parts : List (Written × Filler)) :
    form.search (partChars parts) =
      parts.filterMap fun part => declared? part.1 := by
  induction parts with
  | nil => simp [partChars]
  | cons part parts ih =>
      have hParts :
          partChars (part :: parts) =
            part.1.chars ++
              (part.2.chars ++ partChars parts) := by
        simp [partChars]
      have hBehind :
          form.search (part.2.chars ++ partChars parts) =
            parts.filterMap fun part => declared? part.1 := by
        rw [search_append_of_silent
          (hForm.silent_filler part.2 parts), ih]
      rw [hParts]
      cases hDeclared : declared? part.1 with
      | none =>
          rw [search_append_of_silent
            (hForm.silent_chars _ hDeclared), hBehind]
          simp [hDeclared]
      | some declaration =>
          rw [search_of_read?
            (hForm.read?_chars _ hDeclared), hBehind]
          simp [hDeclared]

/- A scan finds the declarations of one kind in a passage. -/
theorem Distinguishes.scan_passage
    {form : DeclarationForm α}
    {declared? : Written → Option α}
    (hForm : form.Distinguishes declared?)
    (hSeekable : form.Seekable)
    (passage : Passage) :
    form.scan passage.text.toList =
      passage.parts.filterMap fun part => declared? part.1 := by
  have hOpening :=
    hForm.silent_filler passage.opening passage.parts
  rw [hSeekable.scan_eq_search, Passage.text,
    String.toList_ofList, search_append_of_silent hOpening,
    hForm.search_parts]

end DeclarationForm

/- Uniforms are told from attributes. -/
theorem Uniform.form_distinguishes :
    Uniform.form.Distinguishes Written.uniform? where
  read?_chars := by
    intro written declaration rest hDeclared
    cases written with
    | ofUniform spelling =>
        cases hDeclared
        exact Uniform.read?_spelling spelling rest
    | ofAttribute spelling => cases hDeclared
  silent_chars := by
    intro written rest hDeclared
    cases written with
    | ofUniform spelling => cases hDeclared
    | ofAttribute spelling => exact spelling.silent rest
  silent_filler := by
    intro filler parts
    apply Uniform.form_seekable.silent_of_free
      filler.uniform_free
    exact not_overlaps_partChars (by decide) (by decide)
      (by decide) parts

/- Attributes are told from uniforms. -/
theorem Attribute.form_distinguishes :
    Attribute.form.Distinguishes Written.attribute? where
  read?_chars := by
    intro written declaration rest hDeclared
    cases written with
    | ofUniform spelling => cases hDeclared
    | ofAttribute spelling =>
        cases hDeclared
        exact Attribute.read?_spelling spelling rest
  silent_chars := by
    intro written rest hDeclared
    cases written with
    | ofUniform spelling => exact spelling.silent rest
    | ofAttribute spelling => cases hDeclared
  silent_filler := by
    intro filler parts
    apply Attribute.form_seekable.silent_of_free
      filler.attribute_free
    exact not_overlaps_partChars (by decide) (by decide)
      (by decide) parts

/-
  Scanning a passage finds exactly its declarations, each
  kind in order, whatever words and texts they are written
  with.
-/
theorem ofSource_passage (passage : Passage) :
    Declarations.ofSource passage.text =
      passage.declarations := by
  have hUniforms :=
    Uniform.form_distinguishes.scan_passage
      Uniform.form_seekable passage
  have hAttributes :=
    Attribute.form_distinguishes.scan_passage
      Attribute.form_seekable passage
  rw [Declarations.ofSource, Declarations.ofChars, hUniforms,
    hAttributes]
  rfl

end ShaderBindings
