import ShaderBindings.Proofs.Declaration.Pieces

/-
  The grammar of declarations: every way in which one may be
  written. The readers accept exactly these spellings, and
  no text starts with two of them.

  Key definitions include:
    * `Uniform.Spelling`
    * `Attribute.Spelling`

  Key theorems include:
    * `Uniform.read?_spelling`
    * `Uniform.exists_spelling_of_read?`
    * `Uniform.exists_spelling_of_isWord`
    * `Uniform.Spelling.append_inj`
    * `Attribute.read?_spelling`
    * `Attribute.exists_spelling_of_read?`
    * `Attribute.exists_spelling_of_isWord`
    * `Attribute.Spelling.append_inj`
    * `readers_accept_exactly_spellings`
-/

------------------------------------------------------------
-- Spellings of Uniforms
------------------------------------------------------------

namespace ShaderBindings

open Form
open Text

namespace Uniform

/-
  A uniform as it is written: the white space behind the
  keyword, the type, more white space, the name, and the
  size in brackets when it is an array.
-/
@[ext] structure Spelling where
  beforeType : Gap
  typeToken : Word
  beforeName : Gap
  name : Word
  size : Option (Run isWordChar)

namespace Spelling

/- The characters of a spelling. -/
def chars (spelling : Spelling) : List Char :=
  List.flatten [
    keyword, spelling.beforeType.chars,
    spelling.typeToken.chars, spelling.beforeName.chars,
    spelling.name.chars, brackets spelling.size, [';']]

/- The uniform that a spelling declares. -/
def declared (spelling : Spelling) : Uniform where
  typeToken := spelling.typeToken.text
  name := spelling.name.text
  isArray := spelling.size.isSome

/- The characters of a spelling in front of a text. -/
theorem chars_append
    (spelling : Spelling)
    (rest : List Char) :
    spelling.chars ++ rest =
      keyword ++
        (spelling.beforeType.chars ++
          (spelling.typeToken.chars ++
            (spelling.beforeName.chars ++
              (spelling.name.chars ++
                (brackets spelling.size ++ ';' :: rest))))) := by
  simp [chars]

end Spelling

/- A name ends at its array size or at the semicolon. -/
theorem stops_brackets
    (size : Option (Run isWordChar))
    (rest : List Char) :
    Stops isWordChar (brackets size ++ ';' :: rest) := by
  cases size with
  | none => exact stops_cons.mpr (by decide)
  | some size => exact stops_cons.mpr (by decide)

/- A spelling is read as what it declares. -/
theorem read?_spelling
    (spelling : Spelling)
    (rest : List Char) :
    read? (spelling.chars ++ rest) =
      some (spelling.declared, rest) := by
  have hType :
      word? (spelling.typeToken.chars ++
          (spelling.beforeName.chars ++
            (spelling.name.chars ++
              (brackets spelling.size ++ ';' :: rest)))) =
        some (spelling.typeToken.text, _) :=
    word?_token spelling.typeToken (stops_gap _ _)
  have hName :
      word? (spelling.name.chars ++
          (brackets spelling.size ++ ';' :: rest)) =
        some (spelling.name.text, _) :=
    word?_token spelling.name (stops_brackets _ _)
  rw [spelling.chars_append, read?]
  simp only [keyword?_append, Option.bind_eq_bind,
    Option.bind_some,
    blanks?_token spelling.beforeType (stops_word _ _), hType,
    blanks?_token spelling.beforeName (stops_word _ _), hName,
    arraySize_brackets, keyword?_singleton, Option.pure_def]
  rfl

/- What is read as a uniform is spelled like one. -/
theorem exists_spelling_of_read?
    {text rest : List Char}
    {found : Uniform}
    (hRead : read? text = some (found, rest)) :
    ∃ spelling : Spelling,
      text = spelling.chars ++ rest ∧
        found = spelling.declared := by
  simp only [read?, Option.bind_eq_bind,
    Option.bind_eq_some_iff, Option.pure_def,
    Option.some.injEq, Prod.mk.injEq, Prod.exists] at hRead
  rcases hRead with
    ⟨t₁, hKeyword, t₂, hBeforeType, _, t₃, hType, t₄,
      hBeforeName, _, t₅, hName, t₆, hSemicolon, rfl, rfl⟩
  rcases exists_token_of_blanks? hBeforeType with
    ⟨beforeType, h₁⟩
  rcases exists_token_of_word? hType with
    ⟨typeToken, rfl, h₂⟩
  rcases exists_token_of_blanks? hBeforeName with
    ⟨beforeName, h₃⟩
  rcases exists_token_of_word? hName with ⟨name, rfl, h₄⟩
  rcases exists_brackets t₅ with ⟨size, hArray, h₅⟩
  have h₀ := keyword?_eq_some_iff.mp hKeyword
  have h₆ := keyword?_eq_some_iff.mp hSemicolon
  refine
    ⟨⟨beforeType, typeToken, beforeName, name, size⟩,
      ?_, ?_⟩
  · rw [Spelling.chars_append, h₀, h₁, h₂, h₃, h₄, h₅, h₆]
    rfl
  · rw [Spelling.declared, hArray]

/- Every uniform that is made of words can be spelled. -/
theorem exists_spelling_of_isWord
    {declared : Uniform}
    (hType : IsWord declared.typeToken)
    (hName : IsWord declared.name) :
    ∃ spelling : Spelling, spelling.declared = declared := by
  rcases declared with ⟨typeText, nameText, isArray⟩
  rcases hType with ⟨typeToken, rfl⟩
  rcases hName with ⟨name, rfl⟩
  cases isArray with
  | false =>
      exact ⟨⟨blank, typeToken, blank, name, none⟩, rfl⟩
  | true =>
      exact
        ⟨⟨blank, typeToken, blank, name, some nothing⟩, rfl⟩

/- A text starts with at most one size of an array. -/
theorem brackets_append_inj
    {size size' : Option (Run isWordChar)}
    {rest rest' : List Char}
    (hSame :
      brackets size ++ ';' :: rest =
        brackets size' ++ ';' :: rest') :
    size = size' ∧ rest = rest' := by
  cases size with
  | none =>
      cases size' with
      | none => simpa [brackets] using hSame
      | some size' => simp [brackets] at hSame
  | some size =>
      cases size' with
      | none => simp [brackets] at hSame
      | some size' =>
          have hInner :
              size.chars ++ ']' :: ';' :: rest =
                size'.chars ++ ']' :: ';' :: rest' := by
            simpa [brackets] using hSame
          rcases Run.append_inj
              (stops_cons.mpr isWordChar_bracket)
              (stops_cons.mpr isWordChar_bracket) hInner with
            ⟨rfl, hAfter⟩
          simpa using hAfter

/- A text starts with at most one spelling of a uniform. -/
theorem Spelling.append_inj
    {spelling spelling' : Spelling}
    {rest rest' : List Char}
    (hSame :
      spelling.chars ++ rest = spelling'.chars ++ rest') :
    spelling = spelling' ∧ rest = rest' := by
  rw [spelling.chars_append, spelling'.chars_append] at hSame
  have h₁ := List.append_cancel_left hSame
  rcases Token.append_inj (stops_word _ _) (stops_word _ _)
      h₁ with ⟨hBeforeType, h₂⟩
  rcases Token.append_inj (stops_gap _ _) (stops_gap _ _)
      h₂ with ⟨hType, h₃⟩
  rcases Token.append_inj (stops_word _ _) (stops_word _ _)
      h₃ with ⟨hBeforeName, h₄⟩
  rcases Token.append_inj (stops_brackets _ _)
      (stops_brackets _ _) h₄ with ⟨hName, h₅⟩
  rcases brackets_append_inj h₅ with ⟨hSize, hRest⟩
  exact
    ⟨Spelling.ext hBeforeType hType hBeforeName hName hSize,
      hRest⟩

end Uniform

end ShaderBindings

------------------------------------------------------------
-- Spellings of Attributes
------------------------------------------------------------

namespace ShaderBindings

open Form
open Text

namespace Attribute

/- The word in front of the number of a location. -/
abbrev locationWord : List Char :=
  ['l', 'o', 'c', 'a', 't', 'i', 'o', 'n']

/- The word that marks an input. -/
abbrev inputWord : List Char :=
  ['i', 'n']

/-
  An attribute as it is written: its location in parentheses
  with white space at will, then the word for an input, the
  type and the name, each behind some white space.
-/
@[ext] structure Spelling where
  beforeOpen : Blanks
  beforeWord : Blanks
  beforeEquals : Blanks
  beforeNumeral : Blanks
  numeral : Numeral
  beforeClose : Blanks
  beforeInput : Gap
  beforeType : Gap
  typeToken : Word
  beforeName : Gap
  name : Word

namespace Spelling

/- The characters of a spelling. -/
def chars (spelling : Spelling) : List Char :=
  List.flatten [
    keyword, spelling.beforeOpen.chars, ['('],
    spelling.beforeWord.chars, locationWord,
    spelling.beforeEquals.chars, ['='],
    spelling.beforeNumeral.chars, spelling.numeral.chars,
    spelling.beforeClose.chars, [')'],
    spelling.beforeInput.chars, inputWord,
    spelling.beforeType.chars, spelling.typeToken.chars,
    spelling.beforeName.chars, spelling.name.chars, [';']]

/- The attribute that a spelling declares. -/
def declared (spelling : Spelling) : Attribute where
  location := spelling.numeral.location
  typeToken := spelling.typeToken.text
  name := spelling.name.text

/- The characters behind the location, before a text. -/
def inputChars
    (spelling : Spelling)
    (rest : List Char) : List Char :=
  spelling.beforeInput.chars ++
    (inputWord ++
      (spelling.beforeType.chars ++
        (spelling.typeToken.chars ++
          (spelling.beforeName.chars ++
            (spelling.name.chars ++ ';' :: rest)))))

/- The characters behind the equals sign, before a text. -/
def numeralChars
    (spelling : Spelling)
    (rest : List Char) : List Char :=
  spelling.beforeNumeral.chars ++
    (spelling.numeral.chars ++
      (spelling.beforeClose.chars ++
        ')' :: spelling.inputChars rest))

/- The characters of a spelling, before a text. -/
def charsBefore
    (spelling : Spelling)
    (rest : List Char) : List Char :=
  keyword ++
    (spelling.beforeOpen.chars ++
      '(' :: (spelling.beforeWord.chars ++
        (locationWord ++
          (spelling.beforeEquals.chars ++
            '=' :: spelling.numeralChars rest))))

/- The characters of a spelling in front of a text. -/
theorem chars_append
    (spelling : Spelling)
    (rest : List Char) :
    spelling.chars ++ rest = spelling.charsBefore rest := by
  simp [chars, charsBefore, numeralChars, inputChars]

/- A location ends at the closing parenthesis. -/
theorem stops_beforeClose
    (spelling : Spelling)
    (rest : List Char) :
    Stops Char.isDigit
      (spelling.beforeClose.chars ++ ')' :: rest) := by
  apply spelling.beforeClose.stops_append
  · intro c hBlank
    exact isDigit_eq_false_of_isBlank hBlank
  · exact stops_cons.mpr (by decide)

/- A location does not start with white space. -/
theorem stops_numeral
    (spelling : Spelling)
    (rest : List Char) :
    Stops isBlank (spelling.numeral.chars ++ rest) :=
  spelling.numeral.stops_append rest fun _ =>
    isBlank_eq_false_of_isDigit

end Spelling

/- A spelling is read as what it declares. -/
theorem read?_spelling
    (spelling : Spelling)
    (rest : List Char) :
    read? (spelling.chars ++ rest) =
      some (spelling.declared, rest) := by
  have hSemicolon : Stops isWordChar (';' :: rest) :=
    stops_cons.mpr (by decide)
  have hNumeral :
      location? (spelling.numeral.chars ++
          (spelling.beforeClose.chars ++
            ')' :: spelling.inputChars rest)) =
        some (spelling.numeral.location, _) :=
    location?_numeral spelling.numeral
      (spelling.stops_beforeClose _)
  have hKeyword :=
    keyword?_append keyword
      (spelling.beforeOpen.chars ++
        '(' :: (spelling.beforeWord.chars ++
          (locationWord ++
            (spelling.beforeEquals.chars ++
              '=' :: spelling.numeralChars rest))))
  rw [spelling.chars_append, Spelling.charsBefore, read?,
    hKeyword]
  simp +decide [blanks_run, keyword?, Spelling.numeralChars,
    spelling.stops_numeral, hNumeral]
  simp +decide [Spelling.inputChars, blanks?_token, keyword?,
    word?_token, stops_word, stops_gap, hSemicolon,
    Spelling.declared]

/- What is read as an attribute is spelled like one. -/
theorem exists_spelling_of_read?
    {text rest : List Char}
    {found : Attribute}
    (hRead : read? text = some (found, rest)) :
    ∃ spelling : Spelling,
      text = spelling.chars ++ rest ∧
        found = spelling.declared := by
  simp only [read?, Option.bind_eq_bind,
    Option.bind_eq_some_iff, Option.pure_def,
    Option.some.injEq, Prod.mk.injEq, Prod.exists,
    keyword?_eq_some_iff] at hRead
  rcases hRead with
    ⟨t₁, h₀, t₂, hOpen, t₃, hWord, t₄, hEquals, _, t₅,
      hLocation, t₆, hClose, t₇, hBeforeInput, t₈, h₇, t₉,
      hBeforeType, _, t₁₀, hType, t₁₁, hBeforeName, _, t₁₂,
      hName, t₁₃, h₁₂, rfl, rfl⟩
  rcases exists_run_of_blanks t₁ with ⟨beforeOpen, h₁⟩
  rcases exists_run_of_blanks t₂ with ⟨beforeWord, h₂⟩
  rcases exists_run_of_blanks t₃ with ⟨beforeEquals, h₃⟩
  rcases exists_run_of_blanks t₄ with ⟨beforeNumeral, h₄⟩
  rcases exists_numeral_of_location? hLocation with
    ⟨numeral, rfl, hNumeral⟩
  rcases exists_run_of_blanks t₅ with ⟨beforeClose, h₅⟩
  rcases exists_token_of_blanks? hBeforeInput with
    ⟨beforeInput, h₆⟩
  rcases exists_token_of_blanks? hBeforeType with
    ⟨beforeType, h₈⟩
  rcases exists_token_of_word? hType with
    ⟨typeToken, rfl, h₉⟩
  rcases exists_token_of_blanks? hBeforeName with
    ⟨beforeName, h₁₀⟩
  rcases exists_token_of_word? hName with ⟨name, rfl, h₁₁⟩
  refine
    ⟨{ beforeOpen, beforeWord, beforeEquals, beforeNumeral,
       numeral, beforeClose, beforeInput, beforeType,
       typeToken, beforeName, name }, ?_, rfl⟩
  rw [Spelling.chars_append, Spelling.charsBefore,
    Spelling.numeralChars, Spelling.inputChars]
  rw [h₀, h₁, hOpen, h₂, hWord, h₃, hEquals, h₄, hNumeral,
    h₅, hClose, h₆, h₇, h₈, h₉, h₁₀, h₁₁, h₁₂]
  rfl

/-
  Every attribute that is made of words can be spelled,
  whatever its location is.
-/
theorem exists_spelling_of_isWord
    {declared : Attribute}
    (hType : IsWord declared.typeToken)
    (hName : IsWord declared.name) :
    ∃ spelling : Spelling, spelling.declared = declared := by
  rcases declared with ⟨location, typeText, nameText⟩
  rcases hType with ⟨typeToken, rfl⟩
  rcases hName with ⟨name, rfl⟩
  rcases Numeral.exists_location location with ⟨numeral, rfl⟩
  exact
    ⟨⟨nothing, nothing, nothing, nothing, numeral, nothing,
        blank, blank, typeToken, blank, name⟩, rfl⟩

/- A text starts with at most one spelling of an attribute. -/
theorem Spelling.append_inj
    {spelling spelling' : Spelling}
    {rest rest' : List Char}
    (hSame :
      spelling.chars ++ rest = spelling'.chars ++ rest') :
    spelling = spelling' ∧ rest = rest' := by
  have hMark :
      ∀ (c : Char) (text : List Char),
        isBlank c = false → Stops isBlank (c :: text) :=
    fun c text hBlank => stops_cons.mpr hBlank
  have hLocation :
      ∀ text : List Char,
        Stops isBlank (locationWord ++ text) :=
    fun text => hMark 'l' _ (by decide)
  have hInput :
      ∀ text : List Char, Stops isBlank (inputWord ++ text) :=
    fun text => hMark 'i' _ (by decide)
  have hSemicolon :
      ∀ text : List Char, Stops isWordChar (';' :: text) :=
    fun text => stops_cons.mpr (by decide)
  rw [spelling.chars_append, spelling'.chars_append] at hSame
  have h₁ := List.append_cancel_left hSame
  rcases Run.append_inj (hMark '(' _ (by decide))
      (hMark '(' _ (by decide)) h₁ with ⟨hBeforeOpen, h₂⟩
  rcases Run.append_inj (hLocation _) (hLocation _)
      (List.tail_eq_of_cons_eq h₂) with ⟨hBeforeWord, h₃⟩
  rcases Run.append_inj (hMark '=' _ (by decide))
      (hMark '=' _ (by decide)) (List.append_cancel_left h₃)
    with ⟨hBeforeEquals, h₄⟩
  rcases Run.append_inj (spelling.stops_numeral _)
      (spelling'.stops_numeral _) (List.tail_eq_of_cons_eq h₄)
    with ⟨hBeforeNumeral, h₅⟩
  rcases Numeral.append_inj (spelling.stops_beforeClose _)
      (spelling'.stops_beforeClose _) h₅ with ⟨hNumeral, h₆⟩
  rcases Run.append_inj (hMark ')' _ (by decide))
      (hMark ')' _ (by decide)) h₆ with ⟨hBeforeClose, h₇⟩
  rcases Token.append_inj (hInput _) (hInput _)
      (List.tail_eq_of_cons_eq h₇) with ⟨hBeforeInput, h₈⟩
  rcases Token.append_inj (stops_word _ _) (stops_word _ _)
      (List.append_cancel_left h₈) with ⟨hBeforeType, h₉⟩
  rcases Token.append_inj (stops_gap _ _) (stops_gap _ _)
      h₉ with ⟨hType, h₁₀⟩
  rcases Token.append_inj (stops_word _ _) (stops_word _ _)
      h₁₀ with ⟨hBeforeName, h₁₁⟩
  rcases Token.append_inj (hSemicolon _) (hSemicolon _)
      h₁₁ with ⟨hName, h₁₂⟩
  constructor
  · exact
      Spelling.ext hBeforeOpen hBeforeWord hBeforeEquals
        hBeforeNumeral hNumeral hBeforeClose hBeforeInput
        hBeforeType hType hBeforeName hName
  · exact List.tail_eq_of_cons_eq h₁₂

end Attribute

end ShaderBindings

------------------------------------------------------------
-- Readers and Spellings
------------------------------------------------------------

namespace ShaderBindings

/-
  The readers accept exactly the spellings, and read off what
  is declared and what is left. A text is a spelling with a
  rest in at most one way.
-/
theorem readers_accept_exactly_spellings :
    (∀ (text rest : List Char) (found : Uniform),
      Uniform.read? text = some (found, rest) ↔
        ∃ spelling : Uniform.Spelling,
          text = spelling.chars ++ rest ∧
            found = spelling.declared) ∧
      (∀ (text rest : List Char) (found : Attribute),
        Attribute.read? text = some (found, rest) ↔
          ∃ spelling : Attribute.Spelling,
            text = spelling.chars ++ rest ∧
              found = spelling.declared) ∧
      Function.Injective
        (fun split : Uniform.Spelling × List Char =>
          split.1.chars ++ split.2) ∧
      Function.Injective
        (fun split : Attribute.Spelling × List Char =>
          split.1.chars ++ split.2) := by
  refine ⟨?_, ?_, ?_, ?_⟩
  · intro text rest found
    constructor
    · exact Uniform.exists_spelling_of_read?
    · rintro ⟨spelling, rfl, rfl⟩
      exact Uniform.read?_spelling spelling rest
  · intro text rest found
    constructor
    · exact Attribute.exists_spelling_of_read?
    · rintro ⟨spelling, rfl, rfl⟩
      exact Attribute.read?_spelling spelling rest
  · intro split split' hSame
    rcases Uniform.Spelling.append_inj hSame with
      ⟨hSpelling, hRest⟩
    exact Prod.ext hSpelling hRest
  · intro split split' hSame
    rcases Attribute.Spelling.append_inj hSame with
      ⟨hSpelling, hRest⟩
    exact Prod.ext hSpelling hRest

end ShaderBindings
