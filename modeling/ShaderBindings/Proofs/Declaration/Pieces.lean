import ShaderBindings.Declaration.Form
import ShaderBindings.Proofs.Text.Classes
import Mathlib.Data.List.Induction
import Mathlib.Data.List.TakeWhile
import Mathlib.Data.Nat.Digits.Defs

/-
  The pieces that declarations are written with, as types of
  texts, and what the readers do with them. A reader is
  greedy: it takes a piece whole when the text behind the
  piece does not go on with characters of the same class.

  Key definitions include:
    * `Stops`
    * `Run`
    * `Token`
    * `Numeral`
    * `brackets`

  Key theorems include:
    * `Run.append_inj`
    * `Token.append_inj`
    * `word?_token`, `exists_token_of_word?`
    * `blanks?_token`, `exists_token_of_blanks?`
    * `Numeral.exists_location`
    * `location?_numeral`, `exists_numeral_of_location?`
    * `arraySize_brackets`, `exists_brackets`
-/

------------------------------------------------------------
-- Runs of a Class
------------------------------------------------------------

namespace ShaderBindings

namespace Form

open Text

variable {p q : Char → Bool}

/- A text does not go on with a character of a class. -/
def Stops
    (p : Char → Bool)
    (text : List Char) : Prop :=
  ∀ c ∈ text.head?, p c = false

@[simp] theorem stops_nil : Stops p [] := by
  simp [Stops]

@[simp] theorem stops_cons
    {c : Char}
    {text : List Char} :
    Stops p (c :: text) ↔ p c = false := by
  simp [Stops]

/- A run of characters of one class, perhaps empty. -/
@[ext] structure Run (p : Char → Bool) where
  chars : List Char
  forall_mem : ∀ c ∈ chars, p c = true

/- A run of characters of one class that is not empty. -/
@[ext] structure Token (p : Char → Bool)
    extends Run p where
  chars_ne_nil : chars ≠ []

/- White space, perhaps none. -/
abbrev Blanks :=
  Run isBlank

/- White space, and at least some. -/
abbrev Gap :=
  Token isBlank

/- A word. -/
abbrev Word :=
  Token isWordChar

namespace Run

/- A run stops where another class starts. -/
theorem stops_append
    (run : Run q)
    {rest : List Char}
    (hApart : ∀ c, q c = true → p c = false)
    (hRest : Stops p rest) :
    Stops p (run.chars ++ rest) := by
  cases hChars : run.chars with
  | nil => exact hRest
  | cons c chars =>
      rw [List.cons_append, stops_cons]
      exact hApart c (run.forall_mem c (by simp [hChars]))

theorem takeWhile_append
    (run : Run p)
    {rest : List Char}
    (hRest : Stops p rest) :
    (run.chars ++ rest).takeWhile p = run.chars := by
  rw [List.takeWhile_append_of_pos run.forall_mem]
  cases rest with
  | nil => simp
  | cons c rest => simp [stops_cons.mp hRest]

theorem dropWhile_append
    (run : Run p)
    {rest : List Char}
    (hRest : Stops p rest) :
    (run.chars ++ rest).dropWhile p = rest := by
  rw [List.dropWhile_append_of_pos run.forall_mem]
  cases rest with
  | nil => simp
  | cons c rest => simp [stops_cons.mp hRest]

/-
  A text starts with a run in at most one way, when it does
  not go on with characters of the class.
-/
theorem append_inj
    {run run' : Run p}
    {rest rest' : List Char}
    (hRest : Stops p rest)
    (hRest' : Stops p rest')
    (hSame : run.chars ++ rest = run'.chars ++ rest') :
    run = run' ∧ rest = rest' := by
  constructor
  · apply Run.ext
    rw [← run.takeWhile_append hRest, hSame,
      run'.takeWhile_append hRest']
  · rw [← run.dropWhile_append hRest, hSame,
      run'.dropWhile_append hRest']

end Run

namespace Token

/- A token does not go on with characters of another class. -/
theorem stops_append
    (token : Token q)
    (rest : List Char)
    (hApart : ∀ c, q c = true → p c = false) :
    Stops p (token.chars ++ rest) := by
  cases hChars : token.chars with
  | nil => exact absurd hChars token.chars_ne_nil
  | cons c chars =>
      rw [List.cons_append, stops_cons]
      exact hApart c (token.forall_mem c (by simp [hChars]))

/-
  A text starts with a token in at most one way, when it
  does not go on with characters of the class.
-/
theorem append_inj
    {token token' : Token p}
    {rest rest' : List Char}
    (hRest : Stops p rest)
    (hRest' : Stops p rest')
    (hSame : token.chars ++ rest = token'.chars ++ rest') :
    token = token' ∧ rest = rest' := by
  rcases Run.append_inj hRest hRest' hSame with
    ⟨hRun, hAfter⟩
  exact ⟨Token.ext (congrArg Run.chars hRun), hAfter⟩

/- The text of a token. -/
def text (token : Token p) : String :=
  String.ofList token.chars

end Token

/- A run of nothing. -/
def nothing : Run p where
  chars := []
  forall_mem := by simp

/- One blank. -/
def blank : Gap where
  chars := [' ']
  forall_mem := by
    intro c hMember
    rw [List.mem_singleton.mp hMember]
    decide
  chars_ne_nil := by simp

/- A text that is a word. -/
def IsWord (text : String) : Prop :=
  ∃ word : Word, text = word.text

theorem IsWord.isWordChar
    {text : String}
    (hWord : IsWord text)
    {c : Char}
    (hMember : c ∈ text.toList) :
    isWordChar c = true := by
  rcases hWord with ⟨word, rfl⟩
  rw [Token.text, String.toList_ofList] at hMember
  exact word.forall_mem c hMember

/- A word does not start with white space. -/
theorem stops_word
    (word : Word)
    (rest : List Char) :
    Stops isBlank (word.chars ++ rest) :=
  word.stops_append rest fun _ =>
    isBlank_eq_false_of_isWordChar

/- White space does not start with a word. -/
theorem stops_gap
    (gap : Gap)
    (rest : List Char) :
    Stops isWordChar (gap.chars ++ rest) :=
  gap.stops_append rest fun _ =>
    isWordChar_eq_false_of_isBlank

end Form

end ShaderBindings

------------------------------------------------------------
-- Reading Fixed Texts
------------------------------------------------------------

namespace ShaderBindings

namespace Form

open Text

@[simp] theorem keyword?_append
    (keyword rest : List Char) :
    keyword? keyword (keyword ++ rest) = some rest :=
  keyword?_eq_some_iff.mpr rfl

@[simp] theorem keyword?_singleton
    (c : Char)
    (rest : List Char) :
    keyword? [c] (c :: rest) = some rest :=
  keyword?_append [c] rest

end Form

end ShaderBindings

------------------------------------------------------------
-- Reading Words and White Space
------------------------------------------------------------

namespace ShaderBindings

namespace Form

open Text

/- A word is read whole. -/
theorem word?_token
    (word : Word)
    {rest : List Char}
    (hRest : Stops isWordChar rest) :
    word? (word.chars ++ rest) = some (word.text, rest) := by
  unfold word?
  rw [word.takeWhile_append hRest,
    word.dropWhile_append hRest]
  split
  · rename_i hNone
    exact absurd hNone word.chars_ne_nil
  · rfl

/- What is read as a word is one. -/
theorem exists_token_of_word?
    {text rest : List Char}
    {found : String}
    (hRead : word? text = some (found, rest)) :
    ∃ word : Word,
      found = word.text ∧ text = word.chars ++ rest := by
  unfold word? at hRead
  split at hRead
  · simp at hRead
  · rename_i hSome
    simp only [Option.some.injEq, Prod.mk.injEq] at hRead
    rcases hRead with ⟨rfl, rfl⟩
    refine ⟨⟨⟨text.takeWhile isWordChar, ?_⟩, hSome⟩, rfl, ?_⟩
    · intro c hMember
      exact List.mem_takeWhile_imp hMember
    · exact List.takeWhile_append_dropWhile.symm

/- White space is skipped whole. -/
theorem blanks_run
    (run : Blanks)
    {rest : List Char}
    (hRest : Stops isBlank rest) :
    blanks (run.chars ++ rest) = rest :=
  run.dropWhile_append hRest

/- What is skipped as white space is white space. -/
theorem exists_run_of_blanks (text : List Char) :
    ∃ run : Blanks, text = run.chars ++ blanks text := by
  refine ⟨⟨text.takeWhile isBlank, ?_⟩, ?_⟩
  · intro c hMember
    exact List.mem_takeWhile_imp hMember
  · exact List.takeWhile_append_dropWhile.symm

/- Without white space in front there is none to read. -/
theorem blanks?_eq_none
    {text : List Char}
    (hText : Stops isBlank text) :
    blanks? text = none := by
  cases text with
  | nil => rfl
  | cons c text => simp [blanks?, stops_cons.mp hText]

/- White space is read whole. -/
theorem blanks?_token
    (gap : Gap)
    {rest : List Char}
    (hRest : Stops isBlank rest) :
    blanks? (gap.chars ++ rest) = some rest := by
  have hSkip := blanks_run gap.toRun hRest
  cases hChars : gap.chars with
  | nil => exact absurd hChars gap.chars_ne_nil
  | cons c chars =>
      have hBlank := gap.forall_mem c (by simp [hChars])
      rw [hChars, List.cons_append] at hSkip
      simp only [blanks, List.dropWhile_cons, hBlank,
        if_true] at hSkip
      simp [blanks?, blanks, hBlank, hSkip]

/- What is read as white space is some. -/
theorem exists_token_of_blanks?
    {text rest : List Char}
    (hRead : blanks? text = some rest) :
    ∃ gap : Gap, text = gap.chars ++ rest := by
  cases text with
  | nil => simp [blanks?] at hRead
  | cons c text =>
      simp only [blanks?, Option.ite_none_right_eq_some,
        Option.some.injEq] at hRead
      rcases hRead with ⟨hBlank, rfl⟩
      rcases exists_run_of_blanks text with ⟨run, hText⟩
      refine ⟨⟨⟨c :: run.chars, ?_⟩, by simp⟩, ?_⟩
      · intro d hMember
        rcases List.mem_cons.mp hMember with rfl | hRun
        · exact hBlank
        · exact run.forall_mem d hRun
      · rw [List.cons_append, ← hText]

end Form

end ShaderBindings

------------------------------------------------------------
-- Reading Locations
------------------------------------------------------------

namespace ShaderBindings

namespace Form

open Text

/- The digits of a numeral, the last one first. -/
def digitsOf (chars : List Char) : List Nat :=
  chars.reverse.map fun c => c.toNat - '0'.toNat

/-
  A numeral: decimal digits, as many as one likes, of a value
  that fits into 32 bits.
-/
@[ext] structure Numeral extends Token Char.isDigit where
  value_lt : Nat.ofDigits 10 (digitsOf chars) < 2 ^ 32

namespace Numeral

/- The number that a numeral denotes. -/
def value (numeral : Numeral) : Nat :=
  Nat.ofDigits 10 (digitsOf numeral.chars)

/- The location that a numeral denotes. -/
def location (numeral : Numeral) : UInt32 :=
  UInt32.ofNatLT numeral.value numeral.value_lt

@[simp] theorem location_toNat (numeral : Numeral) :
    numeral.location.toNat = numeral.value :=
  rfl

/- The character of a digit denotes the digit. -/
theorem digitChar_of_lt
    {digit : Nat}
    (hDigit : digit < 10) :
    (Nat.digitChar digit).isDigit = true ∧
      (Nat.digitChar digit).toNat - '0'.toNat = digit := by
  have hAll :
      ∀ digit : Fin 10,
        (Nat.digitChar digit).isDigit = true ∧
          (Nat.digitChar digit).toNat - '0'.toNat =
            digit := by
    decide
  exact hAll ⟨digit, hDigit⟩

/- The digits of a number, written with a zero in front. -/
theorem digitsOf_digitChars (number : Nat) :
    digitsOf
        ('0' :: (Nat.digits 10 number).reverse.map
          Nat.digitChar) =
      Nat.digits 10 number ++ [0] := by
  have hDigit :
      ∀ digit ∈ Nat.digits 10 number,
        (Nat.digitChar digit).toNat - '0'.toNat = digit := by
    intro digit hMember
    exact
      (digitChar_of_lt
        (Nat.digits_lt_base (by decide) hMember)).2
  rw [digitsOf, List.reverse_cons, ← List.map_reverse,
    List.reverse_reverse, List.map_append, List.map_map]
  congr 1
  calc
    (Nat.digits 10 number).map _ =
        (Nat.digits 10 number).map id :=
          List.map_congr_left hDigit
    _ = Nat.digits 10 number := List.map_id _

/- Every location is denoted by some numeral. -/
theorem exists_location (location : UInt32) :
    ∃ numeral : Numeral, numeral.location = location := by
  have hValue :
      Nat.ofDigits 10
          (Nat.digits 10 location.toNat ++ [0]) =
        location.toNat := by
    rw [Nat.ofDigits_append, Nat.ofDigits_digits]
    simp
  have hDigits :
      ∀ c ∈ '0' :: (Nat.digits 10 location.toNat).reverse.map
          Nat.digitChar, c.isDigit = true := by
    intro c hMember
    rcases List.mem_cons.mp hMember with rfl | hTail
    · rfl
    · rcases List.mem_map.mp hTail with ⟨digit, hDigit, rfl⟩
      have hSmall : digit < 10 :=
        Nat.digits_lt_base (by decide)
          (List.mem_reverse.mp hDigit)
      exact (digitChar_of_lt hSmall).1
  refine ⟨⟨⟨⟨_, hDigits⟩, by simp⟩, ?_⟩, ?_⟩
  · rw [digitsOf_digitChars, hValue]
    exact location.toNat_lt
  · apply UInt32.toNat_inj.mp
    rw [location_toNat, value, digitsOf_digitChars, hValue]

/-
  A text starts with a numeral in at most one way, when it
  does not go on with a digit.
-/
theorem append_inj
    {numeral numeral' : Numeral}
    {rest rest' : List Char}
    (hRest : Stops Char.isDigit rest)
    (hRest' : Stops Char.isDigit rest')
    (hSame :
      numeral.chars ++ rest = numeral'.chars ++ rest') :
    numeral = numeral' ∧ rest = rest' := by
  rcases Token.append_inj hRest hRest' hSame with
    ⟨hToken, hAfter⟩
  have hChars : numeral.chars = numeral'.chars := by
    rw [hToken]
  exact ⟨Numeral.ext hChars, hAfter⟩

end Numeral

/- The digits are summed up from the first one on. -/
theorem decimalValue_eq_ofDigits (chars : List Char) :
    decimalValue chars = Nat.ofDigits 10 (digitsOf chars) := by
  induction chars using List.reverseRecOn with
  | nil => rfl
  | append_singleton chars c ih =>
      have hStep :
          decimalValue (chars ++ [c]) =
            10 * decimalValue chars + (c.toNat - 48) := by
        simp [decimalValue]
      have hDigits :
          digitsOf (chars ++ [c]) =
            (c.toNat - 48) :: digitsOf chars := by
        simp [digitsOf]
      rw [hStep, hDigits, Nat.ofDigits_cons, ih]
      exact Nat.add_comm _ _

/- A numeral is read whole. -/
theorem location?_numeral
    (numeral : Numeral)
    {rest : List Char}
    (hRest : Stops Char.isDigit rest) :
    location? (numeral.chars ++ rest) =
      some (numeral.location, rest) := by
  have hValue :
      decimalValue numeral.chars = numeral.value :=
    decimalValue_eq_ofDigits numeral.chars
  unfold location?
  rw [numeral.takeWhile_append hRest,
    numeral.dropWhile_append hRest]
  split
  · rename_i hNone
    exact absurd hNone numeral.chars_ne_nil
  · have hFits : numeral.value < UInt32.size :=
      numeral.value_lt
    have hLocation :
        UInt32.ofNat numeral.value = numeral.location := by
      apply UInt32.toNat.inj
      exact UInt32.toNat_ofNat_of_lt' hFits
    simp only [hValue, if_pos hFits, hLocation]

/- What is read as a location is a numeral. -/
theorem exists_numeral_of_location?
    {text rest : List Char}
    {found : UInt32}
    (hRead : location? text = some (found, rest)) :
    ∃ numeral : Numeral,
      found = numeral.location ∧
        text = numeral.chars ++ rest := by
  unfold location? at hRead
  split at hRead
  · simp at hRead
  · rename_i hSome
    simp only [Option.ite_none_right_eq_some,
      Option.some.injEq, Prod.mk.injEq] at hRead
    rcases hRead with ⟨hFits, rfl, rfl⟩
    have hDigits :
        ∀ c ∈ text.takeWhile Char.isDigit,
          c.isDigit = true := by
      intro c hMember
      exact List.mem_takeWhile_imp hMember
    have hValue := hFits
    rw [decimalValue_eq_ofDigits] at hValue
    refine ⟨⟨⟨⟨_, hDigits⟩, hSome⟩, hValue⟩, ?_, ?_⟩
    · simp only [Numeral.location, Numeral.value,
        UInt32.ofNatLT_eq_ofNat, decimalValue_eq_ofDigits]
    · exact List.takeWhile_append_dropWhile.symm

end Form

end ShaderBindings

------------------------------------------------------------
-- Reading Array Sizes
------------------------------------------------------------

namespace ShaderBindings

namespace Form

open Text

/- The size of an array as it is written, when there is one. -/
def brackets : Option (Run isWordChar) → List Char
| none => []
| some size => '[' :: (size.chars ++ [']'])

/- A closing bracket ends a word. -/
theorem isWordChar_bracket : isWordChar ']' = false := by
  decide

/- The size of an array is read whole. -/
theorem arraySize_brackets
    (size : Option (Run isWordChar))
    (rest : List Char) :
    arraySize (brackets size ++ ';' :: rest) =
      (size.isSome, ';' :: rest) := by
  cases size with
  | none => rfl
  | some size =>
      have hDrop :
          (size.chars ++ ']' :: ';' :: rest).dropWhile
            isWordChar = ']' :: ';' :: rest :=
        size.dropWhile_append
          (stops_cons.mpr isWordChar_bracket)
      simp [brackets, arraySize, hDrop]

/- What is read as the size of an array is one. -/
theorem exists_brackets (text : List Char) :
    ∃ size : Option (Run isWordChar),
      (arraySize text).1 = size.isSome ∧
        text = brackets size ++ (arraySize text).2 := by
  unfold arraySize
  split
  · rename_i inner
    split
    · rename_i after hClose
      refine
        ⟨some ⟨inner.takeWhile isWordChar, ?_⟩, rfl, ?_⟩
      · intro c hMember
        exact List.mem_takeWhile_imp hMember
      · have hSplit :=
          List.takeWhile_append_dropWhile
            (p := isWordChar) (l := inner)
        rw [hClose] at hSplit
        simp [brackets, hSplit]
    · exact ⟨none, rfl, rfl⟩
  · exact ⟨none, rfl, rfl⟩

end Form

end ShaderBindings
