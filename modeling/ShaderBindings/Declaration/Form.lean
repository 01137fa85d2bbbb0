import ShaderBindings.Declaration
import ShaderBindings.Text.Blank

/-
  The written forms of declarations, read at the very start
  of a text. A reader returns the declaration and the text
  after it, or nothing when the text does not start with one.

  Key definitions include:
    * `keyword?`
    * `word?`
    * `blanks?`
    * `location?`
    * `Uniform.read?`
    * `Attribute.read?`
-/

------------------------------------------------------------
-- Pieces of a Declaration
------------------------------------------------------------

namespace ShaderBindings

namespace Form

open Text

/- The text after a fixed beginning. -/
def keyword? :
    List Char → List Char → Option (List Char)
| [], text => some text
| _ :: _, [] => none
| k :: keyword, c :: text =>
    if k = c then keyword? keyword text else none

/- A longest run of word characters, not empty. -/
def word? (text : List Char) :
    Option (String × List Char) :=
  match text.takeWhile isWordChar with
  | [] => none
  | word =>
      some (String.ofList word, text.dropWhile isWordChar)

/- The text after a run of white space, perhaps empty. -/
def blanks (text : List Char) : List Char :=
  text.dropWhile isBlank

/- The text after a run of white space, not empty. -/
def blanks? (text : List Char) : Option (List Char) :=
  match text with
  | [] => none
  | c :: rest => if isBlank c then some (blanks rest) else none

/- The number that a run of decimal digits denotes. -/
def decimalValue (digits : List Char) : Nat :=
  digits.foldl
    (fun value digit => 10 * value + (digit.toNat - 48)) 0

/-
  A location: decimal digits, not none of them, whose value
  fits into 32 bits.
-/
def location? (text : List Char) :
    Option (UInt32 × List Char) :=
  match text.takeWhile Char.isDigit with
  | [] => none
  | digits =>
      let value := decimalValue digits
      if value < UInt32.size then
        some (UInt32.ofNat value, text.dropWhile Char.isDigit)
      else
        none

/-
  The size of an array in square brackets: word characters,
  perhaps none. Without both brackets nothing is consumed.
-/
def arraySize (text : List Char) : Bool × List Char :=
  match text with
  | '[' :: rest =>
      match rest.dropWhile isWordChar with
      | ']' :: after => (true, after)
      | _ => (false, text)
  | _ => (false, text)

end Form

end ShaderBindings

------------------------------------------------------------
-- Declarations at the Start of a Text
------------------------------------------------------------

namespace ShaderBindings

open Form

namespace Uniform

/- The word that every uniform starts with. -/
def keyword : List Char :=
  ['u', 'n', 'i', 'f', 'o', 'r', 'm']

/-
  A uniform at the start of a text: the keyword, a type, a
  name, perhaps an array size, and a semicolon. The size and
  the semicolon follow the name without white space.
-/
def read? (text : List Char) :
    Option (Uniform × List Char) := do
  let text ← keyword? keyword text
  let text ← blanks? text
  let (typeToken, text) ← word? text
  let text ← blanks? text
  let (name, text) ← word? text
  let (isArray, text) := arraySize text
  let text ← keyword? [';'] text
  return ({ typeToken, name, isArray }, text)

end Uniform

namespace Attribute

/- The word that every attribute starts with. -/
def keyword : List Char :=
  ['l', 'a', 'y', 'o', 'u', 't']

/-
  A vertex attribute at the start of a text: a layout with a
  location in parentheses, spaced at will, then the word for
  an input, a type, a name and a semicolon.
-/
def read? (text : List Char) :
    Option (Attribute × List Char) := do
  let text ← keyword? keyword text
  let text ← keyword? ['('] (blanks text)
  let text ←
    keyword? ['l', 'o', 'c', 'a', 't', 'i', 'o', 'n']
      (blanks text)
  let text ← keyword? ['='] (blanks text)
  let (location, text) ← location? (blanks text)
  let text ← keyword? [')'] (blanks text)
  let text ← blanks? text
  let text ← keyword? ['i', 'n'] text
  let text ← blanks? text
  let (typeToken, text) ← word? text
  let text ← blanks? text
  let (name, text) ← word? text
  let text ← keyword? [';'] text
  return ({ location, typeToken, name }, text)

end Attribute

end ShaderBindings

------------------------------------------------------------
-- Readers Consume Text
------------------------------------------------------------

namespace ShaderBindings

namespace Form

open Text

/- A keyword is exactly what stands before the rest. -/
theorem keyword?_eq_some_iff
    {keyword text rest : List Char} :
    keyword? keyword text = some rest ↔
      text = keyword ++ rest := by
  induction keyword generalizing text with
  | nil => simp [keyword?, eq_comm]
  | cons k keyword ih =>
      cases text with
      | nil => simp [keyword?]
      | cons c text =>
          by_cases hSame : k = c
          · simp [keyword?, hSame, ih]
          · simp [keyword?, hSame, Ne.symm hSame]

private theorem length_dropWhile_le
    (p : Char → Bool)
    (text : List Char) :
    (text.dropWhile p).length ≤ text.length :=
  (List.dropWhile_sublist p).length_le

theorem keyword?_length
    {keyword text rest : List Char}
    (hRead : keyword? keyword text = some rest) :
    rest.length + keyword.length = text.length := by
  rw [keyword?_eq_some_iff.mp hRead, List.length_append]
  omega

theorem word?_length
    {text rest : List Char}
    {word : String}
    (hRead : word? text = some (word, rest)) :
    rest.length ≤ text.length := by
  unfold word? at hRead
  split at hRead
  · simp at hRead
  · simp only [Option.some.injEq, Prod.mk.injEq] at hRead
    rw [← hRead.2]
    exact length_dropWhile_le _ _

theorem blanks_length (text : List Char) :
    (blanks text).length ≤ text.length :=
  length_dropWhile_le _ _

theorem blanks?_length
    {text rest : List Char}
    (hRead : blanks? text = some rest) :
    rest.length ≤ text.length := by
  cases text with
  | nil => simp [blanks?] at hRead
  | cons c text =>
      simp only [blanks?, Option.ite_none_right_eq_some,
        Option.some.injEq] at hRead
      rw [← hRead.2]
      exact Nat.le_succ_of_le (blanks_length text)

theorem location?_length
    {text rest : List Char}
    {location : UInt32}
    (hRead : location? text = some (location, rest)) :
    rest.length ≤ text.length := by
  unfold location? at hRead
  split at hRead
  · simp at hRead
  · simp only [Option.ite_none_right_eq_some,
      Option.some.injEq, Prod.mk.injEq] at hRead
    rw [← hRead.2.2]
    exact length_dropWhile_le _ _

theorem arraySize_length (text : List Char) :
    (arraySize text).2.length ≤ text.length := by
  unfold arraySize
  split
  · rename_i rest
    split
    · rename_i after hRest
      have hDrop := length_dropWhile_le isWordChar rest
      rw [hRest] at hDrop
      simp only [List.length_cons] at hDrop ⊢
      omega
    · exact Nat.le_refl _
  · exact Nat.le_refl _

end Form

end ShaderBindings

------------------------------------------------------------
-- Declarations Consume Text
------------------------------------------------------------

namespace ShaderBindings

open Form

/- Reading a uniform consumes more than its keyword. -/
theorem Uniform.read?_length
    {text rest : List Char}
    {found : Uniform}
    (hRead : Uniform.read? text = some (found, rest)) :
    rest.length < text.length := by
  simp only [Uniform.read?, Option.bind_eq_bind,
    Option.bind_eq_some_iff, Option.pure_def,
    Option.some.injEq, Prod.mk.injEq, Prod.exists] at hRead
  obtain ⟨t₁, h₁, t₂, h₂, _, t₃, h₃, t₄, h₄, _, t₅, h₅,
    t₆, h₆, _, rfl⟩ := hRead
  have l₁ := keyword?_length h₁
  have l₂ := blanks?_length h₂
  have l₃ := word?_length h₃
  have l₄ := blanks?_length h₄
  have l₅ := word?_length h₅
  have l₆ := arraySize_length t₅
  have l₇ := keyword?_length h₆
  simp only [Uniform.keyword, List.length_cons,
    List.length_nil] at l₁ l₇
  omega

/- Reading an attribute consumes more than its keyword. -/
theorem Attribute.read?_length
    {text rest : List Char}
    {found : Attribute}
    (hRead : Attribute.read? text = some (found, rest)) :
    rest.length < text.length := by
  simp only [Attribute.read?, Option.bind_eq_bind,
    Option.bind_eq_some_iff, Option.pure_def,
    Option.some.injEq, Prod.mk.injEq, Prod.exists] at hRead
  obtain ⟨t₁, h₁, t₂, h₂, t₃, h₃, t₄, h₄, _, t₅, h₅, t₆, h₆,
    t₇, h₇, t₈, h₈, t₉, h₉, _, u₁, k₁, u₂, k₂, _, u₃, k₃,
    u₄, k₄, _, rfl⟩ := hRead
  have l₁ := keyword?_length h₁
  have l₂ := keyword?_length h₂
  have l₃ := keyword?_length h₃
  have l₄ := keyword?_length h₄
  have l₅ := location?_length h₅
  have l₆ := keyword?_length h₆
  have l₇ := blanks?_length h₇
  have l₈ := keyword?_length h₈
  have l₉ := blanks?_length h₉
  have m₁ := word?_length k₁
  have m₂ := blanks?_length k₂
  have m₃ := word?_length k₃
  have m₄ := keyword?_length k₄
  have b₁ := blanks_length t₁
  have b₂ := blanks_length t₂
  have b₃ := blanks_length t₃
  have b₄ := blanks_length t₄
  have b₅ := blanks_length t₅
  simp only [Attribute.keyword, List.length_cons,
    List.length_nil] at l₁ l₂ l₃ l₄ l₆ l₈ m₄
  omega

end ShaderBindings
