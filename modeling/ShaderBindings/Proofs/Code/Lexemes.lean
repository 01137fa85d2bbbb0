import ShaderBindings.Proofs.Code.Words
import ShaderBindings.Text.Quoted

/-
  Code as it is read: words, marks and literals, without the
  blanks, the ends of lines and the comments between them. A
  literal is read as the text that it stands for. A comma in
  front of a closing bracket means nothing, and is left out
  as well.

  The characters are taken one by one, and what is read does
  not depend on what stands in front of it. So the lexemes of
  a text are told from those of its pieces.

  Key definitions include:
    * `Lexeme`
    * `Lexing`
    * `Lexing.step`
    * `lexemes`

  Key theorems include:
    * `Lexing.read_behind`
    * `Lexing.read_word`
    * `Lexing.read_literal`
-/

------------------------------------------------------------
-- Lexemes
------------------------------------------------------------

namespace ShaderBindings

namespace Code

/- The least parts of code that mean something. -/
inductive Lexeme where
| word (chars : List Char)
| mark (c : Char)
| literal (chars : List Char)
deriving DecidableEq, Repr

/-
  What the last characters may turn out to be: the start of a
  word, a literal up to here, maybe with an escape that is
  not complete, a literal with a broken escape, a slash that
  may start a comment, a comment, or a comma that may stand
  in front of a closing bracket.
-/
inductive Pending where
| nothing
| word (chars : List Char)
| literal (chars : List Char)
| escape (chars : List Char) (escape : Escape)
| broken
| slash
| comment
| comma
deriving DecidableEq, Repr

/- The character that an escape ends with stands for this. -/
def Escape.character : Escape → Char → Char
| .backslash, 'n' => '\n'
| .backslash, 'r' => '\r'
| .backslash, 't' => '\t'
| .backslash, '0' => '\x00'
| .digit high, c =>
    Char.ofNat (16 * high + (hexValue? c).getD 0)
| .scalar _ value, _ => Char.ofNat value
| _, c => c

/- Blanks and ends of lines stand between lexemes. -/
def isSpace (c : Char) : Bool :=
  c == ' ' || c == '\n'

/- Brackets that may have a comma in front of them. -/
def closes (c : Char) : Bool :=
  [')', ']', '\x7d', '>'].contains c

/- Code that has been read up to some character. -/
structure Lexing where
  done : List Lexeme
  pending : Pending
deriving DecidableEq, Repr

namespace Lexing

/- Nothing has been read. -/
def start : Lexing where
  done := []
  pending := .nothing

/- A character that does not go on with what is pending. -/
def first (done : List Lexeme) (c : Char) : Lexing :=
  if isSpace c then
    ⟨done, .nothing⟩
  else if isOfWord c then
    ⟨done, .word [c]⟩
  else if c = '\x22' then
    ⟨done, .literal []⟩
  else if c = '/' then
    ⟨done, .slash⟩
  else if c = ',' then
    ⟨done, .comma⟩
  else
    ⟨done ++ [.mark c], .nothing⟩

/- Read one more character. -/
def step (lexing : Lexing) (c : Char) : Lexing :=
  let done := lexing.done
  match lexing.pending with
  | .nothing => first done c
  | .word chars =>
      if isOfWord c then
        ⟨done, .word (chars ++ [c])⟩
      else
        first (done ++ [.word chars]) c
  | .literal chars =>
      if c = '\x22' then
        ⟨done ++ [.literal chars], .nothing⟩
      else if c = '\\' then
        ⟨done, .escape chars .backslash⟩
      else
        ⟨done, .literal (chars ++ [c])⟩
  | .escape chars escape =>
      match escape.next? .characters c with
      | none => ⟨done, .broken⟩
      | some none =>
          ⟨done, .literal (chars ++ [escape.character c])⟩
      | some (some escape) => ⟨done, .escape chars escape⟩
  | .broken => lexing
  | .slash =>
      if c = '/' then
        ⟨done, .comment⟩
      else
        first (done ++ [.mark '/']) c
  | .comment =>
      if c = '\n' then ⟨done, .nothing⟩ else lexing
  | .comma =>
      if isSpace c then
        lexing
      else if closes c then
        first done c
      else
        first (done ++ [.mark ',']) c

/- Read one character after the other. -/
def read (lexing : Lexing) (text : List Char) : Lexing :=
  text.foldl step lexing

/-
  What has been read when the code ends. A literal that is
  not closed leaves the mark of its quote.
-/
def finish (lexing : Lexing) : List Lexeme :=
  let done := lexing.done
  match lexing.pending with
  | .nothing => done
  | .word chars => done ++ [.word chars]
  | .literal _ => done ++ [.mark '\x22']
  | .escape _ _ => done ++ [.mark '\x22']
  | .broken => done ++ [.mark '\x22']
  | .slash => done ++ [.mark '/']
  | .comment => done
  | .comma => done ++ [.mark ',']

end Lexing

/- The lexemes of code. -/
def lexemes (code : String) : List Lexeme :=
  (Lexing.start.read code.toList).finish

end Code

end ShaderBindings

------------------------------------------------------------
-- Pieces of Code
------------------------------------------------------------

namespace ShaderBindings

namespace Code

namespace Lexing

/- What is read, with other lexemes in front of it. -/
def behind
    (known : List Lexeme)
    (lexing : Lexing) : Lexing where
  done := known ++ lexing.done
  pending := lexing.pending

theorem read_cons
    (lexing : Lexing)
    (c : Char)
    (rest : List Char) :
    lexing.read (c :: rest) = (lexing.step c).read rest :=
  rfl

theorem read_append
    (lexing : Lexing)
    (text more : List Char) :
    lexing.read (text ++ more) =
      (lexing.read text).read more :=
  List.foldl_append

theorem first_behind
    (known done : List Lexeme)
    (c : Char) :
    first (known ++ done) c = (first done c).behind known := by
  unfold first behind
  split_ifs <;> simp

/- A character is read alike behind other lexemes. -/
theorem step_behind
    (known : List Lexeme)
    (lexing : Lexing)
    (c : Char) :
    (lexing.behind known).step c =
      (lexing.step c).behind known := by
  rcases lexing with ⟨done, pending⟩
  cases pending with
  | nothing => exact first_behind known done c
  | word chars =>
      simp only [step, behind]
      split_ifs
      · rfl
      · rw [List.append_assoc]
        exact first_behind known _ c
  | literal chars =>
      simp only [step, behind]
      split_ifs
      · rw [List.append_assoc]
      · rfl
      · rfl
  | escape chars escape =>
      simp only [step, behind]
      split
      · rfl
      · rfl
      · rfl
  | broken => rfl
  | slash =>
      simp only [step, behind]
      split_ifs
      · rfl
      · rw [List.append_assoc]
        exact first_behind known _ c
  | comment =>
      simp only [step, behind]
      split_ifs
      · rfl
      · rfl
  | comma =>
      simp only [step, behind]
      split_ifs
      · rfl
      · exact first_behind known _ c
      · rw [List.append_assoc]
        exact first_behind known _ c

/- A text is read alike behind other lexemes. -/
theorem read_behind
    (known : List Lexeme)
    (lexing : Lexing)
    (text : List Char) :
    (lexing.behind known).read text =
      (lexing.read text).behind known := by
  induction text generalizing lexing with
  | nil => rfl
  | cons c rest ih =>
      rw [read_cons, read_cons, step_behind, ih]

end Lexing

end Code

end ShaderBindings

------------------------------------------------------------
-- Words
------------------------------------------------------------

namespace ShaderBindings

namespace Code

namespace Lexing

/- A word goes on as long as there are characters of words. -/
theorem read_pending_word
    {done : List Lexeme}
    {chars more : List Char}
    (hMore : ∀ c ∈ more, isOfWord c = true) :
    read ⟨done, .word chars⟩ more =
      ⟨done, .word (chars ++ more)⟩ := by
  induction more generalizing chars with
  | nil => simp [read]
  | cons c rest ih =>
      have hStep :
          step ⟨done, .word chars⟩ c =
            ⟨done, .word (chars ++ [c])⟩ :=
        if_pos (hMore c List.mem_cons_self)
      rw [read_cons, hStep, ih fun other hOther =>
        hMore other (List.mem_cons_of_mem c hOther)]
      simp

/- No character of a word is a space. -/
theorem not_isSpace_of_isOfWord
    {c : Char}
    (hOfWord : isOfWord c = true) :
    isSpace c = false := by
  rw [← Bool.not_eq_true]
  intro hSpace
  simp only [isSpace, Bool.or_eq_true, beq_iff_eq] at hSpace
  rcases hSpace with rfl | rfl
  · exact absurd hOfWord (by decide)
  · exact absurd hOfWord (by decide)

theorem first_ofWord
    {c : Char}
    (done : List Lexeme)
    (hOfWord : isOfWord c = true) :
    first done c = ⟨done, .word [c]⟩ := by
  unfold first
  rw [not_isSpace_of_isOfWord hOfWord, if_neg (by simp),
    if_pos hOfWord]

/- A whole word is pending when it has been read. -/
theorem read_word
    {text : String}
    (hWhole : IsWhole text) :
    start.read text.toList = ⟨[], .word text.toList⟩ := by
  have hChars := hWhole.chars
  have hNonempty : text.toList ≠ [] := by
    simpa using hWhole.nonempty
  cases hText : text.toList with
  | nil => exact absurd hText hNonempty
  | cons c rest =>
      rw [hText] at hChars
      rw [read_cons]
      change (first [] c).read rest = _
      rw [first_ofWord [] (hChars c List.mem_cons_self),
        read_pending_word fun other hOther =>
          hChars other (List.mem_cons_of_mem c hOther)]
      rfl

end Lexing

end Code

end ShaderBindings

------------------------------------------------------------
-- Literals
------------------------------------------------------------

namespace ShaderBindings

namespace Code

open Text

namespace Lexing

variable {known : List Lexeme}
variable {chars : List Char}

/- Hexadecimal digits are read as what they are worth. -/
theorem hexValue?_digitChar
    {digit : Nat}
    (hDigit : digit < 16) :
    Nat.digitChar digit ≠ '_' ∧
      Nat.digitChar digit ≠ '\x7d' ∧
        hexValue? (Nat.digitChar digit) = some digit := by
  have hAll :
      ∀ digit < 16,
        Nat.digitChar digit ≠ '_' ∧
          Nat.digitChar digit ≠ '\x7d' ∧
            hexValue? (Nat.digitChar digit) = some digit := by
    decide
  exact hAll digit hDigit

/- One more digit of a number in braces. -/
theorem step_digit
    {count value digit : Nat}
    (hCount : count < 6)
    (hDigit : digit < 16) :
    step ⟨known, .escape chars (.scalar count value)⟩
        (Nat.digitChar digit) =
      ⟨known,
        .escape chars
          (.scalar (count + 1) (16 * value + digit))⟩ := by
  rcases hexValue?_digitChar hDigit with
    ⟨hLine, hBrace, hValue⟩
  simp [step, Escape.next?, hLine, hBrace, hValue, hCount]

/- The digits of a number in braces are read as the number. -/
theorem read_digits
    {number : Nat}
    (hShort : (Nat.toDigits 16 number).length ≤ 6) :
    read ⟨known, .escape chars (.scalar 0 0)⟩
        (Nat.toDigits 16 number) =
      ⟨known,
        .escape chars
          (.scalar (Nat.toDigits 16 number).length
            number)⟩ := by
  induction number using Nat.strongRecOn with
  | ind number ih =>
      rw [Nat.toDigits_eq_if (by decide)] at hShort ⊢
      split
      · rename_i hSmall
        rw [read_cons, step_digit (by decide) hSmall]
        simp [read]
      · rename_i hLarge
        rw [if_neg hLarge] at hShort
        simp only [List.length_append, List.length_singleton]
          at hShort ⊢
        rw [read_append, ih (number / 16) (by omega)
            (by omega),
          read_cons, step_digit (by omega)
            (Nat.mod_lt _ (by decide)),
          Nat.div_add_mod]
        rfl

/- A code point has six hexadecimal digits at most. -/
theorem length_toDigits_char (c : Char) :
    (Nat.toDigits 16 c.toNat).length ≤ 6 := by
  rw [Nat.length_toDigits_le_iff (by decide) (by decide)]
  have hBound : c.toNat < 0x110000 := by
    rcases c.valid with hLow | hHigh
    · exact Nat.lt_trans hLow (by decide)
    · exact hHigh.2
  exact Nat.lt_trans hBound (by decide)

/- An escape by a code point is read as its character. -/
theorem read_codeEscape (c : Char) :
    read ⟨known, .literal chars⟩ (codeEscape c) =
      ⟨known, .literal (chars ++ [c])⟩ := by
  have hStart :
      read ⟨known, .literal chars⟩ ['\\', 'u', '\x7b'] =
        ⟨known, .escape chars (.scalar 0 0)⟩ :=
    rfl
  have hPositive :
      0 < (Nat.toDigits 16 c.toNat).length :=
    Nat.length_toDigits_pos
  have hValid : Nat.isValidChar c.toNat :=
    c.valid
  rw [codeEscape, read_append, read_append, hStart,
    read_digits (length_toDigits_char c)]
  simp [read, step, Escape.next?, Escape.admitsScalar,
    Escape.character, hPositive, hValid]

/- An escape is read as its character. -/
theorem read_escape (c : Char) :
    read ⟨known, .literal chars⟩ (escape c) =
      ⟨known, .literal (chars ++ [c])⟩ := by
  unfold escape
  split_ifs with hNull hTab hLine hReturn hQuote hSlash
  · rw [hNull]
    rfl
  · rw [hTab]
    rfl
  · rw [hLine]
    rfl
  · rw [hReturn]
    rfl
  · rw [hQuote]
    rfl
  · rw [hSlash]
    rfl
  · exact read_codeEscape c
  · simp [read, step, hQuote, hSlash]
  · exact read_codeEscape c

/- The characters of a literal are read as its text. -/
theorem read_literalChars (cs : List Char) :
    read ⟨known, .literal chars⟩ (literalChars cs) =
      ⟨known, .literal (chars ++ cs)⟩ := by
  induction cs generalizing chars with
  | nil => simp [read, literalChars]
  | cons c rest ih =>
      have hFirst :
          read ⟨known, .literal chars⟩
              (if c = '\x00' ∧ rest.head?.any isOctalDigit then
                ['\\', 'x', '0', '0']
              else
                escape c) =
            ⟨known, .literal (chars ++ [c])⟩ := by
        split
        · rename_i hNull
          rw [hNull.1]
          rfl
        · exact read_escape c
      rw [literalChars, read_append, hFirst, ih]
      simp

/- A literal is read as the text that it is written for. -/
theorem read_literal (text : String) :
    start.read (literal text).toList =
      ⟨[.literal text.toList], .nothing⟩ := by
  have hOpen :
      start.read ['\x22'] = ⟨[], .literal []⟩ :=
    rfl
  rw [literal, enquote, String.toList_ofList,
    ← List.singleton_append, read_append, hOpen, read_append,
    read_literalChars]
  rfl

end Lexing

end Code

end ShaderBindings
