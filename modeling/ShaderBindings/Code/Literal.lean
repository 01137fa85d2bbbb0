import ShaderBindings.Code.Ident

/-
  The literals of the generated code: quoted texts, raw
  texts, characters and numbers. A reader of a literal takes
  the longest beginning of a text that is one and returns
  the text after it.

  Key definitions include:
    * `Literal`
    * `Escape.next?`
    * `closeText?`
    * `closeRawText?`
    * `afterFloat?`
    * `afterInteger?`
    * `integerValue?`
    * `Literal.read?`
-/

------------------------------------------------------------
-- Literals
------------------------------------------------------------

namespace ShaderBindings

namespace Code

/- What a literal stands for. -/
inductive LiteralKind where
| text
| bytes
| foreignText
| character
| byte
| integer
| float
deriving DecidableEq, Repr

/- A literal, as it is written. -/
structure Literal where
  kind : LiteralKind
  text : String
deriving DecidableEq, Repr

/-
  What the units of a quoted literal are: characters, bytes,
  or characters of a text that ends at the first null.
-/
inductive Units where
| characters
| bytes
| nonNull
deriving DecidableEq, Repr

/- A character may stand for itself among such units. -/
def Units.admits (units : Units) (c : Char) : Bool :=
  match units with
  | .characters => true
  | .bytes => c.toNat < 0x80
  | .nonNull => c != '\x00'

end Code

end ShaderBindings

------------------------------------------------------------
-- Escapes
------------------------------------------------------------

namespace ShaderBindings

namespace Code

/- The value of a hexadecimal digit. -/
def hexValue? (c : Char) : Option Nat :=
  if '0' ≤ c ∧ c ≤ '9' then
    some (c.toNat - '0'.toNat)
  else if 'a' ≤ c ∧ c ≤ 'f' then
    some (c.toNat - 'a'.toNat + 10)
  else if 'A' ≤ c ∧ c ≤ 'F' then
    some (c.toNat - 'A'.toNat + 10)
  else
    none

/-
  How far an escape has been read: its backslash, the letter
  of a two-digit number, the first of the two digits, the
  letter of a number in braces, or some of those digits.
-/
inductive Escape where
| backslash
| pair
| digit (high : Nat)
| brace
| scalar (count value : Nat)
deriving DecidableEq, Repr

namespace Escape

/- Letters that make an escape together with a backslash. -/
def letters (units : Units) : List Char :=
  match units with
  | .nonNull => ['n', 'r', 't', '\\', '\x27', '\x22']
  | _ => ['n', 'r', 't', '\\', '\x27', '\x22', '0']

/- A number that an escape with two digits may give. -/
def admitsPair (units : Units) (value : Nat) : Bool :=
  match units with
  | .characters => value < 0x80
  | .bytes => true
  | .nonNull => value != 0

/- A number that an escape with braces may give. -/
def admitsScalar (units : Units) (value : Nat) : Bool :=
  match units with
  | .nonNull => value != 0 && Nat.isValidChar value
  | _ => Nat.isValidChar value

/-
  Read one more character of an escape. The answer is the
  escape so far, or nothing more when it is complete.
-/
def next? (units : Units) :
    Escape → Char → Option (Option Escape)
| backslash, c =>
    if (letters units).contains c then
      some none
    else if c = 'x' then
      some (some pair)
    else if c = 'u' ∧ units ≠ .bytes then
      some (some brace)
    else
      none
| pair, c => (hexValue? c).map fun high => some (digit high)
| digit high, c =>
    match hexValue? c with
    | some low =>
        if admitsPair units (16 * high + low) then
          some none
        else
          none
    | none => none
| brace, c =>
    if c = '\x7b' then some (some (scalar 0 0)) else none
| scalar count value, c =>
    if c = '_' ∧ 0 < count then
      some (some (scalar count value))
    else if c = '\x7d' ∧ 0 < count then
      if admitsScalar units value then some none else none
    else
      match hexValue? c with
      | some low =>
          if count < 6 then
            some (some (scalar (count + 1) (16 * value + low)))
          else
            none
      | none => none

/- The text after an escape that has been read so far. -/
def close?
    (units : Units) :
    Escape → List Char → Option (List Char)
| _, [] => none
| escape, c :: rest =>
    match escape.next? units c with
    | none => none
    | some none => some rest
    | some (some escape) => close? units escape rest

end Escape

end Code

end ShaderBindings

------------------------------------------------------------
-- Quoted Literals
------------------------------------------------------------

namespace ShaderBindings

namespace Code

open Text

/-
  Where a quoted text has been read to: between two units,
  behind a carriage return, which a line feed must follow,
  inside an escape, or among the blanks that a line end with
  a backslash before it takes with it.
-/
inductive QuoteState where
| plain
| lineEnd
| escape (escape : Escape)
| margin (lineEnd : Bool)
deriving DecidableEq, Repr

namespace QuoteState

/-
  Read a character between two units. The answer is the new
  state, or nothing more at the closing quote.
-/
def nextPlain? (units : Units) (c : Char) :
    Option (Option QuoteState) :=
  if c = '\x22' then
    some none
  else if c = '\r' then
    some (some lineEnd)
  else if c = '\\' then
    some (some (escape .backslash))
  else if units.admits c then
    some (some plain)
  else
    none

/- Read one more character of a quoted text. -/
def next? (units : Units) :
    QuoteState → Char → Option (Option QuoteState)
| plain, c => nextPlain? units c
| lineEnd, c => if c = '\n' then some (some plain) else none
| escape .backslash, '\n' => some (some (margin false))
| escape .backslash, '\r' => some (some (margin true))
| escape e, c =>
    match e.next? units c with
    | none => none
    | some none => some (some plain)
    | some (some e) => some (some (escape e))
| margin true, c =>
    if c = '\n' then some (some (margin false)) else none
| margin false, c =>
    if c = ' ' ∨ c = '\t' ∨ c = '\n' then
      some (some (margin false))
    else if c = '\r' then
      some (some (margin true))
    else
      nextPlain? units c

end QuoteState

/- The text after the closing quote of a quoted text. -/
def closeText?
    (units : Units) :
    QuoteState → List Char → Option (List Char)
| _, [] => none
| state, c :: rest =>
    match state.next? units c with
    | none => none
    | some none => some rest
    | some (some state) => closeText? units state rest

/-
  The text after the closing quote of a raw text, which is
  followed by as many hashes as stood before the first.
-/
def closeRawText?
    (units : Units)
    (hashes : Nat) :
    List Char → Option (List Char)
| [] => none
| '\r' :: '\n' :: rest => closeRawText? units hashes rest
| c :: rest =>
    if c = '\x22' ∧
        (List.replicate hashes '#').isPrefixOf rest then
      some (rest.drop hashes)
    else if c = '\r' ∨ !units.admits c then
      none
    else
      closeRawText? units hashes rest

/- The most hashes that a raw text may start with. -/
def maxHashes : Nat := 255

/- The text after a raw text, from its hashes on. -/
def afterRawText? (units : Units) (text : List Char) :
    Option (List Char) :=
  let hashes := (text.takeWhile (· == '#')).length
  match text.dropWhile (· == '#') with
  | '\x22' :: rest =>
      if hashes ≤ maxHashes then
        closeRawText? units hashes rest
      else
        none
  | _ => none

/-
  The text after one unit and the single quote that closes
  it.
-/
def closeUnit? (units : Units) (text : List Char) :
    Option (List Char) :=
  let afterUnit :=
    match text with
    | '\\' :: rest => Escape.backslash.close? units rest
    | c :: rest => if units.admits c then some rest else none
    | [] => none
  match afterUnit with
  | some ('\x27' :: rest) => some rest
  | _ => none

end Code

end ShaderBindings

------------------------------------------------------------
-- Numbers
------------------------------------------------------------

namespace ShaderBindings

namespace Code

open Text

/- A decimal digit, or the mark that groups digits. -/
def isDigitOrGroup (c : Char) : Bool :=
  c.isDigit || c == '_'

/-
  The text after an exponent, from behind its letter: a sign
  and digits, grouped at will, at least one of them a digit.
-/
def afterExponent? (text : List Char) :
    Option (List Char) :=
  let signed := text.dropWhile (· == '_')
  let unsigned :=
    match signed with
    | '+' :: rest => rest
    | '-' :: rest => rest
    | _ => signed
  match unsigned.dropWhile (· == '_') with
  | c :: rest =>
      if c.isDigit then
        some (rest.dropWhile isDigitOrGroup)
      else
        none
  | [] => none

/- A letter that starts an exponent. -/
def isExponentLetter (c : Char) : Bool :=
  c == 'e' || c == 'E'

/-
  The text after a fraction, from behind its point. Neither
  another point nor a word may follow the point. A letter
  without an exponent behind it is not part of the number.
-/
def afterFraction? (text : List Char) :
    Option (List Char) :=
  match text with
  | c :: _ =>
      if c = '.' ∨ isIdentifierStart c then
        none
      else
        match text.dropWhile isDigitOrGroup with
        | e :: rest =>
            if isExponentLetter e then
              some ((afterExponent? rest).getD (e :: rest))
            else
              some (e :: rest)
        | [] => some []
  | [] => some []

/- The text after a number with a fraction or an exponent. -/
def afterFloat? (text : List Char) : Option (List Char) :=
  match text.dropWhile isDigitOrGroup with
  | '.' :: rest => afterFraction? rest
  | c :: rest =>
      if isExponentLetter c then afterExponent? rest else none
  | [] => none

/- The base that the start of a number announces. -/
def splitBase (text : List Char) : Nat × List Char :=
  match text with
  | '0' :: 'x' :: rest => (16, rest)
  | '0' :: 'o' :: rest => (8, rest)
  | '0' :: 'b' :: rest => (2, rest)
  | _ => (10, text)

/-
  The text after the digits of a base. A decimal digit that
  is too large for the base is an error, a letter that is too
  large ends the digits.
-/
def afterDigits?
    (base : Nat)
    (found : Bool) :
    List Char → Option (List Char)
| [] => if found then some [] else none
| '_' :: rest =>
    if !found ∧ base = 10 then
      none
    else
      afterDigits? base found rest
| c :: rest =>
    match hexValue? c with
    | some value =>
        if value < base then
          afterDigits? base true rest
        else if c.isDigit ∨ !found then
          none
        else
          some (c :: rest)
    | none => if found then some (c :: rest) else none

/- The text after a whole number. -/
def afterInteger? (text : List Char) : Option (List Char) :=
  let (base, digits) := splitBase text
  afterDigits? base false digits

/-
  The value of digits of a base, continued from the value of
  the digits before them.
-/
def digitsValue? (base value : Nat) :
    List Char → Option Nat
| [] => some value
| '_' :: rest => digitsValue? base value rest
| c :: rest =>
    match hexValue? c with
    | some digit =>
        if digit < base then
          digitsValue? base (base * value + digit) rest
        else
          none
    | none => none

/- The value of a whole number without a suffix. -/
def integerValue? (text : List Char) : Option Nat :=
  let (base, digits) := splitBase text
  match afterDigits? base false digits with
  | some [] => digitsValue? base 0 digits
  | _ => none

/- The text without the word that it may start with. -/
def afterSuffix (text : List Char) : List Char :=
  match plainWord? text with
  | some (_, rest) => rest
  | none => text

/- The text after the suffix of a number, where it ends. -/
def afterNumberSuffix? (text : List Char) :
    Option (List Char) :=
  let rest := afterSuffix text
  match rest with
  | c :: _ => if isIdentifierContinue c then none else some rest
  | [] => some rest

end Code

end ShaderBindings

------------------------------------------------------------
-- Reading Literals
------------------------------------------------------------

namespace ShaderBindings

namespace Code

namespace Literal

/- The kind of a number and the text after it. -/
def number? (text : List Char) :
    Option (LiteralKind × List Char) :=
  match (afterFloat? text).bind afterNumberSuffix? with
  | some rest => some (.float, rest)
  | none =>
      ((afterInteger? text).bind afterNumberSuffix?).map
        (.integer, ·)

/- The kind of a literal and the text after it. -/
def split? (text : List Char) :
    Option (LiteralKind × List Char) :=
  match text with
  | '\x22' :: rest =>
      (closeText? .characters .plain rest).map
        (.text, afterSuffix ·)
  | 'r' :: rest =>
      (afterRawText? .characters rest).map
        (.text, afterSuffix ·)
  | 'b' :: '\x22' :: rest =>
      (closeText? .bytes .plain rest).map
        (.bytes, afterSuffix ·)
  | 'b' :: 'r' :: rest =>
      (afterRawText? .bytes rest).map
        (.bytes, afterSuffix ·)
  | 'b' :: '\x27' :: rest =>
      (closeUnit? .bytes rest).map (.byte, afterSuffix ·)
  | 'c' :: '\x22' :: rest =>
      (closeText? .nonNull .plain rest).map
        (.foreignText, afterSuffix ·)
  | 'c' :: 'r' :: rest =>
      (afterRawText? .nonNull rest).map
        (.foreignText, afterSuffix ·)
  | '\x27' :: rest =>
      (closeUnit? .characters rest).map
        (.character, afterSuffix ·)
  | c :: _ => if c.isDigit then number? text else none
  | [] => none

/- A literal at the start of a text, and the text after it. -/
def read? (text : List Char) :
    Option (Literal × List Char) :=
  match split? text with
  | some (kind, rest) =>
      let body := text.take (text.length - rest.length)
      some (⟨kind, String.ofList body⟩, rest)
  | none => none

end Literal

end Code

end ShaderBindings
