import ShaderBindings.Text.Printable

/-
  Texts in double quotes. A character with a visible form
  stands for itself, the double quote and the backslash
  follow a backslash, and every other character is written
  as an escape.

  Key definitions include:
    * `escape`
    * `quoted`
    * `literal`
-/

------------------------------------------------------------
-- Escapes
------------------------------------------------------------

namespace ShaderBindings

namespace Text

/- The escape of a character by its code point. -/
def codeEscape (c : Char) : List Char :=
  ['\\', 'u', '\x7b'] ++ Nat.toDigits 16 c.toNat ++ ['\x7d']

/- A character as it is written between double quotes. -/
def escape (c : Char) : List Char :=
  if c = '\x00' then ['\\', '0']
  else if c = '\t' then ['\\', 't']
  else if c = '\n' then ['\\', 'n']
  else if c = '\r' then ['\\', 'r']
  else if c = '\x22' then ['\\', '\x22']
  else if c = '\\' then ['\\', '\\']
  else if isCombining c then codeEscape c
  else if isPrintable c then [c]
  else codeEscape c

end Text

end ShaderBindings

------------------------------------------------------------
-- Quoted Texts
------------------------------------------------------------

namespace ShaderBindings

namespace Text

/- A digit that could continue an octal escape. -/
def isOctalDigit (c : Char) : Bool :=
  '0' ≤ c && c ≤ '7'

/- Enclose characters in double quotes. -/
def enquote (cs : List Char) : String :=
  String.ofList ('\x22' :: (cs ++ ['\x22']))

/- A text in double quotes, as it is shown to a reader. -/
def quoted (text : String) : String :=
  enquote (text.toList.flatMap escape)

/-
  The characters of a string literal. A null character in
  front of an octal digit is written with two hexadecimal
  digits, so that the two do not read as one escape.
-/
def literalChars : List Char → List Char
| [] => []
| c :: rest =>
    (if c = '\x00' ∧ rest.head?.any isOctalDigit then
      ['\\', 'x', '0', '0']
    else
      escape c) ++ literalChars rest

/- A text as a string literal of the generated code. -/
def literal (text : String) : String :=
  enquote (literalChars text.toList)

end Text

end ShaderBindings
