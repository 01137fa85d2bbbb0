import ShaderBindings.Code.Trivia
import ShaderBindings.Text.IdentifierChar

/-
  Identifiers of the generated code. A text names one when
  it is a single word, apart from trivia, and the word is
  not reserved.

  Key definitions include:
    * `wordToken?`
    * `soleWord?`
    * `Ident`
    * `Ident.ofString?`
    * `HostType`
    * `HostType.ofString?`
-/

------------------------------------------------------------
-- Words
------------------------------------------------------------

namespace ShaderBindings

namespace Code

open Text

/- The mark that some editors put before a text. -/
def byteOrderMark : Char :=
  Char.ofNat 0xFEFF

/- A word at the start of a text, and the text after it. -/
def plainWord? (text : List Char) :
    Option (List Char × List Char) :=
  match text with
  | [] => none
  | c :: rest =>
      if isIdentifierStart c then
        some
          (c :: rest.takeWhile isIdentifierContinue,
            rest.dropWhile isIdentifierContinue)
      else
        none

/- Words that stay reserved when they are marked as raw. -/
def neverRaw : List String :=
  ["_", "super", "self", "Self", "crate"]

/-
  A word token at the start of a text: a plain word, or a
  word marked as raw, which keeps its mark.
-/
def wordToken? (text : List Char) :
    Option (String × List Char) :=
  match text with
  | 'r' :: '#' :: marked =>
      match plainWord? marked with
      | some (word, rest) =>
          if neverRaw.contains (String.ofList word) then
            none
          else
            some (String.ofList ('r' :: '#' :: word), rest)
      | none => none
  | _ =>
      match plainWord? text with
      | some (word, rest) => some (String.ofList word, rest)
      | none => none

/- The one word of a text that holds only trivia beside it. -/
def soleWord? (text : String) : Option String :=
  let body :=
    match text.toList with
    | c :: rest => if c = byteOrderMark then rest else c :: rest
    | [] => []
  match wordToken? (skipTrivia body) with
  | some (word, rest) =>
      if (skipTrivia rest).isEmpty then some word else none
  | none => none

end Code

end ShaderBindings

------------------------------------------------------------
-- Identifiers
------------------------------------------------------------

namespace ShaderBindings

namespace Code

/- Words that cannot be identifiers. -/
def reservedWords : List String := [
  "_", "abstract", "as", "become", "box", "break", "const",
  "continue", "crate", "do", "else", "enum", "extern",
  "false", "final", "fn", "for", "if", "impl", "in", "let",
  "loop", "macro", "match", "mod", "move", "mut", "override",
  "priv", "pub", "ref", "return", "Self", "self", "static",
  "struct", "super", "trait", "true", "type", "typeof",
  "unsafe", "unsized", "use", "virtual", "where", "while",
  "yield"]

/- A word is reserved. -/
def isReserved (word : String) : Bool :=
  reservedWords.contains word

/- An identifier, as it is written. -/
structure Ident where
  text : String
deriving DecidableEq, Repr

namespace Ident

/- The identifier that a text names. -/
def ofString? (text : String) : Option Ident :=
  match soleWord? text with
  | some word => if isReserved word then none else some ⟨word⟩
  | none => none

end Ident

end Code

end ShaderBindings

------------------------------------------------------------
-- Host Types
------------------------------------------------------------

namespace ShaderBindings

namespace Code

/-
  A type of the host, as it is written. The setter of the
  runtime is named after it, so it is always a single word.
-/
structure HostType where
  text : String
deriving DecidableEq, Repr

namespace HostType

/- Reserved words that are types nevertheless. -/
def reservedTypes : List String :=
  ["_", "Self", "crate", "self", "super"]

/-
  Words that are no types, although identifiers may use
  them: one that announces a list of traits.
-/
def incompleteTypes : List String :=
  ["dyn"]

/- The word can stand where a type is expected. -/
def isTypeWord (word : String) : Bool :=
  if isReserved word then
    reservedTypes.contains word
  else
    !incompleteTypes.contains word

/- The type that a text names. -/
def ofString? (text : String) : Option HostType :=
  match soleWord? text with
  | some word => if isTypeWord word then some ⟨word⟩ else none
  | none => none

end HostType

end Code

end ShaderBindings
