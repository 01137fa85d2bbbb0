import ShaderBindings.Code.Literal

/-
  The tokens of the generated code. A mark remembers whether
  another mark stands right behind it, since several marks
  may form one symbol. A documentation comment stands for
  the tokens of an attribute.

  Key definitions include:
    * `Token`
    * `Token.read?`
    * `Token.isBalanced`
    * `Token.readAll?`
-/

------------------------------------------------------------
-- Tokens
------------------------------------------------------------

namespace ShaderBindings

namespace Code

open Text

/-
  A token. The mark of a lifetime is joined to the word
  behind it.
-/
inductive Token where
| word (text : String)
| literal (literal : Literal)
| mark (c : Char) (joined : Bool)
| bracket (c : Char)
deriving DecidableEq, Repr

namespace Token

/- Characters that are marks. -/
def markChars : List Char := [
  '~', '!', '@', '#', '$', '%', '^', '&', '*', '-', '=', '+',
  '|', ';', ':', ',', '<', '.', '>', '/', '?', '\x27']

/- Characters that open or close a group. -/
def bracketChars : List Char :=
  ['(', ')', '[', ']', '\x7b', '\x7d']

/-
  A mark starts a text. A slash that starts a comment is
  none.
-/
def startsMark (text : List Char) : Bool :=
  match text with
  | '/' :: '/' :: _ => false
  | '/' :: '*' :: _ => false
  | c :: _ => markChars.contains c
  | [] => false

/-
  Beginnings of literals. What starts with one of them is no
  word, even if the literal is malformed.
-/
def literalStarts : List String := [
  "r\x22", "r#\x22", "r##", "b\x22", "b\x27", "br\x22",
  "br#", "c\x22", "cr\x22", "cr#"]

/- The tokens that a documentation comment stands for. -/
def ofDocumentation (comment : Documentation) :
    List Token :=
  [mark '#' false] ++
    (if comment.inner then [mark '!' false] else []) ++
    [bracket '[', word "doc", mark '=' false,
      literal ⟨.text, String.ofList comment.body⟩,
      bracket ']']

/-
  A single quote starts a lifetime at a text if a word
  follows it and no second quote closes the word. A hash
  behind the word is an error unless the word is raw.
-/
def startsLifetime (afterQuote : List Char) : Bool :=
  match wordToken? afterQuote with
  | some (_, '\x27' :: _) => false
  | some (_, '#' :: _) =>
      ['r', '#'].isPrefixOf afterQuote
  | some _ => true
  | none => false

/- A mark at the start of a text, and the text after it. -/
def readMark? (text : List Char) :
    Option (Token × List Char) :=
  match text with
  | [] => none
  | c :: rest =>
      if !startsMark text then
        none
      else if c = '\x27' then
        if startsLifetime rest then
          some (mark c true, rest)
        else
          none
      else
        some (mark c (startsMark rest), rest)

/- A word at the start of a text, and the text after it. -/
def readWord? (text : List Char) :
    Option (Token × List Char) :=
  if literalStarts.any (·.toList.isPrefixOf text) then
    none
  else
    match wordToken? text with
    | some (name, rest) => some (word name, rest)
    | none => none

/-
  One token at the start of a text without trivia, apart
  from documentation comments. Literals come before marks
  and marks before words.
-/
def read? (text : List Char) :
    Option (Token × List Char) :=
  match text with
  | [] => none
  | c :: rest =>
      if bracketChars.contains c then
        some (bracket c, rest)
      else
        match Literal.read? text with
        | some (l, rest) => some (literal l, rest)
        | none =>
            match readMark? text with
            | some found => some found
            | none => readWord? text

/-
  The tokens of a text, with at most as many steps as the
  fuel. Every step takes a character, so the length of the
  text is fuel enough.
-/
def readWithin? :
    Nat → List Char → Option (List Token)
| 0, text => if text.isEmpty then some [] else none
| fuel + 1, text =>
    let text := skipTrivia text
    if text.isEmpty then
      some []
    else
      match documentation? text with
      | some (comment, rest) =>
          (readWithin? fuel rest).map
            (ofDocumentation comment ++ ·)
      | none =>
          match read? text with
          | some (token, rest) =>
              (readWithin? fuel rest).map (token :: ·)
          | none => none

/- The bracket that closes what a bracket opens. -/
def closing? (c : Char) : Option Char :=
  if c = '(' then
    some ')'
  else if c = '[' then
    some ']'
  else if c = '\x7b' then
    some '\x7d'
  else
    none

/-
  Every bracket is closed by its partner, in the reverse
  order of opening. The expected closing brackets are kept
  with the innermost first.
-/
def isBalanced : List Char → List Token → Bool
| expected, [] => expected.isEmpty
| expected, bracket c :: rest =>
    match closing? c with
    | some close => isBalanced (close :: expected) rest
    | none =>
        match expected with
        | close :: outer => c == close && isBalanced outer rest
        | [] => false
| expected, _ :: rest => isBalanced expected rest

/- The tokens of a whole text, with balanced brackets. -/
def readAll? (text : String) : Option (List Token) :=
  let body :=
    match text.toList with
    | c :: rest => if c = byteOrderMark then rest else c :: rest
    | [] => []
  match readWithin? (body.length + 1) body with
  | some tokens =>
      if isBalanced [] tokens then some tokens else none
  | none => none

end Token

end Code

end ShaderBindings
