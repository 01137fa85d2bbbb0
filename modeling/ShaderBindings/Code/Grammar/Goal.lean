import ShaderBindings.Code.Rule

/-
  The goals of the grammar of the generated code, and the
  vocabulary that its rules are written with.

  Key definitions include:
    * `PathStyle`
    * `Goal`
    * `Phrase`
    * `Phrase.group`
    * `Phrase.listed`
    * `Phrase.plainPath`
    * `Phrase.outerAttributes`
-/

------------------------------------------------------------
-- Goals
------------------------------------------------------------

namespace ShaderBindings

namespace Code

/-
  Where a path stands, which decides about the arguments of
  its segments: in a place that names a module or a trait to
  be used, as a bound, as a type, behind the qualified
  beginning of a type, or in an expression.
-/
inductive PathStyle where
| plain
| bound
| type
| qualified
| expression
deriving DecidableEq, Repr

/-
  Where an associated type is declared, which decides where
  its conditions stand.
-/
inductive TypeItemPlace where
| module
| foreign
| trait
| implementation
deriving DecidableEq, Repr

/-
  What a rule explains. A type or its bounds may end with a
  sum of bounds or not. Where braces may follow a path in an
  expression, they are the fields of a structure.
-/
inductive Goal where
| arguments
| argument
| segments (style : PathStyle)
| application
| binder
| type (sums : Bool)
| pathType (sums : Bool)
| functionType
| traitBounds (sums : Bool)
| bound
| traitBound
| moreBounds
| pattern
| alternatives
| expression (braces : Bool)
| operand (braces : Bool)
| operations (tight braces : Bool)
| atom (braces : Bool)
| trailers
| conditional
| iteration
| block
| body
| arm
| statement
| item
| foreignItem
| traitItem
| implementationItem
| useTree (rooted : Bool)
| namedFields
deriving DecidableEq, Repr

/- A rule of the grammar. -/
abbrev Phrase := Rule Goal

end Code

end ShaderBindings

------------------------------------------------------------
-- Vocabulary
------------------------------------------------------------

namespace ShaderBindings

namespace Code

namespace Phrase

open Rule

/- One given word. -/
def word (text : String) : Phrase :=
  take (Recognizer.word text)

/- One of several words. -/
def words (texts : List String) : Phrase :=
  anyOf (texts.map word)

/- A symbol, or the beginning of a longer one. -/
def symbol (text : String) : Phrase :=
  take (Recognizer.symbol text.toList)

/- One of several symbols, the first that fits. -/
def symbols (texts : List String) : Phrase :=
  anyOf (texts.map symbol)

/- An opening bracket. -/
def opening (c : Char) : Phrase :=
  take (Recognizer.bracket c)

/- An opening brace. -/
def openBrace : Phrase :=
  opening '\x7b'

/- The end of a group, before its closing bracket. -/
def groupEnd : Phrase :=
  take Recognizer.groupEnd

/- A group with given contents. -/
def group (c : Char) (contents : Phrase) : Phrase :=
  opening c ++ contents ++
    match Token.closing? c with
    | some close => take (Recognizer.bracket close)
    | none => never

/- A group in parentheses. -/
def parens (contents : Phrase) : Phrase :=
  group '(' contents

/- A group in brackets. -/
def brackets (contents : Phrase) : Phrase :=
  group '[' contents

/- A group in braces. -/
def braces (contents : Phrase) : Phrase :=
  group '\x7b' contents

/- A group with anything in it. -/
def anyGroup : Phrase :=
  take Recognizer.anyGroup

/- A group, a lifetime, or any other token. -/
def anyTree : Phrase :=
  take Recognizer.anyTree

/- Everything up to the end of the group. -/
def anything : Phrase :=
  loop (absent groupEnd) anyTree

/- Any word, even a reserved one. -/
def anyWord : Phrase :=
  take Recognizer.anyWord

/- A word that is not reserved. -/
def ident : Phrase :=
  take Recognizer.ident

/- A word that is not reserved, or the one for no name. -/
def identOrBlank : Phrase :=
  anyOf [ident, word "_"]

/- A lifetime. -/
def lifetime : Phrase :=
  take Recognizer.lifetime

/- A literal with its sign. -/
def literal : Phrase :=
  take Recognizer.literal

/- A text in quotes. -/
def textLiteral : Phrase :=
  take (Recognizer.literalOf [.text])

/- The number of a field. -/
def fieldNumber : Phrase :=
  take Recognizer.fieldNumber

/- Items with commas up to the end of the group. -/
def listed (item : Phrase) : Phrase :=
  separated (symbol ",") groupEnd item

/- Items with commas up to a symbol. -/
def listedUntil (stop : String) (item : Phrase) : Phrase :=
  separated (symbol ",") (symbol stop) item

/- Items up to the end of the group. -/
def many (item : Phrase) : Phrase :=
  loop (absent groupEnd) item

/- A colon that does not start a path. -/
def colon : Phrase :=
  absent (symbol "::") ++ symbol ":"

/- An equals sign that starts no longer symbol. -/
def assignment : Phrase :=
  absent (symbols ["==", "=>"]) ++ symbol "="

/- Two points or three, with or without an equals sign. -/
def rangeSymbol : Phrase :=
  symbols ["..=", "...", ".."]

/- A single point. -/
def point : Phrase :=
  absent (symbol "..") ++ symbol "."

/- Reserved words that are segments without arguments. -/
def bareSegment : Phrase :=
  words ["super", "self", "crate"]

/- A word that a path may start with. -/
def pathWord : Phrase :=
  anyOf [ident, words ["super", "self", "Self", "crate"]]

/- A path of words alone. -/
def plainPath : Phrase :=
  optional (symbol "::") ++ pathWord ++
    loop (symbol "::") (symbol "::" ++ pathWord)

/- The name of a macro and the mark behind it. -/
def macroName : Phrase :=
  plainPath ++ absent (symbol "!=") ++ symbol "!"

/- The use of a macro. -/
def macroCall : Phrase :=
  macroName ++ anyGroup

/- Attributes of what follows. -/
def outerAttributes : Phrase :=
  loop (symbol "#")
    (symbol "#" ++ brackets (plainPath ++ anything))

/- Attributes of what is around. -/
def innerAttributes : Phrase :=
  loop (symbol "#" ++ symbol "!")
    (symbol "#" ++ symbol "!" ++
      brackets (plainPath ++ anything))

end Phrase

end Code

end ShaderBindings
