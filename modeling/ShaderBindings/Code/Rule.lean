import ShaderBindings.Code.Token

/-
  Rules of grammars over tokens. A rule recognizes a
  beginning of a list of tokens and leaves the rest. Choices
  are committed: a branch looks ahead, and what it then
  chooses must succeed.

  Key definitions include:
    * `Recognizer`
    * `Rule`
    * `Rule.recognize`
    * `Grammar`
    * `Grammar.recognize`
-/

------------------------------------------------------------
-- Rules
------------------------------------------------------------

namespace ShaderBindings

namespace Code

/- The tokens after an accepted beginning. -/
abbrev Recognizer :=
  List Token → Option (List Token)

/-
  Repeat a recognizer as long as another one succeeds ahead,
  at most as many times as the fuel.
-/
def Recognizer.repeatWhile
    (ahead body : Recognizer) :
    Nat → Recognizer
| 0, tokens =>
    if (ahead tokens).isSome then none else some tokens
| fuel + 1, tokens =>
    if (ahead tokens).isSome then
      match body tokens with
      | some rest => repeatWhile ahead body fuel rest
      | none => none
    else
      some tokens

/-
  A rule over goals that other rules explain. Apart from the
  empty rule and the one that fails, a rule takes tokens
  itself, pursues a goal, is a sequence, chooses by what it
  sees ahead, or repeats as long as it sees something ahead.
-/
inductive Rule (Goal : Type) where
| nothing
| never
| take (recognize : Recognizer)
| goal (goal : Goal)
| sequence (first second : Rule Goal)
| branch (ahead yes no : Rule Goal)
| loop (ahead body : Rule Goal)

namespace Rule

variable {Goal : Type}

instance : Append (Rule Goal) where
  append := sequence

/-
  Recognize with a rule, given how goals are recognized.
  Every round of a loop has to take a token.
-/
def recognize
    (goals : Goal → Recognizer) :
    Rule Goal → Recognizer
| nothing, tokens => some tokens
| never, _ => none
| take recognizer, tokens => recognizer tokens
| goal g, tokens => goals g tokens
| sequence first second, tokens =>
    match recognize goals first tokens with
    | some rest => recognize goals second rest
    | none => none
| branch ahead yes no, tokens =>
    if (recognize goals ahead tokens).isSome then
      recognize goals yes tokens
    else
      recognize goals no tokens
| loop ahead body, tokens =>
    Recognizer.repeatWhile
      (recognize goals ahead) (recognize goals body)
      tokens.length tokens

/- Go on only if a rule succeeds ahead. -/
def present (ahead : Rule Goal) : Rule Goal :=
  branch ahead nothing never

/- Go on only if a rule fails ahead. -/
def absent (ahead : Rule Goal) : Rule Goal :=
  branch ahead never nothing

/- A rule that applies if something is ahead. -/
def when (ahead rule : Rule Goal) : Rule Goal :=
  branch ahead rule nothing

/- A rule that applies if it can. -/
def optional (rule : Rule Goal) : Rule Goal :=
  branch rule rule nothing

/- The first of several rules that succeeds. -/
def anyOf (rules : List (Rule Goal)) : Rule Goal :=
  rules.foldr (fun rule no => branch rule rule no) never

/-
  The second rule of the first pair whose first rule
  succeeds ahead.
-/
def choose
    (cases : List (Rule Goal × Rule Goal))
    (otherwise : Rule Goal) : Rule Goal :=
  cases.foldr
    (fun (ahead, rule) no => branch ahead rule no) otherwise

/- A case that is told by its own beginning. -/
def starting (start rest : Rule Goal) :
    Rule Goal × Rule Goal :=
  (start, start ++ rest)

/-
  Items up to a stop, with a separator between each two and
  perhaps behind the last.
-/
def separated (separator stop item : Rule Goal) :
    Rule Goal :=
  loop (absent stop)
    (item ++ branch stop nothing separator)

/-
  Items with a separator between each two and perhaps behind
  the last. A stop is only looked for where an item may
  start, and no separator has to follow the last item.
-/
def summed (separator stop item : Rule Goal) : Rule Goal :=
  branch stop nothing
    (item ++
      loop separator (separator ++ branch stop nothing item))

end Rule

end Code

end ShaderBindings

------------------------------------------------------------
-- Grammars
------------------------------------------------------------

namespace ShaderBindings

namespace Code

/- A rule for every goal. -/
abbrev Grammar (Goal : Type) :=
  Goal → Rule Goal

namespace Grammar

variable {Goal : Type}

/- Recognize a goal with a limit on the depth of goals. -/
def recognizeWithin
    (grammar : Grammar Goal) :
    Nat → Goal → Recognizer
| 0, _ => fun _ => none
| fuel + 1, g =>
    (grammar g).recognize (recognizeWithin grammar fuel)

/- Goals that may be pursued before a token is taken. -/
def goalsPerToken : Nat := 32

/-
  Recognize a goal. The limit on the depth of goals is never
  reached by a grammar that takes a token soon enough.
-/
def recognize
    (grammar : Grammar Goal)
    (g : Goal) : Recognizer :=
  fun tokens =>
    recognizeWithin grammar
      (goalsPerToken * (tokens.length + 1)) g tokens

end Grammar

end Code

end ShaderBindings

------------------------------------------------------------
-- Taking Tokens
------------------------------------------------------------

namespace ShaderBindings

namespace Code

namespace Recognizer

/- One given word. -/
def word (text : String) : Recognizer
| .word other :: rest =>
    if text = other then some rest else none
| _ => none

/- Marks that form one symbol, nothing between them. -/
def symbol : List Char → Recognizer
| [], tokens => some tokens
| [c], .mark d _ :: rest => if c = d then some rest else none
| c :: more, .mark d true :: rest =>
    if c = d then symbol more rest else none
| _, _ => none

/- One given bracket. -/
def bracket (c : Char) : Recognizer
| .bracket d :: rest => if c = d then some rest else none
| _ => none

/- The end of the tokens, or of the group around them. -/
def groupEnd : Recognizer
| [] => some []
| .bracket c :: rest =>
    if (Token.closing? c).isSome then
      none
    else
      some (.bracket c :: rest)
| _ => none

/- The rest of a group that is open to some depth. -/
def closeGroup (depth : Nat) : Recognizer
| .bracket c :: rest =>
    if (Token.closing? c).isSome then
      closeGroup (depth + 1) rest
    else if depth ≤ 1 then
      some rest
    else
      closeGroup (depth - 1) rest
| _ :: rest => closeGroup depth rest
| [] => none

/- A group with anything in it. -/
def anyGroup : Recognizer
| .bracket c :: rest =>
    if (Token.closing? c).isSome then
      closeGroup 1 rest
    else
      none
| _ => none

/- A lifetime. -/
def lifetime : Recognizer
| .mark '\x27' true :: .word _ :: rest => some rest
| _ => none

/- A group, a lifetime, or any other token. -/
def anyTree : Recognizer
| .mark '\x27' true :: .word _ :: rest => some rest
| .bracket c :: rest => anyGroup (.bracket c :: rest)
| _ :: rest => some rest
| [] => none

/- Any word. -/
def anyWord : Recognizer
| .word _ :: rest => some rest
| _ => none

/- A word that is not reserved. -/
def ident : Recognizer
| .word text :: rest =>
    if isReserved text then none else some rest
| _ => none

/- A literal of some kinds. -/
def literalOf (kinds : List LiteralKind) : Recognizer
| .literal l :: rest =>
    if kinds.contains l.kind then some rest else none
| _ => none

/-
  A literal with its sign: a text, a character, a number or
  a truth value. Only a number has a sign.
-/
def literal : Recognizer
| .literal l :: rest =>
    if l.kind = .foreignText then none else some rest
| .mark '-' _ :: rest => literalOf [.integer, .float] rest
| .word text :: rest =>
    if text = "true" ∨ text = "false" then some rest else none
| _ => none

/- A text is the number of a field. -/
def isFieldNumber (text : List Char) : Bool :=
  match integerValue? text with
  | some value => value < UInt32.size
  | none => false

/- The number of a field. -/
def fieldNumber : Recognizer
| .literal l :: rest =>
    if l.kind = .integer ∧ isFieldNumber l.text.toList then
      some rest
    else
      none
| _ => none

/-
  Numbers of fields with points between them, which together
  look like a single number. The last one may be missing.
-/
def fieldNumbers (complete : Bool) : Recognizer
| .literal l :: rest =>
    let parts := l.text.splitOn "."
    let (whole, found) :=
      if parts.getLast? = some "" then
        (false, parts.dropLast)
      else
        (true, parts)
    if l.kind = .float ∧ whole = complete ∧
        found.all (isFieldNumber ·.toList) then
      some rest
    else
      none
| _ => none

end Recognizer

end Code

end ShaderBindings
