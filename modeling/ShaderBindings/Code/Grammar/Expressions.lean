import ShaderBindings.Code.Grammar.Patterns

/-
  The rules of expressions. How tightly operators bind does
  not matter for what is accepted, except behind the pattern
  of a condition, where only the tight ones may follow.

  Key definitions include:
    * `Phrase.operations`
    * `Phrase.operand`
    * `Phrase.trailers`
    * `Phrase.closure`
    * `Phrase.atom`
    * `Phrase.arm`
-/

------------------------------------------------------------
-- Operators
------------------------------------------------------------

namespace ShaderBindings

namespace Code

namespace Phrase

open Rule

/- Operators that assign. -/
def assigningOperators : List String := [
  "+=", "-=", "*=", "/=", "%=", "^=", "&=", "|=", "<<=",
  ">>="]

/- Operators that bind looser than comparisons. -/
def looseOperators : List String := ["&&", "||"]

/- Comparisons, and operators that bind tighter. -/
def tightOperators : List String := [
  "<<", ">>", "==", "<=", "!=", ">=", "+", "-", "*", "/",
  "%", "^", "&", "|", "<", ">"]

/- An operator between two operands. -/
def binaryOperator (tight : Bool) : Phrase :=
  if tight then
    absent (symbols (assigningOperators ++ looseOperators)) ++
      symbols tightOperators
  else
    symbols
      (assigningOperators ++ looseOperators ++ tightOperators)

/- A range has no upper bound. -/
def rangeEnds (braces : Bool) : Phrase :=
  anyOf [
    groupEnd, symbols [",", ";"], point,
    if braces then never else openBrace]

/- The type that an operand is converted to. -/
def conversion : Phrase :=
  goal (.type false) ++
    absent
      (anyOf [point, symbol "?", opening '[', opening '('])

/- An operation that goes on behind an operand. -/
def operationAhead (tight : Bool) : Phrase :=
  anyOf [
    binaryOperator tight,
    if tight then never else assignment,
    if tight then never else symbol "..",
    word "as", colon]

/- Operations behind an operand. -/
def operations (tight braces : Bool) : Phrase :=
  loop (operationAhead tight)
    (choose [
      starting (binaryOperator tight)
        (goal (.operand braces)),
      starting (symbol "=") (goal (.operand braces)),
      starting rangeSymbol
        (branch (rangeEnds braces) nothing
          (goal (.operand braces))),
      starting (word "as") conversion]
      (symbol ":" ++ conversion))

/- Operators before an operand. -/
def unaryOperators : List String := ["*", "!", "-"]

/- What a reference is taken with. -/
def referenceMark : Phrase :=
  let access := words ["const", "mut"]
  symbol "&" ++
    branch (word "raw" ++ access)
      (word "raw" ++ access) (optional (word "mut"))

/- An operand with the operators before it. -/
def operandCore (braces : Bool) : Phrase :=
  choose [
    (symbol "&", referenceMark ++ goal (.operand braces)),
    starting (word "box") (goal (.operand braces)),
    starting (symbols unaryOperators)
      (goal (.operand braces)),
    starting rangeSymbol
      (branch (rangeEnds braces) nothing
        (goal (.expression braces)))]
    (goal (.atom braces) ++ goal .trailers)

/- An operand, perhaps with attributes. -/
def operand (braces : Bool) : Phrase :=
  outerAttributes ++ operandCore braces

/- An expression. -/
def expression (braces : Bool) : Phrase :=
  goal (.operand braces) ++ goal (.operations false braces)

end Phrase

end Code

end ShaderBindings

------------------------------------------------------------
-- Trailers
------------------------------------------------------------

namespace ShaderBindings

namespace Code

namespace Phrase

open Rule

/- Generic arguments of a method. -/
def methodArguments : Phrase :=
  symbol "::" ++ symbol "<" ++
    listedUntil ">"
      (choose [
        (literal, literal),
        (openBrace, goal .body)]
        (goal (.type true))) ++
    symbol ">"

/- A method or a field behind a point. -/
def member : Phrase :=
  branch ident
    (ident ++
      when (symbol "::")
        (methodArguments ++ present (opening '(')))
    fieldNumber

/- What may follow a point. -/
def selection : Phrase :=
  let floating := take (Recognizer.literalOf [.float])
  choose [
    (word "await", word "await"),
    (take (Recognizer.fieldNumbers true),
      take (Recognizer.fieldNumbers true)),
    (floating, take (Recognizer.fieldNumbers false) ++ member)]
    member

/- Something that may follow an operand directly. -/
def trailerAhead : Phrase :=
  anyOf [opening '(', point, opening '[', symbol "?"]

/- Calls, selections and indices behind an operand. -/
def trailers : Phrase :=
  loop trailerAhead
    (choose [
      (opening '(',
        parens (listed (goal (.expression true)))),
      starting (symbol ".") selection,
      (opening '[', brackets (goal (.expression true)))]
      (symbol "?"))

end Phrase

end Code

end ShaderBindings

------------------------------------------------------------
-- Blocks And Control Flow
------------------------------------------------------------

namespace ShaderBindings

namespace Code

namespace Phrase

open Rule

/- Statements in braces. -/
def block : Phrase :=
  braces (many (goal .statement))

/- Statements in braces, perhaps with inner attributes. -/
def body : Phrase :=
  braces (innerAttributes ++ many (goal .statement))

/- A choice by a condition. -/
def conditional : Phrase :=
  word "if" ++ goal (.expression false) ++ goal .block ++
    when (word "else")
      (word "else" ++
        branch (word "if") (goal .conditional) (goal .block))

/- A loop, without its label. -/
def iteration : Phrase :=
  choose [
    starting (word "while")
      (goal (.expression false) ++ goal .body),
    starting (word "for")
      (goal .alternatives ++ word "in" ++
        goal (.expression false) ++ goal .body)]
    (word "loop" ++ goal .body)

/- A choice by patterns. -/
def selectionByPattern : Phrase :=
  word "match" ++ goal (.expression false) ++
    braces (innerAttributes ++ many (goal .arm))

/- Lifetimes that a closure is general in. -/
def closureBinderAhead : Phrase :=
  word "for" ++ symbol "<" ++ anyOf [lifetime, symbol ">"]

/- A loop or a block with its label. -/
def labelled : Phrase :=
  lifetime ++ symbol ":" ++
    choose [
      (words ["while", "for", "loop"], goal .iteration)]
      (goal .body)

/- A block that is computed later may start. -/
def deferredAhead : Phrase :=
  word "async" ++ optional (word "move") ++ openBrace

/- A block that is computed later. -/
def deferred : Phrase :=
  word "async" ++ optional (word "move") ++ goal .block

end Phrase

end Code

end ShaderBindings

------------------------------------------------------------
-- Atoms
------------------------------------------------------------

namespace ShaderBindings

namespace Code

namespace Phrase

open Rule

/- A closure may start. -/
def closureAhead : Phrase :=
  anyOf [
    symbol "|", word "move", closureBinderAhead,
    word "const" ++ absent openBrace, word "static",
    word "async" ++ anyOf [symbol "|", word "move"]]

/- A parameter of a closure. -/
def closureParameter : Phrase :=
  outerAttributes ++ goal .pattern ++
    when (symbol ":") (symbol ":" ++ goal (.type true))

/- A closure. -/
def closure (braces : Bool) : Phrase :=
  binders ++ optional (word "const") ++
    optional (word "static") ++ optional (word "async") ++
    optional (word "move") ++
    symbol "|" ++ listedUntil "|" closureParameter ++
    symbol "|" ++
    branch (symbol "->")
      (symbol "->" ++ goal (.type true) ++ goal .block)
      (goal (.expression braces))

/- The value of a field, or a field named like its value. -/
def fieldValue : Phrase :=
  outerAttributes ++
    branch ident
      (ident ++
        when (symbol ":")
          (symbol ":" ++ goal (.expression true)))
      (fieldNumber ++ symbol ":" ++ goal (.expression true))

/- The fields of a structure, perhaps with a base. -/
def fieldValues : Phrase :=
  let base :=
    symbol ".." ++
      branch groupEnd nothing (goal (.expression true)) ++
      present groupEnd
  braces (listed (branch (symbol "..") base fieldValue))

/- A path, a macro, or a structure. -/
def pathExpression (braces : Bool) : Phrase :=
  branch macroName macroCall
    (expressionPath ++
      if braces then when openBrace fieldValues else nothing)

/- Elements of an array, or one and how often it repeats. -/
def arrayElements : Phrase :=
  branch groupEnd nothing
    (goal (.expression true) ++
      branch (symbol ";")
        (symbol ";" ++ goal (.expression true))
        (branch groupEnd nothing
          (symbol "," ++ listed (goal (.expression true)))))

/- A jump has no value. -/
def valueEnds : Phrase :=
  anyOf [groupEnd, symbols [",", ";"]]

/- A condition that binds the names of a pattern. -/
def patternCondition : Phrase :=
  word "let" ++ goal .alternatives ++ symbol "=" ++
    goal (.operand false) ++ goal (.operations true false)

/- An expression without operators around it. -/
def atom (braces : Bool) : Phrase :=
  let breakEnds :=
    anyOf [valueEnds, if braces then never else openBrace]
  choose [
    (literal, literal),
    (deferredAhead, deferred),
    starting (word "try" ++ present openBrace) (goal .block),
    (closureAhead, closure braces),
    (expressionPathAhead, pathExpression braces),
    (opening '(', parens (listed (goal (.expression true)))),
    starting (word "break")
      (optional lifetime ++
        branch breakEnds nothing (goal (.expression braces))),
    starting (word "continue") (optional lifetime),
    starting (word "return")
      (branch valueEnds nothing (goal (.expression braces))),
    (opening '[', brackets arrayElements),
    (word "let", patternCondition),
    (word "if", goal .conditional),
    (words ["while", "for", "loop"], goal .iteration),
    (word "match", selectionByPattern),
    starting (word "yield")
      (branch valueEnds nothing (goal (.expression true))),
    starting (words ["unsafe", "const"]) (goal .body),
    (openBrace, goal .body),
    (word "_", word "_")]
    labelled

end Phrase

end Code

end ShaderBindings

------------------------------------------------------------
-- Expressions As Statements
------------------------------------------------------------

namespace ShaderBindings

namespace Code

namespace Phrase

open Rule

/- An expression that may end a statement with its brace. -/
def blockLikeAhead : Phrase :=
  anyOf [
    words ["if", "while", "loop", "match", "unsafe"],
    absent closureBinderAhead ++ word "for",
    word "try" ++ openBrace, openBrace]

/-
  An expression at the start of a statement. What ends with
  its own brace goes on only with a selection, and is else
  followed as a block is. Anything else is followed as a
  value is.
-/
def leadingExpression (afterBlock afterValue : Phrase) :
    Phrase :=
  let more := goal .trailers ++ goal (.operations false true)
  let selected := anyOf [point, symbol "?"]
  let constant := word "const" ++ present openBrace
  outerAttributes ++
    choose [
      (blockLikeAhead,
        goal (.atom true) ++
          branch selected (more ++ afterValue) afterBlock),
      (constant,
        goal (.atom true) ++ when selected more ++ afterValue),
      (anyOf [lifetime, deferredAhead],
        goal (.atom true) ++
          branch (anyOf [trailerAhead, operationAhead false])
            (more ++ afterValue) afterBlock)]
      (goal (.expression true) ++ afterValue)

/- An arm of a choice by patterns. -/
def arm : Phrase :=
  outerAttributes ++ goal .alternatives ++
    when (word "if")
      (word "if" ++ goal (.expression true)) ++
    symbol "=>" ++
    leadingExpression
      (optional (symbol ","))
      (branch groupEnd nothing (symbol ","))

end Phrase

end Code

end ShaderBindings
