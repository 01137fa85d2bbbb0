import ShaderBindings.Code.Grammar.Goal

/-
  The rules of paths, of their arguments, of bounds and of
  types.

  Key definitions include:
    * `Phrase.argumentsAhead`
    * `Phrase.path`
    * `Phrase.segments`
    * `Phrase.argument`
    * `Phrase.traitBound`
    * `Phrase.type`
-/

------------------------------------------------------------
-- Paths
------------------------------------------------------------

namespace ShaderBindings

namespace Code

namespace Phrase

open Rule

/-
  Arguments in angle brackets follow a segment. In an
  expression they need colons, since the bracket alone
  compares.
-/
def argumentsAhead (style : PathStyle) : Phrase :=
  let afterColons := symbol "::" ++ symbol "<"
  match style with
  | .expression => afterColons
  | _ =>
      anyOf [absent (symbol "<=") ++ symbol "<", afterColons]

/- Arguments in angle brackets, perhaps behind colons. -/
def arguments : Phrase :=
  optional (symbol "::") ++ goal .arguments

/- Arguments in parentheses follow a segment. -/
def applicationAhead : Phrase :=
  anyOf [opening '(', symbol "::" ++ opening '(']

/-
  Colons before another segment. Behind the qualified
  beginning of a type they always are.
-/
def furtherSegment (style : PathStyle) : Phrase :=
  match style with
  | .qualified => symbol "::"
  | _ => symbol "::" ++ absent (opening '(')

/- The result type of a function. -/
def result (sums : Bool) : Phrase :=
  when (symbol "->") (symbol "->" ++ goal (.type sums))

/- Arguments in parentheses and a result. -/
def simpleApplication : Phrase :=
  parens (listed (goal (.type true))) ++ result false

/- What follows a last segment without arguments. -/
def afterBarePath (style : PathStyle) : Phrase :=
  match style with
  | .plain => nothing
  | .expression => nothing
  | .bound =>
      when applicationAhead
        (optional (symbol "::") ++ simpleApplication)
  | .type =>
      when applicationAhead
        (optional (symbol "::") ++ goal .application)
  | .qualified =>
      when applicationAhead
        (optional (symbol "::") ++ goal .application)

/- What follows a segment without arguments. -/
def afterBareSegment (style : PathStyle) : Phrase :=
  branch (furtherSegment style)
    (symbol "::" ++ goal (.segments style))
    (afterBarePath style)

/- What follows a segment with arguments. -/
def afterArguments (style : PathStyle) : Phrase :=
  when (furtherSegment style)
    (symbol "::" ++ goal (.segments style))

/- An empty list of arguments in angle brackets. -/
def emptyArguments : Phrase :=
  optional (symbol "::") ++ symbol "<" ++ symbol ">"

/-
  Arguments in angle brackets and what follows them. An
  empty list counts as none.
-/
def argumentsAndMore (style : PathStyle) : Phrase :=
  branch emptyArguments
    (arguments ++ afterBareSegment style)
    (arguments ++ afterArguments style)

/- The segments of a path. -/
def segments (style : PathStyle) : Phrase :=
  branch bareSegment
    (bareSegment ++ afterBareSegment style)
    (anyOf [word "Self", ident] ++
      branch (argumentsAhead style)
        (argumentsAndMore style)
        (afterBareSegment style))

/- A path without a qualified beginning. -/
def path (style : PathStyle) : Phrase :=
  optional (symbol "::") ++ goal (.segments style)

/- A type, perhaps seen as a trait, and a path through it. -/
def qualifiedPath (style : PathStyle) : Phrase :=
  symbol "<" ++ goal (.type true) ++
    when (word "as") (word "as" ++ path .plain) ++
    symbol ">" ++ symbol "::" ++ goal (.segments style)

/- A path in an expression. -/
def expressionPath : Phrase :=
  branch (symbol "<")
    (qualifiedPath .expression) (path .expression)

/- Something that an expression starts a path with. -/
def expressionPathAhead : Phrase :=
  anyOf [pathWord, symbol "::", symbol "<"]

/- What follows the application of a segment. -/
def afterApplication : Phrase :=
  when (furtherSegment .type)
    (symbol "::" ++ goal (.segments .type))

/- Further types of a tuple, with the comma before them. -/
def tupleRest : Phrase :=
  symbol "," ++ listed (goal (.type true))

/- Bounds added to a bound in parentheses. -/
def addedBounds : Phrase :=
  loop (symbol "+") (symbol "+" ++ goal .bound)

/-
  Arguments in parentheses behind the last segment of a
  type. An associated type may follow, unless a result does
  that is no single type in parentheses.
-/
def application : Phrase :=
  let closing := take (Recognizer.bracket ')')
  parens (listed (goal (.type true))) ++
    choose [
      (symbol "->" ++ opening '(',
        symbol "->" ++ opening '(' ++
          choose [
            (closing, closing),
            (lifetime,
              goal (.traitBounds true) ++ closing ++
                afterApplication),
            (symbol "?",
              goal .traitBound ++ closing ++ addedBounds)]
            (goal (.type true) ++
              branch (symbol ",")
                (tupleRest ++ closing)
                (closing ++ afterApplication))),
      starting (symbol "->") (goal (.type false))]
      afterApplication

end Phrase

end Code

end ShaderBindings

------------------------------------------------------------
-- Bounds
------------------------------------------------------------

namespace ShaderBindings

namespace Code

namespace Phrase

open Rule

/- Lifetimes that a lifetime outlives, up to a stop. -/
def outlived (stop : Phrase) : Phrase :=
  summed (symbol "+") stop lifetime

/- The declaration of a lifetime. -/
def lifetimeParameter : Phrase :=
  outerAttributes ++ lifetime ++
    when (symbol ":")
      (symbol ":" ++ outlived (symbols [",", ">"]))

/- Lifetimes that a type is general in. -/
def binder : Phrase :=
  word "for" ++ symbol "<" ++
    listedUntil ">" lifetimeParameter ++ symbol ">"

/- Lifetimes that a type may be general in. -/
def binders : Phrase :=
  when (word "for") (goal .binder)

/- A trait as a bound. -/
def traitBound : Phrase :=
  optional (symbol "~" ++ word "const") ++
    optional (symbol "?") ++ binders ++ path .bound

/- A lifetime, or a trait that may stand in parentheses. -/
def bound : Phrase :=
  choose [
    (lifetime, lifetime),
    (opening '(', parens (goal .traitBound))]
    (goal .traitBound)

/- Another bound may follow a plus. -/
def boundAhead : Phrase :=
  anyOf [
    anyWord, symbols ["::", "?"], lifetime, opening '(',
    symbol "~"]

/- Further bounds. The last plus may stand alone. -/
def moreBounds : Phrase :=
  when (symbol "+")
    (symbol "+" ++
      when boundAhead (goal .bound ++ goal .moreBounds))

/- Bounds with at least one trait among them. -/
def traitBounds (sums : Bool) : Phrase :=
  if sums then
    branch lifetime
      (lifetime ++ symbol "+" ++ goal (.traitBounds true))
      (goal .bound ++ goal .moreBounds)
  else
    absent lifetime ++ goal .bound

/- Bounds of an associated type, up to the end of it. -/
def constraintBounds : Phrase :=
  summed (symbol "+") (symbols [",", ">"]) (goal .bound)

end Phrase

end Code

end ShaderBindings

------------------------------------------------------------
-- Types
------------------------------------------------------------

namespace ShaderBindings

namespace Code

namespace Phrase

open Rule

/- A function type may start. -/
def functionTypeAhead : Phrase :=
  words ["fn", "unsafe", "extern"]

/- A calling convention. -/
def convention : Phrase :=
  when (word "extern") (word "extern" ++ optional textLiteral)

/- The type of a parameter of a function type. -/
def parameterType : Phrase :=
  let mutableSelf := word "mut" ++ word "self"
  choose [
    (symbol "...", symbol "..."),
    (mutableSelf, mutableSelf)]
    (goal (.type true))

/- A parameter of a function type, perhaps with a name. -/
def parameter : Phrase :=
  let mutableSelf :=
    word "mut" ++ word "self" ++ symbol ":"
  outerAttributes ++
    choose [
      starting (symbol "...") (present groupEnd),
      (anyOf [identOrBlank, word "self"] ++ colon,
        anyWord ++ symbol ":" ++ parameterType),
      starting mutableSelf (goal (.type true))]
      parameterType

/- A function type. -/
def functionType : Phrase :=
  optional (word "unsafe") ++ convention ++ word "fn" ++
    parens (listed parameter) ++ result false

/- A path as a type, or a sum that starts with it. -/
def pathType (sums : Bool) : Phrase :=
  branch macroName macroCall
    (path .type ++ if sums then goal .moreBounds else nothing)

/-
  A group that holds a type, a tuple, or the first bound of a
  sum. Only a path or a single trait can be that bound.
-/
def typeInParens (sums : Bool) : Phrase :=
  let closing := take (Recognizer.bracket ')')
  let tuple := when (symbol ",") tupleRest ++ closing
  let sumOr (otherwise : Phrase) : Phrase :=
    if sums then
      branch (closing ++ symbol "+")
        (closing ++ addedBounds) otherwise
    else
      otherwise
  let pathFirst :=
    branch macroName (macroCall ++ tuple)
      (path .type ++ sumOr (goal .moreBounds ++ tuple))
  opening '(' ++
    choose [
      (closing, closing),
      (lifetime, goal (.traitBounds true) ++ closing),
      (symbol "?",
        goal .traitBound ++ closing ++ addedBounds),
      (opening '(' ++ symbol "?",
        opening '(' ++ goal .traitBound ++ closing ++
          sumOr (addedBounds ++ tuple)),
      (word "for",
        goal .binder ++
          choose [
            (functionTypeAhead, goal .functionType ++ tuple),
            (word "dyn", never),
            (pathWord, pathFirst)]
            never),
      (absent (word "dyn") ++ anyOf [pathWord, symbol "::"],
        pathFirst)]
      (goal (.type true) ++ tuple)

/- A type, which may be a sum of bounds. -/
def type (sums : Bool) : Phrase :=
  choose [
    (word "for",
      goal .binder ++
        choose [
          (functionTypeAhead, goal .functionType),
          (word "dyn", never),
          (pathWord, goal (.pathType sums))]
          never),
    (opening '(', typeInParens sums),
    (functionTypeAhead, goal .functionType),
    (word "dyn",
      word "dyn" ++ optional (symbol "*") ++
        goal (.traitBounds sums)),
    (symbol "<", qualifiedPath .qualified),
    (anyOf [pathWord, symbol "::"], goal (.pathType sums)),
    (opening '[',
      brackets (goal (.type true) ++
        when (symbol ";")
          (symbol ";" ++ goal (.expression true)))),
    (symbol "*",
      symbol "*" ++ words ["const", "mut"] ++
        goal (.type false)),
    (symbol "&",
      symbol "&" ++ optional lifetime ++
        optional (word "mut") ++ goal (.type false)),
    (symbol "!", symbol "!"),
    (word "impl", word "impl" ++ goal (.traitBounds sums)),
    (word "_", word "_"),
    (lifetime, goal (.traitBounds true))]
    never

end Phrase

end Code

end ShaderBindings

------------------------------------------------------------
-- Generic Arguments
------------------------------------------------------------

namespace ShaderBindings

namespace Code

namespace Phrase

open Rule

/-
  A segment with arguments as the beginning of an argument:
  an associated type with arguments of its own, or a type.
-/
def segmentArgument : Phrase :=
  let associatedOr (otherwise : Phrase) : Phrase :=
    choose [
      starting (symbol "=") (goal (.type true)),
      starting colon constraintBounds]
      (otherwise ++ goal .moreBounds)
  anyOf [word "Self", ident] ++
    branch emptyArguments
      (arguments ++ associatedOr (afterBareSegment .type))
      (arguments ++ associatedOr (afterArguments .type))

/- An argument in angle brackets. -/
def argument : Phrase :=
  choose [
    (lifetime ++ absent (symbol "+"), lifetime),
    (ident ++ symbol "=",
      ident ++ symbol "=" ++
        choose [
          (literal, literal),
          (openBrace, goal .body)]
          (goal (.type true))),
    (ident ++ colon, ident ++ symbol ":" ++ constraintBounds),
    (literal, literal),
    (openBrace, goal .body),
    (absent (word "dyn") ++ anyOf [word "Self", ident] ++
        argumentsAhead .type,
      segmentArgument)]
    (goal (.type true))

/- Arguments in angle brackets. -/
def argumentList : Phrase :=
  symbol "<" ++ listedUntil ">" (goal .argument) ++ symbol ">"

end Phrase

end Code

end ShaderBindings
