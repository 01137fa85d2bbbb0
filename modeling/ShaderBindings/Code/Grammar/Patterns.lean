import ShaderBindings.Code.Grammar.Types

/-
  The rules of patterns.

  Key definitions include:
    * `Phrase.patternLiteral`
    * `Phrase.fieldPattern`
    * `Phrase.pattern`
    * `Phrase.alternatives`
-/

------------------------------------------------------------
-- Ranges And Literals
------------------------------------------------------------

namespace ShaderBindings

namespace Code

namespace Phrase

open Rule

/- The block of a constant. -/
def constantBlock : Phrase :=
  word "const" ++ goal .body

/- A literal, a path or a constant with a sign. -/
def patternLiteral : Phrase :=
  optional (symbol "-") ++
    choose [
      (literal, literal),
      (expressionPathAhead, expressionPath),
      (word "const", constantBlock)]
      never

/- The upper bound of a range, which may be missing. -/
def upperBound : Phrase :=
  branch
    (anyOf [
      groupEnd, symbol "|", symbol "=>", colon,
      symbols [",", ";"]])
    nothing patternLiteral

/- What may follow the lower bound of a range. -/
def rangeRest : Phrase :=
  when (symbol "..") (rangeSymbol ++ upperBound)

/- A range without a lower bound, or the rest of a list. -/
def rangeFromStart : Phrase :=
  branch (symbol "..=")
    (symbol "..=" ++ patternLiteral)
    (symbol ".." ++ upperBound)

end Phrase

end Code

end ShaderBindings

------------------------------------------------------------
-- Patterns
------------------------------------------------------------

namespace ShaderBindings

namespace Code

namespace Phrase

open Rule

/- Patterns with commas in parentheses. -/
def tuplePattern : Phrase :=
  parens (listed (goal .alternatives))

/- The pattern of a field, or a field that binds its name. -/
def fieldPattern : Phrase :=
  choose [
    (words ["box", "ref", "mut"],
      optional (word "box") ++ optional (word "ref") ++
        optional (word "mut") ++ ident),
    starting (ident ++ symbol ":") (goal .alternatives),
    (ident, ident)]
    (fieldNumber ++ symbol ":" ++ goal .alternatives)

/- Patterns of fields in braces. -/
def fieldPatterns : Phrase :=
  let rest := symbol ".." ++ present groupEnd
  braces (listed
    (outerAttributes ++
      branch (symbol "..") rest fieldPattern))

/-
  A pattern starts with a path and not with the name that it
  binds.
-/
def patternPathAhead : Phrase :=
  let range :=
    present (symbol "..") ++ rangeSymbol ++
      absent (anyOf [groupEnd, symbol ","])
  anyOf [
    ident ++
      anyOf [
        symbols ["::", "!"], openBrace, opening '(', range],
    word "self" ++ symbol "::",
    symbols ["::", "<"],
    words ["Self", "super", "crate"]]

/- A pattern that starts with a path. -/
def pathPattern : Phrase :=
  branch macroName macroCall
    (expressionPath ++
      choose [
        (openBrace, fieldPatterns),
        (opening '(', tuplePattern)]
        rangeRest)

/- A name that a pattern binds. -/
def nameAhead : Phrase :=
  anyOf [words ["ref", "mut", "self"], ident]

/- A pattern without alternatives. -/
def pattern : Phrase :=
  choose [
    (patternPathAhead, pathPattern),
    (word "_", word "_"),
    starting (word "box") (goal .pattern),
    (anyOf [symbol "-", literal, word "const"],
      patternLiteral ++ rangeRest),
    (nameAhead,
      optional (word "ref") ++ optional (word "mut") ++
        anyWord ++
        when (symbol "@") (symbol "@" ++ goal .pattern)),
    (symbol "&",
      symbol "&" ++ optional (word "mut") ++ goal .pattern),
    (opening '(', tuplePattern),
    (opening '[', brackets (listed (goal .alternatives))),
    (absent (symbol "...") ++ symbol "..", rangeFromStart)]
    never

/- A bar between alternatives. -/
def bar : Phrase :=
  absent (symbols ["||", "|="]) ++ symbol "|"

/- Alternatives without a bar before the first. -/
def plainAlternatives : Phrase :=
  goal .pattern ++ loop bar (symbol "|" ++ goal .pattern)

/- Alternatives, perhaps with a bar before the first. -/
def alternatives : Phrase :=
  optional (symbol "|") ++ plainAlternatives

end Phrase

end Code

end ShaderBindings
