import ShaderBindings.Code.Grammar

/-
  The path of the crate that the generated code imports its
  names from. A path with generic arguments, or through the
  type of an implementation, is a path but nothing can be
  imported from it.

  Key definitions include:
    * `RuntimePath`
    * `RuntimePath.ofString?`
    * `RuntimePath.isImportable`
    * `RuntimePath.text`
-/

------------------------------------------------------------
-- Paths
------------------------------------------------------------

namespace ShaderBindings

namespace Code

/-
  A path: whether it starts at the root, the words of its
  segments, and whether any segment has generic arguments.
-/
structure RuntimePath where
  rooted : Bool
  segments : List String
  generic : Bool
deriving DecidableEq, Repr

namespace RuntimePath

/- Words that are segments of a path although reserved. -/
def keywords : List String :=
  ["super", "self", "crate"]

/- One segment: its word and whether it has arguments. -/
def segment? (tokens : List Token) :
    Option ((String × Bool) × List Token) :=
  match tokens with
  | .word text :: rest =>
      if keywords.contains text then
        some ((text, false), rest)
      else if isReserved text ∧ text ≠ "Self" then
        none
      else
        match genericArguments? rest with
        | some (generic, rest) => some ((text, generic), rest)
        | none => none
  | _ => none

/-
  Segments up to the end of the tokens, with at most as many
  as the fuel. Every segment takes a token.
-/
def segmentsWithin? :
    Nat → List Token → Option (List (String × Bool))
| 0, _ => none
| fuel + 1, tokens =>
    match segment? tokens with
    | none => none
    | some (segment, []) => some [segment]
    | some (segment, rest) =>
        match Recognizer.symbol [':', ':'] rest with
        | some rest =>
            (segmentsWithin? fuel rest).map (segment :: ·)
        | none => none

/- The path that a text names. -/
def ofString? (text : String) : Option RuntimePath :=
  match Token.readAll? text with
  | none => none
  | some tokens =>
      let (rooted, body) :=
        match Recognizer.symbol [':', ':'] tokens with
        | some rest => (true, rest)
        | none => (false, tokens)
      match segmentsWithin? body.length body with
      | none => none
      | some segments =>
          some {
            rooted
            segments := segments.map Prod.fst
            generic := segments.any Prod.snd }

/- Names can be imported from the path. -/
def isImportable (path : RuntimePath) : Bool :=
  !path.generic && !path.segments.contains "Self"

/- The path as it is written. -/
def text (path : RuntimePath) : String :=
  (if path.rooted then "::" else "") ++
    String.intercalate "::" path.segments

end RuntimePath

end Code

end ShaderBindings
