import ShaderBindings.Code.Grammar.Items

/-
  The grammar of the generated code, as far as a path can
  hold it in its generic arguments.

  Key definitions include:
    * `grammar`
    * `genericArguments?`
-/

------------------------------------------------------------
-- Grammar
------------------------------------------------------------

namespace ShaderBindings

namespace Code

/- What each goal stands for. -/
def grammar : Grammar Goal
| .arguments => Phrase.argumentList
| .argument => Phrase.argument
| .segments style => Phrase.segments style
| .application => Phrase.application
| .binder => Phrase.binder
| .type sums => Phrase.type sums
| .pathType sums => Phrase.pathType sums
| .functionType => Phrase.functionType
| .traitBounds sums => Phrase.traitBounds sums
| .bound => Phrase.bound
| .traitBound => Phrase.traitBound
| .moreBounds => Phrase.moreBounds
| .pattern => Phrase.pattern
| .alternatives => Phrase.alternatives
| .expression braces => Phrase.expression braces
| .operand braces => Phrase.operand braces
| .operations tight braces => Phrase.operations tight braces
| .atom braces => Phrase.atom braces
| .trailers => Phrase.trailers
| .conditional => Phrase.conditional
| .iteration => Phrase.iteration
| .block => Phrase.block
| .body => Phrase.body
| .arm => Phrase.arm
| .statement => Phrase.statement
| .item => Phrase.item
| .foreignItem => Phrase.foreignItem
| .traitItem => Phrase.traitItem
| .implementationItem => Phrase.implementationItem
| .useTree rooted => Phrase.useTree rooted
| .namedFields => Phrase.namedFields

/-
  Generic arguments behind a segment, perhaps with colons
  before their bracket, and the tokens after them. Without
  any, nothing is taken.
-/
def genericArguments? (tokens : List Token) :
    Option (Bool × List Token) :=
  let ahead :=
    (Phrase.argumentsAhead .plain).recognize grammar.recognize
  let arguments :=
    Phrase.arguments.recognize grammar.recognize
  if (ahead tokens).isSome then
    (arguments tokens).map (true, ·)
  else
    some (false, tokens)

end Code

end ShaderBindings
