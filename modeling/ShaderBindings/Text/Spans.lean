/-
  Sets and mappings of characters given by spans of code
  points. The tables of the character properties are values
  of these types, so a property of a whole table is decided
  by looking at its spans.

  Key definitions include:
    * `Spans`
    * `Spans.contains`
    * `Spans.containsAlternate`
    * `CaseRun`
    * `CaseRun.image?`
    * `CaseRun.lookup?`
-/

------------------------------------------------------------
-- Spans of Code Points
------------------------------------------------------------

namespace ShaderBindings

namespace Text

/- Spans of code points, each given by its first and last. -/
abbrev Spans :=
  List (Nat × Nat)

namespace Spans

/- The character lies in one of the spans. -/
def contains
    (spans : Spans)
    (c : Char) : Bool :=
  spans.any fun span =>
    span.1 ≤ c.toNat && c.toNat ≤ span.2

/-
  The character lies in one of the spans, at an even distance
  from its first code point.
-/
def containsAlternate
    (spans : Spans)
    (c : Char) : Bool :=
  spans.any fun span =>
    span.1 ≤ c.toNat && c.toNat ≤ span.2 &&
      (c.toNat - span.1) % 2 == 0

end Spans

end Text

end ShaderBindings

------------------------------------------------------------
-- Runs of a Character Mapping
------------------------------------------------------------

namespace ShaderBindings

namespace Text

/-
  A run of a mapping between characters: every code point
  from `first` to `last` in steps of `stride` goes to the
  code point at the same distance from `image`.
-/
structure CaseRun where
  first : Nat
  last : Nat
  stride : Nat
  image : Nat
deriving DecidableEq, Repr

namespace CaseRun

/- The image of a character under one run. -/
def image?
    (run : CaseRun)
    (c : Char) : Option Char :=
  if run.first ≤ c.toNat ∧ c.toNat ≤ run.last ∧
      (c.toNat - run.first) % run.stride = 0 then
    some (Char.ofNat (run.image + (c.toNat - run.first)))
  else
    none

/- The image of a character under the first run that has it. -/
def lookup?
    (runs : List CaseRun)
    (c : Char) : Option Char :=
  runs.findSome? fun run => run.image? c

end CaseRun

end Text

end ShaderBindings
