import ShaderBindings.Text.Alphanumeric

/-
  White space, by the Unicode property `White_Space`, and the
  characters of words. No character is in both classes.

  Key definitions include:
    * `isBlank`
    * `isWordChar`
    * `trimBlank`
-/

------------------------------------------------------------
-- White Space
------------------------------------------------------------

namespace ShaderBindings

namespace Text

/- White space, all of it. -/
def blankSpans : Spans := [
  (0x9, 0xD), (0x20, 0x20), (0x85, 0x85), (0xA0, 0xA0),
  (0x1680, 0x1680), (0x2000, 0x200A), (0x2028, 0x2029),
  (0x202F, 0x202F), (0x205F, 0x205F), (0x3000, 0x3000)]

/- A character of white space. -/
def isBlank (c : Char) : Bool :=
  blankSpans.contains c

/- White space at both ends of a text removed. -/
def trimBlank (cs : List Char) : List Char :=
  ((cs.dropWhile isBlank).reverse.dropWhile isBlank).reverse

end Text

end ShaderBindings

------------------------------------------------------------
-- Word Characters
------------------------------------------------------------

namespace ShaderBindings

namespace Text

/- A letter, a number or an underscore. -/
def isWordChar (c : Char) : Bool :=
  isAlphanumeric c || c == '_'

end Text

end ShaderBindings
