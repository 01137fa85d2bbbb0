import ShaderBindings.Text.Quoted

/-
  Texts on a terminal. A terminal takes some characters for
  commands, and those are shown by their codes.

  Key definitions include:
    * `shield`
    * `shielded`
-/

------------------------------------------------------------
-- Shielded Texts
------------------------------------------------------------

namespace ShaderBindings

namespace Text

/- The character belongs to the second set of controls. -/
def isSecondControl (c : Char) : Bool :=
  0x80 ≤ c.toNat && c.toNat ≤ 0x9F

/- A character without what it could command. -/
def shield (c : Char) : List Char :=
  if c = '\x07' then ['\\', 'x', '0', '7']
  else if c = '\x08' then ['\\', 'x', '0', '8']
  else if c = '\x0c' then ['\\', 'x', '0', 'c']
  else if c = '\x1b' then ['\\', 'x', '1', 'b']
  else if c = '\x7f' then ['\\', 'x', '7', 'f']
  else if isSecondControl c then codeEscape c
  else [c]

/- A text in which no character commands a terminal. -/
def shielded (text : String) : String :=
  String.ofList (text.toList.flatMap shield)

end Text

end ShaderBindings
