import ShaderBindings.Proofs.Declaration.Pieces

/-
  Templates with a place for an index in braces, and the
  names of the elements of an array that they lead to. An
  element is named by its array and its index, so different
  elements have different names, whatever follows the name.

  Key definitions include:
    * `filled?`
    * `elementTemplate`
    * `elementName`

  Key theorems include:
    * `filled?_elementTemplate`
    * `elementName_append_inj`
-/

------------------------------------------------------------
-- Templates
------------------------------------------------------------

namespace ShaderBindings

namespace Text

/-
  A template with an index in place of the letter `i` in
  braces. Two equal braces stand for one, and a template
  with any other brace cannot be filled.
-/
def filled?
    (index : Nat) :
    List Char → Option (List Char)
| [] => some []
| '\x7b' :: 'i' :: '\x7d' :: rest =>
    (filled? index rest).map (Nat.toDigits 10 index ++ ·)
| '\x7b' :: '\x7b' :: rest =>
    (filled? index rest).map ('\x7b' :: ·)
| '\x7d' :: '\x7d' :: rest =>
    (filled? index rest).map ('\x7d' :: ·)
| c :: rest =>
    if c = '\x7b' ∨ c = '\x7d' then
      none
    else
      (filled? index rest).map (c :: ·)

/- The template for the names of the elements of an array. -/
def elementTemplate (array : String) : String :=
  array ++ "[\x7bi\x7d]"

/- The name of an element of an array. -/
def elementName
    (array : String)
    (index : Nat) : String :=
  array ++ "[" ++ toString index ++ "]"

/- A text without braces stands for itself. -/
theorem filled?_append
    {index : Nat}
    {text : List Char}
    (hText : ∀ c ∈ text, c ≠ '\x7b' ∧ c ≠ '\x7d')
    (rest : List Char) :
    filled? index (text ++ rest) =
      (filled? index rest).map (text ++ ·) := by
  induction text with
  | nil => simp
  | cons c text ih =>
      have hChar := hText c List.mem_cons_self
      have hRest :=
        ih fun d hMember =>
          hText d (List.mem_cons_of_mem c hMember)
      rw [List.cons_append, filled?]
      · rw [if_neg (by tauto), hRest, Option.map_map]
        rfl
      · rintro _ rfl
        exact absurd rfl hChar.1
      · rintro _ rfl
        exact absurd rfl hChar.1
      · rintro _ rfl
        exact absurd rfl hChar.2

/- Words have no braces. -/
theorem ne_brace_of_isWordChar
    {c : Char}
    (hWord : isWordChar c = true) :
    c ≠ '\x7b' ∧ c ≠ '\x7d' := by
  constructor
  · rintro rfl
    revert hWord
    decide
  · rintro rfl
    revert hWord
    decide

/- The template of an array that is named by a word. -/
theorem filled?_elementTemplate
    {array : String}
    (hArray : Form.IsWord array)
    (index : Nat) :
    filled? index (elementTemplate array).toList =
      some (elementName array index).toList := by
  rw [elementTemplate, String.toList_append, filled?_append]
  · simp [filled?, elementName]
  · intro c hMember
    exact ne_brace_of_isWordChar (hArray.isWordChar hMember)

/-
  An element whose name starts a text has the index of every
  element of the array whose name starts the text.
-/
theorem elementName_append_inj
    {array : String}
    {index other : Nat}
    {rest tail : List Char}
    (hSame :
      (elementName array index).toList ++ rest =
        (elementName array other).toList ++ tail) :
    index = other ∧ rest = tail := by
  have hDigits (number : Nat) :
      ∀ c ∈ Nat.toDigits 10 number, c.isDigit = true :=
    fun c hMember =>
      Nat.isDigit_of_mem_toDigits (by decide) (by decide)
        hMember
  simp only [elementName, String.toList_append,
    List.append_assoc, List.append_cancel_left_eq,
    Nat.toString_eq_repr, Nat.toList_repr] at hSame
  let spelled (number : Nat) : Form.Run Char.isDigit :=
    ⟨Nat.toDigits 10 number, hDigits number⟩
  have hStops (text : List Char) :
      Form.Stops Char.isDigit ("]".toList ++ text) := by
    simp
  have hBoth :
      spelled index = spelled other ∧
        "]".toList ++ rest = "]".toList ++ tail :=
    Form.Run.append_inj (hStops rest) (hStops tail) hSame
  have hNumbers :
      Nat.ofDigitChars 10 (Nat.toDigits 10 index) 0 =
        Nat.ofDigitChars 10 (Nat.toDigits 10 other) 0 :=
    congrArg (fun run => Nat.ofDigitChars 10 run.chars 0)
      hBoth.1
  refine ⟨?_, List.append_cancel_left hBoth.2⟩
  rwa [Nat.ofDigitChars_toDigits (by decide) (by decide),
    Nat.ofDigitChars_toDigits (by decide) (by decide)]
    at hNumbers

end Text

end ShaderBindings
