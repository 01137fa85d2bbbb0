import ShaderBindings.Text.Blank

/-
  What may stand between the tokens of the generated code
  without being one: white space and ordinary comments. A
  documentation comment is not trivia, it is a token.

  Key definitions include:
    * `closeBlock?`
    * `afterLineComment?`
    * `afterBlockComment?`
    * `afterTrivium?`
    * `skipTrivia`
    * `Documentation`
    * `documentation?`
-/

------------------------------------------------------------
-- Comments
------------------------------------------------------------

namespace ShaderBindings

namespace Code

open Text

/-
  White space between tokens: white space of texts, and the
  two marks that set the direction of writing.
-/
def isTriviaBlank (c : Char) : Bool :=
  isBlank c || c.toNat == 0x200E || c.toNat == 0x200F

/-
  The text after the end of a block comment that is open to
  some depth. Block comments nest.
-/
def closeBlock?
    (depth : Nat) :
    List Char → Option (List Char)
| '/' :: '*' :: rest => closeBlock? (depth + 1) rest
| '*' :: '/' :: rest =>
    if depth ≤ 1 then
      some rest
    else
      closeBlock? (depth - 1) rest
| _ :: rest => closeBlock? depth rest
| [] => none

/-
  The text after an ordinary line comment. Three slashes
  start a documentation comment, four do not.
-/
def afterLineComment? (text : List Char) :
    Option (List Char) :=
  let after := text.dropWhile fun c => c != '\n'
  match text with
  | '/' :: '/' :: '/' :: '/' :: _ => some after
  | '/' :: '/' :: '/' :: _ => none
  | '/' :: '/' :: '!' :: _ => none
  | '/' :: '/' :: _ => some after
  | _ => none

/-
  The text after an ordinary block comment. Two stars start
  a documentation comment unless a third star or the end of
  the comment follows.
-/
def afterBlockComment? (text : List Char) :
    Option (List Char) :=
  match text with
  | '/' :: '*' :: '*' :: '/' :: rest => some rest
  | '/' :: '*' :: '*' :: '*' :: rest =>
      closeBlock? 1 ('*' :: '*' :: rest)
  | '/' :: '*' :: '*' :: _ => none
  | '/' :: '*' :: '!' :: _ => none
  | '/' :: '*' :: rest => closeBlock? 1 rest
  | _ => none

end Code

end ShaderBindings

------------------------------------------------------------
-- Trivia Consume Text
------------------------------------------------------------

namespace ShaderBindings

namespace Code

open Text

private theorem closeBlock?_length
    {depth : Nat}
    {text rest : List Char}
    (hClose : closeBlock? depth text = some rest) :
    rest.length < text.length := by
  fun_induction closeBlock? depth text with
  | case1 depth inner ih =>
      have hRest := ih hClose
      simp only [List.length_cons]
      omega
  | case2 depth inner hDepth =>
      simp only [Option.some.injEq] at hClose
      subst hClose
      simp only [List.length_cons]
      omega
  | case3 depth inner hDepth ih =>
      have hRest := ih hClose
      simp only [List.length_cons]
      omega
  | case4 depth c inner hOpen hEnd ih =>
      have hRest := ih hClose
      simp only [List.length_cons]
      omega
  | case5 => simp at hClose

private theorem afterLineComment?_length
    {text rest : List Char}
    (hAfter : afterLineComment? text = some rest) :
    rest.length < text.length := by
  have hDrop :
      ∀ tail : List Char, text = '/' :: tail →
        (text.dropWhile fun c => c != '\n').length <
          text.length := by
    intro tail hText
    subst hText
    have hTail :=
      (List.dropWhile_sublist
        (fun c => c != '\n') (l := tail)).length_le
    simp only [List.dropWhile_cons, List.length_cons]
    split
    · omega
    · rename_i hSlash
      simp at hSlash
  unfold afterLineComment? at hAfter
  split at hAfter
  · simp only [Option.some.injEq] at hAfter
    exact hAfter ▸ hDrop _ rfl
  · simp at hAfter
  · simp at hAfter
  · simp only [Option.some.injEq] at hAfter
    exact hAfter ▸ hDrop _ rfl
  · simp at hAfter

private theorem afterBlockComment?_length
    {text rest : List Char}
    (hAfter : afterBlockComment? text = some rest) :
    rest.length < text.length := by
  unfold afterBlockComment? at hAfter
  split at hAfter
  · simp only [Option.some.injEq] at hAfter
    subst hAfter
    simp only [List.length_cons]
    omega
  · have hClose := closeBlock?_length hAfter
    simp only [List.length_cons] at hClose ⊢
    omega
  · simp at hAfter
  · simp at hAfter
  · have hClose := closeBlock?_length hAfter
    simp only [List.length_cons] at hClose ⊢
    omega
  · simp at hAfter

/- The text after one blank character or one comment. -/
def afterTrivium? (text : List Char) :
    Option (List Char) :=
  match text with
  | [] => none
  | c :: rest =>
      if isTriviaBlank c then
        some rest
      else
        match afterLineComment? (c :: rest) with
        | some after => some after
        | none => afterBlockComment? (c :: rest)

private theorem afterTrivium?_length
    {text rest : List Char}
    (hAfter : afterTrivium? text = some rest) :
    rest.length < text.length := by
  unfold afterTrivium? at hAfter
  split at hAfter
  · simp at hAfter
  · split at hAfter
    · simp only [Option.some.injEq] at hAfter
      subst hAfter
      exact Nat.lt_succ_self _
    · split at hAfter
      · rename_i hLine
        simp only [Option.some.injEq] at hAfter
        subst hAfter
        exact afterLineComment?_length hLine
      · exact afterBlockComment?_length hAfter

/-
  The text after all trivia at its start. It starts with a
  token, with a comment that is never closed, or not at all.
-/
def skipTrivia (text : List Char) : List Char :=
  match hAfter : afterTrivium? text with
  | none => text
  | some rest =>
      have := afterTrivium?_length hAfter
      skipTrivia rest
termination_by text.length

end Code

end ShaderBindings

------------------------------------------------------------
-- Documentation Comments
------------------------------------------------------------

namespace ShaderBindings

namespace Code

/-
  A comment that documents the thing behind it, or the thing
  around it when it is an inner one.
-/
structure Documentation where
  inner : Bool
  body : List Char
deriving DecidableEq, Repr

/- A carriage return without a line feed behind it. -/
def hasLoneReturn : List Char → Bool
| '\r' :: '\n' :: rest => hasLoneReturn rest
| '\r' :: _ => true
| _ :: rest => hasLoneReturn rest
| [] => false

/-
  A text up to the end of its line, and the text after it.
  The line end is a line feed with or without a carriage
  return before it.
-/
def splitLine : List Char → List Char × List Char
| [] => ([], [])
| '\n' :: rest => ([], '\n' :: rest)
| '\r' :: '\n' :: rest => ([], '\n' :: rest)
| c :: rest =>
    let (line, after) := splitLine rest
    (c :: line, after)

/- The body of an open block comment and the text after it. -/
def splitBlock? (text : List Char) :
    Option (List Char × List Char) :=
  match closeBlock? 1 text with
  | some rest =>
      some (text.take (text.length - rest.length - 2), rest)
  | none => none

/-
  A documentation comment at the start of a text that is no
  trivia, and the text after it.
-/
def documentation? (text : List Char) :
    Option (Documentation × List Char) :=
  let found :=
    match text with
    | '/' :: '/' :: '!' :: rest =>
        some (true, splitLine rest)
    | '/' :: '/' :: '/' :: rest =>
        some (false, splitLine rest)
    | '/' :: '*' :: '!' :: rest =>
        (splitBlock? rest).map (true, ·)
    | '/' :: '*' :: '*' :: rest =>
        (splitBlock? rest).map (false, ·)
    | _ => none
  match found with
  | some (inner, body, rest) =>
      if hasLoneReturn body then
        none
      else
        some (⟨inner, body⟩, rest)
  | none => none

end Code

end ShaderBindings
