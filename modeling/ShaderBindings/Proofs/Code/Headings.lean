import Mathlib.Data.List.TakeWhile
import ShaderBindings.Code.Document

/-
  The headings of functions in a text of code. They are read
  line by line, and a line without one is settled by its
  first word: once a character has been written that no
  heading starts with, nothing behind it on the line makes a
  heading of it.

  Key definitions include:
    * `headingName?`
    * `headings`
    * `functionNames`
    * `Settled`
    * `Open`
    * `Settles`

  Key theorems include:
    * `headings_append_newline`
    * `Open.settled`
    * `settled_heading`
-/

------------------------------------------------------------
-- Headings
------------------------------------------------------------

namespace ShaderBindings

namespace Code

/- The name of the function that a line is the heading of. -/
def headingName? (line : List Char) : Option (List Char) :=
  match line.dropWhile fun c => c == ' ' with
  | 'f' :: 'n' :: ' ' :: rest =>
      some (rest.takeWhile fun c => c != '(')
  | 'p' :: 'u' :: 'b' :: ' ' :: 'f' :: 'n' :: ' ' :: rest =>
      some (rest.takeWhile fun c => c != '(')
  | _ => none

/- The names in the headings of functions, line by line. -/
def headings (code : List Char) : List (List Char) :=
  (code.splitOn '\n').filterMap headingName?

/- The names of the functions whose headings code has. -/
def functionNames (code : String) : List String :=
  (headings code.toList).map String.ofList

/- A line has at most one heading. -/
theorem headings_line
    {line : List Char}
    (hLine : '\n' ∉ line) :
    headings line = (headingName? line).toList := by
  have hSingle : line.splitOn '\n' = [line] := by
    rw [List.splitOn_eq_splitOnP]
    apply List.splitOnP_eq_singleton
    intro c hMember
    rw [beq_eq_false_iff_ne]
    rintro rfl
    exact hLine hMember
  rw [headings, hSingle, List.filterMap_cons,
    List.filterMap_nil]
  cases headingName? line with
  | none => rfl
  | some name => rfl

/- The lines before a newline and behind it are apart. -/
theorem headings_append_newline
    (before behind : List Char) :
    headings (before ++ '\n' :: behind) =
      headings before ++ headings behind := by
  rw [headings, List.splitOn_eq_splitOnP,
    List.splitOnP_append_cons before behind (by simp),
    List.filterMap_append]
  rfl

end Code

end ShaderBindings

------------------------------------------------------------
-- First Words
------------------------------------------------------------

namespace ShaderBindings

namespace Code

/- A character that no word before a name is made of. -/
def isMark (c : Char) : Bool :=
  !(['p', 'u', 'b', 'f', 'n', ' ', '\n'].contains c)

/- Blanks in front of a line do not matter. -/
theorem headingName?_blanks
    (count : Nat)
    (line : List Char) :
    headingName? (List.replicate count ' ' ++ line) =
      headingName? line := by
  have hDropped :
      (List.replicate count ' ' ++ line).dropWhile
          (fun c => c == ' ') =
        line.dropWhile fun c => c == ' ' := by
    rw [List.dropWhile_append_of_pos (by simp)]
  unfold headingName?
  rw [hDropped]

/- A line that starts with no blank is read as it is. -/
theorem dropWhile_blank
    {line : List Char}
    (hHead : line.head? ≠ some ' ') :
    (line.dropWhile fun c => c == ' ') = line := by
  cases line with
  | nil => rfl
  | cons c rest =>
      apply List.dropWhile_cons_of_neg
      simpa using hHead

/- A first word is no heading. -/
theorem headingName?_word
    {word : List Char}
    (hWord : ' ' ∉ word) :
    headingName? word = none := by
  unfold headingName?
  rw [dropWhile_blank fun hHead =>
    hWord (List.mem_of_head? hHead)]
  split
  · simp at hWord
  · simp at hWord
  · rfl

/-
  A mark before the first blank is none of the characters
  that a heading has there.
-/
theorem mark_mem_of_append_eq
    {start rest word behind : List Char}
    {mark : Char}
    (hWord : ' ' ∉ word)
    (hMark : mark ≠ ' ')
    (hSame : start ++ ' ' :: rest = word ++ mark :: behind) :
    mark ∈ start := by
  induction start generalizing word with
  | nil =>
      cases word with
      | nil =>
          cases hSame
          exact absurd rfl hMark
      | cons c others =>
          cases hSame
          exact absurd List.mem_cons_self hWord
  | cons first start ih =>
      cases word with
      | nil =>
          cases hSame
          exact List.mem_cons_self
      | cons c others =>
          rcases List.cons_eq_cons.mp hSame with ⟨rfl, hRest⟩
          apply List.mem_cons_of_mem
          apply ih ?_ hRest
          exact fun hBlank =>
            hWord (List.mem_cons_of_mem first hBlank)

/- A first word with a mark starts no heading. -/
theorem headingName?_mark
    {word behind : List Char}
    {mark : Char}
    (hWord : ' ' ∉ word)
    (hMark : isMark mark = true) :
    headingName? (word ++ mark :: behind) = none := by
  have hOther :
      mark ∉ ['p', 'u', 'b', 'f', 'n', ' ', '\n'] := by
    simpa [isMark] using hMark
  have hBlank : mark ≠ ' ' := by
    rintro rfl
    simp at hOther
  have hHead :
      (word ++ mark :: behind).head? ≠ some ' ' := by
    cases word with
    | nil => simpa using hBlank
    | cons c rest =>
        rintro hFirst
        cases hFirst
        exact hWord List.mem_cons_self
  unfold headingName?
  rw [dropWhile_blank hHead]
  split
  · rename_i rest hSame
    have hMember : mark ∈ ['f', 'n'] :=
      mark_mem_of_append_eq hWord hBlank hSame.symm
    simp at hMember hOther
    grind
  · rename_i rest hSame
    have hMember : mark ∈ ['p', 'u', 'b'] :=
      mark_mem_of_append_eq hWord hBlank hSame.symm
    simp at hMember hOther
    grind
  · rfl

/- A mark behind the word that makes an item public. -/
theorem headingName?_public
    {rest : List Char}
    {mark : Char}
    (hMark : isMark mark = true) :
    headingName? ("pub ".toList ++ mark :: rest) = none := by
  have hOther : mark ≠ 'f' := by
    rintro rfl
    cases hMark
  unfold headingName?
  rw [dropWhile_blank (by simp)]
  split
  · rename_i hSame
    cases hSame
  · rename_i hSame
    cases hSame
    exact absurd rfl hOther
  · rfl

end Code

end ShaderBindings

------------------------------------------------------------
-- Settled Lines
------------------------------------------------------------

namespace ShaderBindings

namespace Code

/-
  Whatever else is written on its last line, a text has these
  headings.
-/
def Settled
    (names : List (List Char))
    (text : List Char) : Prop :=
  ∀ more, '\n' ∉ more → headings (text ++ more) = names

/-
  A text has these headings, and will have no others on its
  last line once a mark is written there. Until then the line
  may go on with a word.
-/
def Open
    (names : List (List Char))
    (text : List Char) : Prop :=
  ∀ word, '\n' ∉ word → ' ' ∉ word →
    headings (text ++ word) = names ∧
      ∀ mark, isMark mark = true →
        Settled names (text ++ word ++ [mark])

variable {names : List (List Char)}
variable {text more : List Char}

theorem Settled.append
    (hSettled : Settled names text)
    (hMore : '\n' ∉ more) :
    Settled names (text ++ more) := by
  intro rest hRest
  rw [List.append_assoc]
  apply hSettled
  simp [hMore, hRest]

theorem isMark_ne_newline
    {mark : Char}
    (hMark : isMark mark = true) :
    mark ≠ '\n' := by
  rintro rfl
  cases hMark

/- A settled line may go on with anything. -/
theorem Settled.open
    (hSettled : Settled names text) :
    Open names text := by
  intro word hLine _
  refine ⟨hSettled word hLine, ?_⟩
  intro mark hMark
  rw [List.append_assoc]
  apply hSettled.append
  simpa [hLine] using (isMark_ne_newline hMark).symm

theorem Open.headings_eq
    (hOpen : Open names text) :
    headings text = names := by
  have hEmpty := (hOpen [] (by simp) (by simp)).1
  rwa [List.append_nil] at hEmpty

/- A word keeps a line open. -/
theorem Open.append
    (hOpen : Open names text)
    (hLine : '\n' ∉ more)
    (hWord : ' ' ∉ more) :
    Open names (text ++ more) := by
  intro word hWordLine hWordBlank
  rw [List.append_assoc]
  apply hOpen
  · simp [hLine, hWordLine]
  · simp [hWord, hWordBlank]

/- A text that is a word up to some mark. -/
def IsMarked (text : List Char) : Prop :=
  ∃ word mark rest,
    text = word ++ mark :: rest ∧
      ' ' ∉ word ∧ isMark mark = true

/- A text of one line that has a mark in its first word. -/
structure Settles (text : List Char) : Prop where
  line : '\n' ∉ text
  marked : IsMarked text

/- A text still settles when its line goes on. -/
theorem Settles.append
    (hText : Settles text)
    (hMore : '\n' ∉ more) :
    Settles (text ++ more) := by
  rcases hText.marked with ⟨word, mark, rest, hSame, hMark⟩
  refine ⟨by simp [hText.line, hMore], ?_⟩
  exact ⟨word, mark, rest ++ more, by simp [hSame], hMark⟩

/- Whether a text settles can be read off. -/
def isSettling (text : List Char) : Bool :=
  !text.contains '\n' &&
    (text.takeWhile fun c => c != ' ').any isMark

theorem settles_of_isSettling
    (hText : isSettling text = true) :
    Settles text := by
  rcases Bool.and_eq_true_iff.mp hText with ⟨hLine, hAny⟩
  rcases List.any_eq_true.mp hAny with ⟨mark, hMark, hIs⟩
  rcases List.append_of_mem hMark with ⟨word, rest, hWord⟩
  refine ⟨by simpa using hLine, word, mark,
    rest ++ text.dropWhile fun c => c != ' ', ?_, ?_, hIs⟩
  · rw [← List.cons_append, ← List.append_assoc, ← hWord,
      List.takeWhile_append_dropWhile]
  · intro hBlank
    have hTaken :
        ' ' ∈ text.takeWhile fun c => c != ' ' := by
      rw [hWord]
      exact List.mem_append_left _ hBlank
    simpa using List.mem_takeWhile_imp hTaken

/- A mark settles an open line. -/
theorem Open.settled
    (hOpen : Open names text)
    (hMore : Settles more) :
    Settled names (text ++ more) := by
  rcases hMore with
    ⟨hLine, word, mark, rest, rfl, hWord, hMark⟩
  simp only [List.mem_append, List.mem_cons, not_or] at hLine
  have hSettled := (hOpen word hLine.1 hWord).2 mark hMark
  have hSame :
      text ++ (word ++ mark :: rest) =
        text ++ word ++ [mark] ++ rest := by
    simp
  rw [hSame]
  exact hSettled.append hLine.2.2

/- A line that holds only blanks is open. -/
theorem Open.blanks (count : Nat) :
    Open [] (List.replicate count ' ') := by
  intro word hLine hWord
  constructor
  · rw [headings_line (by simp [hLine]), headingName?_blanks,
      headingName?_word hWord]
    rfl
  · intro mark hMark rest hRest
    have hNewline := isMark_ne_newline hMark
    have hSame :
        List.replicate count ' ' ++ word ++ [mark] ++ rest =
          List.replicate count ' ' ++
            (word ++ mark :: rest) := by
      simp
    rw [hSame,
      headings_line (by simp [hLine, hRest, hNewline.symm]),
      headingName?_blanks, headingName?_mark hWord hMark]
    rfl

/- An open line stays open behind other lines. -/
theorem Open.newline
    {line : List Char}
    (hText : headings text = names)
    (hLine : Open [] line) :
    Open names (text ++ '\n' :: line) := by
  intro word hWordLine hWordBlank
  have hHere := hLine word hWordLine hWordBlank
  constructor
  · rw [List.append_assoc, List.cons_append,
      headings_append_newline, hText, hHere.1,
      List.append_nil]
  · intro mark hMark rest hRest
    have hSame :
        text ++ '\n' :: line ++ word ++ [mark] ++ rest =
          text ++ '\n' :: (line ++ word ++ [mark] ++ rest) := by
      simp
    rw [hSame, headings_append_newline, hText,
      hHere.2 mark hMark rest hRest, List.append_nil]

/- A public item that is no function has no heading. -/
theorem settled_public
    {rest : List Char}
    {mark : Char}
    (hLine : '\n' ∉ rest)
    (hMark : isMark mark = true)
    (count : Nat) :
    Settled []
      (List.replicate count ' ' ++
        ("pub ".toList ++ mark :: rest)) := by
  intro more hMore
  have hNewline := isMark_ne_newline hMark
  rw [List.append_assoc, List.append_assoc, List.cons_append,
    headings_line
      (by simp [hLine, hMore, hNewline.symm]),
    headingName?_blanks, headingName?_public hMark]
  rfl

/- A heading is settled by the bracket behind its name. -/
theorem settled_heading
    {start name : List Char}
    (hStart :
      start = "fn ".toList ∨ start = "pub fn ".toList)
    (hLine : '\n' ∉ name)
    (hName : '(' ∉ name)
    (count : Nat) :
    Settled [name]
      (List.replicate count ' ' ++ start ++ name ++ ['(']) := by
  intro more hMore
  have hStartLine : '\n' ∉ start := by
    rcases hStart with rfl | rfl
    · decide
    · decide
  have hTaken :
      ((name ++ '(' :: more).takeWhile fun c => c != '(') =
        name := by
    rw [List.takeWhile_append_of_pos, List.takeWhile_cons_of_neg,
      List.append_nil]
    · simp
    · intro c hMember
      rw [bne_iff_ne]
      rintro rfl
      exact hName hMember
  have hSame :
      List.replicate count ' ' ++ start ++ name ++ ['('] ++
          more =
        List.replicate count ' ' ++
          (start ++ (name ++ '(' :: more)) := by
    simp
  rw [hSame,
    headings_line (by simp [hStartLine, hLine, hMore]),
    headingName?_blanks]
  have hHeading :
      headingName? (start ++ (name ++ '(' :: more)) =
        some name := by
    rcases hStart with rfl | rfl
    · change some (List.takeWhile _ (name ++ '(' :: more)) = _
      rw [hTaken]
    · change some (List.takeWhile _ (name ++ '(' :: more)) = _
      rw [hTaken]
  rw [hHeading]
  rfl

end Code

end ShaderBindings
