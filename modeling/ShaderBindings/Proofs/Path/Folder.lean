import ShaderBindings.Proofs.Path.Names

/-
  The files behind a path. A file name behind a path is one
  more name, and the parent of such a file is the same for
  all names: a start of the path that has all its names.

  Key definitions include:
    * `Path.opening`
    * `Path.fileDirectory`

  Key theorems include:
    * `Path.join_inj`
    * `Path.names_join`
    * `Path.parent_join`
    * `Path.names_fileDirectory`
    * `Path.chars_fileDirectory_starts`
-/

------------------------------------------------------------
-- Files behind a Path
------------------------------------------------------------

namespace ShaderBindings

namespace Path

/- A path that a name can follow as a piece of its own. -/
def opening (path : Path) : List Char :=
  if path.isEmpty ∨ path.chars.getLast? = some '/' then
    path.chars
  else
    path.chars ++ ['/']

theorem isOpen_opening (path : Path) :
    IsOpen path.opening := by
  unfold opening
  split
  · rename_i hOpen
    rcases hOpen with hEmpty | hSlash
    · left
      simpa [isEmpty, chars] using hEmpty
    · exact Or.inr (List.getLast?_eq_some_iff.mp hSlash)
  · exact Or.inr ⟨path.chars, rfl⟩

theorem chars_join
    {name : String}
    (hName : IsPlainName name)
    (path : Path) :
    (path.join ⟨name⟩).chars =
      path.opening ++ name.toList := by
  rw [join, hName.isAbsolute, opening]
  simp only [Bool.false_eq_true, if_false]
  split
  · exact chars_ofChars _
  · rw [chars_ofChars, List.append_assoc]
    rfl

/- Plain names behind one path are told apart. -/
theorem join_inj
    {name other : String}
    {path : Path}
    (hName : IsPlainName name)
    (hOther : IsPlainName other)
    (hSame : path.join ⟨name⟩ = path.join ⟨other⟩) :
    name = other := by
  have hChars := congrArg Path.chars hSame
  rw [chars_join hName, chars_join hOther,
    List.append_cancel_left_eq] at hChars
  exact String.toList_injective hChars

/- A file name behind a path is one more name. -/
theorem names_join
    {name : String}
    (hName : IsPlainName name)
    (path : Path) :
    names (path.join ⟨name⟩).chars =
      names path.chars ++ [name] := by
  rw [names, pieces_join hName, List.filter_append,
    List.filter_cons_of_pos (by simpa using hName.not_here)]
  rfl

theorem lead_eq_self
    {cs : List Char}
    (hSlash : ∀ body, cs ≠ '/' :: body)
    (hDotSlash : ∀ body, cs ≠ '.' :: '/' :: body)
    (hDot : cs ≠ ['.']) :
    lead cs = ([], cs) := by
  unfold lead
  split
  · exact absurd rfl (hSlash _)
  · exact absurd rfl hDot
  · exact absurd rfl (hDotSlash _)
  · rfl

/-
  The start of a path is not changed by what follows, once
  there is more than the dot that it may be.
-/
theorem lead_append_of_ne
    {cs : List Char}
    (hFilled : cs ≠ [])
    (hDot : cs ≠ ['.'])
    (more : List Char) :
    lead (cs ++ more) = ((lead cs).1, (lead cs).2 ++ more) := by
  match cs with
  | [] => exact absurd rfl hFilled
  | [c] =>
      by_cases hSlash : c = '/'
      · subst hSlash
        rfl
      · have hOther : c ≠ '.' := by
          rintro rfl
          exact hDot rfl
        have hSelf (others : List Char) :
            lead (c :: others) = ([], c :: others) := by
          apply lead_eq_self
          · simp [hSlash]
          · simp [hOther]
          · simp [hOther]
        rw [hSelf []]
        exact hSelf more
  | c :: d :: rest =>
      by_cases hSlash : c = '/'
      · subst hSlash
        rfl
      · by_cases hDotSlash : c = '.' ∧ d = '/'
        · rcases hDotSlash with ⟨rfl, rfl⟩
          rfl
        · have hSelf (others : List Char) :
              lead (c :: d :: others) =
                ([], c :: d :: others) := by
            apply lead_eq_self
            · simp [hSlash]
            · simpa using hDotSlash
            · simp
          rw [hSelf rest]
          exact hSelf (rest ++ more)

/- The start of a path is not changed by a name behind it. -/
theorem lead_append
    {cs piece : List Char}
    (hOpen : IsOpen cs)
    (hPiece : IsName piece) :
    lead (cs ++ piece) = ((lead cs).1, (lead cs).2 ++ piece) := by
  rcases hOpen with rfl | ⟨before, rfl⟩
  · apply lead_eq_self
    · rintro body rfl
      simpa using hPiece.unslashed
    · rintro body rfl
      simpa using hPiece.unslashed
    · exact hPiece.not_here
  · apply lead_append_of_ne
    · simp
    · intro hDot
      simpa using congrArg List.getLast? hDot

theorem isOpen_lead
    {cs : List Char}
    (hOpen : IsOpen cs) :
    IsOpen (lead cs).2 := by
  have hChars := (lead_cases cs).1
  rcases List.eq_nil_or_concat (lead cs).2 with
    hNil | ⟨before, last, hBody⟩
  · exact Or.inl hNil
  · right
    refine ⟨before, ?_⟩
    rcases hOpen with hNil | ⟨rest, hRest⟩
    · rw [hNil] at hBody
      simp [lead] at hBody
    · have hLast := hRest.symm.trans hChars
      rw [hBody, List.concat_eq_append, ← List.append_assoc,
        List.append_singleton_inj] at hLast
      rw [hBody, List.concat_eq_append, hLast.2]

/- Nothing is cut from a name at the end of a body. -/
theorem trimEnd_append
    {piece : List Char}
    (hPiece : IsName piece)
    (before : List Char) :
    trimEnd (before ++ piece) = before ++ piece := by
  rcases hPiece with ⟨hFilled, hUnslashed, hHere⟩
  have hReversed : '/' ∉ piece.reverse := by
    simpa using hUnslashed
  have hSelf :
      trimReversed (piece.reverse ++ before.reverse) =
        piece.reverse ++ before.reverse := by
    match hChars : piece.reverse with
    | [] => exact absurd (List.reverse_eq_nil_iff.mp hChars) hFilled
    | [c] =>
        have hDot : c ≠ '.' := by
          rintro rfl
          exact hHere (List.reverse_eq_iff.mp hChars)
        have hSlash : c ≠ '/' := by
          rintro rfl
          simp [hChars] at hReversed
        simp [trimReversed, hDot, hSlash]
    | c :: d :: rest =>
        have hSlash : c ≠ '/' ∧ d ≠ '/' := by
          rw [hChars] at hReversed
          constructor
          · rintro rfl
            simp at hReversed
          · rintro rfl
            simp at hReversed
        simp [trimReversed, hSlash.1, hSlash.2]
  rw [trimEnd, List.reverse_append, hSelf, List.reverse_append,
    List.reverse_reverse, List.reverse_reverse]

/- What stands before the last slash is not changed by names. -/
theorem beforeSlash_append
    {piece : List Char}
    (hPiece : IsName piece)
    (before : List Char) :
    beforeSlash (before ++ piece) = beforeSlash before := by
  rw [beforeSlash, beforeSlash, List.reverse_append,
    List.dropWhile_append_of_pos]
  intro c hChar
  have hSlash : c ≠ '/' := by
    rintro rfl
    exact hPiece.unslashed (List.mem_reverse.mp hChar)
  simpa using hSlash

/- The directory of the files whose names follow a path. -/
def fileDirectory (path : Path) : Path :=
  ofChars
    ((lead path.opening).1 ++
      trimEnd (beforeSlash (lead path.opening).2))

/- A file behind a path is in the directory of the path. -/
theorem parent_join
    {name : String}
    (hName : IsPlainName name)
    (path : Path) :
    (path.join ⟨name⟩).parent? = some path.fileDirectory := by
  have hPiece := hName.isName
  have hFilled :
      ¬ ((lead path.opening).2 ++
        name.toList).isEmpty = true := by
    simp [hPiece.nonempty]
  unfold parent?
  rw [chars_join hName,
    lead_append (isOpen_opening path) hPiece]
  dsimp only
  rw [trimEnd_append hPiece, if_neg hFilled,
    beforeSlash_append hPiece]
  rfl

/- The directory behind a path has the names of the path. -/
theorem names_fileDirectory (path : Path) :
    names path.fileDirectory.chars = names path.chars ∧
      path.fileDirectory.isAbsolute = path.isAbsolute := by
  -- any name will do, since the directory is that of all files
  have hName : IsPlainName "file" := by
    constructor <;> decide
  have hNames := names_join hName path
  have hAbsolute := isAbsolute_join hName path
  rcases names_of_parent (parent_join hName path) with
    ⟨_, hNone, _⟩ | ⟨before, piece, hPiece, hAbove, hStart, _⟩
  · rw [hNames] at hNone
    simp at hNone
  · rw [(names_of_lastPiece hPiece).1,
      List.append_singleton_inj] at hNames
    exact ⟨hAbove.trans hNames.1, hStart.trans hAbsolute⟩

theorem beforeSlash_append_slash (before : List Char) :
    beforeSlash (before ++ ['/']) = before := by
  simp [beforeSlash]

/- The directory behind a path is a start of the path. -/
theorem chars_fileDirectory_starts (path : Path) :
    path.fileDirectory.chars <+: path.chars := by
  rcases lead_cases path.opening with ⟨hChars, hLead⟩
  rw [fileDirectory, chars_ofChars]
  rcases isOpen_lead (isOpen_opening path) with
    hNil | ⟨before, hBefore⟩
  · rw [hNil, List.append_nil] at hChars
    have hDirectory :
        (lead path.opening).1 ++
            trimEnd (beforeSlash (lead path.opening).2) =
          path.opening := by
      rw [hNil, ← hChars]
      exact List.append_nil _
    rw [hDirectory]
    unfold opening at hChars hLead ⊢
    split
    · exact List.prefix_rfl
    · rename_i hClosed
      rw [if_neg hClosed] at hChars hLead
      exfalso
      apply hClosed
      left
      have hShort : path.chars = [] := by
        rcases hLead with hSlash | ⟨hDot, _⟩ | ⟨hNone, _⟩
        · rw [hSlash] at hChars
          simpa using hChars
        · rw [hDot] at hChars
          simpa using congrArg List.getLast? hChars
        · rw [hNone] at hChars
          simp at hChars
      simpa [isEmpty, chars] using hShort
  · have hStarts :
        (lead path.opening).1 ++
            trimEnd (beforeSlash (lead path.opening).2) <+:
          (lead path.opening).1 ++ before := by
      rw [hBefore, beforeSlash_append_slash]
      exact (List.prefix_append_right_inj _).mpr
        (trimEnd_starts before)
    apply hStarts.trans
    rw [hBefore, ← List.append_assoc] at hChars
    generalize (lead path.opening).1 = start at hChars ⊢
    unfold opening at hChars
    split at hChars
    · rw [hChars]
      exact List.prefix_append _ _
    · rw [List.append_singleton_inj] at hChars
      exact hChars.1 ▸ List.prefix_rfl

end Path

end ShaderBindings
