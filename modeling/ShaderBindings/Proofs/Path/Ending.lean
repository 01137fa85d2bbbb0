import ShaderBindings.Proofs.Path.Extension
import ShaderBindings.Proofs.Path.Folder

/-
  How a path ends. Behind its last piece stand slashes and
  dots that do not count, so that the path is read off what
  stands before the piece and the piece alone. An extension
  is cut from the end of the whole path, dots and slashes
  included, yet the path with another extension is the stem
  and this extension behind what stands before, unless two
  dots are all that the cut leaves of the last piece.

  Key definitions include:
    * `Path.IsTrail`
    * `Path.EndsIn`

  Key theorems include:
    * `Path.lastPiece_append`
    * `Path.partName_append_dot`
    * `Path.exists_endsIn`
    * `Path.EndsIn.parent`
    * `Path.EndsIn.withExtension`
    * `Path.EndsIn.withExtension_dots`
-/

------------------------------------------------------------
-- Trails
------------------------------------------------------------

namespace ShaderBindings

namespace Path

/-
  What can stand behind the last piece of a path: slashes and
  pieces of one dot, which do not count.
-/
inductive IsTrail : List Char → Prop where
| nil : IsTrail []
| slash {trail : List Char} (isTrail : IsTrail trail) :
    IsTrail (trail ++ ['/'])
| dot {trail : List Char} (isTrail : IsTrail trail) :
    IsTrail (trail ++ ['/', '.'])

variable {before piece trail start body : List Char}

namespace IsTrail

/- Every start of a trail is a trail. -/
theorem of_isPrefix
    (hTrail : IsTrail trail)
    (hStarts : start <+: trail) :
    IsTrail start := by
  induction hTrail with
  | nil =>
      rw [List.prefix_nil.mp hStarts]
      exact .nil
  | slash hTrail ih =>
      rcases List.prefix_concat_iff.mp hStarts with
        rfl | hShorter
      · exact .slash hTrail
      · exact ih hShorter
  | @dot trail hTrail ih =>
      have hParts :
          trail ++ ['/', '.'] = (trail ++ ['/']) ++ ['.'] := by
        simp
      rw [hParts] at hStarts
      rcases List.prefix_concat_iff.mp hStarts with
        rfl | hShorter
      · rw [← hParts]
        exact .dot hTrail
      · rcases List.prefix_concat_iff.mp hShorter with
          rfl | hShortest
        · exact .slash hTrail
        · exact ih hShortest

/- A trail is cut from the end of every body. -/
theorem trimEnd_append
    (hTrail : IsTrail trail)
    (body : List Char) :
    trimEnd (body ++ trail) = trimEnd body := by
  induction hTrail with
  | nil => rw [List.append_nil]
  | @slash trail hTrail ih =>
      rw [← ih, ← List.append_assoc]
      simp [trimEnd, trimReversed]
  | @dot trail hTrail ih =>
      rw [← ih, ← List.append_assoc]
      simp [trimEnd, trimReversed]

/- A trail that is not empty ends in a slash or in a dot. -/
theorem exists_getLast?
    (hTrail : IsTrail trail)
    (hFilled : trail ≠ []) :
    ∃ c, trail.getLast? = some c ∧ (c = '/' ∨ c = '.') := by
  cases hTrail with
  | nil => exact absurd rfl hFilled
  | slash => exact ⟨'/', by simp, Or.inl rfl⟩
  | dot => exact ⟨'.', by simp, Or.inr rfl⟩

end IsTrail

/- What is cut from the end of a body is a trail. -/
theorem exists_trail_of_trimReversed
    {cs : List Char}
    (hKept : trimReversed cs ≠ []) :
    ∃ trail,
      IsTrail trail ∧
        cs.reverse = (trimReversed cs).reverse ++ trail := by
  fun_induction trimReversed cs with
  | case1 rest ih =>
      rcases ih hKept with ⟨trail, hTrail, hParts⟩
      refine ⟨trail ++ ['/'], .slash hTrail, ?_⟩
      rw [List.reverse_cons, hParts, List.append_assoc]
  | case2 rest ih =>
      rcases ih hKept with ⟨trail, hTrail, hParts⟩
      refine ⟨trail ++ ['/', '.'], .dot hTrail, ?_⟩
      rw [List.reverse_cons, List.reverse_cons, hParts]
      simp
  | case3 => exact absurd rfl hKept
  | case4 rest =>
      exact ⟨[], .nil, (List.append_nil _).symm⟩

theorem exists_trail_of_trimEnd
    (hKept : trimEnd body ≠ []) :
    ∃ trail, IsTrail trail ∧ body = trimEnd body ++ trail := by
  have hReversed : trimReversed body.reverse ≠ [] := by
    intro hNone
    exact hKept (by rw [trimEnd, hNone, List.reverse_nil])
  rcases exists_trail_of_trimReversed hReversed with
    ⟨trail, hTrail, hParts⟩
  rw [List.reverse_reverse] at hParts
  exact ⟨trail, hTrail, hParts⟩

end Path

end ShaderBindings

------------------------------------------------------------
-- Last Pieces
------------------------------------------------------------

namespace ShaderBindings

namespace Path

/-
  The path is a text, a last piece that can follow this text,
  and a trail.
-/
structure EndsIn
    (path : Path)
    (before piece trail : List Char) : Prop where
  isOpen : IsOpen before
  isName : IsName piece
  isTrail : IsTrail trail
  chars_eq : path.chars = before ++ piece ++ trail

variable {before piece trail : List Char}
variable {path : Path}

/- Nothing of a name stands before its last slash. -/
theorem behindSlash_append
    (hOpen : IsOpen before)
    (hUnslashed : '/' ∉ piece) :
    behindSlash (before ++ piece) = piece := by
  have hKept :
      piece.reverse.takeWhile (fun c => c != '/') =
        piece.reverse := by
    rw [List.takeWhile_eq_self_iff]
    intro c hChar
    have hSlash : c ≠ '/' := by
      rintro rfl
      exact hUnslashed (List.mem_reverse.mp hChar)
    simpa using hSlash
  have hEnd :
      before.reverse.takeWhile (fun c => c != '/') = [] := by
    rcases hOpen with rfl | ⟨rest, rfl⟩
    · rfl
    · simp
  rw [behindSlash, List.reverse_append,
    List.takeWhile_append, hKept, if_pos rfl, hEnd,
    List.append_nil, List.reverse_reverse]

/- The last piece of a path, and all before it, as they are. -/
theorem exists_endsIn
    (hPiece : path.lastPiece? = some (before, piece)) :
    ∃ trail, path.EndsIn before piece trail := by
  rcases names_of_lastPiece hPiece with
    ⟨_, hOpen, hIsName, _⟩
  have hChars := (lead_cases path.chars).1
  unfold lastPiece? at hPiece
  dsimp only at hPiece
  split at hPiece
  · cases hPiece
  · rename_i hKept
    rcases exists_trail_of_trimEnd (by simpa using hKept) with
      ⟨trail, hTrail, hBody⟩
    rcases exists_front_of_trimEnd (lead path.chars).2 with
      ⟨front, hFront, _⟩
    generalize
      behindSlash (trimEnd (lead path.chars).2) = last
        at hPiece hFront
    rw [hFront] at hPiece hBody
    simp only [List.length_append, Nat.add_sub_cancel,
      List.take_left', Option.some.injEq,
      Prod.mk.injEq] at hPiece
    rcases hPiece with ⟨rfl, rfl⟩
    refine ⟨trail, hOpen, hIsName, hTrail, ?_⟩
    rw [hBody] at hChars
    simpa using hChars

namespace EndsIn

variable (hEnds : path.EndsIn before piece trail)

include hEnds

/- The start of a path is that of what stands before. -/
theorem lead_eq :
    lead path.chars =
      ((lead before).1, (lead before).2 ++ piece ++ trail) := by
  have hNotEmpty : before ++ piece ≠ [] := by
    simp [hEnds.isName.nonempty]
  have hNotDot : before ++ piece ≠ ['.'] := by
    intro hDot
    rcases hEnds.isOpen with rfl | ⟨rest, rfl⟩
    · exact hEnds.isName.not_here hDot
    · have hFilled :=
        List.length_pos_iff.mpr hEnds.isName.nonempty
      have hLength := congrArg List.length hDot
      simp only [List.length_append,
        List.length_singleton] at hLength
      omega
  rw [hEnds.chars_eq, lead_append_of_ne hNotEmpty hNotDot,
    lead_append hEnds.isOpen hEnds.isName]

theorem trimEnd_body :
    trimEnd ((lead before).2 ++ piece ++ trail) =
      (lead before).2 ++ piece := by
  rw [hEnds.isTrail.trimEnd_append,
    trimEnd_append hEnds.isName]

/- The last piece is found in front of the trail. -/
theorem lastPiece : path.lastPiece? = some (before, piece) := by
  have hPart :
      behindSlash ((lead before).2 ++ piece) = piece :=
    behindSlash_append (isOpen_lead hEnds.isOpen)
      hEnds.isName.unslashed
  unfold lastPiece?
  rw [hEnds.lead_eq]
  dsimp only
  rw [hEnds.trimEnd_body, hPart,
    if_neg (by simp [hEnds.isName.nonempty]),
    List.length_append, Nat.add_sub_cancel, List.take_left,
    ← (lead_cases before).1]

/- The parent depends on what stands before the last piece. -/
theorem parent :
    path.parent? =
      some
        (ofChars
          ((lead before).1 ++
            trimEnd (beforeSlash (lead before).2))) := by
  unfold parent?
  rw [hEnds.lead_eq]
  dsimp only
  rw [hEnds.trimEnd_body,
    if_neg (by simp [hEnds.isName.nonempty]),
    beforeSlash_append hEnds.isName]

/- The last piece is the name of a file, unless it leads up. -/
theorem fileName
    (hAbove : piece ≠ ['.', '.']) :
    path.fileName? = some piece := by
  rw [fileName?, hEnds.lastPiece]
  exact if_neg hAbove

end EndsIn

/- A name behind an open text is the last piece of the two. -/
theorem endsIn_append
    (hOpen : IsOpen before)
    (hPiece : IsName piece) :
    (ofChars (before ++ piece)).EndsIn before piece [] where
  isOpen := hOpen
  isName := hPiece
  isTrail := .nil
  chars_eq := by rw [chars_ofChars, List.append_nil]

end Path

end ShaderBindings

------------------------------------------------------------
-- Extensions Cut from the End
------------------------------------------------------------

namespace ShaderBindings

namespace Path

variable {before trail stem extension other : List Char}
variable {path : Path}

/- A name is parted where its last dot stands. -/
theorem partName_append_dot
    (hStem : stem ≠ [])
    (hExtension : '.' ∉ extension) :
    partName (stem ++ '.' :: extension) =
      (stem, some extension) := by
  have hTaken :
      (stem ++ '.' :: extension).reverse.takeWhile
          (fun c => c != '.') =
        extension.reverse := by
    have hOther :
        ∀ c ∈ extension.reverse, (c != '.') = true := by
      intro c hChar
      have hDot : c ≠ '.' := by
        rintro rfl
        exact hExtension (List.mem_reverse.mp hChar)
      simpa using hDot
    rw [List.reverse_append, List.reverse_cons,
      List.append_assoc, List.takeWhile_append_of_pos hOther]
    simp
  have hLength :
      (stem ++ '.' :: extension).length - extension.length -
          1 =
        stem.length := by
    rw [List.length_append, List.length_cons]
    omega
  unfold partName
  dsimp only
  rw [hTaken, List.reverse_reverse, hLength, List.take_left,
    if_neg]
  rintro (hWhole | hNone)
  · rw [List.length_append, List.length_cons] at hWhole
    omega
  · exact hStem hNone

namespace EndsIn

variable
  (hEnds : path.EndsIn before (stem ++ '.' :: extension) trail)

include hEnds

/- Neither the stem nor the extension holds a slash. -/
theorem slash_not_mem : '/' ∉ stem ∧ '/' ∉ extension := by
  have hUnslashed := hEnds.isName.unslashed
  simp only [List.mem_append, List.mem_cons,
    not_or] at hUnslashed
  exact ⟨hUnslashed.1, hUnslashed.2.2⟩

/- The stem of a last piece is that of its path. -/
theorem stem_eq
    (hStem : stem ≠ [])
    (hExtension : '.' ∉ extension)
    (hAbove : stem ++ '.' :: extension ≠ ['.', '.']) :
    path.stem? = some stem := by
  rw [stem?, hEnds.fileName hAbove, Option.map_some,
    partName_append_dot hStem hExtension]

theorem extension_eq
    (hStem : stem ≠ [])
    (hExtension : '.' ∉ extension)
    (hAbove : stem ++ '.' :: extension ≠ ['.', '.']) :
    path.extension? = some extension := by
  rw [extension?, hEnds.fileName hAbove, Option.bind_some,
    partName_append_dot hStem hExtension]

theorem setExtension
    (hStem : stem ≠ [])
    (hExtension : '.' ∉ extension)
    (hAbove : stem ++ '.' :: extension ≠ ['.', '.']) :
    path.setExtension other =
      ofChars (before ++ stem ++ '.' :: other) := by
  rw [Path.setExtension, hEnds.lastPiece,
    hEnds.stem_eq hStem hExtension hAbove]

/-
  What is left when as many characters are cut from the end
  as the extension has: the trail goes first, and only as
  much of the extension as the trail is too short.
-/
theorem cut
    (hStem : stem ≠ []) :
    (ofChars
      (path.chars.take
        (path.chars.length - extension.length))).EndsIn before
      (stem ++ '.' :: extension.take trail.length)
      (trail.take (trail.length - extension.length)) where
  isOpen := hEnds.isOpen
  isName :=
    isName_append_dot hStem hEnds.slash_not_mem.1
      fun hSlash =>
        hEnds.slash_not_mem.2 (List.mem_of_mem_take hSlash)
  isTrail := hEnds.isTrail.of_isPrefix (List.take_prefix _ _)
  chars_eq := by
    have hWhole :
        path.chars =
          (before ++ stem ++ ['.']) ++ (extension ++ trail) := by
      rw [hEnds.chars_eq]
      simp
    have hLength :
        path.chars.length - extension.length =
          (before ++ stem ++ ['.']).length + trail.length := by
      rw [hWhole]
      simp only [List.length_append]
      omega
    rw [chars_ofChars, hLength, hWhole,
      List.take_length_add_append, List.take_append]
    simp

/-
  A path with another extension has the same stem behind the
  same text, as long as what is left of its last piece does
  not lead up.
-/
theorem withExtension
    (hStem : stem ≠ [])
    (hExtension : '.' ∉ extension)
    (hAbove : stem ++ '.' :: extension ≠ ['.', '.'])
    (hKept :
      stem ++ '.' :: extension.take trail.length ≠
        ['.', '.']) :
    path.withExtension other =
      ofChars (before ++ stem ++ '.' :: other) := by
  have hLeft : '.' ∉ extension.take trail.length := by
    intro hDot
    exact hExtension (List.mem_of_mem_take hDot)
  rw [Path.withExtension,
    hEnds.extension_eq hStem hExtension hAbove]
  exact (hEnds.cut hStem).setExtension hStem hLeft hKept

end EndsIn

namespace EndsIn

/- Two dots that are left of a last piece stay, and lead up. -/
theorem withExtension_dots
    (hEnds : path.EndsIn before ('.' :: '.' :: extension) [])
    (hFilled : extension ≠ [])
    (hExtension : '.' ∉ extension) :
    path.withExtension other =
      ofChars (before ++ ['.', '.']) := by
  have hParted :
      path.EndsIn before (['.'] ++ '.' :: extension) [] :=
    hEnds
  have hAbove : ['.'] ++ '.' :: extension ≠ ['.', '.'] := by
    simpa using hFilled
  have hCut := hParted.cut (by simp)
  rw [Path.withExtension,
    hParted.extension_eq (by simp) hExtension hAbove]
  dsimp only
  rw [Path.setExtension, stem?, fileName?, hCut.lastPiece,
    ← ofChars_chars (ofChars (path.chars.take _)),
    hCut.chars_eq]
  simp

end EndsIn

end Path

end ShaderBindings
