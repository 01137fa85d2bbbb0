import Mathlib.Data.List.TakeWhile
import ShaderBindings.Proofs.Path.Destination

/-
  The names on a path: its pieces without those of one dot,
  which lead nowhere. Where a path leads to depends on its
  names only. The parent of a path has all its names but the
  last one, and every path above it has first names of it.

  Key definitions include:
    * `Path.names`
    * `Path.IsName`
    * `Path.IsOpen`

  Key theorems include:
    * `Path.destination_eq_foldl_names`
    * `Path.names_of_lastPiece`
    * `Path.names_of_fileName`
    * `Path.names_of_parent`
    * `Path.destination_of_mem_ancestors`
-/

------------------------------------------------------------
-- Names
------------------------------------------------------------

namespace ShaderBindings

namespace Path

/- The pieces of a text that lead somewhere. -/
def names (cs : List Char) : List String :=
  (pieces cs).filter fun piece => piece ≠ "."

@[simp] theorem names_nil : names [] = [] :=
  rfl

@[simp] theorem names_dot : names ['.'] = [] :=
  rfl

theorem names_append_slash
    (before behind : List Char) :
    names (before ++ '/' :: behind) =
      names before ++ names behind := by
  rw [names, pieces_append_slash, List.filter_append]
  rfl

theorem names_slash_cons (body : List Char) :
    names ('/' :: body) = names body :=
  names_append_slash [] body

/- A slash at the end adds no name. -/
theorem names_append_singleton_slash (before : List Char) :
    names (before ++ ['/']) = names before := by
  rw [names_append_slash, names_nil, List.append_nil]

/- A piece that leads somewhere. -/
structure IsName (piece : List Char) : Prop where
  nonempty : piece ≠ []
  unslashed : '/' ∉ piece
  not_here : piece ≠ ['.']

/- Two dots are a name, though not the one of a file. -/
theorem isName_dots : IsName ['.', '.'] := by
  constructor <;> decide

theorem IsPlainName.isName
    {name : String}
    (hName : IsPlainName name) :
    IsName name.toList where
  nonempty := hName.nonempty
  unslashed := hName.unslashed
  not_here := by
    intro hHere
    apply hName.not_here
    exact String.toList_injective hHere

theorem eq_toList_of_ofList
    {cs : List Char}
    {text : String}
    (hText : String.ofList cs = text) :
    cs = text.toList := by
  rw [← hText, String.toList_ofList]

theorem IsName.names
    {piece : List Char}
    (hPiece : IsName piece) :
    Path.names piece = [String.ofList piece] := by
  have hHere : String.ofList piece ≠ "." := by
    intro hDot
    exact hPiece.not_here (eq_toList_of_ofList hDot)
  rw [Path.names, Path.pieces,
    splitSlashes_of_unslashed hPiece.unslashed]
  simp [hPiece.nonempty, hHere]

/- A piece that leads neither here nor up is a plain name. -/
theorem IsName.isPlainName
    {piece : List Char}
    (hPiece : IsName piece)
    (hAbove : piece ≠ ['.', '.']) :
    IsPlainName (String.ofList piece) where
  nonempty := by
    rw [String.toList_ofList]
    exact hPiece.nonempty
  unslashed := by
    rw [String.toList_ofList]
    exact hPiece.unslashed
  not_here := by
    intro hHere
    exact hPiece.not_here (eq_toList_of_ofList hHere)
  not_above := by
    intro hDots
    exact hAbove (eq_toList_of_ofList hDots)

/-
  Where a path leads to depends on its names only, apart from
  the place where it starts.
-/
theorem destination_eq_foldl_names
    (home : Location)
    (path : Path) :
    path.destination home =
      (names path.chars).foldl Location.step
        (if path.isAbsolute then [] else home) := by
  have hStep :
      (fun here piece =>
          if decide (piece ≠ ".") then
            Location.step here piece
          else
            here) = Location.step := by
    funext here piece
    by_cases hHere : piece = "."
    · simp [Location.step, hHere]
    · simp [hHere]
  rw [destination, foldl_steps, names, List.foldl_filter,
    hStep]

/- A plain name at the end of a path leads right below. -/
theorem exists_destination_of_names
    {path : Path}
    {first : List String}
    {name : String}
    (hNames : names path.chars = first ++ [name])
    (hPlain : IsPlainName name)
    (home : Location) :
    ∃ above, path.destination home = above ++ [name] := by
  rw [destination_eq_foldl_names, hNames, List.foldl_append]
  exact ⟨_, hPlain.step _⟩

/- The steps of a path that lead somewhere are its names. -/
theorem filter_steps (path : Path) :
    path.steps.filter (fun step => step ≠ ".") =
      names path.chars := by
  change
    (pieces path.chars ++
      (if path.chars.getLast? = some '/' then
        ["."]
      else
        [])).filter (fun step => step ≠ ".") = _
  rw [List.filter_append]
  split
  · exact List.append_nil _
  · exact List.append_nil _

/- A path leads up by its steps when it does by its names. -/
theorem up_mem_steps_iff (path : Path) :
    ".." ∈ path.steps ↔ ".." ∈ names path.chars := by
  rw [← filter_steps, List.mem_filter]
  simp

/- No piece between slashes holds one. -/
theorem unslashed_of_mem_splitSlashes
    {cs piece : List Char}
    (hPiece : piece ∈ splitSlashes cs) :
    '/' ∉ piece := by
  induction cs generalizing piece with
  | nil =>
      rw [splitSlashes, List.mem_singleton] at hPiece
      simp [hPiece]
  | cons c rest ih =>
      rw [splitSlashes] at hPiece
      split at hPiece
      · rcases List.mem_cons.mp hPiece with rfl | hRest
        · simp
        · exact ih hRest
      · rename_i hHead
        split at hPiece
        · rename_i hNone
          exact absurd hNone (splitSlashes_ne_nil rest)
        · rename_i first others hRest
          rcases List.mem_cons.mp hPiece with rfl | hOther
          · have hFirst : '/' ∉ first :=
              ih (by rw [hRest]; exact List.mem_cons_self)
            simp [Ne.symm hHead, hFirst]
          · apply ih
            rw [hRest]
            exact List.mem_cons_of_mem _ hOther

/- Every name on a path could be a piece of its own. -/
theorem isName_of_mem_names
    {cs : List Char}
    {name : String}
    (hName : name ∈ names cs) :
    IsName name.toList := by
  rcases List.mem_filter.mp hName with ⟨hPiece, hHere⟩
  rcases List.mem_map.mp hPiece with ⟨piece, hSplit, rfl⟩
  rcases List.mem_filter.mp hSplit with ⟨hPiece, hFilled⟩
  rw [String.toList_ofList]
  exact {
    nonempty := by simpa using hFilled
    unslashed := unslashed_of_mem_splitSlashes hPiece
    not_here := by
      rintro rfl
      simp at hHere }

end Path

end ShaderBindings

------------------------------------------------------------
-- Last Pieces
------------------------------------------------------------

namespace ShaderBindings

namespace Path

/- A text that a name can follow as a piece of its own. -/
def IsOpen (cs : List Char) : Prop :=
  cs = [] ∨ ∃ before, cs = before ++ ['/']

theorem IsOpen.append
    {cs : List Char}
    (hOpen : IsOpen cs)
    (before : List Char)
    (hBefore : cs = [] → IsOpen before) :
    IsOpen (before ++ cs) := by
  rcases hOpen with rfl | ⟨rest, rfl⟩
  · rw [List.append_nil]
    exact hBefore rfl
  · exact Or.inr ⟨before ++ rest, by rw [List.append_assoc]⟩

/- A piece behind an open text is one more name. -/
theorem names_append
    {before piece : List Char}
    (hOpen : IsOpen before)
    (hPiece : IsName piece) :
    names (before ++ piece) =
      names before ++ [String.ofList piece] := by
  rcases hOpen with rfl | ⟨rest, rfl⟩
  · exact hPiece.names
  · rw [List.append_assoc, List.singleton_append,
      names_append_slash, hPiece.names,
      names_append_singleton_slash]

/-
  What is cut from the end of a body adds no name. What is
  left does not end in a slash, nor in a piece of one dot.
-/
theorem trimReversed_cases (cs : List Char) :
    names (trimReversed cs).reverse = names cs.reverse ∧
      trimReversed cs <:+ cs ∧
      (∀ rest, trimReversed cs ≠ '/' :: rest) ∧
      (∀ rest, trimReversed cs ≠ '.' :: '/' :: rest) ∧
      trimReversed cs ≠ ['.'] := by
  fun_induction trimReversed cs with
  | case1 rest ih =>
      rcases ih with ⟨hNames, hSuffix, hKept⟩
      refine ⟨?_, hSuffix.trans (List.suffix_cons _ _), hKept⟩
      rw [hNames, List.reverse_cons,
        names_append_singleton_slash]
  | case2 rest ih =>
      rcases ih with ⟨hNames, hSuffix, hKept⟩
      refine ⟨?_, ?_, hKept⟩
      · rw [hNames, List.reverse_cons, List.reverse_cons,
          List.append_assoc, List.singleton_append,
          names_append_slash, names_dot, List.append_nil]
      · exact hSuffix.trans
          ((List.suffix_cons _ _).trans (List.suffix_cons _ _))
  | case3 => simp
  | case4 rest hSlash hDot hHere =>
      exact ⟨rfl, List.suffix_rfl, hSlash, hDot, hHere⟩

theorem names_trimEnd (body : List Char) :
    names (trimEnd body) = names body := by
  rw [trimEnd, (trimReversed_cases body.reverse).1,
    List.reverse_reverse]

theorem trimEnd_starts (body : List Char) :
    trimEnd body <+: body := by
  rw [trimEnd, ← List.reverse_suffix, List.reverse_reverse]
  exact (trimReversed_cases body.reverse).2.1

/- Nothing behind the last slash is a slash. -/
theorem slash_not_mem_behindSlash (body : List Char) :
    '/' ∉ behindSlash body := by
  intro hSlash
  have hTaken :=
    List.mem_takeWhile_imp (List.mem_reverse.mp hSlash)
  simp at hTaken

/-
  A text is what stands behind its last slash, with what
  stands before that slash, and the slash itself.
-/
theorem eq_append_behindSlash (body : List Char) :
    (beforeSlash body = [] ∧ body = behindSlash body) ∨
      body =
        (beforeSlash body ++ ['/']) ++ behindSlash body := by
  have hParts :=
    List.takeWhile_append_dropWhile
      (p := fun c => c != '/') (l := body.reverse)
  cases hDropped :
      body.reverse.dropWhile fun c => c != '/' with
  | nil =>
      rw [hDropped, List.append_nil] at hParts
      left
      rw [beforeSlash, behindSlash, hDropped, hParts]
      simp
  | cons c rest =>
      have hSlash : c = '/' := by
        have hHead :=
          List.head?_dropWhile_not
            (fun c => c != '/') body.reverse
        rw [hDropped] at hHead
        simpa using hHead
      right
      rw [beforeSlash, behindSlash, hDropped]
      have hBody := congrArg List.reverse hParts
      rw [hDropped, hSlash, List.reverse_append,
        List.reverse_reverse] at hBody
      rw [List.drop_one, List.tail_cons, ← List.reverse_cons]
      exact hBody.symm

/- The last piece of a trimmed body is a name. -/
theorem isName_behindSlash_trimEnd
    {body : List Char}
    (hKept : trimEnd body ≠ []) :
    IsName (behindSlash (trimEnd body)) := by
  rcases trimReversed_cases body.reverse with
    ⟨_, _, hSlash, hDot, hHere⟩
  rw [trimEnd, ne_eq, List.reverse_eq_nil_iff] at hKept
  have hReversed :
      (trimEnd body).reverse = trimReversed body.reverse := by
    rw [trimEnd, List.reverse_reverse]
  have hPiece :
      behindSlash (trimEnd body) =
        ((trimReversed body.reverse).takeWhile
          fun c => c != '/').reverse := by
    rw [behindSlash, hReversed]
  generalize trimReversed body.reverse = kept
    at hSlash hDot hHere hKept hPiece
  refine ⟨?_, slash_not_mem_behindSlash _, ?_⟩
  · intro hEmpty
    cases kept with
    | nil => exact hKept rfl
    | cons c rest =>
        by_cases hHead : c = '/'
        · exact hSlash rest (by rw [hHead])
        · simp [hPiece, hHead] at hEmpty
  · intro hDotted
    rw [hPiece, List.reverse_eq_iff] at hDotted
    have hParts :=
      List.takeWhile_append_dropWhile
        (p := fun c => c != '/') (l := kept)
    rw [hDotted] at hParts
    cases hDropped : kept.dropWhile fun c => c != '/' with
    | nil =>
        rw [hDropped] at hParts
        exact hHere hParts.symm
    | cons c rest =>
        have hHead :=
          List.head?_dropWhile_not (fun c => c != '/') kept
        rw [hDropped] at hHead hParts
        have hStop : c = '/' := by simpa using hHead
        rw [hStop] at hParts
        exact hDot rest hParts.symm

/-
  The start of a path that counts by itself is a slash, a
  dot before a slash or at the end, or nothing.
-/
theorem lead_cases (cs : List Char) :
    cs = (lead cs).1 ++ (lead cs).2 ∧
      ((lead cs).1 = ['/'] ∨
        ((lead cs).1 = ['.'] ∧
          ∀ c rest, (lead cs).2 = c :: rest → c = '/') ∨
        ((lead cs).1 = [] ∧ cs.head? ≠ some '/')) := by
  unfold lead
  split
  · simp
  · simp
  · refine ⟨rfl, Or.inr (Or.inl ⟨rfl, ?_⟩)⟩
    rintro c rest hBody
    cases hBody
    rfl
  · rename_i hSlash _ _
    refine ⟨rfl, Or.inr (Or.inr ⟨rfl, ?_⟩)⟩
    intro hHead
    cases cs with
    | nil => cases hHead
    | cons c rest =>
        cases hHead
        exact hSlash rest rfl

/- The start of a path adds no name. -/
theorem names_lead_append
    {cs behind : List Char}
    (hBehind : behind <+: (lead cs).2) :
    names ((lead cs).1 ++ behind) = names behind := by
  rcases (lead_cases cs).2 with
    hSlash | ⟨hDot, hBody⟩ | ⟨hNone, _⟩
  · rw [hSlash]
    exact names_slash_cons behind
  · rw [hDot]
    cases behind with
    | nil => rfl
    | cons c rest =>
        rcases hBehind with ⟨others, hOthers⟩
        rw [hBody c (rest ++ others) hOthers.symm,
          names_slash_cons]
        exact names_append_slash ['.'] rest
  · rw [hNone, List.nil_append]

@[simp] theorem ofChars_chars (path : Path) :
    ofChars path.chars = path := by
  rw [ofChars, chars, String.ofList_toList]

@[simp] theorem chars_ofChars (cs : List Char) :
    (ofChars cs).chars = cs := by
  rw [ofChars, chars, String.toList_ofList]

theorem isAbsolute_lead_append
    {cs behind : List Char}
    (hBehind : behind <+: (lead cs).2) :
    (ofChars ((lead cs).1 ++ behind)).isAbsolute =
      (ofChars cs).isAbsolute := by
  rw [isAbsolute, isAbsolute, chars_ofChars, chars_ofChars]
  rcases lead_cases cs with
    ⟨hChars, hSlash | ⟨hDot, _⟩ | ⟨hNone, hHead⟩⟩
  · rw [hSlash] at hChars ⊢
    rw [hChars]
    rfl
  · rw [hDot] at hChars ⊢
    rw [hChars]
    rfl
  · rw [hNone] at hChars ⊢
    cases behind with
    | nil =>
        symm
        simpa using hHead
    | cons c rest =>
        rcases hBehind with ⟨others, hOthers⟩
        rw [hChars, ← hOthers]
        rfl

/-
  A piece behind the start of a path stands behind a text
  that it could follow as a piece of its own.
-/
theorem isOpen_lead_append
    {cs front piece : List Char}
    (hFront : IsOpen front)
    (hPiece : IsName piece)
    (hBody : front ++ piece <+: (lead cs).2) :
    IsOpen ((lead cs).1 ++ front) := by
  apply hFront.append
  rintro rfl
  rcases (lead_cases cs).2 with
    hSlash | ⟨_, hDotted⟩ | ⟨hNone, _⟩
  · rw [hSlash]
    exact Or.inr ⟨[], rfl⟩
  · exfalso
    cases hChars : piece with
    | nil => exact hPiece.nonempty hChars
    | cons c rest =>
        rw [List.nil_append, hChars] at hBody
        rcases hBody with ⟨others, hOthers⟩
        have hSlash := hDotted c (rest ++ others) hOthers.symm
        apply hPiece.unslashed
        rw [hChars, hSlash]
        exact List.mem_cons_self
  · exact Or.inl hNone

/- A trimmed body is a text that is open, and a last piece. -/
theorem exists_front_of_trimEnd (body : List Char) :
    ∃ front,
      trimEnd body = front ++ behindSlash (trimEnd body) ∧
        IsOpen front ∧
        names front = names (beforeSlash (trimEnd body)) ∧
        beforeSlash (trimEnd body) <+: front := by
  rcases eq_append_behindSlash (trimEnd body) with
    ⟨hBefore, hAlone⟩ | hBehind
  · refine ⟨[], hAlone, Or.inl rfl, ?_, ?_⟩
    · rw [hBefore]
    · exact List.prefix_nil.mpr hBefore
  · refine
      ⟨beforeSlash (trimEnd body) ++ ['/'], hBehind,
        Or.inr ⟨_, rfl⟩, ?_, List.prefix_append _ _⟩
    exact names_append_singleton_slash _

/-
  The last piece of a path is its last name, and stands
  behind a text that it could follow as a piece of its own.
-/
theorem names_of_lastPiece
    {path : Path}
    {before piece : List Char}
    (hPiece : path.lastPiece? = some (before, piece)) :
    names path.chars = names before ++ [String.ofList piece] ∧
      IsOpen before ∧
      IsName piece ∧
      before ++ piece <+: path.chars := by
  have hChars := (lead_cases path.chars).1
  unfold lastPiece? at hPiece
  dsimp only at hPiece
  split at hPiece
  · cases hPiece
  · rename_i hKept
    have hStarts := trimEnd_starts (lead path.chars).2
    have hName :=
      isName_behindSlash_trimEnd (by simpa using hKept)
    have hNames := names_trimEnd (lead path.chars).2
    rcases exists_front_of_trimEnd (lead path.chars).2 with
      ⟨front, hFront, hOpen, _, _⟩
    generalize hLast :
      behindSlash (trimEnd (lead path.chars).2) = last
        at hPiece hName hFront
    rw [hFront] at hPiece hStarts hNames
    simp only [List.length_append, Nat.add_sub_cancel,
      List.take_left', Option.some.injEq,
      Prod.mk.injEq] at hPiece
    rcases hPiece with ⟨rfl, rfl⟩
    have hFrontStarts :
        front <+: (lead path.chars).2 :=
      (List.prefix_append _ _).trans hStarts
    refine ⟨?_, isOpen_lead_append hOpen hName hStarts, hName,
      ?_⟩
    · calc
        names path.chars
            = names
                ((lead path.chars).1 ++
                  (lead path.chars).2) := by
              rw [← hChars]
        _ = names (lead path.chars).2 :=
              names_lead_append List.prefix_rfl
        _ = names (front ++ last) := hNames.symm
        _ = names front ++ [String.ofList last] :=
              names_append hOpen hName
        _ = names ((lead path.chars).1 ++ front) ++
              [String.ofList last] := by
              rw [names_lead_append hFrontStarts]
    · have hWhole :
          (lead path.chars).1 ++ (front ++ last) <+:
            (lead path.chars).1 ++ (lead path.chars).2 :=
        (List.prefix_append_right_inj _).mpr hStarts
      rw [← hChars, ← List.append_assoc] at hWhole
      exact hWhole

/- A path without a last piece has no names. -/
theorem names_of_lastPiece_eq_none
    {path : Path}
    (hPiece : path.lastPiece? = none) :
    names path.chars = [] := by
  unfold lastPiece? at hPiece
  dsimp only at hPiece
  split at hPiece
  · rename_i hKept
    have hEmpty : trimEnd (lead path.chars).2 = [] := by
      simpa using hKept
    rw [(lead_cases path.chars).1,
      names_lead_append List.prefix_rfl, ← names_trimEnd,
      hEmpty, names_nil]
  · cases hPiece

/- The name of a file is the last name on its path. -/
theorem names_of_fileName
    {path : Path}
    {name : List Char}
    (hName : path.fileName? = some name) :
    ∃ before,
      path.lastPiece? = some (before, name) ∧
        names path.chars =
          names before ++ [String.ofList name] ∧
        IsPlainName (String.ofList name) := by
  unfold fileName? at hName
  split at hName
  · rename_i before piece hPiece
    split at hName
    · cases hName
    · rename_i hAbove
      cases hName
      rcases names_of_lastPiece hPiece with
        ⟨hNames, _, hIsName, _⟩
      exact ⟨before, hPiece, hNames, hIsName.isPlainName hAbove⟩
  · cases hName

end Path

end ShaderBindings

------------------------------------------------------------
-- Parents
------------------------------------------------------------

namespace ShaderBindings

namespace Path

/-
  The parent of a path has all its names but the last one.
  A path without names has the empty path for a parent, if
  it has any.
-/
theorem names_of_parent
    {path above : Path}
    (hParent : path.parent? = some above) :
    (above = ⟨""⟩ ∧ names path.chars = [] ∧
        path.isAbsolute = false) ∨
      ∃ before piece,
        path.lastPiece? = some (before, piece) ∧
          names above.chars = names before ∧
          above.isAbsolute = path.isAbsolute ∧
          above.chars <+: before := by
  have hLead := lead_cases path.chars
  unfold parent? at hParent
  dsimp only at hParent
  split at hParent
  · rename_i hKept
    split at hParent
    · rename_i hDot
      cases hParent
      left
      have hNoPiece : path.lastPiece? = none := by
        unfold lastPiece?
        dsimp only
        rw [if_pos hKept]
      refine ⟨rfl, names_of_lastPiece_eq_none hNoPiece, ?_⟩
      rw [isAbsolute, hLead.1, hDot]
      rfl
    · cases hParent
  · rename_i hKept
    cases hParent
    right
    rcases exists_front_of_trimEnd (lead path.chars).2 with
      ⟨front, hFront, _, hNames, hStarts⟩
    have hFrontBody : front <+: (lead path.chars).2 := by
      apply List.IsPrefix.trans _ (trimEnd_starts _)
      rw [hFront]
      exact List.prefix_append _ _
    have hAbove :
        trimEnd (beforeSlash (trimEnd (lead path.chars).2)) <+:
          front :=
      (trimEnd_starts _).trans hStarts
    have hTake :
        (trimEnd (lead path.chars).2).take
            ((trimEnd (lead path.chars).2).length -
              (behindSlash
                (trimEnd (lead path.chars).2)).length) =
          front := by
      generalize
        behindSlash (trimEnd (lead path.chars).2) = last
          at hFront
      rw [hFront]
      simp
    refine
      ⟨(lead path.chars).1 ++ front,
        behindSlash (trimEnd (lead path.chars).2), ?_, ?_, ?_,
        ?_⟩
    · unfold lastPiece?
      dsimp only
      rw [if_neg hKept, hTake]
    · rw [chars_ofChars,
        names_lead_append (hAbove.trans hFrontBody),
        names_lead_append hFrontBody, names_trimEnd, hNames]
    · rw [isAbsolute_lead_append (hAbove.trans hFrontBody),
        ofChars_chars]
    · rw [chars_ofChars]
      exact (List.prefix_append_right_inj _).mpr hAbove

/- A parent is a start of its path. -/
theorem chars_parent_starts
    {path above : Path}
    (hParent : path.parent? = some above) :
    above.chars <+: path.chars := by
  rcases names_of_parent hParent with
    ⟨rfl, _⟩ | ⟨before, piece, hPiece, _, _, hStarts⟩
  · exact List.nil_prefix
  · exact (hStarts.trans (List.prefix_append _ _)).trans
      (names_of_lastPiece hPiece).2.2.2

end Path

end ShaderBindings

------------------------------------------------------------
-- Ancestors
------------------------------------------------------------

namespace ShaderBindings

namespace Path

/- A parent has the first names of its path. -/
theorem names_parent_starts
    {path above : Path}
    (hParent : path.parent? = some above) :
    names above.chars <+: names path.chars ∧
      above.isAbsolute = path.isAbsolute := by
  rcases names_of_parent hParent with
    ⟨rfl, _, hRelative⟩ |
    ⟨before, piece, hPiece, hNames, hStart, _⟩
  · exact ⟨List.nil_prefix, hRelative.symm⟩
  · rw [hNames, (names_of_lastPiece hPiece).1]
    exact ⟨List.prefix_append _ _, hStart⟩

theorem names_of_mem_ancestorsWithin
    {fuel : Nat}
    {path above : Path}
    (hAbove : above ∈ ancestorsWithin fuel path) :
    names above.chars <+: names path.chars ∧
      above.isAbsolute = path.isAbsolute := by
  induction fuel generalizing path with
  | zero => cases hAbove
  | succ fuel ih =>
      rw [ancestorsWithin] at hAbove
      rcases List.mem_cons.mp hAbove with rfl | hHigher
      · exact ⟨List.prefix_rfl, rfl⟩
      · split at hHigher
        · rename_i parent hParent
          rcases names_parent_starts hParent with
            ⟨hNames, hStart⟩
          rcases ih hHigher with ⟨hFirst, hFirstStart⟩
          exact ⟨hFirst.trans hNames,
            hFirstStart.trans hStart⟩
        · cases hHigher

/- Steps that never go up lead from one location to below. -/
theorem foldl_step_of_notMem
    (here : Location)
    {steps : List String}
    (hUp : ".." ∉ steps)
    (hHere : "." ∉ steps) :
    steps.foldl Location.step here = here ++ steps := by
  induction steps generalizing here with
  | nil => exact (List.append_nil here).symm
  | cons name rest ih =>
      rw [List.mem_cons, not_or] at hUp hHere
      rw [List.foldl_cons, ih _ hUp.2 hHere.2,
        Location.step, if_neg (Ne.symm hHere.1),
        if_neg (Ne.symm hUp.1), List.append_assoc]
      rfl

theorem dot_not_mem_names (cs : List Char) :
    "." ∉ names cs := by
  intro hDot
  simpa using (List.mem_filter.mp hDot).2

/-
  The paths above a path that never goes up lead to locations
  on the way to its own.
-/
theorem destination_of_mem_ancestors
    {path above : Path}
    (home : Location)
    (hUp : ".." ∉ names path.chars)
    (hAbove : above ∈ path.ancestors) :
    above.destination home <+: path.destination home := by
  rcases names_of_mem_ancestorsWithin hAbove with
    ⟨hNames, hStart⟩
  have hUpAbove : ".." ∉ names above.chars :=
    fun hDots => hUp (hNames.subset hDots)
  rw [destination_eq_foldl_names, destination_eq_foldl_names,
    foldl_step_of_notMem _ hUp (dot_not_mem_names _),
    foldl_step_of_notMem _ hUpAbove (dot_not_mem_names _),
    hStart]
  exact (List.prefix_append_right_inj _).mpr hNames

end Path

end ShaderBindings
