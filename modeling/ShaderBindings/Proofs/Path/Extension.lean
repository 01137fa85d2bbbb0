import ShaderBindings.Proofs.Path.Names

/-
  Stems and extensions of file names. A name with an
  extension is its stem, a dot and the extension. A path that
  is given another extension gets one last name that ends in
  it, behind names of the path, unless the path is left with
  no name or with a step up at its end.

  Key definitions include:
    * `Path.Renamed`

  Key theorems include:
    * `Path.eq_of_partName`
    * `Path.slash_not_mem_stem`
    * `Path.renamed_withExtension`
-/

------------------------------------------------------------
-- Parts of a File Name
------------------------------------------------------------

namespace ShaderBindings

namespace Path

/- The stem of a name is the start of the name. -/
theorem partName_starts (name : List Char) :
    (partName name).1 <+: name := by
  unfold partName
  dsimp only
  split
  · exact List.prefix_rfl
  · exact List.take_prefix _ _

/- A name that is not empty has a stem that is not. -/
theorem partName_ne_nil
    {name : List Char}
    (hName : name ≠ []) :
    (partName name).1 ≠ [] := by
  unfold partName
  dsimp only
  split
  · exact hName
  · rename_i hParted
    rw [not_or] at hParted
    exact hParted.2

/- A name with an extension ends in a dot and the extension. -/
theorem eq_of_partName
    {name extension : List Char}
    (hExtension : (partName name).2 = some extension) :
    name = (partName name).1 ++ '.' :: extension := by
  unfold partName at hExtension ⊢
  dsimp only at hExtension ⊢
  split at hExtension
  · cases hExtension
  · rename_i hParted
    rw [if_neg hParted]
    rw [not_or] at hParted
    have hParts :=
      List.takeWhile_append_dropWhile
        (p := fun c => c != '.') (l := name.reverse)
    cases hExtension
    cases hDropped :
        name.reverse.dropWhile fun c => c != '.' with
    | nil =>
        rw [hDropped, List.append_nil] at hParts
        exact absurd (by rw [hParts]; simp) hParted.1
    | cons c rest =>
        have hDot : c = '.' := by
          have hHead :=
            List.head?_dropWhile_not
              (fun c => c != '.') name.reverse
          rw [hDropped] at hHead
          simpa using hHead
        rw [hDropped, hDot] at hParts
        have hName := congrArg List.reverse hParts
        generalize
          name.reverse.takeWhile (fun c => c != '.') = taken
            at hName ⊢
        rw [List.reverse_reverse, List.reverse_append,
          List.reverse_cons, List.append_assoc,
          List.singleton_append] at hName
        dsimp only
        have hLength :
            name.length - taken.reverse.length - 1 =
              rest.reverse.length := by
          rw [← hName, List.length_append, List.length_cons]
          omega
        rw [hLength, ← hName, List.take_left]

end Path

end ShaderBindings

------------------------------------------------------------
-- Stems
------------------------------------------------------------

namespace ShaderBindings

namespace Path

/- The name of a file holds no slash. -/
theorem slash_not_mem_fileName
    {path : Path}
    {name : List Char}
    (hName : path.fileName? = some name) :
    '/' ∉ name := by
  rcases names_of_fileName hName with ⟨_, hPiece, _⟩
  exact (names_of_lastPiece hPiece).2.2.1.unslashed

/- A stem holds no slash. -/
theorem slash_not_mem_stem
    {path : Path}
    {stem : List Char}
    (hStem : path.stem? = some stem) :
    '/' ∉ stem := by
  rcases Option.map_eq_some_iff.mp hStem with
    ⟨name, hName, rfl⟩
  intro hSlash
  apply slash_not_mem_fileName hName
  exact (partName_starts name).subset hSlash

end Path

end ShaderBindings

------------------------------------------------------------
-- Other Extensions
------------------------------------------------------------

namespace ShaderBindings

namespace Path

/- A stem, a dot and an extension are a name. -/
theorem isName_append_dot
    {stem extension : List Char}
    (hStem : stem ≠ [])
    (hUnslashed : '/' ∉ stem)
    (hExtension : '/' ∉ extension) :
    IsName (stem ++ '.' :: extension) where
  nonempty := by simp
  unslashed := by simp [hUnslashed, hExtension]
  not_here := by
    intro hHere
    have hLength := congrArg List.length hHere
    have hLong := List.length_pos_iff.mpr hStem
    rw [List.length_append, List.length_cons,
      List.length_singleton] at hLength
    omega

/- An open start of a text has the first of its names. -/
theorem names_starts
    {before cs : List Char}
    (hOpen : IsOpen before)
    (hStarts : before <+: cs) :
    names before <+: names cs := by
  rcases hStarts with ⟨behind, rfl⟩
  rcases hOpen with rfl | ⟨rest, rfl⟩
  · exact List.nil_prefix
  · rw [names_append_singleton_slash, List.append_assoc,
      List.singleton_append, names_append_slash]
    exact List.prefix_append _ _

/-
  The names on a path that got an extension: the last one
  ends in it, behind the first names of the path, or there is
  no name, or the last one is a step up.
-/
inductive Renamed
    (path : Path)
    (extension : List Char)
    (other : Path) : Prop where
| named
    (first : List String) (stem : List Char)
    (first_names : first <+: names path.chars)
    (isName : IsName (stem ++ '.' :: extension))
    (stem_nonempty : stem ≠ [])
    (names_eq :
      names other.chars =
        first ++ [String.ofList (stem ++ '.' :: extension)])
| unnamed (names_eq : names other.chars = [])
| above (first : List String)
    (names_eq : names other.chars = first ++ [".."])

theorem renamed_setExtension
    {extension : List Char}
    (hExtension : '/' ∉ extension)
    {path whole : Path}
    (hStarts : path.chars <+: whole.chars) :
    Renamed whole extension (path.setExtension extension) := by
  cases hPiece : path.lastPiece? with
  | none =>
      have hSame : path.setExtension extension = path := by
        rw [setExtension, hPiece]
      rw [hSame]
      exact .unnamed (names_of_lastPiece_eq_none hPiece)
  | some parts =>
      rcases parts with ⟨before, piece⟩
      rcases names_of_lastPiece hPiece with
        ⟨hNames, hOpen, hIsName, hBehind⟩
      by_cases hAbove : piece = ['.', '.']
      · have hSame : path.setExtension extension = path := by
          simp [setExtension, stem?, fileName?, hPiece, hAbove]
        rw [hSame]
        refine .above (names before) ?_
        rw [hNames, hAbove]
      · have hStem :
            path.stem? = some (partName piece).1 := by
          rw [stem?, fileName?, hPiece]
          simp [hAbove]
        have hOther :
            path.setExtension extension =
              ofChars
                (before ++
                  ((partName piece).1 ++ '.' :: extension)) := by
          rw [setExtension, hPiece, hStem,
            ← List.append_assoc]
        have hFilled := partName_ne_nil hIsName.nonempty
        have hStemUnslashed : '/' ∉ (partName piece).1 :=
          fun hSlash =>
            hIsName.unslashed
              ((partName_starts piece).subset hSlash)
        have hNew :
            IsName ((partName piece).1 ++ '.' :: extension) :=
          isName_append_dot hFilled hStemUnslashed hExtension
        refine .named (names before) (partName piece).1 ?_ hNew
          hFilled ?_
        · apply names_starts hOpen
          exact ((List.prefix_append _ _).trans hBehind).trans
            hStarts
        · rw [hOther, chars_ofChars, names_append hOpen hNew]

/-
  A path with another extension has one last name that ends
  in it, behind first names of the path, unless it has no
  name or leads up at its end.
-/
theorem renamed_withExtension
    {extension : List Char}
    (hExtension : '/' ∉ extension)
    (path : Path) :
    Renamed path extension (path.withExtension extension) := by
  unfold withExtension
  split
  · apply renamed_setExtension hExtension
    rw [chars_ofChars]
    exact List.take_prefix _ _
  · exact renamed_setExtension hExtension List.prefix_rfl

end Path

end ShaderBindings
