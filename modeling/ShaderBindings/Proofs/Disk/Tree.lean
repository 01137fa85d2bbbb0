import Mathlib.Data.List.Induction
import ShaderBindings.Proofs.Disk.Growth
import ShaderBindings.Proofs.Path.Names

/-
  Disks that are trees. Every entry of a tree has a plain
  name and lies in a directory, and so does the working
  directory. A path in a tree leads to a directory or to the
  name at its end, which is why a file is always reached by a
  name, and a new entry always gets one.

  Key definitions include:
    * `Disk.IsTree`

  Key theorems include:
    * `Disk.IsTree.directory_of_starts`
    * `Disk.IsTree.insert`
    * `Disk.IsTree.locate_cases`
    * `Disk.walk_of_prefixes`
    * `Disk.isDirectory_of_names`
-/

------------------------------------------------------------
-- Trees
------------------------------------------------------------

namespace ShaderBindings

open ShaderBindings.Path

instance (name : String) : Decidable (IsPlainName name) :=
  decidable_of_iff
    (name.toList ≠ [] ∧ '/' ∉ name.toList ∧
      name ≠ "." ∧ name ≠ "..")
    ⟨fun ⟨hFilled, hUnslashed, hHere, hAbove⟩ =>
        ⟨hFilled, hUnslashed, hHere, hAbove⟩,
      fun ⟨hFilled, hUnslashed, hHere, hAbove⟩ =>
        ⟨hFilled, hUnslashed, hHere, hAbove⟩⟩

namespace Disk

/-
  Every entry has a plain name and lies in a directory. The
  working directory is one.
-/
structure IsTree (disk : Disk) : Prop where
  home : disk.entry? disk.home = some .directory
  nested :
    ∀ item ∈ disk.entries,
      disk.entry? item.1.dropLast = some .directory
  named :
    ∀ item ∈ disk.entries,
      ∀ name ∈ item.1.getLast?,
        IsPlainName name

instance (disk : Disk) : Decidable disk.IsTree :=
  decidable_of_iff
    (disk.entry? disk.home = some .directory ∧
      (∀ item ∈ disk.entries,
        disk.entry? item.1.dropLast = some .directory) ∧
      ∀ item ∈ disk.entries,
        ∀ name ∈ item.1.getLast?,
          IsPlainName name)
    ⟨fun ⟨hHome, hNested, hNamed⟩ => ⟨hHome, hNested, hNamed⟩,
      fun ⟨hHome, hNested, hNamed⟩ => ⟨hHome, hNested, hNamed⟩⟩

namespace IsTree

variable {disk : Disk}
variable {above location here : Location}
variable {name : String}
variable {entry : Entry}

/- An entry below another one lies in a directory. -/
theorem inside
    (hTree : disk.IsTree)
    (hEntry : disk.entry? (above ++ [name]) = some entry) :
    disk.entry? above = some .directory ∧
      IsPlainName name := by
  rw [entry_of_ne_nil (by simp)] at hEntry
  rcases List.lookup_eq_some_iff.mp hEntry with
    ⟨before, behind, hEntries, _⟩
  have hItem : (above ++ [name], entry) ∈ disk.entries := by
    rw [hEntries]
    simp
  have hNested := hTree.nested _ hItem
  have hNamed := hTree.named _ hItem name
  rw [List.dropLast_concat] at hNested
  exact ⟨hNested, hNamed List.getLast?_concat⟩

/- The location above a directory is one. -/
theorem dropLast
    (hTree : disk.IsTree)
    (hHere : disk.entry? here = some .directory) :
    disk.entry? here.dropLast = some .directory := by
  rcases List.eq_nil_or_concat here with
    rfl | ⟨above, name, rfl⟩
  · exact hHere
  · rw [List.concat_eq_append] at hHere ⊢
    rw [List.dropLast_concat]
    exact (hTree.inside hHere).1

/- Everything on the way to an entry is a directory. -/
theorem directory_of_starts
    (hTree : disk.IsTree)
    (hEntry : disk.entry? location = some entry)
    (hAbove : above <+: location)
    (hBelow : above ≠ location) :
    disk.entry? above = some .directory := by
  rcases hAbove with ⟨behind, rfl⟩
  induction behind using List.reverseRecOn generalizing entry
    with
  | nil => simp at hBelow
  | append_singleton behind name ih =>
      rw [← List.append_assoc] at hEntry
      have hInside := (hTree.inside hEntry).1
      by_cases hNone : behind = []
      · rw [hNone, List.append_nil] at hInside
        exact hInside
      · exact ih hInside (by simpa using hNone)

/- The names in a directory are plain. -/
theorem isPlainName_of_children
    (hTree : disk.IsTree)
    (hName : name ∈ disk.children location) :
    IsPlainName name := by
  rcases List.mem_filterMap.mp hName with
    ⟨item, hItem, hLast⟩
  split at hLast
  · exact hTree.named item hItem name hLast
  · cases hLast

/- An entry in a directory makes a tree from a tree. -/
theorem insert
    (hTree : disk.IsTree)
    (hAbove : disk.entry? above = some .directory)
    (hName : IsPlainName name)
    (hFree :
      disk.entry? (above ++ [name]) ≠ some .directory) :
    (disk.insert (above ++ [name]) entry).IsTree := by
  have hKeeps :
      Keeps [above ++ [name]] disk
        (disk.insert (above ++ [name]) entry) :=
    Keeps.insert hFree
  have hItems :
      ∀ item ∈ (disk.insert (above ++ [name]) entry).entries,
        item ∈ disk.entries ∨ item.1 = above ++ [name] := by
    intro item hItem
    rcases List.mem_append.mp hItem with hOld | hNew
    · exact Or.inl (List.mem_filter.mp hOld).1
    · right
      rw [List.mem_singleton.mp hNew]
  exact {
    home := hKeeps.directories _ hTree.home
    nested := by
      intro item hItem
      apply hKeeps.directories
      rcases hItems item hItem with hOld | hNew
      · exact hTree.nested item hOld
      · rw [hNew, List.dropLast_concat]
        exact hAbove
    named := by
      intro item hItem other hOther
      rcases hItems item hItem with hOld | hNew
      · exact hTree.named item hOld other hOther
      · rw [hNew, List.getLast?_concat] at hOther
        cases hOther
        exact hName }

end IsTree

end Disk

end ShaderBindings

------------------------------------------------------------
-- Walks in a Tree
------------------------------------------------------------

namespace ShaderBindings

open ShaderBindings.Path

namespace Disk

namespace IsTree

variable {disk : Disk}
variable {location here : Location}
variable {steps : List String}
variable {path : Path}

/-
  A walk ends at a directory, or in a directory at the last
  of its names.
-/
theorem walk_cases
    (hTree : disk.IsTree)
    (hHere : disk.entry? here = some .directory)
    (hWalk : disk.walk here steps = .ok location) :
    disk.entry? location = some .directory ∨
      ∃ above first name,
        location = above ++ [name] ∧
          disk.entry? above = some .directory ∧
          steps.filter (fun step => step ≠ ".") =
            first ++ [name] ∧
          name ≠ ".." := by
  induction steps generalizing here with
  | nil =>
      cases hWalk
      exact Or.inl hHere
  | cons step rest ih =>
      have hRest := (walk_cons_iff.mp hWalk).2.2
      by_cases hStay : step = "."
      · rw [Location.step, if_pos hStay] at hRest
        rw [List.filter_cons_of_neg (by simpa using hStay)]
        exact ih hHere hRest
      · rw [List.filter_cons_of_pos (by simpa using hStay)]
        -- the walk goes on from a directory, or ends here
        have hOn
            (hThere :
              disk.entry? (here.step step) =
                some .directory) :
            disk.entry? location = some .directory ∨
              ∃ above first name,
                location = above ++ [name] ∧
                  disk.entry? above = some .directory ∧
                  step ::
                      rest.filter (fun step => step ≠ ".") =
                    first ++ [name] ∧
                  name ≠ ".." := by
          rcases ih hThere hRest with
            hDirectory |
            ⟨above, first, name, hEnd, hAbove, hNames, hDown⟩
          · exact Or.inl hDirectory
          · refine Or.inr
              ⟨above, step :: first, name, hEnd, hAbove, ?_,
                hDown⟩
            rw [hNames]
            rfl
        by_cases hUp : step = ".."
        · apply hOn
          rw [Location.step, if_neg hStay, if_pos hUp]
          exact hTree.dropLast hHere
        · cases rest with
          | nil =>
              cases hRest
              right
              refine ⟨here, [], step, ?_, hHere, rfl, hUp⟩
              rw [Location.step, if_neg hStay, if_neg hUp]
          | cons next others =>
              exact hOn (walk_cons_iff.mp hRest).1

/-
  A path leads to a directory, or into a directory to the
  last of its names.
-/
theorem locate_cases
    (hTree : disk.IsTree)
    (hLocate : disk.locate path = .ok location) :
    disk.entry? location = some .directory ∨
      ∃ above first name,
        location = above ++ [name] ∧
          disk.entry? above = some .directory ∧
          names path.chars = first ++ [name] ∧
          IsPlainName name := by
  have hWalk := (locate_eq_ok_iff.mp hLocate).2
  have hStart :
      disk.entry? (if path.isAbsolute then [] else disk.home) =
        some .directory := by
    split
    · rfl
    · exact hTree.home
  rcases hTree.walk_cases hStart hWalk with
    hDirectory | ⟨above, first, name, hEnd, hAbove, hNames, hDown⟩
  · exact Or.inl hDirectory
  · rw [filter_steps] at hNames
    have hIsName : IsName name.toList := by
      apply isName_of_mem_names
      rw [hNames]
      exact List.mem_append_right first List.mem_cons_self
    have hPlain := hIsName.isPlainName (by
      intro hDots
      exact hDown (String.toList_injective hDots))
    rw [String.ofList_toList] at hPlain
    exact Or.inr
      ⟨above, first, name, hEnd, hAbove, hNames, hPlain⟩

/- A file that is read is the last name on its path. -/
theorem names_of_read
    (hTree : disk.IsTree)
    {content : ByteArray}
    (hRead : disk.read path = .ok content) :
    ∃ first name,
      names path.chars = first ++ [name] ∧
        IsPlainName name := by
  rcases read_eq_ok_iff.mp hRead with
    ⟨location, hLocate, hFile⟩
  rcases hTree.locate_cases hLocate with
    hDirectory | ⟨_, first, name, _, _, hNames, hPlain⟩
  · rw [hFile] at hDirectory
    cases hDirectory
  · exact ⟨first, name, hNames, hPlain⟩

end IsTree

/- A walk that never goes up ends below its start. -/
theorem starts_of_walk
    {disk : Disk}
    {here location : Location}
    {steps : List String}
    (hUp : ".." ∉ steps)
    (hWalk : disk.walk here steps = .ok location) :
    here <+: location := by
  induction steps generalizing here with
  | nil =>
      cases hWalk
      exact List.prefix_rfl
  | cons step rest ih =>
      rw [List.mem_cons, not_or] at hUp
      have hRest := ih hUp.2 (walk_cons_iff.mp hWalk).2.2
      by_cases hStay : step = "."
      · rw [Location.step, if_pos hStay] at hRest
        exact hRest
      · rw [Location.step, if_neg hStay,
          if_neg (Ne.symm hUp.1)] at hRest
        exact (List.prefix_append here [step]).trans hRest

/-
  A walk that never goes up needs only the directories on the
  way to its end.
-/
theorem walk_of_prefixes
    {disk other : Disk}
    {here location : Location}
    {steps : List String}
    (hUp : ".." ∉ steps)
    (hPrefixes :
      ∀ above,
        above <+: location →
          disk.entry? above = some .directory →
            other.entry? above = some .directory)
    (hWalk : disk.walk here steps = .ok location) :
    other.walk here steps = .ok location := by
  induction steps generalizing here with
  | nil => exact hWalk
  | cons step rest ih =>
      have hStarts := starts_of_walk hUp hWalk
      rcases walk_cons_iff.mp hWalk with
        ⟨hHere, hShort, hRest⟩
      rw [List.mem_cons, not_or] at hUp
      exact walk_cons_iff.mpr
        ⟨hPrefixes here hStarts hHere, hShort, ih hUp.2 hRest⟩

end Disk

end ShaderBindings

------------------------------------------------------------
-- Directories on the Way
------------------------------------------------------------

namespace ShaderBindings

open ShaderBindings.Path

/- A start of a text that fits does so as well. -/
theorem Path.Fits.starts
    {path above : Path}
    (hFits : path.Fits)
    (hStarts : above.chars <+: path.chars)
    (hFilled : above.chars ≠ []) :
    above.Fits where
  nonnull := fun hNull =>
    hFits.nonnull (hStarts.subset hNull)
  nonempty := hFilled
  short := by
    rcases hStarts with ⟨behind, hBehind⟩
    have hText : path.text = above.text ++ String.ofList behind := by
      apply String.toList_injective
      rw [String.toList_append, String.toList_ofList]
      exact hBehind.symm
    have hShort := hFits.short
    rw [hText, String.utf8ByteSize_append] at hShort
    omega

namespace Disk

variable {disk : Disk}
variable {here location : Location}

/- One walk goes on where another one ends. -/
theorem walk_append_iff
    {first second : List String} :
    disk.walk here (first ++ second) = .ok location ↔
      ∃ between,
        disk.walk here first = .ok between ∧
          disk.walk between second = .ok location := by
  induction first generalizing here with
  | nil =>
      constructor
      · intro hWalk
        exact ⟨here, rfl, hWalk⟩
      · rintro ⟨between, hFirst, hSecond⟩
        cases hFirst
        exact hSecond
  | cons step rest ih =>
      rw [List.cons_append, walk_cons_iff, ih]
      simp only [walk_cons_iff]
      constructor
      · rintro ⟨hHere, hShort, between, hFirst, hSecond⟩
        exact ⟨between, ⟨hHere, hShort, hFirst⟩, hSecond⟩
      · rintro ⟨between, ⟨hHere, hShort, hFirst⟩, hSecond⟩
        exact ⟨hHere, hShort, between, hFirst, hSecond⟩

/- A walk to a directory starts at one. -/
theorem directory_of_walk
    {steps : List String}
    (hEnd : disk.entry? location = some .directory)
    (hWalk : disk.walk here steps = .ok location) :
    disk.entry? here = some .directory := by
  cases steps with
  | nil =>
      cases hWalk
      exact hEnd
  | cons step rest => exact (walk_cons_iff.mp hWalk).1

/- A walk does not need the steps that lead nowhere. -/
theorem walk_filter
    {steps : List String}
    (hWalk : disk.walk here steps = .ok location) :
    disk.walk here
        (steps.filter fun step => step ≠ ".") =
      .ok location := by
  induction steps generalizing here with
  | nil => exact hWalk
  | cons step rest ih =>
      rcases walk_cons_iff.mp hWalk with
        ⟨hHere, hShort, hRest⟩
      by_cases hStay : step = "."
      · rw [Location.step, if_pos hStay] at hRest
        rw [List.filter_cons_of_neg (by simpa using hStay)]
        exact ih hRest
      · rw [List.filter_cons_of_pos (by simpa using hStay)]
        exact walk_cons_iff.mpr ⟨hHere, hShort, ih hRest⟩

/- Steps that lead nowhere do no harm on a walk to a directory. -/
theorem walk_of_filter
    {steps : List String}
    (hEnd : disk.entry? location = some .directory)
    (hWalk :
      disk.walk here
          (steps.filter fun step => step ≠ ".") =
        .ok location) :
    disk.walk here steps = .ok location := by
  induction steps generalizing here with
  | nil => exact hWalk
  | cons step rest ih =>
      by_cases hStay : step = "."
      · rw [List.filter_cons_of_neg (by simpa using hStay)]
          at hWalk
        refine walk_cons_iff.mpr
          ⟨directory_of_walk hEnd hWalk,
            fun hMove => absurd hStay hMove, ?_⟩
        rw [Location.step, if_pos hStay]
        exact ih hWalk
      · rw [List.filter_cons_of_pos (by simpa using hStay)]
          at hWalk
        rcases walk_cons_iff.mp hWalk with
          ⟨hHere, hShort, hRest⟩
        exact walk_cons_iff.mpr ⟨hHere, hShort, ih hRest⟩

/-
  A start of a path that has all its names but the last one
  is the path of a directory.
-/
theorem isDirectory_of_names
    {path above : Path}
    {name : String}
    (hLocate : disk.locate path = .ok location)
    (hStarts : above.chars <+: path.chars)
    (hFilled : above.chars ≠ [])
    (hAbsolute : above.isAbsolute = path.isAbsolute)
    (hNames :
      names path.chars = names above.chars ++ [name]) :
    disk.isDirectory above = true := by
  rcases locate_eq_ok_iff.mp hLocate with ⟨hFits, hWalk⟩
  have hWalk := walk_filter hWalk
  rw [filter_steps, hNames, walk_append_iff] at hWalk
  rcases hWalk with ⟨between, hAbove, hLast⟩
  have hBetween := (walk_cons_iff.mp hLast).1
  rw [← filter_steps, ← hAbsolute] at hAbove
  exact isDirectory_iff.mpr
    ⟨between,
      locate_eq_ok_iff.mpr
        ⟨hFits.starts hStarts hFilled,
          walk_of_filter hBetween hAbove⟩,
      hBetween⟩

/- The parent of a path that is located is a directory. -/
theorem isDirectory_of_parent
    {path above : Path}
    (hLocate : disk.locate path = .ok location)
    (hParent : path.parent? = some above) :
    above.isEmpty = true ∨ disk.isDirectory above = true := by
  rcases names_of_parent hParent with
    ⟨rfl, _⟩ | ⟨before, piece, hPiece, hNames, hAbsolute, _⟩
  · exact Or.inl rfl
  · by_cases hEmpty : above.isEmpty = true
    · exact Or.inl hEmpty
    · right
      apply isDirectory_of_names hLocate
        (chars_parent_starts hParent) ?_ hAbsolute
      · rw [hNames]
        exact (names_of_lastPiece hPiece).1
      · simpa [isEmpty, chars] using hEmpty

end Disk

end ShaderBindings
