import ShaderBindings.Proofs.Logged
import ShaderBindings.Proofs.Path.Destination

/-
  How disks grow. Making a directory and writing a file keep
  every entry that was there, apart from the file that is
  written over, and keep every directory. So a path that led
  somewhere leads there still, and a file that nothing is
  written over is still read as before.

  Key definitions include:
    * `Disk.Keeps`
    * `Path.Fits`

  Key theorems include:
    * `Disk.locate_eq_ok_iff`
    * `Disk.locate_of_directories`
    * `Disk.eq_destination_of_locate`
    * `Disk.Keeps.read`
    * `Disk.keeps_of_makeDirectory`
    * `Disk.keeps_of_write`
    * `Disk.read_of_write`
-/

------------------------------------------------------------
-- Entries after an Insertion
------------------------------------------------------------

namespace ShaderBindings

namespace Disk

variable {disk : Disk}
variable {location other : Location}
variable {entry : Entry}

/- The root is a directory. -/
theorem ne_nil_of_entry
    (hEntry : disk.entry? location ≠ some .directory) :
    location ≠ [] := by
  rintro rfl
  exact hEntry rfl

theorem entry_of_ne_nil (hBelow : location ≠ []) :
    disk.entry? location = disk.entries.lookup location := by
  unfold entry?
  rw [if_neg (by simpa using hBelow)]

/- What is inserted is found. -/
theorem entry_insert_self (hBelow : location ≠ []) :
    Disk.entry? (disk.insert location entry) location =
      some entry := by
  have hAbsent :
      (disk.entries.filter fun item =>
        item.1 != location).lookup location = none := by
    rw [List.lookup_eq_none_iff]
    intro item hItem
    have hDiffers : item.1 ≠ location := by
      simpa using (List.mem_filter.mp hItem).2
    simpa using hDiffers.symm
  rw [entry_of_ne_nil hBelow, insert, List.lookup_append,
    hAbsent]
  simp

/- Entries at other locations do not change. -/
theorem entry_insert_of_ne (hOther : other ≠ location) :
    Disk.entry? (disk.insert location entry) other =
      disk.entry? other := by
  have hKept :
      (disk.entries.filter fun item =>
          item.1 != location).lookup other =
        disk.entries.lookup other := by
    induction disk.entries with
    | nil => rfl
    | cons item rest ih =>
        by_cases hItem : item.1 = location
        · have hSkipped : (other == item.1) = false := by
            simpa [hItem] using hOther
          rw [List.filter_cons_of_neg (by simp [hItem]), ih,
            List.lookup_cons, hSkipped]
        · rw [List.filter_cons_of_pos (by simpa using hItem),
            List.lookup_cons, List.lookup_cons, ih]
  cases other with
  | nil => rfl
  | cons name names =>
      have hBelow : name :: names ≠ [] := by simp
      rw [entry_of_ne_nil hBelow, entry_of_ne_nil hBelow,
        insert, List.lookup_append, hKept]
      have hDiffers : (name :: names == location) = false := by
        simpa using hOther
      rw [List.lookup_cons, hDiffers]
      exact Option.or_none

end Disk

end ShaderBindings

------------------------------------------------------------
-- Growth
------------------------------------------------------------

namespace ShaderBindings

namespace Disk

/-
  A disk keeps the entries of an older one, apart from files
  at the locations that were written to.
-/
structure Keeps
    (written : List Location)
    (before after : Disk) : Prop where
  home : after.home = before.home
  entries :
    ∀ location entry,
      location ∉ written →
        before.entry? location = some entry →
          after.entry? location = some entry
  directories :
    ∀ location,
      before.entry? location = some .directory →
        after.entry? location = some .directory

namespace Keeps

variable {written others : List Location}
variable {before between after : Disk}

theorem refl (disk : Disk) : Keeps [] disk disk where
  home := rfl
  entries := fun _ _ _ hEntry => hEntry
  directories := fun _ hDirectory => hDirectory

theorem trans
    (hFirst : Keeps written before between)
    (hSecond : Keeps others between after) :
    Keeps (written ++ others) before after where
  home := hSecond.home.trans hFirst.home
  entries := by
    intro location entry hOutside hEntry
    rw [List.mem_append, not_or] at hOutside
    exact hSecond.entries location entry hOutside.2
      (hFirst.entries location entry hOutside.1 hEntry)
  directories := fun location hDirectory =>
    hSecond.directories location
      (hFirst.directories location hDirectory)

/- An entry that is put where no directory is keeps the rest. -/
theorem insert
    {disk : Disk}
    {location : Location}
    {entry : Entry}
    (hFree : disk.entry? location ≠ some .directory) :
    Keeps [location] disk (disk.insert location entry) where
  home := rfl
  entries := by
    intro other kept hOutside hKept
    rw [entry_insert_of_ne (by simpa using hOutside)]
    exact hKept
  directories := by
    intro other hDirectory
    have hOther : other ≠ location := by
      rintro rfl
      exact hFree hDirectory
    rw [entry_insert_of_ne hOther]
    exact hDirectory

end Keeps

end Disk

end ShaderBindings

------------------------------------------------------------
-- Paths on a Growing Disk
------------------------------------------------------------

namespace ShaderBindings

/- A path with a text that can be looked up on a disk. -/
structure Path.Fits (path : Path) : Prop where
  nonnull : '\x00' ∉ path.chars
  nonempty : path.chars ≠ []
  short : path.text.utf8ByteSize < Disk.longestPath

namespace Disk

/-
  A step is taken from a directory, to a name that is not too
  long unless it stands for a directory that is there.
-/
theorem walk_cons_iff
    {disk : Disk}
    {here location : Location}
    {name : String}
    {rest : List String} :
    disk.walk here (name :: rest) = .ok location ↔
      disk.entry? here = some .directory ∧
        (name ≠ "." → name ≠ ".." →
          name.utf8ByteSize ≤ longestName) ∧
        disk.walk (here.step name) rest = .ok location := by
  rw [walk]
  cases hEntry : disk.entry? here with
  | none => simp
  | some entry =>
      cases entry with
      | file content => simp
      | directory =>
          by_cases hHere : name = "."
          · simp [Location.step, hHere]
          · by_cases hAbove : name = ".."
            · simp [Location.step, hAbove]
            · by_cases hLong : longestName < name.utf8ByteSize
              · simp [hHere, hAbove, hLong,
                  Nat.not_le.mpr hLong]
              · simp [Location.step, hHere, hAbove, hLong,
                  Nat.not_lt.mp hLong]

/- An entry is found where a path leads to one. -/
theorem find_eq_ok_iff
    {disk : Disk}
    {path : Path}
    {entry : Entry} :
    disk.find path = .ok entry ↔
      ∃ location,
        disk.locate path = .ok location ∧
          disk.entry? location = some entry := by
  rw [find, except_bind_eq_ok_iff]
  constructor
  · rintro ⟨location, hLocate, hEntry⟩
    refine ⟨location, hLocate, ?_⟩
    split at hEntry
    · rename_i found hFound
      cases hEntry
      exact hFound
    · cases hEntry
  · rintro ⟨location, hLocate, hEntry⟩
    refine ⟨location, hLocate, ?_⟩
    rw [hEntry]

/- A file is read where a path leads to one. -/
theorem read_eq_ok_iff
    {disk : Disk}
    {path : Path}
    {content : ByteArray} :
    disk.read path = .ok content ↔
      ∃ location,
        disk.locate path = .ok location ∧
          disk.entry? location = some (.file content) := by
  rw [← find_eq_ok_iff, read, except_bind_eq_ok_iff]
  constructor
  · rintro ⟨entry, hFind, hFile⟩
    cases entry with
    | file kept =>
        cases hFile
        exact hFind
    | directory => cases hFile
  · intro hFind
    exact ⟨.file content, hFind, rfl⟩

/- A path to a directory leads to an entry that is one. -/
theorem isDirectory_iff
    {disk : Disk}
    {path : Path} :
    disk.isDirectory path = true ↔
      ∃ location,
        disk.locate path = .ok location ∧
          disk.entry? location = some .directory := by
  rw [← find_eq_ok_iff, isDirectory]
  constructor
  · intro hDirectory
    split at hDirectory
    · assumption
    · cases hDirectory
  · intro hFind
    rw [hFind]

/- A walk ends where its steps lead to. -/
theorem eq_of_walk
    {disk : Disk}
    {here location : Location}
    {steps : List String}
    (hWalk : disk.walk here steps = .ok location) :
    location = steps.foldl Location.step here := by
  induction steps generalizing here with
  | nil =>
      cases hWalk
      rfl
  | cons name rest ih => exact ih (walk_cons_iff.mp hWalk).2.2

/- A path that is located fits, and is walked to its end. -/
theorem locate_eq_ok_iff
    {disk : Disk}
    {path : Path}
    {location : Location} :
    disk.locate path = .ok location ↔
      path.Fits ∧
        disk.walk (if path.isAbsolute then [] else disk.home)
          path.steps = .ok location := by
  have hNull :
      path.chars.contains '\x00' = true ↔
        '\x00' ∈ path.chars :=
    List.contains_iff_mem
  have hEmpty :
      path.isEmpty = true ↔ path.chars = [] := by
    simp [Path.isEmpty, Path.chars]
  unfold locate
  constructor
  · intro hLocate
    split at hLocate
    · cases hLocate
    · rename_i hNonnull
      split at hLocate
      · cases hLocate
      · rename_i hFilled
        split at hLocate
        · cases hLocate
        · rename_i hLong
          exact
            ⟨⟨mt hNull.mpr hNonnull, mt hEmpty.mpr hFilled,
              Nat.not_le.mp hLong⟩, hLocate⟩
  · rintro ⟨⟨hNonnull, hFilled, hShort⟩, hWalk⟩
    rw [if_neg (mt hNull.mp hNonnull),
      if_neg (mt hEmpty.mp hFilled),
      if_neg (Nat.not_le.mpr hShort)]
    exact hWalk

/- A path leads to its destination if it leads anywhere. -/
theorem eq_destination_of_locate
    {disk : Disk}
    {path : Path}
    {location : Location}
    (hLocate : disk.locate path = .ok location) :
    location = path.destination disk.home :=
  eq_of_walk (locate_eq_ok_iff.mp hLocate).2

/- Steps through directories lead to the same place on disks. -/
theorem walk_of_directories
    {before after : Disk}
    (hDirectories :
      ∀ location,
        before.entry? location = some .directory →
          after.entry? location = some .directory)
    {here location : Location}
    {steps : List String}
    (hWalk : before.walk here steps = .ok location) :
    after.walk here steps = .ok location := by
  induction steps generalizing here with
  | nil => exact hWalk
  | cons name rest ih =>
      rcases walk_cons_iff.mp hWalk with
        ⟨hHere, hShort, hRest⟩
      exact walk_cons_iff.mpr
        ⟨hDirectories here hHere, hShort, ih hRest⟩

/- A disk with more directories locates more paths. -/
theorem locate_of_directories
    {before after : Disk}
    (hHome : after.home = before.home)
    (hDirectories :
      ∀ location,
        before.entry? location = some .directory →
          after.entry? location = some .directory)
    {path : Path}
    {location : Location}
    (hLocate : before.locate path = .ok location) :
    after.locate path = .ok location := by
  rcases locate_eq_ok_iff.mp hLocate with ⟨hFits, hWalk⟩
  rw [← hHome] at hWalk
  exact locate_eq_ok_iff.mpr
    ⟨hFits, walk_of_directories hDirectories hWalk⟩

namespace Keeps

variable {written : List Location}
variable {before after : Disk}

theorem locate
    (hKeeps : Keeps written before after)
    {path : Path}
    {location : Location}
    (hLocate : before.locate path = .ok location) :
    after.locate path = .ok location :=
  locate_of_directories hKeeps.home hKeeps.directories hLocate

/- A file that nothing is written over is read as before. -/
theorem read
    (hKeeps : Keeps written before after)
    {path : Path}
    {content : ByteArray}
    (hRead : before.read path = .ok content)
    (hOutside : path.destination before.home ∉ written) :
    after.read path = .ok content := by
  rcases read_eq_ok_iff.mp hRead with
    ⟨location, hLocate, hEntry⟩
  rw [← eq_destination_of_locate hLocate] at hOutside
  exact read_eq_ok_iff.mpr
    ⟨location, hKeeps.locate hLocate,
      hKeeps.entries location _ hOutside hEntry⟩

end Keeps

end Disk

end ShaderBindings

------------------------------------------------------------
-- Making Directories and Writing Files
------------------------------------------------------------

namespace ShaderBindings

namespace Disk

variable {disk after : Disk}
variable {path : Path}

/- What is made, and that nothing was there before. -/
theorem makeDirectory_eq_ok
    (hMade : disk.makeDirectory path = .ok after) :
    ∃ location,
      disk.locate path = .ok location ∧
        location ≠ [] ∧
        disk.entry? location = none ∧
        after = disk.insert location .directory := by
  rcases except_bind_eq_ok_iff.mp hMade with
    ⟨location, hLocate, hInsert⟩
  refine ⟨location, hLocate, ?_⟩
  split at hInsert
  · cases hInsert
  · rename_i hNone
    cases hInsert
    have hFree :
        disk.entry? location ≠ some .directory := by
      simp [hNone]
    exact ⟨ne_nil_of_entry hFree, hNone, rfl⟩

/- A directory that is made takes no place of an entry. -/
theorem keeps_of_makeDirectory
    (hMade : disk.makeDirectory path = .ok after) :
    Keeps [] disk after := by
  rcases makeDirectory_eq_ok hMade with
    ⟨location, _, _, hNone, rfl⟩
  have hKeeps :
      Keeps [location] disk
        (disk.insert location .directory) :=
    Keeps.insert (by simp [hNone])
  exact {
    home := hKeeps.home
    entries := by
      intro other entry _ hEntry
      apply hKeeps.entries other entry ?_ hEntry
      intro hSame
      rw [List.mem_singleton.mp hSame, hNone] at hEntry
      cases hEntry
    directories := hKeeps.directories }

/- What is written to, and the file that stands there then. -/
theorem write_eq_ok
    {content : ByteArray}
    (hWrite : disk.write path content = .ok after) :
    ∃ location,
      disk.locate path = .ok location ∧
        disk.entry? location ≠ some .directory ∧
        after = disk.insert location (.file content) := by
  rcases except_bind_eq_ok_iff.mp hWrite with
    ⟨location, hLocate, hInsert⟩
  refine ⟨location, hLocate, ?_⟩
  split at hInsert
  · cases hInsert
  · rename_i hFree
    cases hInsert
    exact ⟨hFree, rfl⟩

/- A file that is written takes the place of no other entry. -/
theorem keeps_of_write
    {content : ByteArray}
    (hWrite : disk.write path content = .ok after) :
    Keeps [path.destination disk.home] disk after := by
  rcases write_eq_ok hWrite with
    ⟨location, hLocate, hFree, rfl⟩
  rw [← eq_destination_of_locate hLocate]
  exact Keeps.insert hFree

/- What is written is read. -/
theorem read_of_write
    {content : ByteArray}
    (hWrite : disk.write path content = .ok after) :
    after.read path = .ok content := by
  have hKeeps := keeps_of_write hWrite
  rcases write_eq_ok hWrite with
    ⟨location, hLocate, hFree, rfl⟩
  exact read_eq_ok_iff.mpr
    ⟨location, hKeeps.locate hLocate,
      entry_insert_self (ne_nil_of_entry hFree)⟩

end Disk

end ShaderBindings
