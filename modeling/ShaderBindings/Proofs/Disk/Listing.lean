import ShaderBindings.Proofs.Disk.Tree
import ShaderBindings.Proofs.Lookup
import ShaderBindings.Proofs.Path.Folder

/-
  Listed directories. A file behind the path of a directory
  is one of the names that are listed there, and is the entry
  of that name right below the directory. The entries of a
  disk may be kept in any order: names are listed in another
  order then, and nothing else changes.

  Key definitions include:
    * `Disk.Relists`
    * `Disk.IsNodup`

  Key theorems include:
    * `Disk.list_eq_ok_iff`
    * `Disk.mem_of_isFile_join`
    * `Disk.isFile_join_iff`
    * `Disk.Relists.locate_eq`
    * `Disk.Relists.list_perm`
-/

------------------------------------------------------------
-- Names in a Directory
------------------------------------------------------------

namespace ShaderBindings

open ShaderBindings.Path

namespace Disk

variable {disk : Disk}
variable {path directory : Path}
variable {location : Location}
variable {name : String}
variable {names : List String}

/- A path to a regular file leads to an entry that is one. -/
theorem isFile_iff :
    disk.isFile path = true ↔
      ∃ location content,
        disk.locate path = .ok location ∧
          disk.entry? location = some (.file content) := by
  rw [isFile]
  constructor
  · intro hFile
    split at hFile
    · rename_i content hFind
      rcases find_eq_ok_iff.mp hFind with
        ⟨location, hLocate, hEntry⟩
      exact ⟨location, content, hLocate, hEntry⟩
    · cases hFile
  · rintro ⟨location, content, hLocate, hEntry⟩
    rw [find_eq_ok_iff.mpr ⟨location, hLocate, hEntry⟩]

/- A directory is listed where a path leads to one. -/
theorem list_eq_ok_iff :
    disk.list path = .ok names ↔
      ∃ location,
        disk.locate path = .ok location ∧
          disk.entry? location = some .directory ∧
          names = disk.children location := by
  rw [list, except_bind_eq_ok_iff]
  constructor
  · rintro ⟨location, hLocate, hNames⟩
    split at hNames
    · cases hNames
    · cases hNames
    · rename_i hDirectory
      cases hNames
      exact ⟨location, hLocate, hDirectory, rfl⟩
  · rintro ⟨location, hLocate, hDirectory, rfl⟩
    refine ⟨location, hLocate, ?_⟩
    rw [hDirectory]

/- A directory that a path leads to is listed. -/
theorem exists_list_of_isDirectory
    (hDirectory : disk.isDirectory path = true) :
    ∃ names, disk.list path = .ok names := by
  rcases isDirectory_iff.mp hDirectory with
    ⟨location, hLocate, hEntry⟩
  exact
    ⟨_, list_eq_ok_iff.mpr ⟨location, hLocate, hEntry, rfl⟩⟩

/- The names in a directory of a tree are plain. -/
theorem IsTree.isPlainName_of_list
    (hTree : disk.IsTree)
    (hList : disk.list path = .ok names)
    (hName : name ∈ names) :
    IsPlainName name := by
  rcases list_eq_ok_iff.mp hList with ⟨_, _, _, rfl⟩
  exact hTree.isPlainName_of_children hName

/- The names in a directory are those of the entries below. -/
theorem mem_children_of_entry
    {entry : Entry}
    (hEntry :
      disk.entry? (location ++ [name]) = some entry) :
    name ∈ disk.children location := by
  rw [entry_of_ne_nil (by simp)] at hEntry
  rcases List.lookup_eq_some_iff.mp hEntry with
    ⟨before, behind, hEntries, _⟩
  apply List.mem_filterMap.mpr
  refine ⟨(location ++ [name], entry), ?_, ?_⟩
  · rw [hEntries]
    simp
  · rw [List.dropLast_concat, if_pos rfl,
      List.getLast?_concat]

/- A file in a directory is right below it. -/
theorem entry_of_isFile_join
    (hName : IsPlainName name)
    (hLocate : disk.locate directory = .ok location)
    (hFile : disk.isFile (directory.join ⟨name⟩) = true) :
    ∃ content,
      disk.entry? (location ++ [name]) =
        some (.file content) := by
  rcases isFile_iff.mp hFile with
    ⟨there, content, hThere, hEntry⟩
  rw [eq_destination_of_locate hThere,
    destination_join hName,
    ← eq_destination_of_locate hLocate] at hEntry
  exact ⟨content, hEntry⟩

/- A file in a directory is listed there. -/
theorem mem_of_isFile_join
    (hName : IsPlainName name)
    (hList : disk.list directory = .ok names)
    (hFile : disk.isFile (directory.join ⟨name⟩) = true) :
    name ∈ names := by
  rcases list_eq_ok_iff.mp hList with
    ⟨location, hLocate, _, rfl⟩
  rcases entry_of_isFile_join hName hLocate hFile with
    ⟨content, hEntry⟩
  exact mem_children_of_entry hEntry

/- The steps to a joined path end with the name. -/
theorem steps_join
    (hName : IsPlainName name)
    (path : Path) :
    (path.join ⟨name⟩).steps =
      pieces path.chars ++ [name] := by
  have hEnd :
      (path.join ⟨name⟩).chars.getLast? ≠ some '/' := by
    rw [chars_join hName, List.getLast?_append]
    intro hSlash
    rcases Option.or_eq_some_iff.mp hSlash with
      hLast | ⟨hNone, _⟩
    · exact hName.unslashed (List.mem_of_getLast? hLast)
    · exact hName.nonempty (List.getLast?_eq_none_iff.mp hNone)
  change
    pieces (path.join ⟨name⟩).chars ++
      (if (path.join ⟨name⟩).chars.getLast? = some '/' then
        ["."]
      else
        []) = _
  rw [if_neg hEnd, List.append_nil, pieces_join hName]

/- A walk needs no step that stays at its end. -/
theorem walk_pieces
    {here : Location}
    (hWalk : disk.walk here path.steps = .ok location) :
    disk.walk here (pieces path.chars) = .ok location := by
  change
    disk.walk here
      (pieces path.chars ++
        (if path.chars.getLast? = some '/' then
          ["."]
        else
          [])) = _ at hWalk
  rcases walk_append_iff.mp hWalk with
    ⟨between, hPieces, hEnd⟩
  split at hEnd
  · have hSame := eq_of_walk hEnd
    rw [hPieces, hSame]
    rfl
  · cases hEnd
    exact hPieces

/-
  A path in a directory that fits, with a name that is not
  too long, is that of a regular file when the entry of that
  name is one.
-/
theorem isFile_join_iff
    (hName : IsPlainName name)
    (hList : disk.list directory = .ok names)
    (hFits : (directory.join ⟨name⟩).Fits)
    (hShort : name.utf8ByteSize ≤ longestName) :
    disk.isFile (directory.join ⟨name⟩) = true ↔
      ∃ content,
        disk.entry?
            (directory.destination disk.home ++ [name]) =
          some (.file content) := by
  rcases list_eq_ok_iff.mp hList with
    ⟨location, hLocate, hDirectory, _⟩
  rw [← eq_destination_of_locate hLocate]
  constructor
  · exact entry_of_isFile_join hName hLocate
  · rintro ⟨content, hEntry⟩
    have hWalk :=
      walk_pieces (locate_eq_ok_iff.mp hLocate).2
    have hStep :
        disk.walk location [name] =
          .ok (location ++ [name]) := by
      refine walk_cons_iff.mpr
        ⟨hDirectory, fun _ _ => hShort, ?_⟩
      rw [hName.step]
      rfl
    have hThere :
        disk.locate (directory.join ⟨name⟩) =
          .ok (location ++ [name]) := by
      refine locate_eq_ok_iff.mpr ⟨hFits, ?_⟩
      rw [isAbsolute_join hName, steps_join hName,
        walk_append_iff]
      exact ⟨location, hWalk, hStep⟩
    exact isFile_iff.mpr
      ⟨location ++ [name], content, hThere, hEntry⟩

/- A path that leads up at its end is not that of a file. -/
theorem IsTree.isFile_up
    (hTree : disk.IsTree)
    {cs : List Char}
    (hOpen : IsOpen cs) :
    disk.isFile (ofChars (cs ++ ['.', '.'])) = false := by
  have hIsName : IsName ['.', '.'] := by
    constructor <;> decide
  rw [Bool.eq_false_iff]
  intro hFile
  rcases isFile_iff.mp hFile with
    ⟨location, content, hLocate, hEntry⟩
  rcases hTree.locate_cases hLocate with
    hDirectory | ⟨_, first, name, _, _, hNames, hPlain⟩
  · rw [hEntry] at hDirectory
    cases hDirectory
  · rw [chars_ofChars, names_append hOpen hIsName,
      List.append_singleton_inj] at hNames
    exact hPlain.not_above hNames.2.symm

end Disk

end ShaderBindings

------------------------------------------------------------
-- Other Orders of the Entries
------------------------------------------------------------

namespace ShaderBindings

namespace Disk

/- No location has two entries. -/
def IsNodup (disk : Disk) : Prop :=
  (disk.entries.map Prod.fst).Nodup

instance (disk : Disk) : Decidable disk.IsNodup :=
  inferInstanceAs (Decidable (List.Nodup _))

/- A disk with the same entries, kept in another order. -/
structure Relists (disk other : Disk) : Prop where
  home : other.home = disk.home
  entries : other.entries.Perm disk.entries

/- The disk with its entries the other way round. -/
def reversed (disk : Disk) : Disk :=
  { disk with entries := disk.entries.reverse }

theorem relists_reversed (disk : Disk) :
    disk.Relists disk.reversed where
  home := rfl
  entries := List.reverse_perm _

theorem children_reversed
    (disk : Disk)
    (location : Location) :
    disk.reversed.children location =
      (disk.children location).reverse :=
  List.filterMap_reverse

namespace Relists

variable {disk other : Disk}
variable {path : Path}

/- The same is found at every location. -/
theorem entry_eq
    (hRelists : disk.Relists other)
    (hNodup : disk.IsNodup)
    (location : Location) :
    other.entry? location = disk.entry? location := by
  unfold entry?
  rw [lookup_of_perm hNodup hRelists.entries]

theorem walk_eq
    (hRelists : disk.Relists other)
    (hNodup : disk.IsNodup)
    (here : Location)
    (steps : List String) :
    other.walk here steps = disk.walk here steps := by
  induction steps generalizing here with
  | nil => rfl
  | cons name rest ih =>
      rw [walk, walk, hRelists.entry_eq hNodup, ih, ih, ih]

/- Every path leads to the same location. -/
theorem locate_eq
    (hRelists : disk.Relists other)
    (hNodup : disk.IsNodup)
    (path : Path) :
    other.locate path = disk.locate path := by
  unfold locate
  rw [hRelists.walk_eq hNodup, hRelists.home]

theorem find_eq
    (hRelists : disk.Relists other)
    (hNodup : disk.IsNodup)
    (path : Path) :
    other.find path = disk.find path := by
  rw [find, find, hRelists.locate_eq hNodup]
  cases disk.locate path with
  | error fault => rfl
  | ok location =>
      dsimp only [bind, Except.bind]
      rw [hRelists.entry_eq hNodup]

/- The same paths lead to regular files. -/
theorem isFile_eq
    (hRelists : disk.Relists other)
    (hNodup : disk.IsNodup)
    (path : Path) :
    other.isFile path = disk.isFile path := by
  rw [isFile, isFile, hRelists.find_eq hNodup]

/- The same directories are listed, in some order. -/
theorem list_perm
    {names : List String}
    (hRelists : disk.Relists other)
    (hNodup : disk.IsNodup)
    (hList : disk.list path = .ok names) :
    ∃ others,
      other.list path = .ok others ∧ others.Perm names := by
  rcases list_eq_ok_iff.mp hList with
    ⟨location, hLocate, hDirectory, rfl⟩
  refine ⟨other.children location, ?_, ?_⟩
  · apply list_eq_ok_iff.mpr
    refine ⟨location, ?_, ?_, rfl⟩
    · rw [hRelists.locate_eq hNodup]
      exact hLocate
    · rw [hRelists.entry_eq hNodup]
      exact hDirectory
  · exact hRelists.entries.filterMap _

end Relists

end Disk

end ShaderBindings
