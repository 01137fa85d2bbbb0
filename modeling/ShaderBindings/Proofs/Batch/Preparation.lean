import ShaderBindings.Proofs.Batch.OnDisk
import ShaderBindings.Proofs.Disk.Tree

/-
  The directories of output files. Preparing a directory adds
  directories where nothing was, and changes nothing else. A
  directory that is prepared stands, and preparing it once
  more changes nothing; one that cannot be prepared cannot be
  prepared on the disk that the attempt leaves either.

  Key definitions include:
    * `Disk.Opens`
    * `Disk.Stands`

  Key theorems include:
    * `Disk.opens_prepare`
    * `Disk.IsTree.prepare`
    * `Disk.stands_of_prepare`
    * `Disk.prepare_of_stands`
    * `Disk.prepare_fails_again`
-/

------------------------------------------------------------
-- Opening Directories
------------------------------------------------------------

namespace ShaderBindings

namespace Disk

/-
  Directories were added to a disk, where some of the paths
  lead to and nothing was before.
-/
structure Opens
    (paths : List Path)
    (before after : Disk) : Prop where
  home : after.home = before.home
  entries :
    ∀ location,
      after.entry? location = before.entry? location ∨
        (before.entry? location = none ∧
          after.entry? location = some .directory ∧
          ∃ path ∈ paths,
            location = path.destination before.home)

namespace Opens

variable {paths others : List Path}
variable {before between after : Disk}

theorem refl
    (paths : List Path)
    (disk : Disk) : Opens paths disk disk where
  home := rfl
  entries := fun _ => Or.inl rfl

theorem trans
    (hFirst : Opens paths before between)
    (hSecond : Opens paths between after) :
    Opens paths before after where
  home := hSecond.home.trans hFirst.home
  entries := by
    intro location
    rcases hSecond.entries location with
      hSame | ⟨hNone, hOpened, hPath⟩
    · rw [hSame]
      exact hFirst.entries location
    · rcases hFirst.entries location with
        hBefore | ⟨_, hDirectory, _⟩
      · rw [hFirst.home] at hPath
        exact Or.inr ⟨hBefore ▸ hNone, hOpened, hPath⟩
      · rw [hNone] at hDirectory
        cases hDirectory

theorem mono
    (hOpens : Opens paths before after)
    (hPaths : paths ⊆ others) :
    Opens others before after where
  home := hOpens.home
  entries := by
    intro location
    rcases hOpens.entries location with
      hSame | ⟨hNone, hOpened, path, hPath, hLocation⟩
    · exact Or.inl hSame
    · exact Or.inr
        ⟨hNone, hOpened, path, hPaths hPath, hLocation⟩

/- An entry that was there is there still. -/
theorem kept
    (hOpens : Opens paths before after)
    {location : Location}
    {entry : Entry}
    (hEntry : before.entry? location = some entry) :
    after.entry? location = some entry := by
  rcases hOpens.entries location with hSame | ⟨hNone, _, _⟩
  · rw [hSame, hEntry]
  · rw [hNone] at hEntry
    cases hEntry

/- A file that is there was there before. -/
theorem file_iff
    (hOpens : Opens paths before after)
    {location : Location}
    {content : ByteArray} :
    after.entry? location = some (.file content) ↔
      before.entry? location = some (.file content) := by
  constructor
  · intro hFile
    rcases hOpens.entries location with
      hSame | ⟨_, hOpened, _⟩
    · rw [← hSame, hFile]
    · rw [hFile] at hOpened
      cases hOpened
  · exact hOpens.kept

end Opens

theorem opens_of_makeDirectory
    {disk after : Disk}
    {path : Path}
    (hMade : disk.makeDirectory path = .ok after) :
    Opens [path] disk after := by
  rcases makeDirectory_eq_ok hMade with
    ⟨location, hLocate, hBelow, hNone, rfl⟩
  exact {
    home := rfl
    entries := by
      intro other
      by_cases hSame : other = location
      · right
        rw [hSame]
        exact
          ⟨hNone, entry_insert_self hBelow, path,
            List.mem_singleton_self path,
            eq_destination_of_locate hLocate⟩
      · exact Or.inl (entry_insert_of_ne hSame) }

/- Whatever comes of it, only directories are added. -/
theorem opens_createInside
    (paths : List Path)
    (disk : Disk) :
    Opens paths disk (disk.createInside paths).2 := by
  induction paths with
  | nil => exact Opens.refl [] disk
  | cons path above ih =>
      have hPath : [path] ⊆ path :: above := by simp
      have hAbove : above ⊆ path :: above :=
        List.subset_cons_self path above
      rw [createInside]
      by_cases hEmpty : path.isEmpty = true
      · rw [if_pos hEmpty]
        exact Opens.refl _ disk
      · rw [if_neg hEmpty]
        split
        · rename_i made hMade
          exact (opens_of_makeDirectory hMade).mono hPath
        · split
          · rename_i fault between hCreated
            rw [hCreated] at ih
            exact ih.mono hAbove
          · rename_i between hCreated
            rw [hCreated] at ih
            split
            · rename_i made hMade
              exact (ih.mono hAbove).trans
                ((opens_of_makeDirectory hMade).mono hPath)
            · exact ih.mono hAbove
        · exact Opens.refl _ disk

theorem opens_prepare
    (directory : Path)
    (disk : Disk) :
    Opens directory.ancestors disk
      (disk.prepare directory).2 := by
  unfold prepare
  split
  · exact Opens.refl _ disk
  · exact opens_createInside _ disk

end Disk

end ShaderBindings

------------------------------------------------------------
-- Directories in a Tree
------------------------------------------------------------

namespace ShaderBindings

namespace Disk

namespace IsTree

variable {disk after : Disk}
variable {path : Path}

theorem makeDirectory
    (hTree : disk.IsTree)
    (hMade : disk.makeDirectory path = .ok after) :
    after.IsTree := by
  rcases makeDirectory_eq_ok hMade with
    ⟨location, hLocate, _, hNone, rfl⟩
  rcases hTree.locate_cases hLocate with
    hDirectory | ⟨above, _, name, rfl, hAbove, _, hName⟩
  · rw [hNone] at hDirectory
    cases hDirectory
  · apply hTree.insert hAbove hName
    rw [hNone]
    exact Option.some_ne_none _ |>.symm

theorem write
    {content : ByteArray}
    (hTree : disk.IsTree)
    (hWrite : disk.write path content = .ok after) :
    after.IsTree := by
  rcases write_eq_ok hWrite with
    ⟨location, hLocate, hFree, rfl⟩
  rcases hTree.locate_cases hLocate with
    hDirectory | ⟨above, _, name, rfl, hAbove, _, hName⟩
  · exact absurd hDirectory hFree
  · exact hTree.insert hAbove hName hFree

theorem createInside
    (hTree : disk.IsTree)
    (paths : List Path) :
    (disk.createInside paths).2.IsTree := by
  induction paths with
  | nil => exact hTree
  | cons path above ih =>
      rw [Disk.createInside]
      split
      · exact hTree
      · split
        · rename_i made hMade
          exact hTree.makeDirectory hMade
        · split
          · rename_i fault between hCreated
            rw [hCreated] at ih
            exact ih
          · rename_i between hCreated
            rw [hCreated] at ih
            split
            · rename_i made hMade
              exact ih.makeDirectory hMade
            · exact ih
        · exact hTree

/- Preparing a directory in a tree leaves a tree. -/
theorem prepare
    (hTree : disk.IsTree)
    (directory : Path) :
    (disk.prepare directory).2.IsTree := by
  unfold Disk.prepare
  split
  · exact hTree
  · exact hTree.createInside _

end IsTree

end Disk

end ShaderBindings

------------------------------------------------------------
-- Preparing Once More
------------------------------------------------------------

namespace ShaderBindings

open ShaderBindings.Path

namespace Disk

variable {disk after between : Disk}
variable {path : Path}
variable {above : List Path}
variable {fault : FileFault}

/- Nothing is left to be prepared for a directory. -/
def Stands
    (disk : Disk)
    (directory : Path) : Prop :=
  directory.isEmpty = true ∨
    disk.isDirectory directory = true

theorem settle_of_isDirectory
    (hDirectory : disk.isDirectory path = true) :
    disk.settle path fault = .ok () := by
  rw [settle, if_pos hDirectory]

theorem settle_of_not_isDirectory
    (hBlocked : ¬ disk.isDirectory path = true) :
    disk.settle path fault = .error fault := by
  rw [settle, if_neg hBlocked]

/- A directory that is made is one. -/
theorem isDirectory_of_makeDirectory
    (hMade : disk.makeDirectory path = .ok after) :
    after.isDirectory path = true := by
  have hKeeps := keeps_of_makeDirectory hMade
  rcases makeDirectory_eq_ok hMade with
    ⟨location, hLocate, hBelow, hNone, rfl⟩
  exact isDirectory_iff.mpr
    ⟨location, hKeeps.locate hLocate,
      entry_insert_self hBelow⟩

/- Nothing can be made where a directory is. -/
theorem makeDirectory_of_isDirectory
    (hDirectory : disk.isDirectory path = true) :
    disk.makeDirectory path = .error .exists := by
  rcases isDirectory_iff.mp hDirectory with
    ⟨location, hLocate, hEntry⟩
  rw [Disk.makeDirectory, hLocate]
  dsimp only [bind, Except.bind]
  rw [hEntry]

/- Nothing can be made where a path does not lead. -/
theorem exists_fault_of_locate
    (hLost : ∀ location, disk.locate path ≠ .ok location) :
    ∃ fault, disk.makeDirectory path = .error fault := by
  cases hMade : disk.makeDirectory path with
  | error fault => exact ⟨fault, rfl⟩
  | ok made =>
      rcases makeDirectory_eq_ok hMade with
        ⟨location, hLocate, _⟩
      exact absurd hLocate (hLost location)

/- What stands is not made, nor is anything above it. -/
theorem createInside_of_stands
    (hStands : disk.Stands path)
    (above : List Path) :
    disk.createInside (path :: above) = (.ok (), disk) := by
  rw [Disk.createInside]
  by_cases hEmpty : path.isEmpty = true
  · rw [if_pos hEmpty]
  · have hDirectory := hStands.resolve_left hEmpty
    rw [if_neg hEmpty,
      makeDirectory_of_isDirectory hDirectory]
    dsimp only
    rw [settle_of_isDirectory hDirectory]

/- A directory that is made inside others stands. -/
theorem stands_of_createInside
    (hCreated :
      disk.createInside (path :: above) = (.ok (), after)) :
    after.Stands path := by
  rw [Disk.createInside] at hCreated
  by_cases hEmpty : path.isEmpty = true
  · exact Or.inl hEmpty
  · right
    rw [if_neg hEmpty] at hCreated
    -- a fault is settled only where a directory is
    have hSettled
        {disk : Disk}
        {fault : FileFault}
        (hDone :
          (disk.settle path fault, disk) =
            ((.ok (), after) : Except FileFault Unit × Disk)) :
        after.isDirectory path = true := by
      rw [Prod.mk.injEq] at hDone
      rcases hDone with ⟨hSettle, rfl⟩
      by_contra hBlocked
      rw [settle_of_not_isDirectory hBlocked] at hSettle
      cases hSettle
    split at hCreated
    · rename_i made hMade
      cases hCreated
      exact isDirectory_of_makeDirectory hMade
    · split at hCreated
      · cases hCreated
      · split at hCreated
        · rename_i made hMade
          cases hCreated
          exact isDirectory_of_makeDirectory hMade
        · exact hSettled hCreated
    · exact hSettled hCreated

/- Directories that were made are not made again. -/
theorem createInside_again
    {paths : List Path}
    (hCreated : disk.createInside paths = (.ok (), after)) :
    after.createInside paths = (.ok (), after) := by
  cases paths with
  | nil => rfl
  | cons path above =>
      exact createInside_of_stands
        (stands_of_createInside hCreated) above

/-
  Nothing changes where a directory can neither be made nor
  found, and nothing is to be made above it.
-/
theorem createInside_stays
    {result : Except FileFault Unit}
    (hFilled : ¬ path.isEmpty = true)
    (hBlocked : ¬ disk.isDirectory path = true)
    (hFault : disk.makeDirectory path = .error fault)
    (hAbove : disk.createInside above = (result, disk)) :
    ∃ other,
      disk.createInside (path :: above) =
        (.error other, disk) := by
  rw [Disk.createInside, if_neg hFilled, hFault]
  by_cases hMissing : fault = .notFound
  · rw [hMissing] at hFault ⊢
    dsimp only
    rw [hAbove]
    cases result with
    | error other => exact ⟨other, rfl⟩
    | ok done =>
        dsimp only
        rw [hFault]
        dsimp only
        rw [settle_of_not_isDirectory hBlocked]
        exact ⟨_, rfl⟩
  · refine ⟨fault, ?_⟩
    cases fault with
    | notFound => exact absurd rfl hMissing
    | _ =>
        exact congrArg (Prod.mk · disk)
          (settle_of_not_isDirectory hBlocked)

/-
  What fails inside directories fails again, when the path
  leads nowhere on a disk where those cannot be made.
-/
theorem createInside_cons_fails_again
    (hAgain :
      ∀ fault between,
        disk.createInside above = (.error fault, between) →
          (∀ location, between.locate path ≠ .ok location) ∧
            ∃ other,
              between.createInside above =
                (.error other, between))
    (hFailed :
      disk.createInside (path :: above) =
        (.error fault, after)) :
    ∃ other,
      after.createInside (path :: above) =
        (.error other, after) := by
  by_cases hEmpty : path.isEmpty = true
  · rw [createInside_of_stands (Or.inl hEmpty)] at hFailed
    cases hFailed
  · have hWhole := hFailed
    rw [Disk.createInside, if_neg hEmpty] at hFailed
    split at hFailed
    · cases hFailed
    · split at hFailed
      -- nothing was made above, so the path leads nowhere
      · rename_i hCreated
        cases hFailed
        rcases hAgain _ _ hCreated with ⟨hLost, other, hOther⟩
        rcases exists_fault_of_locate hLost with
          ⟨fault, hFault⟩
        refine createInside_stays hEmpty ?_ hFault hOther
        intro hDirectory
        rcases isDirectory_iff.mp hDirectory with
          ⟨location, hLocate, _⟩
        exact hLost location hLocate
      -- all was made above, and the same fault comes again
      · rename_i hCreated
        split at hFailed
        · cases hFailed
        · rename_i hFault
          rw [Prod.mk.injEq] at hFailed
          rcases hFailed with ⟨hSettle, rfl⟩
          refine createInside_stays hEmpty ?_ hFault
            (createInside_again hCreated)
          intro hDirectory
          rw [settle_of_isDirectory hDirectory] at hSettle
          cases hSettle
    · rw [Prod.mk.injEq] at hFailed
      rcases hFailed with ⟨_, rfl⟩
      exact ⟨_, hWhole⟩

/-
  What cannot be made cannot be made on the disk that the
  attempt leaves either: a path leads nowhere when its parent
  does not stand.
-/
theorem createInside_fails_again
    {fuel : Nat}
    (hFailed :
      disk.createInside (ancestorsWithin fuel path) =
        (.error fault, after)) :
    ∃ other,
      after.createInside (ancestorsWithin fuel path) =
        (.error other, after) := by
  induction fuel generalizing path fault after with
  | zero => cases hFailed
  | succ fuel ih =>
      rw [ancestorsWithin] at hFailed ⊢
      refine createInside_cons_fails_again ?_ hFailed
      intro fault between hCreated
      split at hCreated
      · rename_i parent hParent
        rcases ih hCreated with ⟨other, hOther⟩
        refine ⟨?_, other, hOther⟩
        intro location hLocate
        have hStands : between.Stands parent :=
          isDirectory_of_parent hLocate hParent
        cases fuel with
        | zero => cases hOther
        | succ fuel =>
            rw [ancestorsWithin,
              createInside_of_stands hStands] at hOther
            cases hOther
      · cases hCreated

end Disk

end ShaderBindings

------------------------------------------------------------
-- Preparations
------------------------------------------------------------

namespace ShaderBindings

namespace Disk

variable {disk after : Disk}
variable {directory : Path}

/- What stands is left alone. -/
theorem prepare_of_stands
    (hStands : disk.Stands directory) :
    disk.prepare directory = (.ok (), disk) := by
  unfold prepare
  split
  · rfl
  · exact createInside_of_stands hStands _

/- What is prepared stands. -/
theorem stands_of_prepare
    (hPrepared :
      disk.prepare directory = (.ok (), after)) :
    after.Stands directory := by
  unfold prepare at hPrepared
  split at hPrepared
  · exact Or.inl ‹_›
  · exact stands_of_createInside hPrepared

/- What cannot be prepared cannot be prepared again. -/
theorem prepare_fails_again
    {fault : FileFault}
    (hFailed :
      disk.prepare directory = (.error fault, after)) :
    ∃ other,
      after.prepare directory = (.error other, after) := by
  unfold prepare at hFailed ⊢
  split at hFailed
  · cases hFailed
  · rename_i hFilled
    rw [if_neg hFilled]
    exact createInside_fails_again hFailed

end Disk

end ShaderBindings
