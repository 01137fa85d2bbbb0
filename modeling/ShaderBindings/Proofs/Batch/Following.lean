import ShaderBindings.Proofs.Batch.Effects

/-
  The disks that a batch reaches from a tree. Whatever pairs
  were processed, the shaders are the same, and preparing the
  output directory of a pair comes out as it would have at
  first. So a pair comes out as it would have at first.

  Key definitions include:
    * `Disk.SameDirectories`
    * `Disk.SamePreparation`
    * `Disk.Serves`
    * `Disk.Follows`

  Key theorems include:
    * `Disk.serves_outputFolder`
    * `Disk.samePreparation_of_process`
    * `Disk.Follows.process`
    * `Disk.Follows.generates_iff`
    * `Disk.Follows.process_eq_ok_iff`
-/

------------------------------------------------------------
-- Disks with the Same Directories
------------------------------------------------------------

namespace ShaderBindings

namespace Disk

/- Directories, and the working directory, are the same. -/
structure SameDirectories (first second : Disk) : Prop where
  home : second.home = first.home
  directory_iff :
    ∀ location,
      second.entry? location = some .directory ↔
        first.entry? location = some .directory

/- A file is written where no directory is in the way. -/
theorem write_succeeds_iff
    {disk : Disk}
    {path : Path}
    {content : ByteArray} :
    (∃ after, disk.write path content = .ok after) ↔
      ∃ location,
        disk.locate path = .ok location ∧
          disk.entry? location ≠ some .directory := by
  constructor
  · rintro ⟨after, hWrite⟩
    rcases write_eq_ok hWrite with
      ⟨location, hLocate, hFree, _⟩
    exact ⟨location, hLocate, hFree⟩
  · rintro ⟨location, hLocate, hFree⟩
    refine ⟨disk.insert location (.file content), ?_⟩
    refine except_bind_eq_ok_iff.mpr
      ⟨location, hLocate, ?_⟩
    split
    · rename_i hDirectory
      exact absurd hDirectory hFree
    · rfl

namespace SameDirectories

variable {first second third : Disk}
variable {path : Path}

theorem refl (disk : Disk) : SameDirectories disk disk where
  home := rfl
  directory_iff := fun _ => Iff.rfl

theorem trans
    (hFirst : SameDirectories first second)
    (hSecond : SameDirectories second third) :
    SameDirectories first third where
  home := hSecond.home.trans hFirst.home
  directory_iff := fun location =>
    (hSecond.directory_iff location).trans
      (hFirst.directory_iff location)

/- What is located depends on directories only. -/
theorem locate_iff
    (hSame : SameDirectories first second)
    {location : Location} :
    second.locate path = .ok location ↔
      first.locate path = .ok location := by
  constructor
  · exact locate_of_directories hSame.home.symm
      fun location => (hSame.directory_iff location).mp
  · exact locate_of_directories hSame.home
      fun location => (hSame.directory_iff location).mpr

/- Whether a file is written depends on directories only. -/
theorem write_iff
    (hSame : SameDirectories first second)
    {content : ByteArray} :
    (∃ after, second.write path content = .ok after) ↔
      ∃ after, first.write path content = .ok after := by
  simp only [write_succeeds_iff, hSame.locate_iff, ne_eq,
    hSame.directory_iff]

end SameDirectories

/- A file that is written takes no place of a directory. -/
theorem sameDirectories_of_write
    {disk after : Disk}
    {path : Path}
    {content : ByteArray}
    (hWrite : disk.write path content = .ok after) :
    SameDirectories disk after := by
  rcases write_eq_ok hWrite with
    ⟨location, hLocate, hFree, rfl⟩
  exact {
    home := rfl
    directory_iff := by
      intro other
      by_cases hSame : other = location
      · rw [hSame,
          entry_insert_self (ne_nil_of_entry hFree)]
        constructor
        · intro hNever
          cases hNever
        · intro hDirectory
          exact absurd hDirectory hFree
      · rw [entry_insert_of_ne hSame] }

/- What stands still stands behind more directories. -/
theorem Stands.mono
    {before after : Disk}
    {folder : Path}
    (hStands : before.Stands folder)
    (hHome : after.home = before.home)
    (hDirectories :
      ∀ location,
        before.entry? location = some .directory →
          after.entry? location = some .directory) :
    after.Stands folder := by
  rcases hStands with hEmpty | hDirectory
  · exact Or.inl hEmpty
  · right
    rcases isDirectory_iff.mp hDirectory with
      ⟨location, hLocate, hEntry⟩
    exact isDirectory_iff.mpr
      ⟨location,
        locate_of_directories hHome hDirectories hLocate,
        hDirectories location hEntry⟩

end Disk

end ShaderBindings

------------------------------------------------------------
-- Output Directories
------------------------------------------------------------

namespace ShaderBindings

open ShaderBindings.Path

namespace Disk

/-
  A directory serves for outputs: it is the one that is
  given for all pairs, or none is given and it stands.
-/
inductive Serves (disk : Disk) : Option Path → Path → Prop
| given (directory : Path) :
    Serves disk (some directory) directory.fileDirectory
| beside {folder : Path} (stands : disk.Stands folder) :
    Serves disk none folder

theorem Serves.mono
    {before after : Disk}
    {outDir : Option Path}
    {folder : Path}
    (hServes : before.Serves outDir folder)
    (hHome : after.home = before.home)
    (hDirectories :
      ∀ location,
        before.entry? location = some .directory →
          after.entry? location = some .directory) :
    after.Serves outDir folder := by
  cases hServes with
  | given directory => exact .given directory
  | beside hStands =>
      exact .beside (hStands.mono hHome hDirectories)

/- Directories that serve are the same, or both stand. -/
theorem Serves.eq_or_stands
    {disk : Disk}
    {outDir : Option Path}
    {folder other : Path}
    (hServes : disk.Serves outDir folder)
    (hOther : disk.Serves outDir other) :
    folder = other ∨
      (disk.Stands folder ∧ disk.Stands other) := by
  cases hServes with
  | given directory =>
      cases hOther with
      | given => exact Or.inl rfl
  | beside hStands =>
      cases hOther with
      | beside hStands' => exact Or.inr ⟨hStands, hStands'⟩

/- The empty path is the directory of files behind it. -/
theorem stands_nowhere (disk : Disk) :
    disk.Stands (fileDirectory ⟨""⟩) := by
  have hStarts := chars_fileDirectory_starts ⟨""⟩
  have hNone : (fileDirectory ⟨""⟩).chars = [] :=
    List.prefix_nil.mp hStarts
  left
  simpa [isEmpty, chars] using hNone

/- The directory of a path that is located stands. -/
theorem stands_above
    {disk : Disk}
    {path above : Path}
    {location : Location}
    (hLocate : disk.locate path = .ok location)
    (hParent : path.parent? = some above) :
    disk.Stands above.fileDirectory := by
  by_cases hEmpty : above.fileDirectory.isEmpty = true
  · exact Or.inl hEmpty
  · have hFilled : above.fileDirectory.chars ≠ [] := by
      simpa [isEmpty, chars] using hEmpty
    have hStarts := chars_fileDirectory_starts above
    rcases names_fileDirectory above with
      ⟨hSameNames, hSameStart⟩
    rcases names_of_parent hParent with
      ⟨rfl, _⟩ | ⟨before, piece, hPiece, hNames, hAbsolute, _⟩
    · exact stands_nowhere disk
    · right
      apply isDirectory_of_names hLocate
        (hStarts.trans (chars_parent_starts hParent)) hFilled
        (hSameStart.trans hAbsolute)
      rw [hSameNames, hNames]
      exact (names_of_lastPiece hPiece).1

/- The directory of a file that is read stands. -/
theorem stands_beside
    {disk : Disk}
    {path : Path}
    {content : ByteArray}
    (hRead : disk.read path = .ok content) :
    disk.Stands
      (path.parent?.getD ⟨""⟩).fileDirectory := by
  rcases read_eq_ok_iff.mp hRead with ⟨location, hLocate, _⟩
  cases hParent : path.parent? with
  | none => exact stands_nowhere disk
  | some above => exact stands_above hLocate hParent

/-
  The directory of an output serves once its binding is
  generated, since the primary file was read by then.
-/
theorem serves_outputFolder
    {disk : Disk}
    {config : Config}
    {pair : ShaderPair}
    {generated : Generated}
    (hMakes : disk.Generates config pair generated) :
    disk.Serves config.outDir
      (pair.outputFolder config.outDir) := by
  cases config.outDir with
  | some directory => exact .given directory
  | none =>
      rcases generates_iff_texts.mp hMakes with
        ⟨primary, _, hPrimary, _⟩
      rcases readText_eq_ok_iff.mp hPrimary with
        ⟨content, hRead, _⟩
      exact .beside (stands_beside hRead)

end Disk

end ShaderBindings

------------------------------------------------------------
-- Preparations behind Other Pairs
------------------------------------------------------------

namespace ShaderBindings

namespace Disk

/- Two preparations come out the same. -/
structure SamePreparation
    (first second : Except FileFault Unit × Disk) : Prop where
  ok_iff : second.1 = .ok () ↔ first.1 = .ok ()
  directories : SameDirectories first.2 second.2

theorem SamePreparation.refl
    (prepared : Except FileFault Unit × Disk) :
    SamePreparation prepared prepared where
  ok_iff := Iff.rfl
  directories := SameDirectories.refl _

theorem SamePreparation.trans
    {first second third : Except FileFault Unit × Disk}
    (hFirst : SamePreparation first second)
    (hSecond : SamePreparation second third) :
    SamePreparation first third where
  ok_iff := hSecond.ok_iff.trans hFirst.ok_iff
  directories := hFirst.directories.trans hSecond.directories

variable {disk : Disk}
variable {config : Config}
variable {path folder : Path}
variable {pair : ShaderPair}

/-
  A directory that serves is prepared as before when a pair
  was processed. If it is the one that was prepared for the
  pair, the same comes out again; otherwise it stands.
-/
theorem samePreparation_of_process
    (hPair : ShaderPair.ofFile path = .ok pair)
    (hServes : disk.Serves config.outDir folder) :
    SamePreparation (disk.prepare folder)
      ((disk.process config pair).2.prepare folder) := by
  have hProcessed := processed disk config hPair
  generalize disk.process config pair = done at hProcessed ⊢
  cases hProcessed with
  | unread hSource => exact SamePreparation.refl _
  | ungenerated hSource hMade => exact SamePreparation.refl _
  | unprepared hMakes hPrepared =>
      rcases hServes.eq_or_stands
          (serves_outputFolder hMakes) with
        rfl | ⟨_, hStands⟩
      · rcases prepare_fails_again hPrepared with
          ⟨other, hAgain⟩
        rw [hPrepared, hAgain]
        exact {
          ok_iff := by simp
          directories := SameDirectories.refl _ }
      · rw [prepare_of_stands hStands] at hPrepared
        cases hPrepared
  -- what was prepared stands, so it is left alone
  | unwritten hMakes hPrepared hWrite =>
      rcases hServes.eq_or_stands
          (serves_outputFolder hMakes) with
        rfl | ⟨_, hStands⟩
      · rw [hPrepared,
          prepare_of_stands (stands_of_prepare hPrepared)]
        exact SamePreparation.refl _
      · rw [prepare_of_stands hStands] at hPrepared
        cases hPrepared
        exact SamePreparation.refl _
  | written hMakes hPrepared hWrite =>
      have hSame := sameDirectories_of_write hWrite
      have hStill
          {folder : Path}
          (hStands : Stands _ folder) :=
        hStands.mono hSame.home fun location =>
          (hSame.directory_iff location).mpr
      rcases hServes.eq_or_stands
          (serves_outputFolder hMakes) with
        rfl | ⟨hStands, hOther⟩
      · rw [hPrepared,
          prepare_of_stands
            (hStill (stands_of_prepare hPrepared))]
        exact {
          ok_iff := Iff.rfl
          directories := hSame }
      · rw [prepare_of_stands hOther] at hPrepared
        cases hPrepared
        rw [prepare_of_stands hStands,
          prepare_of_stands (hStill hStands)]
        exact {
          ok_iff := Iff.rfl
          directories := hSame }

end Disk

end ShaderBindings

------------------------------------------------------------
-- Disks That a Batch Reaches
------------------------------------------------------------

namespace ShaderBindings

open ShaderBindings.Path

namespace ShaderPair

/- The pair of a file, whose path never goes up. -/
structure IsLevel (pair : ShaderPair) : Prop where
  isOfFile : pair.IsOfFile
  level : ".." ∉ pair.primary.steps

/- The partner of a level pair is reached without going up. -/
theorem IsLevel.partner
    {pair : ShaderPair}
    (hLevel : pair.IsLevel)
    (hShader : pair.partner.NamesShader) :
    ".." ∉ pair.partner.steps := by
  rcases hLevel with ⟨⟨path, hPair⟩, hPrimary⟩
  rcases hShader with ⟨first, name, hNames, hPlain, _⟩
  have hStarts := (names_partner hPair hNames hPlain).1
  rw [up_mem_steps_iff] at hPrimary ⊢
  rw [hNames, List.mem_append, not_or]
  constructor
  · exact fun hUp => hPrimary (hStarts.subset hUp)
  · intro hUp
    exact hPlain.not_above (List.mem_singleton.mp hUp).symm

end ShaderPair

namespace Disk

/-
  A disk that pairs were processed on: a tree with the same
  shaders, where directories that serve are prepared with
  the same result.
-/
structure Follows
    (config : Config)
    (first later : Disk) : Prop where
  tree : later.IsTree
  shaders : KeepsShaders first later
  prepared :
    ∀ folder,
      first.Serves config.outDir folder →
        SamePreparation (first.prepare folder)
          (later.prepare folder)

namespace Follows

variable {config : Config}
variable {first later : Disk}
variable {path output : Path}
variable {pair : ShaderPair}
variable {generated : Generated}

theorem refl (hTree : first.IsTree) :
    Follows config first first where
  tree := hTree
  shaders := KeepsShaders.refl first
  prepared := fun _ _ => SamePreparation.refl _

/- Another pair may be processed on such a disk. -/
theorem process
    (hFollows : Follows config first later)
    (hPair : ShaderPair.ofFile path = .ok pair) :
    Follows config first (later.process config pair).2 := by
  rcases keepsShaders_process config hPair hFollows.tree with
    ⟨hTree, hShaders⟩
  exact {
    tree := hTree
    shaders := hFollows.shaders.trans hShaders
    prepared := by
      intro folder hServes
      apply (hFollows.prepared folder hServes).trans
      exact samePreparation_of_process hPair
        (hServes.mono hFollows.shaders.home
          hFollows.shaders.directories) }

/- The primary of a level pair is read as at first. -/
theorem read_primary_iff
    (hFollows : Follows config first later)
    (hTree : first.IsTree)
    (hLevel : pair.IsLevel)
    {content : ByteArray} :
    later.read pair.primary = .ok content ↔
      first.read pair.primary = .ok content := by
  rcases hLevel.isOfFile with ⟨path, hPair⟩
  exact hFollows.shaders.read_iff hTree
    (ShaderPair.namesShader_primary hPair) hLevel.level

/- So is its partner, which may have no name to be read by. -/
theorem read_partner_iff
    (hFollows : Follows config first later)
    (hTree : first.IsTree)
    (hLevel : pair.IsLevel)
    {content : ByteArray} :
    later.read pair.partner = .ok content ↔
      first.read pair.partner = .ok content := by
  rcases hLevel.isOfFile with ⟨path, hPair⟩
  constructor
  · intro hRead
    have hShader :=
      ShaderPair.namesShader_partner hPair hFollows.tree hRead
    exact
      (hFollows.shaders.read_iff hTree hShader
        (hLevel.partner hShader)).mp hRead
  · intro hRead
    exact hFollows.shaders.read
      (ShaderPair.namesShader_partner hPair hTree hRead) hRead

/- The source of a level pair is what it was at first. -/
theorem source_eq_ok_iff
    (hFollows : Follows config first later)
    (hTree : first.IsTree)
    (hLevel : pair.IsLevel)
    {source : String} :
    later.source pair = .ok source ↔
      first.source pair = .ok source := by
  simp only [Disk.source_eq_ok_iff, readText_eq_ok_iff,
    hFollows.read_primary_iff hTree hLevel,
    hFollows.read_partner_iff hTree hLevel]

/- What is generated for a level pair is the same as at first. -/
theorem generates_iff
    (hFollows : Follows config first later)
    (hTree : first.IsTree)
    (hLevel : pair.IsLevel) :
    later.Generates config pair generated ↔
      first.Generates config pair generated := by
  unfold Generates
  simp only [hFollows.source_eq_ok_iff hTree hLevel]

end Follows

/- What has to go well for a pair to succeed. -/
theorem process_eq_ok_iff
    {disk : Disk}
    {config : Config}
    {path output : Path}
    {pair : ShaderPair}
    (hPair : ShaderPair.ofFile path = .ok pair) :
    (disk.process config pair).1 = .ok output ↔
      ∃ generated,
        disk.Generates config pair generated ∧
          pair.outputPath generated.fileName config.outDir =
            output ∧
          (disk.prepare
              (pair.outputFolder config.outDir)).1 = .ok () ∧
          ∃ after,
            (disk.prepare
                (pair.outputFolder config.outDir)).2.write
              output generated.source.toUTF8 = .ok after := by
  constructor
  · intro hOutput
    rcases exists_write_of_process hPair hOutput with
      ⟨generated, between, hMakes, rfl, hPrepared, hWrite⟩
    rw [hPrepared]
    exact ⟨generated, hMakes, rfl, rfl, _, hWrite⟩
  · rintro
      ⟨generated, hMakes, rfl, hPrepared, after, hWrite⟩
    have hParent := hMakes.parent_outputPath hPair
    rcases hMakes with ⟨source, hSource, hMade⟩
    rw [process, hSource]
    dsimp only
    rw [hMade]
    dsimp only
    rw [writeOutput, hParent, Option.getD_some]
    generalize
      disk.prepare (pair.outputFolder config.outDir) =
        prepared at hPrepared hWrite ⊢
    rcases prepared with ⟨result, between⟩
    dsimp only at hPrepared hWrite ⊢
    rw [hPrepared]
    dsimp only
    rw [hWrite]

/-
  A level pair comes out as it would have at first, whatever
  pairs were processed before it.
-/
theorem Follows.process_eq_ok_iff
    {config : Config}
    {first later : Disk}
    {output : Path}
    {pair : ShaderPair}
    (hFollows : Follows config first later)
    (hTree : first.IsTree)
    (hLevel : pair.IsLevel) :
    (later.process config pair).1 = .ok output ↔
      (first.process config pair).1 = .ok output := by
  rcases hLevel.isOfFile with ⟨path, hPair⟩
  rw [Disk.process_eq_ok_iff hPair,
    Disk.process_eq_ok_iff hPair]
  apply exists_congr
  intro generated
  rw [hFollows.generates_iff hTree hLevel]
  apply and_congr_right
  intro hMakes
  have hSame :=
    hFollows.prepared _ (serves_outputFolder hMakes)
  rw [hSame.ok_iff, hSame.directories.write_iff]

end Disk

end ShaderBindings
