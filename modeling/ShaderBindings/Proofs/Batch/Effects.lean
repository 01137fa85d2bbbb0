import ShaderBindings.Proofs.Batch.Outputs
import ShaderBindings.Proofs.Batch.Preparation
import ShaderBindings.Proofs.Path.Folder
import ShaderBindings.Proofs.ShaderPair.Files

/-
  What processing a pair does to a tree of files. It comes
  out in one of five ways, and only the last one writes a
  file. Bindings are files with code, and shaders are not, so
  no file of a shader is ever touched, nor is one made.

  Key definitions include:
    * `Disk.KeepsShaders`
    * `Disk.Generates`
    * `Disk.Processed`
    * `Disk.Blocks`
    * `ProcessEffects`

  Key theorems include:
    * `Disk.KeepsShaders.read_iff`
    * `Disk.processed`
    * `Disk.keepsShaders_process`
    * `process_effects`
-/

------------------------------------------------------------
-- Files of Shaders
------------------------------------------------------------

namespace ShaderBindings

open ShaderBindings.Path

namespace Disk

/-
  Directories of an older disk are there still, and so are
  its files, apart from those with code. No other files were
  added.
-/
structure KeepsShaders
    (before after : Disk) : Prop where
  home : after.home = before.home
  directories :
    ∀ location,
      before.entry? location = some .directory →
        after.entry? location = some .directory
  files_iff :
    ∀ above name content,
      ¬ IsCodeName name →
        (after.entry? (above ++ [name]) =
            some (.file content) ↔
          before.entry? (above ++ [name]) =
            some (.file content))

namespace KeepsShaders

variable {before between after : Disk}
variable {path : Path}
variable {content : ByteArray}

theorem refl (disk : Disk) : KeepsShaders disk disk where
  home := rfl
  directories := fun _ hDirectory => hDirectory
  files_iff := fun _ _ _ _ => Iff.rfl

theorem trans
    (hFirst : KeepsShaders before between)
    (hSecond : KeepsShaders between after) :
    KeepsShaders before after where
  home := hSecond.home.trans hFirst.home
  directories := fun location hDirectory =>
    hSecond.directories location
      (hFirst.directories location hDirectory)
  files_iff := fun above name content hOther =>
    (hSecond.files_iff above name content hOther).trans
      (hFirst.files_iff above name content hOther)

/- A shader that could be read is read as before. -/
theorem read
    (hKeeps : KeepsShaders before after)
    (hShader : path.NamesShader)
    (hRead : before.read path = .ok content) :
    after.read path = .ok content := by
  rcases hShader with ⟨first, name, hNames, hPlain, hOther⟩
  rcases read_eq_ok_iff.mp hRead with
    ⟨location, hLocate, hFile⟩
  rcases exists_destination_of_names hNames hPlain
    before.home with ⟨above, hPlace⟩
  rw [← eq_destination_of_locate hLocate] at hPlace
  refine read_eq_ok_iff.mpr
    ⟨location,
      locate_of_directories hKeeps.home hKeeps.directories
        hLocate, ?_⟩
  rw [hPlace] at hFile ⊢
  exact (hKeeps.files_iff above name content hOther).mpr hFile

/-
  A path that never goes up leads to the same shader as
  before. Everything on the way to a file of a tree is a
  directory, so no directory that was added opens a way.
-/
theorem read_iff
    (hKeeps : KeepsShaders before after)
    (hTree : before.IsTree)
    (hShader : path.NamesShader)
    (hUp : ".." ∉ path.steps) :
    after.read path = .ok content ↔
      before.read path = .ok content := by
  constructor
  · intro hRead
    rcases hShader with ⟨first, name, hNames, hPlain, hOther⟩
    rcases read_eq_ok_iff.mp hRead with
      ⟨location, hLocate, hFile⟩
    rcases exists_destination_of_names hNames hPlain
      after.home with ⟨above, hPlace⟩
    rw [← eq_destination_of_locate hLocate] at hPlace
    have hBefore :
        before.entry? location = some (.file content) := by
      rw [hPlace] at hFile ⊢
      exact
        (hKeeps.files_iff above name content hOther).mp hFile
    -- what lies on the way to a file was there before it
    have hPrefixes :
        ∀ above,
          above <+: location →
            after.entry? above = some .directory →
              before.entry? above = some .directory := by
      intro above hAbove hDirectory
      by_cases hSame : above = location
      · rw [hSame, hFile] at hDirectory
        cases hDirectory
      · exact hTree.directory_of_starts hBefore hAbove hSame
    rcases locate_eq_ok_iff.mp hLocate with ⟨hFits, hWalk⟩
    rw [hKeeps.home] at hWalk
    exact read_eq_ok_iff.mpr
      ⟨location,
        locate_eq_ok_iff.mpr
          ⟨hFits, walk_of_prefixes hUp hPrefixes hWalk⟩,
        hBefore⟩
  · exact hKeeps.read hShader

end KeepsShaders

/- Directories that are added are no shaders. -/
theorem Opens.keepsShaders
    {paths : List Path}
    {before after : Disk}
    (hOpens : Opens paths before after) :
    KeepsShaders before after where
  home := hOpens.home
  directories := fun _ hDirectory => hOpens.kept hDirectory
  files_iff := fun _ _ _ _ => hOpens.file_iff

/- A file with code that is written is no shader. -/
theorem keepsShaders_of_write
    {disk after : Disk}
    {path : Path}
    {content : ByteArray}
    {above : Location}
    {name : String}
    (hWrite : disk.write path content = .ok after)
    (hPlace : path.destination disk.home = above ++ [name])
    (hCode : IsCodeName name) :
    KeepsShaders disk after := by
  have hKeeps := keeps_of_write hWrite
  rcases write_eq_ok hWrite with ⟨location, hLocate, _, rfl⟩
  rw [← eq_destination_of_locate hLocate] at hPlace
  exact {
    home := rfl
    directories := hKeeps.directories
    files_iff := by
      intro other shader content hOther
      have hApart : other ++ [shader] ≠ location := by
        intro hSame
        rw [hPlace, List.append_singleton_inj] at hSame
        rw [hSame.2] at hOther
        exact hOther hCode
      rw [entry_insert_of_ne hApart] }

end Disk

end ShaderBindings

------------------------------------------------------------
-- How a Pair Comes Out
------------------------------------------------------------

namespace ShaderBindings

open ShaderBindings.Path

namespace ShaderPair

/- The directory that is prepared for the code of a pair. -/
def outputFolder
    (pair : ShaderPair)
    (outDir : Option Path) : Path :=
  (pair.outputDirectory outDir).fileDirectory

end ShaderPair

namespace Disk

/- What is generated for a pair from the files of a disk. -/
def Generates
    (disk : Disk)
    (config : Config)
    (pair : ShaderPair)
    (generated : Generated) : Prop :=
  ∃ source,
    disk.source pair = .ok source ∧
      (generate config.generation pair.baseName
        source).result = .ok generated

/-
  The ways in which a pair comes out, with the disk behind
  it. The output directory is prepared once a binding is
  generated, and the file is written after that.
-/
inductive Processed
    (disk : Disk)
    (config : Config)
    (pair : ShaderPair) :
    Except Failure Path × Disk → Prop where
| unread
    {failure : Failure}
    (source : disk.source pair = .error failure) :
    Processed disk config pair (.error failure, disk)
| ungenerated
    {source : String}
    {error : GenerationError}
    (source_eq : disk.source pair = .ok source)
    (result :
      (generate config.generation pair.baseName
        source).result = .error error) :
    Processed disk config pair
      (.error (.generating pair.primary error), disk)
| unprepared
    {generated : Generated}
    {fault : FileFault}
    {between : Disk}
    (makes : disk.Generates config pair generated)
    (prepared :
      disk.prepare (pair.outputFolder config.outDir) =
        (.error fault, between)) :
    Processed disk config pair
      (.error
        (.creating (pair.outputFolder config.outDir) fault),
        between)
| unwritten
    {generated : Generated}
    {fault : FileFault}
    {between : Disk}
    (makes : disk.Generates config pair generated)
    (prepared :
      disk.prepare (pair.outputFolder config.outDir) =
        (.ok (), between))
    (write :
      between.write
          (pair.outputPath generated.fileName config.outDir)
          generated.source.toUTF8 =
        .error fault) :
    Processed disk config pair
      (.error
        (.writing
          (pair.outputPath generated.fileName config.outDir)
          fault),
        between)
| written
    {generated : Generated}
    {between after : Disk}
    (makes : disk.Generates config pair generated)
    (prepared :
      disk.prepare (pair.outputFolder config.outDir) =
        (.ok (), between))
    (write :
      between.write
          (pair.outputPath generated.fileName config.outDir)
          generated.source.toUTF8 =
        .ok after) :
    Processed disk config pair
      (.ok (pair.outputPath generated.fileName config.outDir),
        after)

variable {disk : Disk}
variable {config : Config}
variable {path : Path}
variable {pair : ShaderPair}
variable {generated : Generated}

/- A binding is generated from both texts. -/
theorem generates_iff_texts :
    disk.Generates config pair generated ↔
      ∃ primary partner,
        disk.readText pair.primary = .ok primary ∧
          disk.readText pair.partner = .ok partner ∧
          (generate config.generation pair.baseName
              (primary ++ partner)).result =
            .ok generated := by
  unfold Generates
  simp only [source_eq_ok_iff]
  constructor
  · rintro
      ⟨_, ⟨primary, partner, hPrimary, hPartner, rfl⟩, hMade⟩
    exact ⟨primary, partner, hPrimary, hPartner, hMade⟩
  · rintro ⟨primary, partner, hPrimary, hPartner, hMade⟩
    exact
      ⟨_, ⟨primary, partner, hPrimary, hPartner, rfl⟩, hMade⟩

/- Bindings get the plain name of a file with code. -/
theorem Generates.isPlainName
    (hMakes : disk.Generates config pair generated)
    (hPair : ShaderPair.ofFile path = .ok pair) :
    IsPlainName generated.fileName ∧
      IsCodeName generated.fileName := by
  rcases hMakes with ⟨source, _, hMade⟩
  rcases fileName_of_generate hMade with
    ⟨className, hClass, hFile⟩
  rw [hFile]
  exact
    ⟨isPlainName_classFile
        (ShaderPair.slash_not_mem_baseName hPair) hClass,
      isCodeName_classFile className⟩

/- The output file lies in the directory that is prepared. -/
theorem Generates.parent_outputPath
    (hMakes : disk.Generates config pair generated)
    (hPair : ShaderPair.ofFile path = .ok pair) :
    (pair.outputPath generated.fileName
        config.outDir).parent? =
      some (pair.outputFolder config.outDir) := by
  rw [ShaderPair.outputPath_eq]
  exact parent_join (hMakes.isPlainName hPair).1 _

/- Where the output file is written to. -/
theorem Generates.destination_outputPath
    (hMakes : disk.Generates config pair generated)
    (hPair : ShaderPair.ofFile path = .ok pair)
    (home : Location) :
    (pair.outputPath generated.fileName
        config.outDir).destination home =
      (pair.outputDirectory config.outDir).destination home ++
        [generated.fileName] := by
  rw [ShaderPair.outputPath_eq]
  exact destination_join (hMakes.isPlainName hPair).1 home _

/- A pair comes out in one of these ways. -/
theorem processed
    (disk : Disk)
    (config : Config)
    (hPair : ShaderPair.ofFile path = .ok pair) :
    disk.Processed config pair (disk.process config pair) := by
  unfold process
  split
  · rename_i failure hSource
    exact .unread hSource
  · rename_i source hSource
    split
    · rename_i error hMade
      exact .ungenerated hSource hMade
    · rename_i generated hMade
      have hMakes : disk.Generates config pair generated :=
        ⟨source, hSource, hMade⟩
      unfold writeOutput
      dsimp only
      rw [hMakes.parent_outputPath hPair, Option.getD_some]
      cases hPrepared :
          disk.prepare (pair.outputFolder config.outDir) with
      | mk result between =>
          cases result with
          | error fault => exact .unprepared hMakes hPrepared
          | ok done =>
              dsimp only
              cases hWrite :
                  between.write
                    (pair.outputPath generated.fileName
                      config.outDir)
                    generated.source.toUTF8 with
              | error fault =>
                  exact .unwritten hMakes hPrepared hWrite
              | ok after =>
                  exact .written hMakes hPrepared hWrite

/- What is written for a pair that succeeds. -/
theorem exists_write_of_process
    {output : Path}
    (hPair : ShaderPair.ofFile path = .ok pair)
    (hOutput : (disk.process config pair).1 = .ok output) :
    ∃ generated between,
      disk.Generates config pair generated ∧
        output =
          pair.outputPath generated.fileName config.outDir ∧
        disk.prepare (pair.outputFolder config.outDir) =
          (.ok (), between) ∧
        between.write output generated.source.toUTF8 =
          .ok (disk.process config pair).2 := by
  have hProcessed := processed disk config hPair
  generalize disk.process config pair = done
    at hProcessed hOutput ⊢
  cases hProcessed with
  | written hMakes hPrepared hWrite =>
      cases hOutput
      exact ⟨_, _, hMakes, rfl, hPrepared, hWrite⟩
  | _ => cases hOutput

/-
  The output of a pair is blocked: its directory cannot be
  prepared, or its file cannot be written there.
-/
def Blocks
    (disk : Disk)
    (config : Config)
    (pair : ShaderPair)
    (generated : Generated)
    (failure : Failure) : Prop :=
  let folder := pair.outputFolder config.outDir
  let output := pair.outputPath generated.fileName config.outDir
  ∃ fault,
    (failure = .creating folder fault ∧
        (disk.prepare folder).1 = .error fault) ∨
      (failure = .writing output fault ∧
        (disk.prepare folder).1 = .ok () ∧
        (disk.prepare folder).2.write output
            generated.source.toUTF8 = .error fault)

/- Why a pair fails. -/
theorem cause_of_process
    {failure : Failure}
    (hPair : ShaderPair.ofFile path = .ok pair)
    (hFailure : (disk.process config pair).1 = .error failure) :
    disk.source pair = .error failure ∨
      (∃ source error,
        disk.source pair = .ok source ∧
          (generate config.generation pair.baseName
              source).result = .error error ∧
          failure = .generating pair.primary error) ∨
      ∃ generated,
        disk.Generates config pair generated ∧
          disk.Blocks config pair generated failure := by
  have hProcessed := processed disk config hPair
  generalize disk.process config pair = done
    at hProcessed hFailure
  cases hProcessed with
  | unread hSource =>
      cases hFailure
      exact Or.inl hSource
  | ungenerated hSource hMade =>
      cases hFailure
      exact Or.inr (Or.inl ⟨_, _, hSource, hMade, rfl⟩)
  | unprepared hMakes hPrepared =>
      cases hFailure
      refine Or.inr (Or.inr ⟨_, hMakes, _, Or.inl ⟨rfl, ?_⟩⟩)
      rw [hPrepared]
  | unwritten hMakes hPrepared hWrite =>
      cases hFailure
      refine Or.inr
        (Or.inr ⟨_, hMakes, _, Or.inr ⟨rfl, ?_⟩⟩)
      rw [hPrepared]
      exact ⟨rfl, hWrite⟩
  | written hMakes hPrepared hWrite => cases hFailure

/- A pair that fails adds directories, if anything. -/
theorem opens_of_process
    {failure : Failure}
    (hPair : ShaderPair.ofFile path = .ok pair)
    (hFailure : (disk.process config pair).1 = .error failure) :
    Opens (pair.outputFolder config.outDir).ancestors disk
      (disk.process config pair).2 := by
  have hProcessed := processed disk config hPair
  have hFolder :=
    opens_prepare (pair.outputFolder config.outDir) disk
  generalize disk.process config pair = done
    at hProcessed hFailure ⊢
  cases hProcessed with
  | unread hSource => exact Opens.refl _ disk
  | ungenerated hSource hMade => exact Opens.refl _ disk
  | unprepared hMakes hPrepared =>
      rw [hPrepared] at hFolder
      exact hFolder
  | unwritten hMakes hPrepared hWrite =>
      rw [hPrepared] at hFolder
      exact hFolder
  | written hMakes hPrepared hWrite => cases hFailure

/- Processing a pair leaves a tree, with all its shaders. -/
theorem keepsShaders_process
    (config : Config)
    (hPair : ShaderPair.ofFile path = .ok pair)
    (hTree : disk.IsTree) :
    (disk.process config pair).2.IsTree ∧
      KeepsShaders disk (disk.process config pair).2 := by
  have hProcessed := processed disk config hPair
  have hFolderTree :=
    hTree.prepare (pair.outputFolder config.outDir)
  have hFolder :=
    (opens_prepare (pair.outputFolder config.outDir)
      disk).keepsShaders
  generalize disk.process config pair = done at hProcessed ⊢
  cases hProcessed with
  | unread hSource => exact ⟨hTree, KeepsShaders.refl disk⟩
  | ungenerated hSource hMade =>
      exact ⟨hTree, KeepsShaders.refl disk⟩
  | unprepared hMakes hPrepared =>
      rw [hPrepared] at hFolderTree hFolder
      exact ⟨hFolderTree, hFolder⟩
  | unwritten hMakes hPrepared hWrite =>
      rw [hPrepared] at hFolderTree hFolder
      exact ⟨hFolderTree, hFolder⟩
  | written hMakes hPrepared hWrite =>
      rw [hPrepared] at hFolderTree hFolder
      exact
        ⟨hFolderTree.write hWrite,
          hFolder.trans
            (keepsShaders_of_write hWrite
              (hMakes.destination_outputPath hPair _)
              (hMakes.isPlainName hPair).2)⟩

end Disk

end ShaderBindings

------------------------------------------------------------
-- Effects
------------------------------------------------------------

namespace ShaderBindings

open ShaderBindings.Path
open Session

/-
  What processing a pair may do to a tree of files:
    * nothing at all is changed when the pair is not read, or
      its binding is not generated, and this is an error,
    * a path that is returned is that of the file of its
      class, and the binding generated from both texts can be
      read there,
    * every other location is as before, apart from those of
      missing directories on the way to the output,
    * a pair fails for no other reason than that its output
      directory is not made or its output is not written, and
      no file is changed then,
    * both shaders are read as before, and files that hold no
      code are neither changed nor made.
-/
structure ProcessEffects
    (config : Config)
    (pair : ShaderPair)
    (session : Session)
    (done : Except Failure Path × Session) : Prop where
  tree : done.2.disk.IsTree
  home : done.2.disk.home = session.disk.home
  unread :
    ∀ failure,
      ((pair.readSource : StateM Session _).run session).1 =
          .error failure →
        done.1 = .error failure ∧
          done.2.disk = session.disk
  ungenerated :
    ∀ source error,
      ((pair.readSource : StateM Session _).run session).1 =
          .ok source →
        (generate config.generation pair.baseName
            source).result = .error error →
          done.1 = .error (.generating pair.primary error) ∧
            done.2.disk = session.disk
  written :
    ∀ output,
      done.1 = .ok output →
        ∃ primary partner generated className,
          session.disk.readText pair.primary = .ok primary ∧
            session.disk.readText pair.partner =
              .ok partner ∧
            (generate config.generation pair.baseName
                (primary ++ partner)).result =
              .ok generated ∧
            className? pair.baseName = .ok className ∧
            output =
              pair.outputPath (className ++ ".rs")
                config.outDir ∧
            done.2.disk.readText output =
              .ok generated.source
  changed :
    ∀ output,
      done.1 = .ok output →
        ∃ folder,
          output.parent? = some folder ∧
            ∀ location,
              location ≠
                  output.destination session.disk.home →
                done.2.disk.entry? location =
                    session.disk.entry? location ∨
                  (session.disk.entry? location = none ∧
                    done.2.disk.entry? location =
                      some .directory ∧
                    (∃ above ∈ folder.ancestors,
                      location =
                        above.destination
                          session.disk.home) ∧
                    (".." ∉ output.steps →
                      location <+:
                        output.destination
                          session.disk.home))
  stopped :
    ∀ failure,
      done.1 = .error failure →
        ((pair.readSource : StateM Session _).run
            session).1 = .error failure ∨
          (∃ source error,
            ((pair.readSource : StateM Session _).run
                session).1 = .ok source ∧
              (generate config.generation pair.baseName
                  source).result = .error error ∧
              failure = .generating pair.primary error) ∨
          ∃ generated,
            session.disk.Generates config pair generated ∧
              session.disk.Blocks config pair generated failure
  failed :
    ∀ failure,
      done.1 = .error failure →
        ∀ location,
          done.2.disk.entry? location =
              session.disk.entry? location ∨
            (session.disk.entry? location = none ∧
              done.2.disk.entry? location = some .directory)
  shaders_read :
    ∀ output,
      done.1 = .ok output →
        done.2.disk.read pair.primary =
            session.disk.read pair.primary ∧
          done.2.disk.read pair.partner =
            session.disk.read pair.partner
  files_iff :
    ∀ above name content,
      ¬ IsCodeName name →
        (done.2.disk.entry? (above ++ [name]) =
            some (.file content) ↔
          session.disk.entry? (above ++ [name]) =
            some (.file content))

variable {config : Config}
variable {path : Path}
variable {pair : ShaderPair}
variable {disk : Disk}
variable {output : Path}

/- What is encoded is decoded. -/
theorem fromUTF8_toUTF8 (text : String) :
    String.fromUTF8? text.toUTF8 = some text := by
  unfold String.fromUTF8?
  exact dif_pos text.isValidUTF8

/- A partner that is read is named by a stage. -/
theorem ShaderPair.namesShader_partner
    {content : ByteArray}
    (hPair : ofFile path = .ok pair)
    (hTree : disk.IsTree)
    (hRead : disk.read pair.partner = .ok content) :
    pair.partner.NamesShader := by
  rcases hTree.names_of_read hRead with
    ⟨first, name, hNames, hPlain⟩
  exact
    ⟨first, name, hNames, hPlain,
      (names_partner hPair hNames hPlain).2⟩

/- A way to the output passes above its own place only. -/
theorem Disk.Generates.starts_of_ancestor
    {generated : Generated}
    {above : Path}
    (hMakes : disk.Generates config pair generated)
    (hPair : ShaderPair.ofFile path = .ok pair)
    (home : Location)
    (hUp :
      ".." ∉
        (pair.outputPath generated.fileName
          config.outDir).steps)
    (hAbove :
      above ∈ (pair.outputFolder config.outDir).ancestors) :
    above.destination home <+:
      (pair.outputPath generated.fileName
        config.outDir).destination home := by
  have hPlain := (hMakes.isPlainName hPair).1
  rcases names_fileDirectory
    (pair.outputDirectory config.outDir) with
      ⟨hNames, hStart⟩
  rw [up_mem_steps_iff, ShaderPair.outputPath_eq,
    names_join hPlain, List.mem_append, not_or,
    ← hNames] at hUp
  have hFolder :
      (pair.outputFolder config.outDir).destination home =
        (pair.outputDirectory config.outDir).destination
          home := by
    rw [destination_eq_foldl_names,
      destination_eq_foldl_names, ShaderPair.outputFolder,
      hNames, hStart]
  have hStarts :
      above.destination home <+:
        (pair.outputFolder config.outDir).destination home :=
    destination_of_mem_ancestors home hUp.1 hAbove
  rw [hFolder] at hStarts
  rw [hMakes.destination_outputPath hPair]
  exact hStarts.trans (List.prefix_append _ _)

/- Nothing but the output and directories to it is changed. -/
theorem changed_of_process
    (hPair : ShaderPair.ofFile path = .ok pair)
    (hOutput : (disk.process config pair).1 = .ok output) :
    ∃ folder,
      output.parent? = some folder ∧
        ∀ location,
          location ≠ output.destination disk.home →
            Disk.entry? (disk.process config pair).2 location =
                disk.entry? location ∨
              (disk.entry? location = none ∧
                Disk.entry? (disk.process config pair).2
                    location =
                  some .directory ∧
                (∃ above ∈ folder.ancestors,
                  location = above.destination disk.home) ∧
                (".." ∉ output.steps →
                  location <+:
                    output.destination disk.home)) := by
  rcases Disk.exists_write_of_process hPair hOutput with
    ⟨generated, between, hMakes, rfl, hPrepared, hWrite⟩
  have hFolder :=
    Disk.opens_prepare (pair.outputFolder config.outDir) disk
  rw [hPrepared] at hFolder
  refine ⟨_, hMakes.parent_outputPath hPair, ?_⟩
  intro location hOther
  rcases Disk.write_eq_ok hWrite with
    ⟨there, hLocate, _, hAfter⟩
  have hThere := Disk.eq_destination_of_locate hLocate
  rw [hFolder.home] at hThere
  rw [← hThere] at hOther
  rw [hAfter, Disk.entry_insert_of_ne hOther]
  rcases hFolder.entries location with
    hSame | ⟨hNone, hOpened, above, hAbove, hPlace⟩
  · exact Or.inl hSame
  · refine Or.inr
      ⟨hNone, hOpened, ⟨above, hAbove, hPlace⟩, ?_⟩
    intro hUp
    rw [hPlace]
    exact hMakes.starts_of_ancestor hPair _ hUp hAbove

/- What is written is generated from both texts. -/
theorem written_of_process
    (hPair : ShaderPair.ofFile path = .ok pair)
    (hOutput : (disk.process config pair).1 = .ok output) :
    ∃ primary partner generated className,
      disk.readText pair.primary = .ok primary ∧
        disk.readText pair.partner = .ok partner ∧
        (generate config.generation pair.baseName
            (primary ++ partner)).result =
          .ok generated ∧
        className? pair.baseName = .ok className ∧
        output =
          pair.outputPath (className ++ ".rs")
            config.outDir ∧
        (disk.process config pair).2.readText output =
          .ok generated.source := by
  rcases Disk.exists_write_of_process hPair hOutput with
    ⟨generated, between, hMakes, hPath, _, hWrite⟩
  rcases Disk.generates_iff_texts.mp hMakes with
    ⟨primary, partner, hPrimary, hPartner, hMade⟩
  rcases fileName_of_generate hMade with
    ⟨className, hClass, hFile⟩
  rw [hFile] at hPath
  exact
    ⟨primary, partner, generated, className, hPrimary,
      hPartner, hMade, hClass, hPath,
      Disk.readText_eq_ok_iff.mpr
        ⟨_, Disk.read_of_write hWrite, fromUTF8_toUTF8 _⟩⟩

/- The shaders of a pair that succeeds are read as before. -/
theorem shaders_of_process
    (hPair : ShaderPair.ofFile path = .ok pair)
    (hTree : disk.IsTree)
    (hOutput : (disk.process config pair).1 = .ok output) :
    (disk.process config pair).2.read pair.primary =
        disk.read pair.primary ∧
      (disk.process config pair).2.read pair.partner =
        disk.read pair.partner := by
  have hKeeps :=
    (Disk.keepsShaders_process config hPair hTree).2
  rcases Disk.exists_write_of_process hPair hOutput with
    ⟨_, _, hMakes, _⟩
  rcases Disk.generates_iff_texts.mp hMakes with
    ⟨primary, partner, hPrimary, hPartner, _⟩
  rcases Disk.readText_eq_ok_iff.mp hPrimary with
    ⟨content, hRead, _⟩
  rcases Disk.readText_eq_ok_iff.mp hPartner with
    ⟨other, hOther, _⟩
  rw [hRead, hOther]
  exact
    ⟨hKeeps.read (ShaderPair.namesShader_primary hPair) hRead,
      hKeeps.read
        (ShaderPair.namesShader_partner hPair hTree hOther)
        hOther⟩

/-
  Processing a pair of a file in a tree of files has no other
  effects.
-/
theorem process_effects
    (config : Config)
    (path : Path)
    (pair : ShaderPair)
    (session : Session)
    (hPair : ShaderPair.ofFile path = .ok pair)
    (hTree : session.disk.IsTree) :
    ProcessEffects config pair session
      ((process config pair : StateM Session _).run
        session) := by
  have hKept :=
    Disk.keepsShaders_process config hPair hTree
  rw [run_process]
  exact {
    tree := hKept.1
    home := hKept.2.home
    unread := by
      intro failure hSource
      rw [run_readSource] at hSource
      dsimp only at hSource ⊢
      rw [Disk.process, hSource]
      exact ⟨rfl, rfl⟩
    ungenerated := by
      intro source error hSource hMade
      rw [run_readSource] at hSource
      dsimp only at hSource ⊢
      rw [Disk.process, hSource]
      dsimp only
      rw [hMade]
      exact ⟨rfl, rfl⟩
    written := fun output hOutput =>
      written_of_process hPair hOutput
    changed := fun output hOutput =>
      changed_of_process hPair hOutput
    stopped := by
      intro failure hFailure
      rw [run_readSource]
      exact Disk.cause_of_process hPair hFailure
    failed := by
      intro failure hFailure location
      rcases
          (Disk.opens_of_process hPair
            hFailure).entries location with
        hSame | ⟨hNone, hOpened, _⟩
      · exact Or.inl hSame
      · exact Or.inr ⟨hNone, hOpened⟩
    shaders_read := fun output hOutput =>
      shaders_of_process hPair hTree hOutput
    files_iff := hKept.2.files_iff }

/- A directory with two pairs is a tree. -/
theorem isTree_mossAndMist : mossAndMist.disk.IsTree := by
  decide +kernel

/- One of the two pairs. -/
def moss : ShaderPair where
  baseName := "moss"
  primary := ⟨"moss.vert"⟩
  partner := ⟨"moss.frag"⟩

/- The pair is written, with no other effects. -/
theorem process_effects_for_moss :
    ShaderPair.ofFile ⟨"moss.vert"⟩ = .ok moss ∧
      mossAndMist.disk.IsTree ∧
      ((process Config.standard moss :
          StateM Session _).run mossAndMist).1 =
        .ok ⟨"MossShader.rs"⟩ ∧
      ProcessEffects Config.standard moss mossAndMist
        ((process Config.standard moss :
          StateM Session _).run mossAndMist) := by
  have hPair : ShaderPair.ofFile ⟨"moss.vert"⟩ = .ok moss :=
    rfl
  have hWritten :
      ((process Config.standard moss :
          StateM Session _).run mossAndMist).1 =
        .ok ⟨"MossShader.rs"⟩ := by
    decide +kernel
  exact
    ⟨hPair, isTree_mossAndMist, hWritten,
      process_effects Config.standard ⟨"moss.vert"⟩ moss
        mossAndMist hPair isTree_mossAndMist⟩

end ShaderBindings
