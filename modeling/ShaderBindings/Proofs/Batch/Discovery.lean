import ShaderBindings.Proofs.Batch.OnDisk
import ShaderBindings.Proofs.Disk.Listing
import ShaderBindings.Proofs.ShaderPair.Spelling

/-
  The pairs that are found in a directory. Whatever the order
  of the entries, there is one pair for each stem that has a
  file of a stage, in the order of the stems. A pair starts
  from a vertex shader when its stem has one, so a text that
  is read for a pair is that of a vertex shader followed by
  that of a fragment shader.

  Key definitions include:
    * `Disk.Holds`
    * `Session.Discovers`

  Key theorems include:
    * `Disk.mem_shaders_iff`
    * `Disk.exists_discover`
    * `Disk.stages_of_source`
    * `discover_finds_stems`
-/

------------------------------------------------------------
-- Shaders in a Directory
------------------------------------------------------------

namespace ShaderBindings

open ShaderBindings.Path

namespace Disk

/-
  In the directory at a path there is a regular file of the
  given name, which is one of a stage under a stem.
-/
structure Holds
    (disk : Disk)
    (directory : Path)
    (stage : Stage)
    (stem name : String) : Prop where
  listed :
    ∃ names, disk.list directory = .ok names ∧ name ∈ names
  isFile : disk.isFile (directory.join ⟨name⟩) = true
  spelled : stage.Spells stem name

/- The regular files among the names in a directory. -/
def regular
    (disk : Disk)
    (directory : Path)
    (names : List String) : List Path :=
  (names.map fun name => directory.join ⟨name⟩).filter
    disk.isFile

variable {disk : Disk}
variable {directory path : Path}
variable {stage : Stage}
variable {stem name : String}
variable {names : List String}

/- The name of a shader in a tree is plain. -/
theorem Holds.isPlainName
    (hTree : disk.IsTree)
    (hHolds : disk.Holds directory stage stem name) :
    IsPlainName name := by
  rcases hHolds.listed with ⟨names, hList, hName⟩
  exact hTree.isPlainName_of_list hList hName

/- The regular files of a stage are those that are held. -/
theorem mem_shaders_iff
    (hTree : disk.IsTree)
    (hList : disk.list directory = .ok names) :
    (path ∈ disk.regular directory names ∧
        path.isShader stage stem = true) ↔
      ∃ name,
        disk.Holds directory stage stem name ∧
          path = directory.join ⟨name⟩ := by
  constructor
  · rintro ⟨hPath, hShader⟩
    rcases List.mem_filter.mp hPath with ⟨hJoined, hFile⟩
    rcases List.mem_map.mp hJoined with ⟨name, hName, rfl⟩
    have hPlain := hTree.isPlainName_of_list hList hName
    exact
      ⟨name,
        { listed := ⟨names, hList, hName⟩
          isFile := hFile
          spelled :=
            (ShaderPair.isShader_join_iff hPlain _).mp
              hShader },
        rfl⟩
  · rintro ⟨name, hHolds, rfl⟩
    have hPlain := hHolds.isPlainName hTree
    refine ⟨List.mem_filter.mpr ⟨?_, hHolds.isFile⟩, ?_⟩
    · exact List.mem_map_of_mem
        (mem_of_isFile_join hPlain hList hHolds.isFile)
    · exact (ShaderPair.isShader_join_iff hPlain _).mpr
        hHolds.spelled

/- A directory that is listed has the pairs of its leaders. -/
theorem exists_discover
    (hList : disk.list directory = .ok names) :
    ∃ pairs,
      disk.discover directory = .ok pairs ∧
        ShaderPair.AreLed (disk.regular directory names)
          pairs := by
  rcases ShaderPair.exists_amongFiles
      (disk.regular directory names) with
    ⟨pairs, hPairs, hLed⟩
  refine ⟨pairs, ?_, hLed⟩
  unfold regular at hPairs
  rw [discover, hList]
  dsimp only
  rw [hPairs]

end Disk

end ShaderBindings

------------------------------------------------------------
-- Pairs in a Directory
------------------------------------------------------------

namespace ShaderBindings

open ShaderBindings.Path

namespace Disk

variable {disk : Disk}
variable {directory path : Path}
variable {stage : Stage}
variable {stem name : String}
variable {names : List String}
variable {pair : ShaderPair}
variable {pairs : List ShaderPair}

/- The shader that leads its stem in a directory. -/
structure Leads
    (disk : Disk)
    (directory : Path)
    (stage : Stage)
    (stem name : String) : Prop where
  holds : disk.Holds directory stage stem name
  first :
    stage = .fragment →
      ∀ other, ¬ disk.Holds directory .vertex stem other

/- A leader is of the vertex stage if its stem has such a file. -/
theorem leads_of_leader?
    (hTree : disk.IsTree)
    (hList : disk.list directory = .ok names)
    (hLeader :
      ShaderPair.leader? (disk.regular directory names) stem =
        some path) :
    ∃ stage name,
      disk.Leads directory stage stem name ∧
        path = directory.join ⟨name⟩ := by
  rcases ShaderPair.mem_of_leader? hLeader with
    ⟨hPath, stage, hShader⟩
  rcases (mem_shaders_iff hTree hList).mp
      ⟨hPath, hShader⟩ with ⟨name, hHolds, rfl⟩
  refine ⟨stage, name, ⟨hHolds, ?_⟩, rfl⟩
  rintro rfl other hOther
  rcases (mem_shaders_iff hTree hList).mpr
      ⟨other, hOther, rfl⟩ with ⟨hMember, hVertex⟩
  have hFirst :=
    ShaderPair.isShader_vertex_of_leader? hLeader hMember
      hVertex
  rcases of_decide_eq_true hShader with ⟨hFragment, _⟩
  rcases of_decide_eq_true hFirst with ⟨hBoth, _⟩
  rw [hFragment] at hBoth
  cases hBoth

/- The primary file of a pair leads its stem. -/
theorem leads_of_mem
    (hTree : disk.IsTree)
    (hList : disk.list directory = .ok names)
    (hLed :
      ShaderPair.AreLed (disk.regular directory names) pairs)
    (hPair : pair ∈ pairs) :
    ∃ stage name,
      disk.Leads directory stage pair.baseName name ∧
        pair.primary = directory.join ⟨name⟩ ∧
        ShaderPair.ofFile (directory.join ⟨name⟩) =
          .ok pair := by
  rcases (hLed.mem_iff pair).mp hPair with
    ⟨hLeader, hOfFile⟩
  rcases leads_of_leader? hTree hList hLeader with
    ⟨stage, name, hLeads, hPrimary⟩
  rw [hPrimary] at hOfFile
  exact ⟨stage, name, hLeads, hPrimary, hOfFile⟩

/- The base names of the pairs are the stems of the shaders. -/
theorem mem_baseNames_iff
    (hTree : disk.IsTree)
    (hList : disk.list directory = .ok names)
    (hLed :
      ShaderPair.AreLed (disk.regular directory names) pairs) :
    stem ∈ pairs.map ShaderPair.baseName ↔
      ∃ stage name, disk.Holds directory stage stem name := by
  constructor
  · intro hStem
    rcases List.mem_map.mp hStem with ⟨pair, hPair, rfl⟩
    rcases leads_of_mem hTree hList hLed hPair with
      ⟨stage, name, hLeads, _⟩
    exact ⟨stage, name, hLeads.holds⟩
  · rintro ⟨stage, name, hHolds⟩
    rcases (mem_shaders_iff hTree hList).mpr
        ⟨name, hHolds, rfl⟩ with ⟨hMember, hShader⟩
    rcases ShaderPair.exists_leader? hMember hShader with
      ⟨leader, hLeader⟩
    rcases hLed.leader?_eq_some_iff.mp hLeader with
      ⟨pair, hPair, hBase, _⟩
    exact List.mem_map.mpr ⟨pair, hPair, hBase⟩

/-
  The partner of a pair, if it is a file, is held under the
  usual name of the other stage, and the stem is not a dot.
-/
theorem holds_partner
    (hTree : disk.IsTree)
    (hHolds : disk.Holds directory stage stem name)
    (hOfFile :
      ShaderPair.ofFile (directory.join ⟨name⟩) = .ok pair)
    (hPartner : disk.isFile pair.partner = true) :
    stem ≠ "." ∧
      disk.Holds directory stage.partner stem
        (stage.partner.usualName stem) ∧
      pair.partner =
        directory.join ⟨stage.partner.usualName stem⟩ := by
  have hPlain := hHolds.isPlainName hTree
  by_cases hDot : stem = "."
  · subst hDot
    rw [ShaderPair.partner_join_dot hPlain hHolds.spelled
        hOfFile,
      hTree.isFile_up (isOpen_opening directory)] at hPartner
    cases hPartner
  · have hUsual :=
      ShaderPair.partner_join hPlain hHolds.spelled hDot
        hOfFile
    have hSpells :=
      Stage.spells_usualName hHolds.spelled.1 stage.partner
    have hUsualPlain :=
      hSpells.isPlainName
        (ShaderPair.slash_not_mem_of_spells hPlain
          hHolds.spelled)
    rw [hUsual] at hPartner
    rcases hHolds.listed with ⟨names, hList, _⟩
    have hHeld :
        disk.Holds directory stage.partner stem
          (stage.partner.usualName stem) := {
      listed :=
        ⟨names, hList,
          mem_of_isFile_join hUsualPlain hList hPartner⟩
      isFile := hPartner
      spelled := hSpells }
    exact ⟨hDot, hHeld, hUsual⟩

/-
  A source that is read for the pair of a leader is the text
  of a vertex shader followed by that of a fragment shader.
-/
theorem stages_of_source
    {source : String}
    (hTree : disk.IsTree)
    (hLeads : disk.Leads directory stage stem name)
    (hOfFile :
      ShaderPair.ofFile (directory.join ⟨name⟩) = .ok pair)
    (hSource : disk.source pair = .ok source) :
    ∃ vertex fragment first second,
      disk.Holds directory .vertex stem vertex ∧
        disk.Holds directory .fragment stem fragment ∧
        disk.readText (directory.join ⟨vertex⟩) =
          .ok first ∧
        disk.readText (directory.join ⟨fragment⟩) =
          .ok second ∧
        source = first ++ second := by
  rcases source_eq_ok_iff.mp hSource with
    ⟨first, second, hPrimary, hPartner, hText⟩
  rcases ShaderPair.exists_stage_of_ofFile hOfFile with
    ⟨_, _, hSame, _⟩
  rcases readText_eq_ok_iff.mp hPartner with
    ⟨content, hRead, _⟩
  rcases holds_partner hTree hLeads.holds hOfFile
      (isFile_of_read hRead) with ⟨_, hHolds, hUsual⟩
  rw [hSame] at hPrimary
  rw [hUsual] at hPartner
  cases stage with
  | vertex =>
      exact
        ⟨name, _, first, second, hLeads.holds, hHolds,
          hPrimary, hPartner, hText⟩
  | fragment => exact absurd hHolds (hLeads.first rfl _)

end Disk

end ShaderBindings

------------------------------------------------------------
-- Discovery
------------------------------------------------------------

namespace ShaderBindings

open ShaderBindings.Path

/-
  What is found in a directory:
    * the base names are strictly increasing,
    * they are the stems of the shaders that are regular
      files of the directory, with an extension of a stage
      in any letter case,
    * the primary file of a pair is such a file of its stem,
      and one of the vertex stage if the stem has one,
    * a source that is read for a pair afterwards is the text
      of a vertex shader of its stem followed by the text of
      a fragment shader of its stem,
    * names that fit into a path are those of regular files
      when their entries in the directory are files.
-/
structure Session.Discovers
    (session : Session)
    (directory : Path)
    (pairs : List ShaderPair)
    (after : Session) : Prop where
  increasing :
    (pairs.map ShaderPair.baseName).Pairwise (· < ·)
  stems :
    ∀ stem,
      stem ∈ pairs.map ShaderPair.baseName ↔
        ∃ stage name,
          session.disk.Holds directory stage stem name
  primary :
    ∀ pair ∈ pairs,
      ∃ stage name,
        pair.primary = directory.join ⟨name⟩ ∧
          session.disk.Holds directory stage pair.baseName
            name ∧
          (stage = .fragment →
            ∀ other,
              ¬ session.disk.Holds directory .vertex
                pair.baseName other)
  source :
    ∀ pair ∈ pairs,
      ∀ source,
        ((pair.readSource : StateM Session _).run after).1 =
            .ok source →
          ∃ vertex fragment first second,
            session.disk.Holds directory .vertex
                pair.baseName vertex ∧
              session.disk.Holds directory .fragment
                pair.baseName fragment ∧
              session.disk.readText
                  (directory.join ⟨vertex⟩) = .ok first ∧
              session.disk.readText
                  (directory.join ⟨fragment⟩) = .ok second ∧
              source = first ++ second
  regular :
    ∀ names,
      session.disk.list directory = .ok names →
        ∀ name ∈ names,
          (directory.join ⟨name⟩).Fits →
            name.utf8ByteSize ≤ Disk.longestName →
              (session.disk.isFile
                  (directory.join ⟨name⟩) = true ↔
                ∃ content,
                  session.disk.entry?
                      (directory.destination
                        session.disk.home ++ [name]) =
                    some (.file content))

/-
  In a tree of files, looking for the pairs of a directory
  succeeds and finds one pair for each stem, whatever the
  order of the entries.
-/
theorem discover_finds_stems
    (session : Session)
    (directory : Path)
    (hTree : session.disk.IsTree)
    (hDirectory :
      session.disk.isDirectory directory = true) :
    ∃ pairs after,
      (discover directory : StateM Session _).run session =
          (.ok pairs, after) ∧
        session.Discovers directory pairs after := by
  rcases Disk.exists_list_of_isDirectory hDirectory with
    ⟨names, hList⟩
  rcases Disk.exists_discover hList with
    ⟨pairs, hPairs, hLed⟩
  refine
    ⟨pairs,
      session.noted (session.disk.discoveryEvents directory),
      ?_, ?_⟩
  · rw [Session.run_discover, hPairs]
  · exact {
      increasing := List.pairwise_map.mpr hLed.increasing
      stems := fun stem =>
        Disk.mem_baseNames_iff hTree hList hLed
      primary := by
        intro pair hPair
        rcases Disk.leads_of_mem hTree hList hLed hPair with
          ⟨stage, name, hLeads, hPrimary, _⟩
        exact
          ⟨stage, name, hPrimary, hLeads.holds, hLeads.first⟩
      source := by
        intro pair hPair source hSource
        rcases Disk.leads_of_mem hTree hList hLed hPair with
          ⟨stage, name, hLeads, _, hOfFile⟩
        rw [Session.run_readSource,
          Session.disk_noted] at hSource
        exact Disk.stages_of_source hTree hLeads hOfFile
          hSource
      regular := by
        intro others hOthers name hName hFits hShort
        exact Disk.isFile_join_iff
          (hTree.isPlainName_of_list hOthers hName) hOthers
          hFits hShort }

/- A directory with stems of several spellings. -/
def shore : Session :=
  let file (name text : String) : Path × Entry :=
    (⟨name⟩, .file text.toUTF8)
  let files := [
    file "tide.frag" "",
    file "cliff.FRAG" "",
    (⟨"dune.vert"⟩, .directory),
    file "cliff.vert" "uniform float height;",
    file "sand.txt" ""]
  Session.start (Disk.ofFiles ["shore"] files) ""

/- The pairs of the shore are found. -/
theorem discover_finds_shore :
    shore.disk.IsTree ∧
      shore.disk.isDirectory ⟨"."⟩ = true ∧
      ∃ pairs after,
        (discover ⟨"."⟩ : StateM Session _).run shore =
            (.ok pairs, after) ∧
          shore.Discovers ⟨"."⟩ pairs after := by
  have hTree : shore.disk.IsTree := by
    decide +kernel
  have hDirectory : shore.disk.isDirectory ⟨"."⟩ = true := by
    decide +kernel
  exact
    ⟨hTree, hDirectory,
      discover_finds_stems shore ⟨"."⟩ hTree hDirectory⟩

end ShaderBindings
