import ShaderBindings.Proofs.Batch.Discovery

/-
  Stems with one file of each stage. The pair of such a stem
  is found and starts from the vertex shader. It is read when
  the fragment shader has the usual lower-case extension. In
  every other spelling, and under the stem of a single dot,
  the fragment shader is taken to be missing.

  Key definitions include:
    * `Disk.HoldsAlone`
    * `Disk.PairsUp`

  Key theorems include:
    * `Disk.isFile_partner_iff`
    * `Disk.source_of_alone`
    * `discover_pairs_up`
-/

------------------------------------------------------------
-- Stems with One File of Each Stage
------------------------------------------------------------

namespace ShaderBindings

open ShaderBindings.Path

namespace Disk

/-
  In the directory at a path there is just one regular file
  of a stage under a stem, with the given name and text.
-/
structure HoldsAlone
    (disk : Disk)
    (directory : Path)
    (stage : Stage)
    (stem name text : String) : Prop where
  holds : disk.Holds directory stage stem name
  alone :
    ∀ other,
      disk.Holds directory stage stem other → other = name
  text : disk.readText (directory.join ⟨name⟩) = .ok text

variable {disk : Disk}
variable {directory : Path}
variable {stage : Stage}
variable {stem name text vertex fragment : String}
variable {first second : String}
variable {names : List String}
variable {pair : ShaderPair}

/- The file of a stage, where the files are known. -/
theorem holdsAlone_of_shaders
    (hTree : disk.IsTree)
    (hList : disk.list directory = .ok names)
    (hName : IsPlainName name)
    (hShaders :
      (disk.regular directory names).filter
          (Path.isShader stage stem) =
        [directory.join ⟨name⟩])
    (hText :
      disk.readText (directory.join ⟨name⟩) = .ok text) :
    disk.HoldsAlone directory stage stem name text := by
  have hOnly :
      ∀ other,
        disk.Holds directory stage stem other →
          other = name := by
    intro other hOther
    have hMember :=
      List.mem_filter.mpr
        ((mem_shaders_iff hTree hList).mpr
          ⟨other, hOther, rfl⟩)
    rw [hShaders, List.mem_singleton] at hMember
    exact Path.join_inj (hOther.isPlainName hTree) hName
      hMember
  have hMember :
      directory.join ⟨name⟩ ∈
        (disk.regular directory names).filter
          (Path.isShader stage stem) := by
    rw [hShaders]
    exact List.mem_cons_self
  rcases (mem_shaders_iff hTree hList).mp
      (List.mem_filter.mp hMember) with ⟨other, hOther, _⟩
  exact {
    holds := hOnly other hOther ▸ hOther
    alone := hOnly
    text := hText }

/-
  The partner of the only vertex shader of a stem is a file
  if the only fragment shader is spelled as usual, under a
  stem that is not a dot.
-/
theorem isFile_partner_iff
    (hTree : disk.IsTree)
    (hVertex :
      disk.HoldsAlone directory .vertex stem vertex first)
    (hFragment :
      disk.HoldsAlone directory .fragment stem fragment second)
    (hOfFile :
      ShaderPair.ofFile (directory.join ⟨vertex⟩) =
        .ok pair) :
    disk.isFile pair.partner = true ↔
      fragment = Stage.fragment.usualName stem ∧
        stem ≠ "." := by
  have hPlain := hVertex.holds.isPlainName hTree
  constructor
  · intro hPartner
    rcases holds_partner hTree hVertex.holds hOfFile hPartner
      with ⟨hDot, hHolds, _⟩
    exact ⟨(hFragment.alone _ hHolds).symm, hDot⟩
  · rintro ⟨hUsual, hDot⟩
    have hFile := hFragment.holds.isFile
    rw [hUsual] at hFile
    rw [ShaderPair.partner_join hPlain hVertex.holds.spelled
      hDot hOfFile]
    exact hFile

/- What is read for a stem with one file of each stage. -/
theorem source_of_alone
    (hTree : disk.IsTree)
    (hVertex :
      disk.HoldsAlone directory .vertex stem vertex first)
    (hFragment :
      disk.HoldsAlone directory .fragment stem fragment second)
    (hOfFile :
      ShaderPair.ofFile (directory.join ⟨vertex⟩) =
        .ok pair) :
    disk.source pair =
      if fragment = Stage.fragment.usualName stem ∧
          stem ≠ "." then
        .ok (first ++ second)
      else
        .error
          (.pair
            (.missingPartner pair.primary pair.partner)) := by
  have hPlain := hVertex.holds.isPlainName hTree
  have hPartner :=
    isFile_partner_iff hTree hVertex hFragment hOfFile
  rcases ShaderPair.exists_stage_of_ofFile hOfFile with
    ⟨_, _, hPrimary, _⟩
  by_cases hUsual :
      fragment = Stage.fragment.usualName stem ∧ stem ≠ "."
  · have hUsualName :
        pair.partner = directory.join ⟨fragment⟩ := by
      rw [hUsual.1]
      exact ShaderPair.partner_join hPlain
        hVertex.holds.spelled hUsual.2 hOfFile
    rw [if_pos hUsual, source_eq_ok_iff, hPrimary, hUsualName]
    exact
      ⟨first, second, hVertex.text, hFragment.text, rfl⟩
  · rw [if_neg hUsual, Disk.source, hPrimary, hVertex.text]
    dsimp only
    rw [if_neg (mt hPartner.mp hUsual)]

end Disk

end ShaderBindings

------------------------------------------------------------
-- Pairs of Both Files
------------------------------------------------------------

namespace ShaderBindings

open ShaderBindings.Path

/-
  How a stem comes out that has one vertex shader and one
  fragment shader:
    * it is the base name of a pair, which starts from the
      vertex shader,
    * the pair is read as the vertex text followed by the
      fragment text if the fragment shader has its usual
      name, under a stem that is not a dot,
    * the fragment shader is missing in every other case.
-/
structure Session.PairsUp
    (session : Session)
    (directory : Path)
    (stem vertex fragment first second : String)
    (pairs : List ShaderPair)
    (after : Session) : Prop where
  found : stem ∈ pairs.map ShaderPair.baseName
  primary :
    ∀ pair ∈ pairs,
      pair.baseName = stem →
        pair.primary = directory.join ⟨vertex⟩
  source :
    ∀ pair ∈ pairs,
      pair.baseName = stem →
        ((pair.readSource : StateM Session _).run after).1 =
          if fragment = Stage.fragment.usualName stem ∧
              stem ≠ "." then
            .ok (first ++ second)
          else
            .error
              (.pair
                (.missingPartner pair.primary
                  pair.partner))

/-
  In a tree of files, a stem with one vertex shader and one
  fragment shader makes a pair, which is read if the fragment
  shader has its usual name.
-/
theorem discover_pairs_up
    (session : Session)
    (directory : Path)
    (stem vertex fragment first second : String)
    (hTree : session.disk.IsTree)
    (hVertex :
      session.disk.HoldsAlone directory .vertex stem vertex
        first)
    (hFragment :
      session.disk.HoldsAlone directory .fragment stem
        fragment second) :
    ∃ pairs after,
      (discover directory : StateM Session _).run session =
          (.ok pairs, after) ∧
        session.PairsUp directory stem vertex fragment first
          second pairs after := by
  rcases hVertex.holds.listed with ⟨names, hList, _⟩
  rcases Disk.exists_discover hList with
    ⟨pairs, hPairs, hLed⟩
  -- only the vertex shader can lead its stem
  have hStarts :
      ∀ pair ∈ pairs,
        pair.baseName = stem →
          pair.primary = directory.join ⟨vertex⟩ ∧
            ShaderPair.ofFile (directory.join ⟨vertex⟩) =
              .ok pair := by
    rintro pair hPair rfl
    rcases Disk.leads_of_mem hTree hList hLed hPair with
      ⟨stage, name, hLeads, hPrimary, hOfFile⟩
    cases stage with
    | vertex =>
        rw [hVertex.alone name hLeads.holds]
          at hPrimary hOfFile
        exact ⟨hPrimary, hOfFile⟩
    | fragment =>
        exact absurd hVertex.holds (hLeads.first rfl vertex)
  refine
    ⟨pairs,
      session.noted (session.disk.discoveryEvents directory),
      ?_, ?_⟩
  · rw [Session.run_discover, hPairs]
  · exact {
      found :=
        (Disk.mem_baseNames_iff hTree hList hLed).mpr
          ⟨.vertex, vertex, hVertex.holds⟩
      primary := fun pair hPair hStem =>
        (hStarts pair hPair hStem).1
      source := by
        intro pair hPair hStem
        rw [Session.run_readSource, Session.disk_noted]
        exact Disk.source_of_alone hTree hVertex hFragment
          (hStarts pair hPair hStem).2 }

/- A directory with two files for one stem. -/
def twoFiles (vertex fragment : String) : Session :=
  let files : List (Path × Entry) := [
    (⟨vertex⟩, .file "uniform float height;".toUTF8),
    (⟨fragment⟩, .file "".toUTF8)]
  Session.start (Disk.ofFiles ["shore"] files) ""

/- A vertex shader in capitals makes a pair that is read. -/
theorem discover_pairs_up_wave :
    (twoFiles "wave.VERT" "wave.frag").disk.IsTree ∧
      (twoFiles "wave.VERT" "wave.frag").disk.HoldsAlone
        ⟨"."⟩ .vertex "wave" "wave.VERT"
        "uniform float height;" ∧
      (twoFiles "wave.VERT" "wave.frag").disk.HoldsAlone
        ⟨"."⟩ .fragment "wave" "wave.frag" "" ∧
      ∃ pairs after,
        (discover ⟨"."⟩ : StateM Session _).run
            (twoFiles "wave.VERT" "wave.frag") =
          (.ok pairs, after) ∧
        (twoFiles "wave.VERT" "wave.frag").PairsUp ⟨"."⟩
          "wave" "wave.VERT" "wave.frag"
          "uniform float height;" "" pairs after := by
  have hTree :
      (twoFiles "wave.VERT" "wave.frag").disk.IsTree := by
    decide +kernel
  have hList :
      (twoFiles "wave.VERT" "wave.frag").disk.list ⟨"."⟩ =
        .ok ["wave.VERT", "wave.frag"] := by
    decide +kernel
  have hVertex :
      (twoFiles "wave.VERT" "wave.frag").disk.HoldsAlone
        ⟨"."⟩ .vertex "wave" "wave.VERT"
        "uniform float height;" := by
    apply Disk.holdsAlone_of_shaders hTree hList
    · decide +kernel
    · decide +kernel
    · decide +kernel
  have hFragment :
      (twoFiles "wave.VERT" "wave.frag").disk.HoldsAlone
        ⟨"."⟩ .fragment "wave" "wave.frag" "" := by
    apply Disk.holdsAlone_of_shaders hTree hList
    · decide +kernel
    · decide +kernel
    · decide +kernel
  exact
    ⟨hTree, hVertex, hFragment,
      discover_pairs_up _ ⟨"."⟩ "wave" "wave.VERT"
        "wave.frag" "uniform float height;" "" hTree hVertex
        hFragment⟩

/-
  A fragment shader in capitals is taken to be missing, even
  though both files of the stem are found.
-/
theorem discover_misses_fragment_in_capitals :
    (twoFiles "wave.vert" "wave.FRAG").disk.IsTree ∧
      (twoFiles "wave.vert" "wave.FRAG").disk.HoldsAlone
        ⟨"."⟩ .vertex "wave" "wave.vert"
        "uniform float height;" ∧
      (twoFiles "wave.vert" "wave.FRAG").disk.HoldsAlone
        ⟨"."⟩ .fragment "wave" "wave.FRAG" "" ∧
      ((discover ⟨"."⟩ : StateM Session _).run
          (twoFiles "wave.vert" "wave.FRAG")).1 =
        .ok [{
          baseName := "wave"
          primary := ⟨"./wave.vert"⟩
          partner := ⟨"./wave.frag"⟩ }] ∧
      ((ShaderPair.readSource {
          baseName := "wave"
          primary := ⟨"./wave.vert"⟩
          partner := ⟨"./wave.frag"⟩ } :
        StateM Session _).run
          (twoFiles "wave.vert" "wave.FRAG")).1 =
        .error
          (.pair
            (.missingPartner ⟨"./wave.vert"⟩
              ⟨"./wave.frag"⟩)) := by
  have hTree :
      (twoFiles "wave.vert" "wave.FRAG").disk.IsTree := by
    decide +kernel
  have hList :
      (twoFiles "wave.vert" "wave.FRAG").disk.list ⟨"."⟩ =
        .ok ["wave.vert", "wave.FRAG"] := by
    decide +kernel
  refine ⟨hTree, ?_, ?_, ?_, ?_⟩
  · apply Disk.holdsAlone_of_shaders hTree hList
    · decide +kernel
    · decide +kernel
    · decide +kernel
  · apply Disk.holdsAlone_of_shaders hTree hList
    · decide +kernel
    · decide +kernel
    · decide +kernel
  · decide +kernel
  · decide +kernel

end ShaderBindings
