import ShaderBindings.Proofs.Batch.Following
import ShaderBindings.Proofs.Disk.Listing
import ShaderBindings.Proofs.ShaderPair.ByStem

/-
  The pairs of one batch do not interfere. In a tree of
  files, and from paths that never go up, every pair is
  generated from the texts that its files had at first, and
  comes out as if it were processed alone. So the order of
  the paths changes neither which pairs succeed nor how the
  run ends.

  Key definitions include:
    * `Turn.verdict`
    * `Workload.IsIndependent`

  Key theorems include:
    * `Disk.isLevel_of_mem_pairsOf`
    * `follows_of_turns`
    * `verdicts_of_turns`
    * `Workload.runs_independently`
-/

------------------------------------------------------------
-- Level Pairs
------------------------------------------------------------

namespace ShaderBindings

open ShaderBindings.Path

namespace ShaderPair

/- The pairs among files are pairs of those files. -/
theorem exists_file_of_mem_amongFiles
    {files : List Path}
    {pairs : List ShaderPair}
    {pair : ShaderPair}
    (hPairs : amongFiles files = .ok pairs)
    (hPair : pair ∈ pairs) :
    ∃ path ∈ files, ofFile path = .ok pair := by
  rcases exists_amongFiles files with ⟨found, hFound, hLed⟩
  cases hPairs.symm.trans hFound
  rcases (hLed.mem_iff pair).mp hPair with
    ⟨hLeader, hOfFile⟩
  exact
    ⟨pair.primary, (mem_of_leader? hLeader).1, hOfFile⟩

/- The pair of a path that never goes up is level. -/
theorem isLevel_of_ofFile
    {path : Path}
    {pair : ShaderPair}
    (hPair : ofFile path = .ok pair)
    (hUp : ".." ∉ path.steps) :
    pair.IsLevel := by
  rcases exists_stage_of_ofFile hPair with
    ⟨_, _, hPrimary, _⟩
  refine ⟨⟨path, hPair⟩, ?_⟩
  rw [hPrimary]
  exact hUp

end ShaderPair

namespace Disk

variable {disk : Disk}
variable {path : Path}
variable {pair : ShaderPair}

/- The pairs of a directory are level when its path is. -/
theorem isLevel_of_mem_discover
    {pairs : List ShaderPair}
    (hTree : disk.IsTree)
    (hUp : ".." ∉ path.steps)
    (hPairs : disk.discover path = .ok pairs)
    (hPair : pair ∈ pairs) :
    pair.IsLevel := by
  unfold discover at hPairs
  split at hPairs
  · cases hPairs
  · rename_i listed hList
    split at hPairs
    · cases hPairs
    · rename_i found hFound
      cases hPairs
      rcases ShaderPair.exists_file_of_mem_amongFiles hFound
        hPair with ⟨file, hFile, hOfFile⟩
      rcases List.mem_map.mp (List.mem_filter.mp hFile).1 with
        ⟨name, hName, rfl⟩
      have hPlain := hTree.isPlainName_of_list hList hName
      apply ShaderPair.isLevel_of_ofFile hOfFile
      rw [up_mem_steps_iff] at hUp ⊢
      rw [names_join hPlain, List.mem_append, not_or]
      refine ⟨hUp, ?_⟩
      intro hAbove
      exact hPlain.not_above (List.mem_singleton.mp hAbove).symm

/- The pairs that a path leads to are level when it is. -/
theorem isLevel_of_mem_pairsOf
    (hTree : disk.IsTree)
    (hUp : ".." ∉ path.steps)
    (hPair : pair ∈ disk.pairsOf path) :
    pair.IsLevel := by
  unfold pairsOf at hPair
  split at hPair
  · rename_i pairs hPairs
    unfold pairsAt at hPairs
    split at hPairs
    · exact isLevel_of_mem_discover hTree hUp hPairs hPair
    · split at hPairs
      · rename_i other hOther
        cases hPairs
        rw [List.mem_singleton.mp hPair]
        exact ShaderPair.isLevel_of_ofFile hOther hUp
      · cases hPairs
  · cases hPair

end Disk

end ShaderBindings

------------------------------------------------------------
-- Turns in a Tree
------------------------------------------------------------

namespace ShaderBindings

open Session

namespace Turn

/- Whether a pair succeeded, and where its binding is then. -/
def verdict (turn : Turn) : ShaderPair × Option Path :=
  (turn.pair, turn.outcome.toOption)

theorem outcome_take
    (config : Config)
    (session : Session)
    (pair : ShaderPair) :
    (Turn.take config session pair).outcome =
      (session.disk.process config pair).1 := by
  change ((process config pair : StateM Session _).run
    session).1 = _
  rw [run_process]

theorem disk_next_take
    (config : Config)
    (session : Session)
    (pair : ShaderPair) :
    (Turn.take config session pair).next.disk =
      (session.disk.process config pair).2 := by
  change ((process config pair : StateM Session _).run
    session).2.disk = _
  rw [run_process]

/- A turn generates from the files of the disk before it. -/
theorem generates_iff
    {config : Config}
    {turn : Turn}
    {generated : Generated} :
    turn.Generates config generated ↔
      turn.before.disk.Generates config turn.pair
        generated := by
  unfold Generates Disk.Generates
  rw [run_readSource]

theorem isNone_verdict (turn : Turn) :
    turn.verdict.2.isNone = turn.failed := by
  unfold verdict failed
  cases turn.outcome with
  | ok output => rfl
  | error failure => rfl

end Turn

variable {config : Config}
variable {first : Disk}
variable {session : Session}
variable {pairs : List ShaderPair}

/- Every turn is taken on a disk that follows the first one. -/
theorem follows_of_turns
    (hFollows : first.Follows config session.disk)
    (hPairs : ∀ pair ∈ pairs, pair.IsOfFile) :
    ∀ turn ∈ turns config session pairs,
      turn = Turn.take config turn.before turn.pair ∧
        turn.pair ∈ pairs ∧
        first.Follows config turn.before.disk := by
  induction pairs generalizing session with
  | nil =>
      intro turn hTurn
      cases hTurn
  | cons pair rest ih =>
      intro turn hTurn
      rcases hPairs pair List.mem_cons_self with ⟨path, hPair⟩
      have hNext := hFollows.process hPair
      rw [← Turn.disk_next_take] at hNext
      rcases List.mem_cons.mp hTurn with rfl | hRest
      · exact ⟨rfl, List.mem_cons_self, hFollows⟩
      · rcases ih hNext
            (fun other hOther =>
              hPairs other (List.mem_cons_of_mem pair hOther))
            turn hRest with ⟨hTake, hMember, hReached⟩
        exact
          ⟨hTake, List.mem_cons_of_mem pair hMember, hReached⟩

/- Results that succeed alike give the same value, if any. -/
theorem toOption_eq_of_ok_iff
    {α ε : Type}
    {result other : Except ε α}
    (hOk : ∀ value, result = .ok value ↔ other = .ok value) :
    result.toOption = other.toOption := by
  cases other with
  | ok value => rw [(hOk value).mpr rfl]
  | error failure =>
      cases result with
      | ok value => cases (hOk value).mp rfl
      | error failure => rfl

/- A level pair comes out of its turn as it would have at first. -/
theorem toOption_outcome_of_turns
    (hTree : first.IsTree)
    (hFollows : first.Follows config session.disk)
    (hPairs : ∀ pair ∈ pairs, pair.IsLevel) :
    ∀ turn ∈ turns config session pairs,
      turn.outcome.toOption =
        (first.process config turn.pair).1.toOption := by
  intro turn hTurn
  rcases follows_of_turns hFollows
      (fun pair hPair => (hPairs pair hPair).isOfFile)
      turn hTurn with ⟨hTake, hMember, hReached⟩
  have hOutcome :=
    Turn.outcome_take config turn.before turn.pair
  rw [← hTake] at hOutcome
  rw [hOutcome]
  apply toOption_eq_of_ok_iff
  intro output
  exact hReached.process_eq_ok_iff hTree
    (hPairs turn.pair hMember)

/- The verdicts on level pairs do not depend on each other. -/
theorem verdicts_of_turns
    (hTree : first.IsTree)
    (hFollows : first.Follows config session.disk)
    (hPairs : ∀ pair ∈ pairs, pair.IsLevel) :
    (turns config session pairs).map Turn.verdict =
      pairs.map fun pair =>
        (pair, (first.process config pair).1.toOption) := by
  let alone (pair : ShaderPair) : ShaderPair × Option Path :=
    (pair, (first.process config pair).1.toOption)
  calc
    (turns config session pairs).map Turn.verdict
        = (turns config session pairs).map
            (alone ∘ Turn.pair) := by
          apply List.map_congr_left
          intro turn hTurn
          exact congrArg (turn.pair, ·)
            (toOption_outcome_of_turns hTree hFollows hPairs
              turn hTurn)
    _ = ((turns config session pairs).map
            Turn.pair).map alone :=
          List.map_map.symm
    _ = pairs.map alone := by
          rw [map_pair_turns]

end ShaderBindings

------------------------------------------------------------
-- Independence
------------------------------------------------------------

namespace ShaderBindings

open Session

/-
  The pairs of a workload do not interfere:
    * what is generated for a pair when its turn comes is
      what is generated from the texts that its two files had
      at first, and this is what can be read in its output
      file if the pair succeeds,
    * a pair succeeds exactly when it does so alone at first,
      with the same output,
    * when the paths are permuted, the same pairs succeed and
      the same pairs fail, as many paths are unusable, and
      the run ends in the same way.
-/
structure Workload.IsIndependent
    (workload : Workload) : Prop where
  generated_iff :
    ∀ turn ∈ workload.turns,
      ∀ generated,
        turn.Generates workload.config generated ↔
          ∃ primary partner,
            workload.session.disk.readText
                turn.pair.primary = .ok primary ∧
              workload.session.disk.readText
                  turn.pair.partner = .ok partner ∧
              (generate workload.config.generation
                  turn.pair.baseName
                  (primary ++ partner)).result =
                .ok generated
  written :
    ∀ turn ∈ workload.turns,
      ∀ output,
        turn.outcome = .ok output →
          ∃ generated,
            turn.Generates workload.config generated ∧
              output =
                turn.pair.outputPath generated.fileName
                  workload.config.outDir ∧
              turn.after.disk.readText output =
                .ok generated.source
  alone :
    ∀ turn ∈ workload.turns,
      turn.outcome.toOption =
        ((process workload.config turn.pair :
          StateM Session _).run
            workload.session).1.toOption
  permuted :
    ∀ paths,
      paths.Perm workload.paths →
        let other : Workload := { workload with paths }
        (other.turns.map Turn.verdict).Perm
            (workload.turns.map Turn.verdict) ∧
          other.collected.1.pairs.length =
            workload.collected.1.pairs.length ∧
          other.collected.1.failed =
            workload.collected.1.failed ∧
          other.failed = workload.failed ∧
          ((runBatch workload.config paths :
              StateM Session _).run workload.session).1 =
            ((runBatch workload.config workload.paths :
              StateM Session _).run workload.session).1

namespace Workload

variable {workload : Workload}

/- What the paths of a workload lead to. -/
theorem collected_eq (workload : Workload) :
    workload.collected =
      (workload.session.disk.collected workload.paths,
        workload.session.noted
          (workload.paths.flatMap
            workload.session.disk.pathEvents)) :=
  run_collectPairs workload.paths workload.session

/- The pairs that are collected are level when the paths are. -/
theorem isLevel_of_mem_collected
    (hTree : workload.session.disk.IsTree)
    (hPaths : ∀ path ∈ workload.paths, ".." ∉ path.steps) :
    ∀ pair ∈ workload.collected.1.pairs, pair.IsLevel := by
  intro pair hPair
  rw [collected_eq] at hPair
  rcases List.mem_flatMap.mp hPair with ⟨path, hPath, hFound⟩
  exact Disk.isLevel_of_mem_pairsOf hTree
    (hPaths path hPath) hFound

/- The turns start on the disk that the paths were found on. -/
theorem follows_collected
    (hTree : workload.session.disk.IsTree) :
    workload.session.disk.Follows workload.config
      workload.collected.2.disk := by
  rw [collected_eq]
  exact Disk.Follows.refl hTree

/- The verdicts on the pairs are those on single pairs. -/
theorem verdicts_eq
    (hTree : workload.session.disk.IsTree)
    (hPaths : ∀ path ∈ workload.paths, ".." ∉ path.steps) :
    workload.turns.map Turn.verdict =
      (workload.session.disk.collected
        workload.paths).pairs.map fun pair =>
          (pair,
            (workload.session.disk.process workload.config
              pair).1.toOption) := by
  have hVerdicts :=
    verdicts_of_turns hTree (follows_collected hTree)
      (isLevel_of_mem_collected hTree hPaths)
  rw [turns, hVerdicts, collected_eq]

/- Failures are counted in the verdicts. -/
theorem countP_verdicts (workload : Workload) :
    (workload.turns.map Turn.verdict).countP
        (fun verdict => verdict.2.isNone) =
      workload.turns.countP Turn.failed := by
  rw [List.countP_map]
  apply List.countP_congr
  intro turn _
  simp [Turn.isNone_verdict]

/- Permuted paths lead to the same verdicts and the same end. -/
theorem permuted
    (hTree : workload.session.disk.IsTree)
    (hPaths : ∀ path ∈ workload.paths, ".." ∉ path.steps)
    {paths : List Path}
    (hPerm : paths.Perm workload.paths) :
    let other : Workload := { workload with paths }
    (other.turns.map Turn.verdict).Perm
        (workload.turns.map Turn.verdict) ∧
      other.collected.1.pairs.length =
        workload.collected.1.pairs.length ∧
      other.collected.1.failed =
        workload.collected.1.failed ∧
      other.failed = workload.failed ∧
      other.outcome = workload.outcome := by
  intro other
  have hOtherTree : other.session.disk.IsTree := hTree
  have hOtherPaths : ∀ path ∈ other.paths, ".." ∉ path.steps :=
    fun path hPath => hPaths path (hPerm.subset hPath)
  have hPairs :
      other.collected.1.pairs.Perm
        workload.collected.1.pairs := by
    rw [collected_eq, collected_eq]
    exact hPerm.flatMap_right _
  have hUnusable :
      other.collected.1.failed =
        workload.collected.1.failed := by
    rw [collected_eq, collected_eq]
    exact hPerm.countP_eq _
  have hVerdicts :
      (other.turns.map Turn.verdict).Perm
        (workload.turns.map Turn.verdict) := by
    rw [verdicts_eq hTree hPaths,
      verdicts_eq hOtherTree hOtherPaths]
    exact (hPerm.flatMap_right _).map _
  have hFailed : other.failed = workload.failed := by
    rw [failed, failed, hUnusable, ← countP_verdicts,
      ← countP_verdicts, hVerdicts.countP_eq]
  refine ⟨hVerdicts, hPairs.length_eq, hUnusable, hFailed, ?_⟩
  rw [outcome, outcome, hFailed, hUnusable, hPairs.length_eq]

/-
  In a tree of files, and from paths that never go up, the
  pairs of a workload do not interfere.
-/
theorem runs_independently
    (workload : Workload)
    (hTree : workload.session.disk.IsTree)
    (hPaths : ∀ path ∈ workload.paths, ".." ∉ path.steps) :
    workload.IsIndependent := by
  have hFollows := follows_collected hTree
  have hLevel := isLevel_of_mem_collected hTree hPaths
  have hReached :=
    follows_of_turns hFollows
      fun pair hPair => (hLevel pair hPair).isOfFile
  exact {
    generated_iff := by
      intro turn hTurn generated
      rcases hReached turn hTurn with ⟨_, hMember, hThere⟩
      rw [Turn.generates_iff,
        hThere.generates_iff hTree (hLevel _ hMember)]
      exact Disk.generates_iff_texts
    written := by
      intro turn hTurn output hOutput
      have hTake := (hReached turn hTurn).1
      rcases Turn.take_cases workload.config turn.before
          turn.pair with
        ⟨failure, hFailed, _⟩ |
        ⟨generated, hMakes, hDone, _, hRead⟩
      · rw [← hTake, hOutput] at hFailed
        cases hFailed
      · rw [← hTake] at hMakes hDone hRead
        rw [hOutput] at hDone
        cases hDone
        exact
          ⟨generated, hMakes, rfl,
            Disk.readText_eq_ok_iff.mpr
              ⟨_, hRead, fromUTF8_toUTF8 _⟩⟩
    alone := by
      intro turn hTurn
      rw [run_process]
      exact toOption_outcome_of_turns hTree hFollows hLevel
        turn hTurn
    permuted := by
      intro paths hPerm
      rcases permuted hTree hPaths hPerm with
        ⟨hVerdicts, hLength, hUnusable, hFailed, hOutcome⟩
      refine ⟨hVerdicts, hLength, hUnusable, hFailed, ?_⟩
      have hOther := runBatch_eq { workload with paths }
      rw [hOther, runBatch_eq, hOutcome] }

/- The pairs of two files in one directory do not interfere. -/
theorem moss_and_mist_run_independently :
    mossAndMist.disk.IsTree ∧
      (∀ path ∈ [(⟨"moss.vert"⟩ : Path), ⟨"mist.frag"⟩],
        ".." ∉ path.steps) ∧
      Workload.IsIndependent {
        config := Config.standard
        paths := [⟨"moss.vert"⟩, ⟨"mist.frag"⟩]
        session := mossAndMist } := by
  have hPaths :
      ∀ path ∈ [(⟨"moss.vert"⟩ : Path), ⟨"mist.frag"⟩],
        ".." ∉ path.steps := by
    decide
  exact
    ⟨isTree_mossAndMist, hPaths,
      runs_independently _ isTree_mossAndMist hPaths⟩

end Workload

end ShaderBindings
