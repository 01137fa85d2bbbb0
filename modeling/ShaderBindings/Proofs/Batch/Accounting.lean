import ShaderBindings.Proofs.Batch.OnDisk
import ShaderBindings.Proofs.Batch.Outputs
import ShaderBindings.Proofs.Generation.Log

/-
  The accounts of a run. Every path adds its pairs to the
  batch or is reported as a failure, every pair takes one
  turn and is reported once, and the reports add up to the
  numbers that the run ends with.

  Key definitions include:
    * `Event.isFailure`
    * `Event.isWritten`
    * `RunAccounts`

  Key theorems include:
    * `reports_collected`
    * `reports_endSession`
    * `run_accounts`
-/

------------------------------------------------------------
-- Reports of the Command
------------------------------------------------------------

namespace ShaderBindings

open Session

namespace Event

/- The command reports a failure. -/
def isFailure (event : Event) : Bool :=
  event.isOfCommand && event.level == .error

/- The command reports that a binding was written. -/
def isWritten (event : Event) : Bool :=
  event.isOfCommand && event.level == .info &&
    event.message == "wrote bindings"

end Event

/- What the command itself has logged. -/
def Session.reports (session : Session) : List Event :=
  session.events.filter Event.isOfCommand

theorem Session.reports_noted
    (session : Session)
    (events : List Event) :
    (session.noted events).reports =
      session.reports ++ events.filter Event.isOfCommand := by
  rw [reports, events_noted, List.filter_append]
  rfl

/- A path is reported when it is not usable. -/
theorem filter_pathEvents
    (disk : Disk)
    (path : Path) :
    (disk.pathEvents path).filter Event.isOfCommand =
      (disk.pathFailure? path).toList := by
  have hDirectory :
      (disk.discoveryEvents path).filter Event.isOfCommand =
        [] := by
    unfold Disk.discoveryEvents
    split
    · rfl
    · rfl
  have hFailure :
      (disk.pathFailure? path).toList.filter
          Event.isOfCommand =
        (disk.pathFailure? path).toList := by
    unfold Disk.pathFailure?
    split
    · rfl
    · rfl
  rw [Disk.pathEvents, List.filter_append, hFailure]
  split
  · rw [hDirectory, List.nil_append]
  · rfl

/- Collecting pairs reports the paths that are not usable. -/
theorem reports_collected
    (disk : Disk)
    (paths : List Path)
    (session : Session) :
    (session.noted
        (paths.flatMap disk.pathEvents)).reports =
      session.reports ++
        paths.filterMap disk.pathFailure? := by
  rw [reports_noted, List.filter_flatMap]
  simp only [filter_pathEvents]
  rw [List.filterMap_eq_flatMap_toList]

/- Nothing that a generation logs is a report. -/
theorem filter_processEvents
    (disk : Disk)
    (config : Config)
    (pair : ShaderPair) :
    (disk.processEvents config pair).filter
        Event.isOfCommand = [] := by
  unfold Disk.processEvents
  split
  · rfl
  · rw [List.filter_eq_nil_iff]
    intro event hEvent
    rw [generate_logs _ _ _ event hEvent]
    exact Bool.false_ne_true

namespace Turn

theorem isOfCommand_report (turn : Turn) :
    turn.report.isOfCommand = true := by
  unfold report
  split
  · rfl
  · rfl

/- A turn that failed is reported as a failure. -/
theorem isFailure_report (turn : Turn) :
    turn.report.isFailure = turn.failed := by
  unfold report failed
  cases turn.outcome with
  | ok output => rfl
  | error failure => rfl

/- A turn that did not fail is reported as written. -/
theorem isWritten_report (turn : Turn) :
    turn.report.isWritten = !turn.failed := by
  unfold report failed
  cases turn.outcome with
  | ok output => rfl
  | error failure => rfl

/- A turn adds its own report to the log, and no other. -/
theorem reports_next
    (config : Config)
    (session : Session)
    (pair : ShaderPair) :
    let turn := Turn.take config session pair
    turn.next.reports = session.reports ++ [turn.report] := by
  intro turn
  have hAfter :
      turn.after =
        { session.noted
            (session.disk.processEvents config pair) with
          disk := (session.disk.process config pair).2 } := by
    change ((process config pair : StateM Session _).run
      session).2 = _
    rw [run_process]
  have hNext :
      turn.next.events =
        (session.noted
            (session.disk.processEvents config pair)).events ++
          [turn.report] := by
    rw [← events_noted, next, hAfter]
    rfl
  rw [reports, hNext, List.filter_append, ← reports,
    reports_noted, filter_processEvents, List.append_nil,
    List.filter_cons_of_pos turn.isOfCommand_report]
  rfl

end Turn

/- Turns are reported one after the other. -/
theorem reports_endSession
    (config : Config)
    (session : Session)
    (pairs : List ShaderPair) :
    (endSession session
        (turns config session pairs)).reports =
      session.reports ++
        (turns config session pairs).map Turn.report := by
  induction pairs generalizing session with
  | nil => exact (List.append_nil _).symm
  | cons pair rest ih =>
      rw [turns, endSession, List.map_cons, List.append_cons,
        ← Turn.reports_next]
      exact ih (Turn.take config session pair).next

end ShaderBindings

------------------------------------------------------------
-- Sums of Reports
------------------------------------------------------------

namespace ShaderBindings

/- The paths that are not usable are reported as failures. -/
theorem countP_pathFailures
    (disk : Disk)
    (paths : List Path) :
    (paths.filterMap disk.pathFailure?).countP
          Event.isFailure =
        (disk.collected paths).failed ∧
      (paths.filterMap disk.pathFailure?).countP
          Event.isWritten = 0 := by
  induction paths with
  | nil => exact ⟨rfl, rfl⟩
  | cons path rest ih =>
      rw [Disk.collected] at ih ⊢
      dsimp only at ih ⊢
      cases hFailure : disk.pathFailure? path with
      | none =>
          rw [List.filterMap_cons_none hFailure,
            List.countP_cons, hFailure]
          exact ih
      | some event =>
          have hEvent :
              event.isFailure = true ∧
                event.isWritten = false := by
            unfold Disk.pathFailure? at hFailure
            split at hFailure
            · cases hFailure
            · cases hFailure
              exact ⟨rfl, rfl⟩
          rw [List.filterMap_cons_some hFailure,
            List.countP_cons, List.countP_cons,
            List.countP_cons, hFailure, ih.1, ih.2, hEvent.1,
            hEvent.2]
          exact ⟨rfl, rfl⟩

/- Turns are reported as failed or as written. -/
theorem countP_reports (taken : List Turn) :
    (taken.map Turn.report).countP Event.isFailure =
        taken.countP Turn.failed ∧
      (taken.map Turn.report).countP Event.isWritten =
        taken.length - taken.countP Turn.failed := by
  have hLength :
      taken.length =
        taken.countP Turn.failed +
          taken.countP fun turn => ¬ turn.failed = true :=
    List.length_eq_countP_add_countP Turn.failed
  have hWritten :
      taken.countP (Event.isWritten ∘ Turn.report) =
        taken.countP fun turn => ¬ turn.failed = true := by
    apply List.countP_congr
    intro turn _
    simp [Turn.isWritten_report]
  rw [List.countP_map, List.countP_map, hWritten]
  constructor
  · apply List.countP_congr
    intro turn _
    simp [Turn.isFailure_report]
  · omega

end ShaderBindings

------------------------------------------------------------
-- Accounts
------------------------------------------------------------

namespace ShaderBindings

open Session

/- The workload of paths in a session where nothing happened. -/
def freshWork
    (config : Config)
    (disk : Disk)
    (input : String) : Workload where
  config := config
  paths := config.paths
  session := Session.start disk input

/-
  A run of the command accounts for its inputs:
    * the pairs of the batch are the pairs of the usable
      paths, in the order of the paths, and the other paths
      are counted,
    * every pair takes one turn, in order, in the session
      that the turns before it leave, however they came out,
    * each path that is not usable is reported, all of them
      before the first turn, and then each turn is reported,
    * bindings written and failures reported add up to the
      number of inputs,
    * the run ends well when no failure is reported, and
      complains about the number of failures otherwise.
-/
structure RunAccounts
    (config : Config)
    (disk : Disk)
    (input : String)
    (done : Outcome × Session) : Prop where
  pairs :
    (freshWork config disk input).collected.1.pairs =
      config.paths.flatMap disk.pairsOf
  unusable :
    (freshWork config disk input).collected.1.failed =
      config.paths.countP fun path =>
        (disk.pathFailure? path).isSome
  attempted :
    (freshWork config disk input).turns.map Turn.pair =
      config.paths.flatMap disk.pairsOf
  in_order :
    ∀ earlier turn later,
      (freshWork config disk input).turns =
          earlier ++ turn :: later →
        turn =
          Turn.take config
            (endSession
              (freshWork config disk input).collected.2
              earlier)
            turn.pair
  left :
    done.2 =
      endSession (freshWork config disk input).collected.2
        (freshWork config disk input).turns
  paths_reported :
    (freshWork config disk input).collected.2.reports =
      config.paths.filterMap disk.pathFailure?
  turns_reported :
    done.2.reports =
      config.paths.filterMap disk.pathFailure? ++
        (freshWork config disk input).turns.map Turn.report
  balance :
    done.2.events.countP Event.isWritten +
        done.2.events.countP Event.isFailure =
      (config.paths.flatMap disk.pairsOf).length +
        config.paths.countP fun path =>
          (disk.pathFailure? path).isSome
  ends_well_iff :
    done.1.exitCode = 0 ↔
      done.2.events.countP Event.isFailure = 0
  complains :
    done.2.events.countP Event.isFailure ≠ 0 →
      done.1.exitCode = 1 ∧
        done.1.complaint =
          "Error: " ++
            (toString
                (done.2.events.countP Event.isFailure) ++
              " of " ++
              toString
                ((config.paths.flatMap disk.pairsOf).length +
                  config.paths.countP fun path =>
                    (disk.pathFailure? path).isSome) ++
              " shader inputs failed") ++ "\n"

/- A turn is taken in the session that those before it leave. -/
theorem take_of_turns
    {config : Config}
    {pairs : List ShaderPair}
    {session : Session}
    {earlier later : List Turn}
    {turn : Turn}
    (hTurns :
      turns config session pairs = earlier ++ turn :: later) :
    turn =
      Turn.take config (endSession session earlier)
        turn.pair := by
  induction pairs generalizing session earlier with
  | nil => simp [turns] at hTurns
  | cons pair rest ih =>
      rw [turns] at hTurns
      cases earlier with
      | nil =>
          rcases List.cons_eq_cons.mp hTurns with ⟨rfl, rfl⟩
          rfl
      | cons first earlier =>
          rcases List.cons_eq_cons.mp hTurns with ⟨rfl, hRest⟩
          have hNext :
              turns config (Turn.take config session pair).next
                  rest =
                earlier ++ turn :: later :=
            hRest
          have hTake := ih hNext
          exact hTake

/- Reports of one sort are counted in the whole log. -/
theorem Session.countP_events
    {sort : Event → Bool}
    (hSort :
      ∀ event, sort event = true → event.isOfCommand = true)
    (session : Session) :
    session.events.countP sort =
      session.reports.countP sort := by
  rw [reports, List.countP_filter]
  apply List.countP_congr
  intro event _
  constructor
  · intro hEvent
    rw [hEvent, hSort event hEvent]
    rfl
  · intro hEvent
    exact (Bool.and_eq_true_iff.mp hEvent).1

/- The failures of a workload are those that are reported. -/
theorem Workload.count_reports
    (config : Config)
    (disk : Disk)
    (input : String) :
    let work := freshWork config disk input
    let listed :=
      config.paths.filterMap disk.pathFailure? ++
        work.turns.map Turn.report
    listed.countP Event.isFailure = work.failed ∧
      listed.countP Event.isWritten + work.failed =
        work.collected.1.pairs.length +
          work.collected.1.failed := by
  intro work listed
  have hCollected :
      work.collected.1 = disk.collected config.paths := by
    change ((collectPairs config.paths :
      StateM Session _).run (Session.start disk input)).1 = _
    rw [run_collectPairs]
    rfl
  have hPaths := countP_pathFailures disk config.paths
  have hTurns := countP_reports work.turns
  have hLength :
      work.turns.length = work.collected.1.pairs.length := by
    rw [← map_pair_turns work.config work.collected.2
      work.collected.1.pairs, List.length_map]
    rfl
  have hBound :
      work.turns.countP Turn.failed ≤ work.turns.length :=
    List.countP_le_length
  rw [← hCollected] at hPaths
  rw [Workload.failed, List.countP_append,
    List.countP_append, hPaths.1, hPaths.2, hTurns.1,
    hTurns.2]
  constructor
  · rfl
  · omega

/-
  A run with at least one path accounts for everything that
  the paths lead to.
-/
theorem run_accounts
    (arguments : List String)
    (config : Config)
    (disk : Disk)
    (input : String)
    (hParse : Command.parse arguments = .ok (.run config))
    (hPaths : config.paths ≠ []) :
    RunAccounts config disk input
      ((run arguments : StateM Session Outcome).run
        (Session.start disk input)) := by
  have hWorkload :
      Workload.ofArguments? arguments
          (Session.start disk input) =
        some (freshWork config disk input) := by
    rw [Workload.ofArguments?, hParse]
    dsimp only
    rw [if_neg (by simpa using hPaths)]
    rfl
  have hRun := (Workload.run_eq hWorkload).1
  have hCollected :
      (freshWork config disk input).collected =
        (disk.collected config.paths,
          (Session.start disk input).noted
            (config.paths.flatMap disk.pathEvents)) :=
    run_collectPairs config.paths (Session.start disk input)
  have hPathReports :
      (freshWork config disk input).collected.2.reports =
        config.paths.filterMap disk.pathFailure? := by
    rw [hCollected, reports_collected]
    rfl
  have hReports :
      (freshWork config disk input).final.reports =
        config.paths.filterMap disk.pathFailure? ++
          (freshWork config disk input).turns.map
            Turn.report := by
    rw [Workload.final, ← hPathReports]
    exact reports_endSession config _ _
  have hCounts :=
    Workload.count_reports config disk input
  have hFailed :
      (freshWork config disk input).final.events.countP
          Event.isFailure =
        (freshWork config disk input).failed := by
    rw [countP_events, hReports]
    · exact hCounts.1
    · intro event hEvent
      exact (Bool.and_eq_true_iff.mp hEvent).1
  have hWritten :
      (freshWork config disk input).final.events.countP
          Event.isWritten =
        (config.paths.filterMap disk.pathFailure? ++
          (freshWork config disk input).turns.map
            Turn.report).countP Event.isWritten := by
    rw [countP_events, hReports]
    intro event hEvent
    exact
      (Bool.and_eq_true_iff.mp
        (Bool.and_eq_true_iff.mp hEvent).1).1
  have hPairs :
      (freshWork config disk input).collected.1.pairs =
        config.paths.flatMap disk.pairsOf := by
    rw [hCollected]
    rfl
  have hUnusable :
      (freshWork config disk input).collected.1.failed =
        config.paths.countP fun path =>
          (disk.pathFailure? path).isSome := by
    rw [hCollected]
    rfl
  rw [hRun]
  exact {
    pairs := hPairs
    unusable := hUnusable
    attempted := by
      rw [← hPairs]
      exact map_pair_turns _ _ _
    in_order := fun _ _ _ hTurns => take_of_turns hTurns
    left := rfl
    paths_reported := hPathReports
    turns_reported := hReports
    balance := by
      dsimp only
      rw [hWritten, hFailed, ← hPairs, ← hUnusable]
      exact hCounts.2
    ends_well_iff := by
      dsimp only
      rw [hFailed, Workload.outcome]
      split
      · rename_i hNone
        simp [Outcome.exitCode, hNone]
      · rename_i hSome
        simp [Outcome.exitCode, hSome]
    complains := by
      dsimp only
      rw [hFailed, Workload.outcome]
      intro hSome
      rw [if_neg hSome, ← hPairs, ← hUnusable]
      exact ⟨rfl, rfl⟩ }

/- A missing shader, a file of another sort, a directory. -/
def mixedPaths : Config :=
  { Config.standard with
    paths := [⟨"gone.vert"⟩, ⟨"notes.txt"⟩, ⟨"."⟩] }

/- A run with usable and other paths accounts for all. -/
theorem run_accounts_for_mixed_paths :
    Command.parse ["gone.vert", "notes.txt", "."] =
        .ok (.run mixedPaths) ∧
      mixedPaths.paths ≠ [] ∧
      RunAccounts mixedPaths mossAndMist.disk ""
        ((run ["gone.vert", "notes.txt", "."] :
          StateM Session Outcome).run
            (Session.start mossAndMist.disk "")) := by
  have hParse :
      Command.parse ["gone.vert", "notes.txt", "."] =
        .ok (.run mixedPaths) :=
    rfl
  have hPaths : mixedPaths.paths ≠ [] := by
    simp [mixedPaths]
  exact ⟨hParse, hPaths,
    run_accounts ["gone.vert", "notes.txt", "."] mixedPaths
      mossAndMist.disk "" hParse hPaths⟩

end ShaderBindings
