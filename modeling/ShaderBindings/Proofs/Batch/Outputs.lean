import ShaderBindings.Proofs.Batch.Pairs
import ShaderBindings.Proofs.Batch.Turns
import ShaderBindings.Proofs.Generation.Steps
import ShaderBindings.Proofs.Interface.Checks

/-
  The files that a run of the command leaves behind. Pairs
  are written to the same file exactly when their classes
  have one name and their output directories are one place.
  Nothing keeps such pairs apart, so the last of them is the
  one whose binding stays; every other binding stays where it
  is written.

  Key definitions include:
    * `ShaderPair.outputDirectory`
    * `Workload`
    * `Workload.ofArguments?`
    * `Workload.turns`
    * `Workload.KeepsOutputs`

  Key theorems include:
    * `Workload.run_eq`
    * `run_keeps_outputs`
    * `run_twins_overwrites`
-/

------------------------------------------------------------
-- Places of Outputs
------------------------------------------------------------

namespace ShaderBindings

namespace ShaderPair

/-
  The directory that the code of a pair is written into: the
  given one, or else that of its primary file.
-/
def outputDirectory
    (pair : ShaderPair)
    (outDir : Option Path) : Path :=
  outDir.getD (pair.primary.parent?.getD ⟨""⟩)

theorem outputPath_eq
    (pair : ShaderPair)
    (fileName : String)
    (outDir : Option Path) :
    pair.outputPath fileName outDir =
      (pair.outputDirectory outDir).join ⟨fileName⟩ := by
  cases outDir with
  | none => rfl
  | some directory => rfl

end ShaderPair

/- A generation names its file after the class it makes. -/
theorem fileName_of_generate
    {options : GenerationOptions}
    {baseName source : String}
    {generated : Generated}
    (hGenerated :
      (generate options baseName source).result =
        .ok generated) :
    ∃ className,
      className? baseName = .ok className ∧
        generated.fileName = classFile className := by
  rcases exists_interface_of_generate hGenerated with
    ⟨interface, hBuild, hMade, _⟩
  rcases Generated.of_ofInterface hMade with ⟨_, _, rfl, _⟩
  rcases Interface.eq_of_build hBuild with
    ⟨className, hClass, rfl⟩
  exact ⟨className, hClass, rfl⟩

/-
  Files of classes lead to one location exactly when the
  classes have one name and the directories are one place.
-/
theorem destination_classFile_eq_iff
    {home : Location}
    {directory directory' : Path}
    {baseName baseName' className className' : String}
    (hBase : '/' ∉ baseName.toList)
    (hBase' : '/' ∉ baseName'.toList)
    (hClass : className? baseName = .ok className)
    (hClass' : className? baseName' = .ok className') :
    (directory.join ⟨classFile className⟩).destination home =
        (directory'.join
          ⟨classFile className'⟩).destination home ↔
      className = className' ∧
        directory.destination home =
          directory'.destination home := by
  rw [Path.destination_join (isPlainName_classFile hBase hClass),
    Path.destination_join
      (isPlainName_classFile hBase' hClass'),
    List.append_singleton_inj]
  constructor
  · rintro ⟨hPlace, hName⟩
    exact ⟨classFile_inj hName, hPlace⟩
  · rintro ⟨rfl, hPlace⟩
    exact ⟨hPlace, rfl⟩

end ShaderBindings

------------------------------------------------------------
-- Runs of the Command
------------------------------------------------------------

namespace ShaderBindings

open Session
open Workspace

/-
  What a run of the command works on: its configuration, the
  paths it is given, and the session it starts to collect
  pairs in.
-/
structure Workload where
  config : Config
  paths : List Path
  session : Session

namespace Workload

/-
  The workload of arguments, if there is any. A path that is
  asked for counts as given.
-/
def ofArguments?
    (arguments : List String)
    (session : Session) : Option Workload :=
  match Command.parse arguments with
  | .ok (.run config) =>
      if config.paths.isEmpty then
        let asked :=
          (promptPath : StateM Session _).run session
        asked.1.map fun path => {
          config
          paths := [path]
          session := asked.2 }
      else
        some { config, paths := config.paths, session }
  | _ => none

/- The pairs of a workload, and the session behind them. -/
def collected (workload : Workload) : Collected × Session :=
  (collectPairs workload.paths : StateM Session _).run
    workload.session

/- The turns of the pairs of a workload. -/
def turns (workload : Workload) : List Turn :=
  ShaderBindings.turns workload.config workload.collected.2
    workload.collected.1.pairs

/- The session behind all turns. -/
def final (workload : Workload) : Session :=
  endSession workload.collected.2 workload.turns

/- How many inputs of a workload fail. -/
def failed (workload : Workload) : Nat :=
  workload.collected.1.failed +
    workload.turns.countP Turn.failed

/- How a run of a workload comes out. -/
def outcome (workload : Workload) : Outcome :=
  if workload.failed = 0 then
    .ok ()
  else
    .error
      (.inputsFailed workload.failed
        (workload.collected.1.pairs.length +
          workload.collected.1.failed))

/- A batch takes the turns of its pairs. -/
theorem runBatch_eq (workload : Workload) :
    (runBatch workload.config workload.paths :
        StateM Session _).run workload.session =
      (workload.outcome, workload.final) := by
  have hCollected :
      (collectPairs workload.paths : StateM Session _).run
        workload.session = workload.collected :=
    rfl
  rw [runBatch, Session.run_bind, hCollected,
    Session.run_bind, processAll_run]
  change
    (if workload.failed = 0 then
        pure (.ok ())
      else
        pure (.error _) : StateM Session Outcome).run
          workload.final = _
  unfold outcome
  split
  · rfl
  · rfl

/- A run of the command works on the workload it is given. -/
theorem run_eq
    {arguments : List String}
    {session : Session}
    {workload : Workload}
    (hWorkload :
      ofArguments? arguments session = some workload) :
    (run arguments : StateM Session _).run session =
        (workload.outcome, workload.final) ∧
      workload.session.disk.home = session.disk.home := by
  rw [← runBatch_eq]
  unfold ofArguments? at hWorkload
  unfold run
  split at hWorkload
  · rename_i config hParse
    rw [hParse]
    dsimp only
    split at hWorkload
    · rename_i hPaths
      have hHome := (grows_promptPath session).home
      rw [if_pos hPaths, Session.run_bind]
      dsimp only at hWorkload
      generalize
        (promptPath : StateM Session _).run session = asked
          at hWorkload hHome ⊢
      rcases asked with ⟨path | path, behind⟩
      · cases hWorkload
      · cases hWorkload
        exact ⟨rfl, hHome⟩
    · rename_i hPaths
      rw [if_neg hPaths]
      cases hWorkload
      exact ⟨rfl, rfl⟩
  · cases hWorkload

/- A run that ends well has no input that failed. -/
theorem failed_eq_zero_of_exitCode
    {workload : Workload}
    (hExit : workload.outcome.exitCode = 0) :
    workload.failed = 0 := by
  unfold outcome at hExit
  split at hExit
  · assumption
  · cases hExit

end Workload

end ShaderBindings

------------------------------------------------------------
-- Outputs That Stay
------------------------------------------------------------

namespace ShaderBindings

open Session

/-
  A run leaves the outputs of a workload behind:
    * every pair that is collected takes one turn, in order,
      and is written into its output directory, to the file
      of its class,
    * the path it is written to leads to one location, which
      it shares with another pair exactly when their classes
      have one name and their output directories are one
      place,
    * the text that is generated for it is read there after
      the run, unless a later pair is written to the same
      location.
-/
structure Workload.KeepsOutputs
    (workload : Workload)
    (home : Location)
    (disk : Disk) : Prop where
  processed :
    workload.turns.map Turn.pair = workload.collected.1.pairs
  written :
    ∀ turn ∈ workload.turns,
      ∃ generated className,
        turn.Generates workload.config generated ∧
          className? turn.pair.baseName = .ok className ∧
          turn.outcome =
            .ok
              ((turn.pair.outputDirectory
                workload.config.outDir).join
                ⟨classFile className⟩)
  located :
    ∀ turn ∈ workload.turns,
      ∀ output,
        turn.outcome = .ok output →
          disk.locate output = .ok (output.destination home)
  shared_iff :
    ∀ turn ∈ workload.turns,
      ∀ other ∈ workload.turns,
        ∀ output output',
          turn.outcome = .ok output →
            other.outcome = .ok output' →
              (output.destination home =
                  output'.destination home ↔
                className? turn.pair.baseName =
                    className? other.pair.baseName ∧
                  (turn.pair.outputDirectory
                      workload.config.outDir).destination
                      home =
                    (other.pair.outputDirectory
                      workload.config.outDir).destination
                      home)
  kept :
    ∀ earlier turn later generated output,
      workload.turns = earlier ++ turn :: later →
        turn.Generates workload.config generated →
          turn.outcome = .ok output →
            (∀ other ∈ later,
              ∀ output',
                other.outcome = .ok output' →
                  output'.destination home ≠
                    output.destination home) →
              disk.read output =
                .ok generated.source.toUTF8

namespace Workload

variable {workload : Workload}
variable {home : Location}
variable {turn other : Turn}
variable {output output' : Path}

/- Every pair that is collected is the pair of a file. -/
theorem slash_not_mem_baseName
    (hTurn : turn ∈ workload.turns) :
    '/' ∉ turn.pair.baseName.toList := by
  have hPair : turn.pair ∈ workload.collected.1.pairs := by
    rw [← map_pair_turns workload.config workload.collected.2
      workload.collected.1.pairs]
    exact List.mem_map_of_mem hTurn
  rcases yields_collectPairs workload.paths workload.session
    turn.pair hPair with ⟨path, hFile⟩
  exact ShaderPair.slash_not_mem_baseName hFile

/- An output is the file of a class in its directory. -/
theorem exists_class_of_outcome
    (hTurn : turn ∈ workload.turns)
    (hOutcome : turn.outcome = .ok output) :
    ∃ generated className,
      turn.Generates workload.config generated ∧
        className? turn.pair.baseName = .ok className ∧
        output =
          (turn.pair.outputDirectory
            workload.config.outDir).join
            ⟨classFile className⟩ := by
  rcases List.append_of_mem hTurn with
    ⟨earlier, later, hTurns⟩
  rcases written_of_turns hTurns hOutcome with
    ⟨_, _, generated, hGenerates, hOutput, _⟩
  rcases hGenerates with ⟨source, hSource, hMade⟩
  rcases fileName_of_generate hMade with
    ⟨className, hClass, hFile⟩
  refine ⟨generated, className, ⟨source, hSource, hMade⟩,
    hClass, ?_⟩
  rw [hOutput, ShaderPair.outputPath_eq, hFile]

/- Every turn succeeds when nothing fails. -/
theorem exists_output_of_failed
    (hFailed : workload.failed = 0)
    (hTurn : turn ∈ workload.turns) :
    ∃ output, turn.outcome = .ok output := by
  have hCount : workload.turns.countP Turn.failed = 0 := by
    unfold failed at hFailed
    omega
  have hTurnFailed := List.countP_eq_zero.mp hCount turn hTurn
  cases hOutcome : turn.outcome with
  | ok output => exact ⟨output, rfl⟩
  | error failure => simp [Turn.failed, hOutcome] at hTurnFailed

theorem home_collected :
    workload.collected.2.disk.home =
      workload.session.disk.home :=
  (grows_collectPairs workload.paths workload.session).home

/-
  Outputs are at one location exactly when their classes and
  their directories are the same.
-/
theorem destination_eq_iff
    (hTurn : turn ∈ workload.turns)
    (hOther : other ∈ workload.turns)
    (hOutput : turn.outcome = .ok output)
    (hOutput' : other.outcome = .ok output') :
    output.destination home = output'.destination home ↔
      className? turn.pair.baseName =
          className? other.pair.baseName ∧
        (turn.pair.outputDirectory
            workload.config.outDir).destination home =
          (other.pair.outputDirectory
            workload.config.outDir).destination home := by
  rcases exists_class_of_outcome hTurn hOutput with
    ⟨_, className, _, hClass, rfl⟩
  rcases exists_class_of_outcome hOther hOutput' with
    ⟨_, className', _, hClass', rfl⟩
  rw [destination_classFile_eq_iff
    (slash_not_mem_baseName hTurn)
    (slash_not_mem_baseName hOther) hClass hClass',
    hClass, hClass', Except.ok.injEq]

/- A workload without failures leaves its outputs behind. -/
theorem keepsOutputs
    (hFailed : workload.failed = 0)
    (hHome : workload.session.disk.home = home) :
    workload.KeepsOutputs home workload.final.disk := by
  have hCollected : workload.collected.2.disk.home = home :=
    home_collected.trans hHome
  subst hCollected
  exact {
    processed :=
      map_pair_turns workload.config workload.collected.2
        workload.collected.1.pairs
    written := by
      intro turn hTurn
      rcases exists_output_of_failed hFailed hTurn with
        ⟨output, hOutcome⟩
      rcases exists_class_of_outcome hTurn hOutcome with
        ⟨generated, className, hGenerates, hClass, rfl⟩
      exact ⟨generated, className, hGenerates, hClass,
        hOutcome⟩
    located := by
      intro turn hTurn output hOutcome
      rcases List.append_of_mem hTurn with
        ⟨earlier, later, hTurns⟩
      exact locate_of_turns hTurns hOutcome
    shared_iff := fun _ hTurn _ hOther _ _ hOutput hOutput' =>
      destination_eq_iff hTurn hOther hOutput hOutput'
    kept := by
      intro earlier turn later generated output hTurns
        hGenerates hOutcome hLast
      apply read_of_turns hTurns hGenerates hOutcome
      intro other hOther hSame
      cases hOther' : other.outcome with
      | error failure =>
          simp [Turn.written, hOther'] at hSame
      | ok output' =>
          apply hLast other hOther output' hOther'
          simpa [Turn.written, hOther', eq_comm] using hSame }

end Workload

/-
  A run of the command that ends well leaves the outputs of
  all its pairs behind, apart from those that share their
  file with a later pair.
-/
theorem run_keeps_outputs
    (arguments : List String)
    (session : Session)
    (workload : Workload)
    (hWorkload :
      Workload.ofArguments? arguments session = some workload)
    (hExit :
      ((run arguments : StateM Session Outcome).run
        session).1.exitCode = 0) :
    workload.KeepsOutputs session.disk.home
      ((run arguments : StateM Session Outcome).run
        session).2.disk := by
  rcases Workload.run_eq hWorkload with ⟨hRun, hHome⟩
  rw [hRun] at hExit ⊢
  exact Workload.keepsOutputs
    (Workload.failed_eq_zero_of_exitCode hExit) hHome

/- A session in a directory with the pairs of two stems. -/
def stemsSession (first second : String) : Session :=
  let file (stem ending text : String) : Path × Entry :=
    (⟨stem ++ ending⟩, .file text.toUTF8)
  let files := [
    file first ".vert" "uniform float dim;",
    file first ".frag" "",
    file second ".vert" "",
    file second ".frag" ""]
  Session.start (Disk.ofFiles ["work"] files) ""

/- The workload of a whole directory. -/
def directoryWork (session : Session) : Workload where
  config := { Config.standard with paths := [⟨"."⟩] }
  paths := [⟨"."⟩]
  session := session

/- A directory with two pairs of different classes. -/
def mossAndMist : Session :=
  stemsSession "moss" "mist"

/- A run with two pairs of different classes keeps both. -/
theorem run_keeps_moss_and_mist :
    Workload.ofArguments? ["."] mossAndMist =
        some (directoryWork mossAndMist) ∧
      ((run ["."] : StateM Session Outcome).run
        mossAndMist).1.exitCode = 0 ∧
      (directoryWork mossAndMist).KeepsOutputs
        mossAndMist.disk.home
        ((run ["."] : StateM Session Outcome).run
          mossAndMist).2.disk := by
  have hWorkload :
      Workload.ofArguments? ["."] mossAndMist =
        some (directoryWork mossAndMist) :=
    rfl
  have hExit :
      ((run ["."] : StateM Session Outcome).run
        mossAndMist).1.exitCode = 0 := by
    decide +kernel
  exact ⟨hWorkload, hExit,
    run_keeps_outputs ["."] mossAndMist
      (directoryWork mossAndMist) hWorkload hExit⟩

end ShaderBindings

------------------------------------------------------------
-- Outputs That Are Overwritten
------------------------------------------------------------

namespace ShaderBindings

open Session

/- What is read anywhere is the content of some entry. -/
theorem Disk.exists_entry_of_read
    {disk : Disk}
    {path : Path}
    {content : ByteArray}
    (hRead : disk.read path = .ok content) :
    ∃ location, (location, .file content) ∈ disk.entries := by
  rcases Disk.read_eq_ok_iff.mp hRead with
    ⟨location, _, hEntry⟩
  have hBelow : location ≠ [] := by
    rintro rfl
    cases hEntry
  rw [Disk.entry_of_ne_nil hBelow] at hEntry
  rcases List.lookup_eq_some_iff.mp hEntry with
    ⟨before, behind, hEntries, _⟩
  refine ⟨location, ?_⟩
  rw [hEntries]
  simp

/- A directory with two pairs of classes of one name. -/
def twins : Session :=
  stemsSession "Foo" "foo"

/- The turns of the two pairs. -/
def firstTwin : Turn :=
  Turn.take (directoryWork twins).config
    (directoryWork twins).collected.2
    ⟨"Foo", ⟨"./Foo.vert"⟩, ⟨"./Foo.frag"⟩⟩

def secondTwin : Turn :=
  Turn.take (directoryWork twins).config firstTwin.next
    ⟨"foo", ⟨"./foo.vert"⟩, ⟨"./foo.frag"⟩⟩

theorem twins_turns :
    (directoryWork twins).turns = [firstTwin, secondTwin] ∧
      (directoryWork twins).collected.1.failed = 0 := by
  have hCollected :
      (directoryWork twins).collected.1 =
        ⟨[firstTwin.pair, secondTwin.pair], 0⟩ := by
    decide +kernel
  constructor
  · unfold Workload.turns
    rw [hCollected]
    rfl
  · rw [hCollected]

theorem twins_outcome :
    firstTwin.outcome = .ok ⟨"./FooShader.rs"⟩ ∧
      secondTwin.outcome = .ok ⟨"./FooShader.rs"⟩ := by
  decide +kernel

/- The text that is generated for the first pair is nowhere. -/
theorem twins_overwritten
    {generated : Generated}
    (hGenerates :
      firstTwin.Generates (directoryWork twins).config
        generated) :
    ∀ item ∈ (directoryWork twins).final.disk.entries,
      item.2 ≠ .file generated.source.toUTF8 := by
  have hRead :
      ((firstTwin.pair.readSource : StateM Session _).run
          firstTwin.before).1 =
        .ok "uniform float dim;" := by
    decide +kernel
  have hNowhere :
      (generate (directoryWork twins).config.generation "Foo"
          "uniform float dim;").result.toOption.all
        fun made =>
          secondTwin.next.disk.entries.all fun item =>
            item.2 != .file made.source.toUTF8 := by
    decide +kernel
  rcases hGenerates with ⟨source, hSource, hMade⟩
  rw [hRead, Except.ok.injEq] at hSource
  subst hSource
  have hFinal :
      (directoryWork twins).final = secondTwin.next := by
    rw [Workload.final, twins_turns.1]
    rfl
  change
    (generate (directoryWork twins).config.generation "Foo"
      "uniform float dim;").result = .ok generated at hMade
  rw [hMade] at hNowhere
  rw [hFinal]
  simpa [Except.toOption] using hNowhere

/-
  Two pairs whose base names differ in their first letter
  have classes of one name. A run that ends well writes both
  to one file, and the binding of the first one is nowhere.
-/
theorem run_twins_overwrites :
    Workload.ofArguments? ["."] twins =
        some (directoryWork twins) ∧
      ((run ["."] : StateM Session Outcome).run
        twins).1.exitCode = 0 ∧
      (directoryWork twins).turns = [firstTwin, secondTwin] ∧
      firstTwin.pair.baseName ≠ secondTwin.pair.baseName ∧
      ∃ generated output,
        firstTwin.Generates (directoryWork twins).config
            generated ∧
          firstTwin.outcome = .ok output ∧
          secondTwin.outcome = .ok output ∧
          ∀ path,
            ((run ["."] : StateM Session Outcome).run
                twins).2.disk.read path ≠
              .ok generated.source.toUTF8 := by
  have hWorkload :
      Workload.ofArguments? ["."] twins =
        some (directoryWork twins) :=
    rfl
  have hFailed : (directoryWork twins).failed = 0 := by
    rw [Workload.failed, twins_turns.1, twins_turns.2,
      List.countP_cons, List.countP_singleton,
      Turn.failed_eq_false twins_outcome.1,
      Turn.failed_eq_false twins_outcome.2]
    rfl
  have hExit : (directoryWork twins).outcome.exitCode = 0 := by
    rw [Workload.outcome, if_pos hFailed]
    rfl
  have hMember : firstTwin ∈ (directoryWork twins).turns := by
    rw [twins_turns.1]
    exact List.mem_cons_self
  rcases Workload.exists_class_of_outcome hMember
    twins_outcome.1 with ⟨generated, _, hGenerates, _, _⟩
  have hNames :
      firstTwin.pair.baseName ≠ secondTwin.pair.baseName := by
    change "Foo" ≠ "foo"
    decide
  rw [(Workload.run_eq hWorkload).1]
  dsimp only
  refine ⟨hWorkload, ?_, ?_, ?_, ?_⟩
  · exact hExit
  · exact twins_turns.1
  · exact hNames
  refine ⟨generated, ⟨"./FooShader.rs"⟩, ?_, ?_, ?_, ?_⟩
  · exact hGenerates
  · exact twins_outcome.1
  · exact twins_outcome.2
  intro path hRead
  rcases Disk.exists_entry_of_read hRead with
    ⟨location, hEntry⟩
  exact twins_overwritten hGenerates _ hEntry rfl

end ShaderBindings
