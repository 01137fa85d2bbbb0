import ShaderBindings.Proofs.Batch.Growth

/-
  The turns of a batch. Pairs are processed one after the
  other, each in the session that the pair before it leaves.
  A turn that succeeds writes what is generated for its pair
  to one file and keeps every other entry; a turn that fails
  keeps all of them.

  Key definitions include:
    * `Turn`
    * `Turn.Generates`
    * `turns`

  Key theorems include:
    * `writeOutput_cases`
    * `Turn.take_cases`
    * `processAll_run`
    * `keeps_of_turns`
    * `read_of_turns`
-/

------------------------------------------------------------
-- Turns
------------------------------------------------------------

namespace ShaderBindings

/-
  The turn of one pair: the session before it, how it came
  out, and the session behind it.
-/
structure Turn where
  pair : ShaderPair
  before : Session
  outcome : Except Failure Path
  after : Session

namespace Turn

/- The turn of a pair in a session. -/
def take
    (config : Config)
    (session : Session)
    (pair : ShaderPair) : Turn :=
  let done := (process config pair : StateM Session _).run session
  { pair
    before := session
    outcome := done.1
    after := done.2 }

/- How a turn came out, in the log. -/
def report (turn : Turn) : Event :=
  match turn.outcome with
  | .ok output => .bindingsWritten turn.pair.baseName output
  | .error failure => .pairFailed turn.pair.baseName failure

/- A turn failed. -/
def failed (turn : Turn) : Bool :=
  match turn.outcome with
  | .ok _ => false
  | .error _ => true

theorem failed_eq_false
    {turn : Turn}
    {output : Path}
    (hOutcome : turn.outcome = .ok output) :
    turn.failed = false := by
  rw [failed, hOutcome]

/- The locations that a turn wrote a file to. -/
def written
    (home : Location)
    (turn : Turn) : List Location :=
  match turn.outcome with
  | .ok output => [output.destination home]
  | .error _ => []

/-
  What is generated for a turn: from the files of its pair,
  as they are before the turn.
-/
def Generates
    (config : Config)
    (turn : Turn)
    (generated : Generated) : Prop :=
  ∃ source,
    ((turn.pair.readSource : StateM Session _).run
        turn.before).1 = .ok source ∧
      (generate config.generation turn.pair.baseName
        source).result = .ok generated

end Turn

/- The turns of pairs, one after the other. -/
def turns
    (config : Config)
    (session : Session) :
    List ShaderPair → List Turn
| [] => []
| pair :: rest =>
    let turn := Turn.take config session pair
    turn ::
      turns config (turn.after.record (.logged turn.report))
        rest

end ShaderBindings

------------------------------------------------------------
-- One Turn
------------------------------------------------------------

namespace ShaderBindings

open Session
open Workspace

/- One program is run in the session that another leaves. -/
theorem Session.run_bind
    {α β : Type}
    (program : StateM Session α)
    (next : α → StateM Session β)
    (session : Session) :
    (program >>= next).run session =
      (next (program.run session).1).run
        (program.run session).2 :=
  rfl

theorem Session.run_write
    (path : Path)
    (text : String)
    (session : Session) :
    (write path text : StateM Session _).run session =
      session.withDisk
        (session.disk.write path text.toUTF8) :=
  rfl

/- The directory of an output file is made if it has one. -/
def prepareOutput (path : Path) :
    StateM Session (Except FileFault Unit) :=
  let directory := path.parent?.getD ⟨""⟩
  if directory.isEmpty then
    pure (.ok ())
  else
    createDirectories directory

/- The output file is written behind the preparation. -/
def finishOutput
    (path : Path)
    (text : String) :
    Except FileFault Unit →
      StateM Session (Except Failure Unit)
| .error fault =>
    pure (.error (.creating (path.parent?.getD ⟨""⟩) fault))
| .ok () => do
    match ← write path text with
    | .error fault => return .error (.writing path fault)
    | .ok () => return .ok ()

theorem writeOutput_eq
    (path : Path)
    (text : String) :
    (writeOutput path text : StateM Session _) =
      prepareOutput path >>= finishOutput path text := by
  unfold writeOutput prepareOutput
  dsimp only
  split
  · rfl
  · rfl

theorem grows_prepareOutput (path : Path) :
    Grows (prepareOutput path) := by
  unfold prepareOutput
  dsimp only
  split
  · exact Grows.pure _
  · exact grows_createDirectories _

/-
  An output file is written where its path leads to, and can
  be read there. No other entry changes, and none at all when
  the file cannot be written.
-/
theorem writeOutput_cases
    (path : Path)
    (text : String)
    (session : Session) :
    let done :=
      (writeOutput path text : StateM Session _).run session
    (∃ failure,
        done.1 = .error failure ∧
          Disk.Keeps [] session.disk done.2.disk) ∨
      (done.1 = .ok () ∧
        Disk.Keeps [path.destination session.disk.home]
          session.disk done.2.disk ∧
        done.2.disk.read path = .ok text.toUTF8) := by
  have hPrepared := grows_prepareOutput path session
  rw [writeOutput_eq, Session.run_bind]
  generalize (prepareOutput path).run session = prepared
    at hPrepared ⊢
  rcases prepared with ⟨fault | _, between⟩
  · exact Or.inl ⟨_, rfl, hPrepared⟩
  · dsimp only at hPrepared ⊢
    rw [finishOutput, Session.run_bind, Session.run_write]
    cases hWrite : between.disk.write path text.toUTF8 with
    | error fault => exact Or.inl ⟨_, rfl, hPrepared⟩
    | ok disk =>
        refine Or.inr ⟨rfl, ?_, Disk.read_of_write hWrite⟩
        rw [← hPrepared.home]
        exact hPrepared.trans (Disk.keeps_of_write hWrite)

/- What is done with a source once it is read. -/
def processSource
    (config : Config)
    (pair : ShaderPair) :
    Except Failure String →
      StateM Session (Except Failure Path)
| .error failure => pure (.error failure)
| .ok source => do
    let made :=
      generate config.generation pair.baseName source
    logAll made.events
    match made.result with
    | .error error =>
        return .error (.generating pair.primary error)
    | .ok generated =>
        let output :=
          pair.outputPath generated.fileName config.outDir
        match ← writeOutput output generated.source with
        | .error failure => return .error failure
        | .ok () => return .ok output

theorem process_eq
    (config : Config)
    (pair : ShaderPair) :
    (process config pair : StateM Session _) =
      pair.readSource >>= processSource config pair :=
  rfl

/-
  A turn fails and keeps all entries, or it succeeds. Then
  what is generated for its pair can be read in the output
  file, and no other entry has changed.
-/
theorem Turn.take_cases
    (config : Config)
    (session : Session)
    (pair : ShaderPair) :
    let turn := Turn.take config session pair
    (∃ failure,
        turn.outcome = .error failure ∧
          Disk.Keeps [] session.disk turn.after.disk) ∨
      ∃ generated,
        let output :=
          pair.outputPath generated.fileName config.outDir
        turn.Generates config generated ∧
          turn.outcome = .ok output ∧
          Disk.Keeps [output.destination session.disk.home]
            session.disk turn.after.disk ∧
          turn.after.disk.read output =
            .ok generated.source.toUTF8 := by
  unfold Turn.take Turn.Generates
  dsimp only
  have hRead := grows_readSource pair session
  rw [process_eq, Session.run_bind]
  generalize (pair.readSource : StateM Session _).run session =
    read at hRead ⊢
  rcases read with ⟨failure | source, between⟩
  · exact Or.inl ⟨failure, rfl, hRead⟩
  · dsimp only at hRead ⊢
    have hLogged :=
      hRead.trans
        (grows_logAll
          (generate config.generation pair.baseName
            source).events between)
    rw [processSource, Session.run_bind]
    generalize
      ((logAll (generate config.generation pair.baseName
          source).events : StateM Session _).run between).2 =
        logged at hLogged ⊢
    cases hMade :
        (generate config.generation pair.baseName
          source).result with
    | error error => exact Or.inl ⟨_, rfl, hLogged⟩
    | ok generated =>
        dsimp only
        rw [Session.run_bind]
        have hWritten :=
          writeOutput_cases
            (pair.outputPath generated.fileName config.outDir)
            generated.source logged
        generalize
          (writeOutput
            (pair.outputPath generated.fileName config.outDir)
            generated.source : StateM Session _).run logged =
              written at hWritten ⊢
        rcases written with ⟨failure | _, after⟩
        · rcases hWritten with ⟨_, _, hKept⟩ | ⟨hNever, _⟩
          · exact Or.inl ⟨failure, rfl, hLogged.trans hKept⟩
          · cases hNever
        · rcases hWritten with ⟨_, hNever, _⟩ | ⟨_, hKept, hText⟩
          · cases hNever
          · refine Or.inr
              ⟨generated, ⟨source, rfl, hMade⟩, rfl, ?_,
                hText⟩
            rw [← hLogged.home]
            exact hLogged.trans hKept

end ShaderBindings

------------------------------------------------------------
-- Runs of Turns
------------------------------------------------------------

namespace ShaderBindings

open Session
open Workspace

namespace Turn

variable {config : Config}
variable {turn : Turn}

/- The session of the turn behind this one. -/
def next (turn : Turn) : Session :=
  turn.after.record (.logged turn.report)

/- Only one binding is generated for a turn. -/
theorem Generates.unique
    {generated other : Generated}
    (hGenerates : turn.Generates config generated)
    (hOther : turn.Generates config other) :
    generated = other := by
  rcases hGenerates with ⟨source, hSource, hMade⟩
  rcases hOther with ⟨source', hSource', hMade'⟩
  rw [hSource] at hSource'
  cases hSource'
  rw [hMade] at hMade'
  cases hMade'
  rfl

/- A turn keeps what it does not write. -/
theorem keeps_take
    (config : Config)
    (session : Session)
    (pair : ShaderPair) :
    let turn := Turn.take config session pair
    Disk.Keeps (turn.written session.disk.home) session.disk
      turn.next.disk := by
  intro turn
  change Disk.Keeps _ _ turn.after.disk
  rcases Turn.take_cases config session pair with
    ⟨failure, hOutcome, hKeeps⟩ |
    ⟨generated, _, hOutcome, hKeeps, _⟩
  · rw [written, hOutcome]
    exact hKeeps
  · rw [written, hOutcome]
    exact hKeeps

end Turn

/- The session behind turns that start from a session. -/
def endSession (session : Session) : List Turn → Session
| [] => session
| turn :: rest => endSession turn.next rest

/- The first of several pairs takes its turn. -/
theorem processAll_cons_run
    (config : Config)
    (pair : ShaderPair)
    (rest : List ShaderPair)
    (session : Session) :
    let turn := Turn.take config session pair
    let others :=
      (processAll config rest : StateM Session _).run turn.next
    (processAll config (pair :: rest) : StateM Session _).run
        session =
      (others.1 + if turn.failed then 1 else 0, others.2) := by
  unfold Turn.next Turn.report Turn.failed Turn.take
  dsimp only
  rw [processAll, Session.run_bind]
  generalize (process config pair : StateM Session _).run
    session = done
  rcases done with ⟨failure | output, after⟩
  · rfl
  · rfl

/- Processing pairs takes their turns, and counts failures. -/
theorem processAll_run
    (config : Config)
    (pairs : List ShaderPair)
    (session : Session) :
    (processAll config pairs : StateM Session _).run session =
      ((turns config session pairs).countP Turn.failed,
        endSession session (turns config session pairs)) := by
  induction pairs generalizing session with
  | nil => rfl
  | cons pair rest ih =>
      rw [processAll_cons_run, ih, turns, List.countP_cons]
      rfl

/- Turns keep what none of them writes. -/
theorem keeps_of_turns
    (config : Config)
    (pairs : List ShaderPair)
    (session : Session) :
    let taken := turns config session pairs
    Disk.Keeps
      (taken.flatMap (Turn.written session.disk.home))
      session.disk (endSession session taken).disk := by
  induction pairs generalizing session with
  | nil => exact Disk.Keeps.refl session.disk
  | cons pair rest ih =>
      have hFirst := Turn.keeps_take config session pair
      have hRest := ih (Turn.take config session pair).next
      rw [hFirst.home] at hRest
      exact hFirst.trans hRest

/-
  A turn is taken in a session that the turns before it
  leave, and the turns behind it go on from there.
-/
theorem exists_take_of_turns
    {config : Config}
    {pairs : List ShaderPair}
    {session : Session}
    {earlier later : List Turn}
    {turn : Turn}
    (hTurns :
      turns config session pairs = earlier ++ turn :: later) :
    ∃ before pair rest,
      turn = Turn.take config before pair ∧
        before.disk.home = session.disk.home ∧
        later = turns config turn.next rest ∧
        endSession session (turns config session pairs) =
          endSession turn.next later := by
  induction pairs generalizing session earlier with
  | nil => simp [turns] at hTurns
  | cons pair rest ih =>
      rw [turns] at hTurns ⊢
      cases earlier with
      | nil =>
          rcases List.cons_eq_cons.mp hTurns with
            ⟨rfl, rfl⟩
          exact ⟨session, pair, rest, rfl, rfl, rfl, rfl⟩
      | cons first earlier =>
          rcases List.cons_eq_cons.mp hTurns with
            ⟨rfl, hRest⟩
          rcases ih hRest with
            ⟨before, other, others, hTurn, hHome, hLater,
              hEnd⟩
          refine ⟨before, other, others, hTurn, ?_, hLater,
            hEnd⟩
          rw [hHome]
          exact (Turn.keeps_take config session pair).home

/-
  A turn that succeeds writes what is generated for its pair
  to its output file, and the turns behind it keep what they
  do not write.
-/
theorem written_of_turns
    {config : Config}
    {pairs : List ShaderPair}
    {session : Session}
    {earlier later : List Turn}
    {turn : Turn}
    {output : Path}
    (hTurns :
      turns config session pairs = earlier ++ turn :: later)
    (hOutcome : turn.outcome = .ok output) :
    let home := session.disk.home
    turn.next.disk.home = home ∧
      Disk.Keeps (later.flatMap (Turn.written home))
        turn.next.disk
        (endSession session
          (turns config session pairs)).disk ∧
      ∃ generated,
        turn.Generates config generated ∧
          output =
            turn.pair.outputPath generated.fileName
              config.outDir ∧
          turn.next.disk.read output =
            .ok generated.source.toUTF8 := by
  rcases exists_take_of_turns hTurns with
    ⟨before, pair, rest, rfl, hHome, hLater, hEnd⟩
  have hNext :
      (Turn.take config before pair).next.disk.home =
        session.disk.home := by
    rw [← hHome]
    exact (Turn.keeps_take config before pair).home
  have hKeeps :=
    keeps_of_turns config rest
      (Turn.take config before pair).next
  dsimp only at hKeeps
  rw [← hLater, ← hEnd, hNext] at hKeeps
  refine ⟨hNext, hKeeps, ?_⟩
  rcases Turn.take_cases config before pair with
    ⟨failure, hFailed, _⟩ |
    ⟨generated, hGenerates, hWritten, _, hRead⟩
  · rw [hOutcome] at hFailed
    cases hFailed
  · rw [hOutcome] at hWritten
    cases hWritten
    exact ⟨generated, hGenerates, rfl, hRead⟩

/-
  What a turn writes can still be read behind the batch when
  no later turn writes to the same location.
-/
theorem read_of_turns
    {config : Config}
    {pairs : List ShaderPair}
    {session : Session}
    {earlier later : List Turn}
    {turn : Turn}
    {generated : Generated}
    {output : Path}
    (hTurns :
      turns config session pairs = earlier ++ turn :: later)
    (hGenerates : turn.Generates config generated)
    (hOutcome : turn.outcome = .ok output)
    (hLast :
      ∀ other ∈ later,
        output.destination session.disk.home ∉
          other.written session.disk.home) :
    (endSession session
        (turns config session pairs)).disk.read output =
      .ok generated.source.toUTF8 := by
  rcases written_of_turns hTurns hOutcome with
    ⟨hHome, hKeeps, made, hMade, _, hRead⟩
  cases hGenerates.unique hMade
  apply hKeeps.read hRead
  rw [hHome, List.mem_flatMap]
  rintro ⟨other, hOther, hSame⟩
  exact hLast other hOther hSame

/- An output path leads to its file behind the batch as well. -/
theorem locate_of_turns
    {config : Config}
    {pairs : List ShaderPair}
    {session : Session}
    {earlier later : List Turn}
    {turn : Turn}
    {output : Path}
    (hTurns :
      turns config session pairs = earlier ++ turn :: later)
    (hOutcome : turn.outcome = .ok output) :
    (endSession session
        (turns config session pairs)).disk.locate output =
      .ok (output.destination session.disk.home) := by
  rcases written_of_turns hTurns hOutcome with
    ⟨hHome, hKeeps, _, _, _, hRead⟩
  rcases Disk.read_eq_ok_iff.mp hRead with
    ⟨location, hLocate, _⟩
  have hPlace := Disk.eq_destination_of_locate hLocate
  rw [hHome] at hPlace
  rw [← hPlace]
  exact hKeeps.locate hLocate

/- Every pair takes one turn, in order. -/
theorem map_pair_turns
    (config : Config)
    (session : Session)
    (pairs : List ShaderPair) :
    (turns config session pairs).map Turn.pair = pairs := by
  induction pairs generalizing session with
  | nil => rfl
  | cons pair rest ih =>
      rw [turns]
      exact congrArg (pair :: ·) (ih _)

end ShaderBindings
