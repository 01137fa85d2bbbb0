import ShaderBindings.Proofs.Batch.Turns

/-
  The parts of the command as functions of the disk. Reading
  and looking for pairs leave the disk as it is, and what
  they find depends on nothing else in a session. Processing
  a pair leaves a disk that depends on the disk before it
  only. What is logged is added to the transcript.

  Key definitions include:
    * `Session.noted`
    * `Disk.source`
    * `Disk.pairsAt`
    * `Disk.collected`
    * `Disk.prepare`
    * `Disk.process`

  Key theorems include:
    * `Disk.source_eq_ok_iff`
    * `Session.run_readSource`
    * `Session.run_collectPairs`
    * `Session.run_process`
-/

------------------------------------------------------------
-- Reading
------------------------------------------------------------

namespace ShaderBindings

namespace Disk

/- The text of the file at a path. -/
def readText
    (disk : Disk)
    (path : Path) : Except FileFault String :=
  match disk.read path with
  | .error fault => .error fault
  | .ok content =>
      match String.fromUTF8? content with
      | some text => .ok text
      | none => .error .notText

/- The source of a pair, or why it cannot be read. -/
def source
    (disk : Disk)
    (pair : ShaderPair) : Except Failure String :=
  match disk.readText pair.primary with
  | .error fault => .error (.reading pair.primary fault)
  | .ok primary =>
      if disk.isFile pair.partner then
        match disk.readText pair.partner with
        | .error fault => .error (.reading pair.partner fault)
        | .ok partner => .ok (primary ++ partner)
      else
        .error
          (.pair (.missingPartner pair.primary pair.partner))

variable {disk : Disk}

/- A text is read from a file with the bytes of the text. -/
theorem readText_eq_ok_iff
    {path : Path}
    {text : String} :
    disk.readText path = .ok text ↔
      ∃ content,
        disk.read path = .ok content ∧
          String.fromUTF8? content = some text := by
  unfold readText
  cases disk.read path with
  | error fault => simp
  | ok content =>
      cases hText : String.fromUTF8? content with
      | none => simp [hText]
      | some found => simp [hText]

/- What can be read is a regular file. -/
theorem isFile_of_read
    {path : Path}
    {content : ByteArray}
    (hRead : disk.read path = .ok content) :
    disk.isFile path = true := by
  have hFind : disk.find path = .ok (.file content) :=
    find_eq_ok_iff.mpr (read_eq_ok_iff.mp hRead)
  rw [isFile, hFind]

/- A source is the text of one file followed by another's. -/
theorem source_eq_ok_iff
    {pair : ShaderPair}
    {source : String} :
    disk.source pair = .ok source ↔
      ∃ primary partner,
        disk.readText pair.primary = .ok primary ∧
          disk.readText pair.partner = .ok partner ∧
          source = primary ++ partner := by
  unfold Disk.source
  constructor
  · intro hSource
    split at hSource
    · cases hSource
    · rename_i primary hPrimary
      split at hSource
      · split at hSource
        · cases hSource
        · rename_i partner hPartner
          cases hSource
          exact ⟨primary, partner, hPrimary, hPartner, rfl⟩
      · cases hSource
  · rintro ⟨primary, partner, hPrimary, hPartner, rfl⟩
    rcases readText_eq_ok_iff.mp hPartner with
      ⟨content, hRead, _⟩
    rw [hPrimary]
    dsimp only
    rw [if_pos (isFile_of_read hRead), hPartner]

end Disk

namespace Session

open Workspace

/- The session with more events in its log. -/
def noted
    (session : Session)
    (events : List Event) : Session :=
  { session with
    transcript := session.transcript ++ events.map .logged }

@[simp] theorem disk_noted
    (session : Session)
    (events : List Event) :
    (session.noted events).disk = session.disk :=
  rfl

theorem noted_nil (session : Session) :
    session.noted [] = session := by
  rw [noted, List.map_nil, List.append_nil]

theorem noted_append
    (session : Session)
    (first second : List Event) :
    session.noted (first ++ second) =
      (session.noted first).noted second := by
  simp [noted, List.append_assoc]

theorem events_noted
    (session : Session)
    (events : List Event) :
    (session.noted events).events =
      session.events ++ events := by
  rw [Session.events, noted, List.filterMap_append,
    List.filterMap_map]
  exact congrArg (session.events ++ ·) List.filterMap_some

theorem run_log
    (event : Event)
    (session : Session) :
    (log event : StateM Session Unit).run session =
      ((), session.noted [event]) :=
  rfl

theorem run_logAll
    (events : List Event)
    (session : Session) :
    (logAll events : StateM Session Unit).run session =
      ((), session.noted events) := by
  induction events generalizing session with
  | nil =>
      rw [noted_nil]
      rfl
  | cons event rest ih =>
      rw [logAll, run_bind, run_log, ih, ← noted_append]
      rfl

theorem run_readText
    (path : Path)
    (session : Session) :
    (readText path : StateM Session _).run session =
      (session.disk.readText path, session) := by
  have hRead :
      (read path : StateM Session _).run session =
        (session.disk.read path, session) :=
    rfl
  rw [readText, run_bind, hRead, Disk.readText]
  cases session.disk.read path with
  | error fault => rfl
  | ok content =>
      dsimp only
      cases String.fromUTF8? content with
      | none => rfl
      | some text => rfl

/- What reading a pair gives depends on the disk only. -/
theorem run_readSource
    (pair : ShaderPair)
    (session : Session) :
    (pair.readSource : StateM Session _).run session =
      (session.disk.source pair, session) := by
  have hFile :
      (isFile pair.partner : StateM Session _).run session =
        (session.disk.isFile pair.partner, session) :=
    rfl
  rw [ShaderPair.readSource, run_bind, run_readText,
    Disk.source]
  cases session.disk.readText pair.primary with
  | error fault => rfl
  | ok primary =>
      dsimp only
      rw [run_bind, hFile]
      dsimp only
      split
      · rw [run_bind, run_readText]
        cases session.disk.readText pair.partner with
        | error fault => rfl
        | ok partner => rfl
      · rfl

end Session

end ShaderBindings

------------------------------------------------------------
-- Looking for Pairs
------------------------------------------------------------

namespace ShaderBindings

namespace Disk

/- The pairs of a directory. -/
def discover
    (disk : Disk)
    (directory : Path) : Except Failure (List ShaderPair) :=
  match disk.list directory with
  | .error fault =>
      .error (.readingDirectory directory fault)
  | .ok names =>
      match
        ShaderPair.amongFiles
          ((names.map fun name => directory.join ⟨name⟩).filter
            disk.isFile)
      with
      | .error error => .error (.pair error)
      | .ok pairs => .ok pairs

/- What is logged about a directory. -/
def discoveryEvents
    (disk : Disk)
    (directory : Path) : List Event :=
  match disk.discover directory with
  | .error _ => []
  | .ok pairs => [.directoryRead directory pairs.length]

/- The pairs that one path leads to, if it is usable. -/
def pairsAt
    (disk : Disk)
    (path : Path) : Except Failure (List ShaderPair) :=
  if disk.isDirectory path then
    disk.discover path
  else
    match ShaderPair.ofFile path with
    | .ok pair => .ok [pair]
    | .error error => .error (.pair error)

/- The pairs that one path adds to a batch. -/
def pairsOf
    (disk : Disk)
    (path : Path) : List ShaderPair :=
  match disk.pairsAt path with
  | .ok pairs => pairs
  | .error _ => []

/- Why a path is not usable, as an event. -/
def pathFailure?
    (disk : Disk)
    (path : Path) : Option Event :=
  match disk.pairsAt path with
  | .ok _ => none
  | .error failure => some (.pathFailed path failure)

/- What is logged about one path. -/
def pathEvents
    (disk : Disk)
    (path : Path) : List Event :=
  (if disk.isDirectory path then
    disk.discoveryEvents path
  else
    []) ++ (disk.pathFailure? path).toList

/- The pairs of all paths, and how many are not usable. -/
def collected
    (disk : Disk)
    (paths : List Path) : Collected where
  pairs := paths.flatMap disk.pairsOf
  failed := paths.countP fun path =>
    (disk.pathFailure? path).isSome

end Disk

namespace Session

open Workspace

theorem run_regularFiles
    (paths : List Path)
    (session : Session) :
    (regularFiles paths : StateM Session _).run session =
      (paths.filter session.disk.isFile, session) := by
  induction paths with
  | nil => rfl
  | cons path rest ih =>
      have hFile :
          (isFile path : StateM Session _).run session =
            (session.disk.isFile path, session) :=
        rfl
      rw [regularFiles, run_bind, hFile, run_bind, ih,
        List.filter_cons]
      rfl

theorem run_discover
    (directory : Path)
    (session : Session) :
    (ShaderBindings.discover directory :
        StateM Session _).run session =
      (session.disk.discover directory,
        session.noted
          (session.disk.discoveryEvents directory)) := by
  have hList :
      (list directory : StateM Session _).run session =
        (session.disk.list directory, session) :=
    rfl
  rw [ShaderBindings.discover, run_bind, hList,
    Disk.discoveryEvents, Disk.discover]
  cases session.disk.list directory with
  | error fault =>
      dsimp only
      rw [noted_nil]
      rfl
  | ok names =>
      dsimp only
      rw [run_bind, run_regularFiles]
      dsimp only
      cases ShaderPair.amongFiles
          ((names.map fun name => directory.join ⟨name⟩).filter
            session.disk.isFile) with
      | error error =>
          dsimp only
          rw [noted_nil]
          rfl
      | ok pairs => rfl

theorem run_pairsAt
    (path : Path)
    (session : Session) :
    (ShaderBindings.pairsAt path :
        StateM Session _).run session =
      (session.disk.pairsAt path,
        session.noted
          (if session.disk.isDirectory path then
            session.disk.discoveryEvents path
          else
            [])) := by
  have hDirectory :
      (isDirectory path : StateM Session _).run session =
        (session.disk.isDirectory path, session) :=
    rfl
  rw [ShaderBindings.pairsAt, run_bind, hDirectory,
    Disk.pairsAt]
  dsimp only
  split
  · exact run_discover path session
  · rw [noted_nil]
    cases ShaderPair.ofFile path with
    | error error => rfl
    | ok pair => rfl

/-
  Every path adds its pairs to a batch or counts as a
  failure, whatever the other paths lead to.
-/
theorem run_collectPairs
    (paths : List Path)
    (session : Session) :
    (collectPairs paths : StateM Session _).run session =
      (session.disk.collected paths,
        session.noted
          (paths.flatMap session.disk.pathEvents)) := by
  induction paths generalizing session with
  | nil =>
      rw [List.flatMap_nil, noted_nil]
      rfl
  | cons path rest ih =>
      rw [collectPairs, run_bind, run_pairsAt,
        List.flatMap_cons, noted_append, Disk.collected,
        List.flatMap_cons, List.countP_cons, Disk.pairsOf,
        Disk.pathEvents, Disk.pathFailure?]
      cases session.disk.pairsAt path with
      | error failure =>
          dsimp only
          rw [run_bind, run_log, run_bind, ih,
            noted_append session]
          rfl
      | ok pairs =>
          dsimp only
          rw [run_bind, ih, Option.toList_none,
            List.append_nil]
          rfl

end Session

end ShaderBindings

------------------------------------------------------------
-- Processing a Pair
------------------------------------------------------------

namespace ShaderBindings

namespace Disk

/- A directory that is there already is no fault. -/
def settle
    (disk : Disk)
    (path : Path)
    (fault : FileFault) : Except FileFault Unit :=
  if disk.isDirectory path then .ok () else .error fault

/-
  Make the first of several directories, each of which lies
  in the next one. What is made on the way to a fault stays.
-/
def createInside
    (disk : Disk) :
    List Path → Except FileFault Unit × Disk
| [] => (.ok (), disk)
| path :: above =>
    if path.isEmpty then
      (.ok (), disk)
    else
      match disk.makeDirectory path with
      | .ok made => (.ok (), made)
      | .error .notFound =>
          match disk.createInside above with
          | (.error fault, between) => (.error fault, between)
          | (.ok (), between) =>
              match between.makeDirectory path with
              | .ok made => (.ok (), made)
              | .error fault =>
                  (between.settle path fault, between)
      | .error fault => (disk.settle path fault, disk)

/- Make a directory, with those above it, if it has a name. -/
def prepare
    (disk : Disk)
    (directory : Path) : Except FileFault Unit × Disk :=
  if directory.isEmpty then
    (.ok (), disk)
  else
    disk.createInside directory.ancestors

/- Write a file, with the directories above it. -/
def writeOutput
    (disk : Disk)
    (path : Path)
    (text : String) : Except Failure Unit × Disk :=
  let directory := path.parent?.getD ⟨""⟩
  match disk.prepare directory with
  | (.error fault, between) =>
      (.error (.creating directory fault), between)
  | (.ok (), between) =>
      match between.write path text.toUTF8 with
      | .error fault => (.error (.writing path fault), between)
      | .ok after => (.ok (), after)

/- Process a pair: how it comes out, and the disk behind it. -/
def process
    (disk : Disk)
    (config : Config)
    (pair : ShaderPair) : Except Failure Path × Disk :=
  match disk.source pair with
  | .error failure => (.error failure, disk)
  | .ok source =>
      match
        (generate config.generation pair.baseName
          source).result
      with
      | .error error =>
          (.error (.generating pair.primary error), disk)
      | .ok generated =>
          let output :=
            pair.outputPath generated.fileName config.outDir
          match disk.writeOutput output generated.source with
          | (.error failure, after) => (.error failure, after)
          | (.ok (), after) => (.ok output, after)

/- What is logged while a pair is processed. -/
def processEvents
    (disk : Disk)
    (config : Config)
    (pair : ShaderPair) : List Event :=
  match disk.source pair with
  | .error _ => []
  | .ok source =>
      (generate config.generation pair.baseName source).events

end Disk

namespace Session

open Workspace

theorem run_makeDirectory
    (path : Path)
    (session : Session) :
    (makeDirectory path : StateM Session _).run session =
      session.withDisk (session.disk.makeDirectory path) :=
  rfl

/- A fault is settled by a look at the disk. -/
theorem run_settle
    (path : Path)
    (fault : FileFault)
    (session : Session) :
    (do
      if ← isDirectory path then
        return .ok ()
      else
        return .error fault :
      StateM Session (Except FileFault Unit)).run session =
      (session.disk.settle path fault, session) := by
  have hDirectory :
      (isDirectory path : StateM Session _).run session =
        (session.disk.isDirectory path, session) :=
    rfl
  rw [run_bind, hDirectory, Disk.settle]
  dsimp only
  split
  · rfl
  · rfl

theorem run_createInside
    (paths : List Path)
    (session : Session) :
    (createInside paths : StateM Session _).run session =
      ((session.disk.createInside paths).1,
        { session with
          disk := (session.disk.createInside paths).2 }) := by
  induction paths generalizing session with
  | nil => rfl
  | cons path above ih =>
      rw [createInside, Disk.createInside]
      split
      · rfl
      · rw [run_bind, run_makeDirectory]
        cases hMade : session.disk.makeDirectory path with
        | ok made => rfl
        | error fault =>
            dsimp only [withDisk]
            cases fault with
            | notFound =>
                dsimp only
                rw [run_bind, ih]
                generalize session.disk.createInside above =
                  created
                rcases created with ⟨fault | _, between⟩
                · rfl
                · dsimp only
                  rw [run_bind, run_makeDirectory]
                  dsimp only
                  cases between.makeDirectory path with
                  | ok made => rfl
                  | error fault =>
                      exact run_settle path fault _
            | _ => exact run_settle path _ session

theorem run_prepareOutput
    (path : Path)
    (session : Session) :
    let directory := path.parent?.getD ⟨""⟩
    (prepareOutput path).run session =
      ((session.disk.prepare directory).1,
        { session with
          disk := (session.disk.prepare directory).2 }) := by
  intro directory
  unfold prepareOutput Disk.prepare
  dsimp only
  split
  · rfl
  · exact run_createInside _ session

theorem run_writeOutput
    (path : Path)
    (text : String)
    (session : Session) :
    (writeOutput path text : StateM Session _).run session =
      ((session.disk.writeOutput path text).1,
        { session with
          disk := (session.disk.writeOutput path text).2 }) := by
  rw [writeOutput_eq, run_bind, run_prepareOutput,
    Disk.writeOutput]
  dsimp only
  generalize
    session.disk.prepare (path.parent?.getD ⟨""⟩) = prepared
  rcases prepared with ⟨fault | _, between⟩
  · rfl
  · dsimp only
    rw [finishOutput, run_bind, run_write]
    dsimp only
    cases between.write path text.toUTF8 with
    | error fault => rfl
    | ok after => rfl

/-
  How a pair is processed depends on the disk only, and so
  does the disk behind it.
-/
theorem run_process
    (config : Config)
    (pair : ShaderPair)
    (session : Session) :
    (process config pair : StateM Session _).run session =
      ((session.disk.process config pair).1,
        { session.noted
            (session.disk.processEvents config pair) with
          disk := (session.disk.process config pair).2 }) := by
  rw [process_eq, run_bind, run_readSource, Disk.process,
    Disk.processEvents]
  cases session.disk.source pair with
  | error failure =>
      dsimp only
      rw [noted_nil]
      rfl
  | ok source =>
      dsimp only
      rw [processSource]
      generalize
        generate config.generation pair.baseName source = made
      rw [run_bind, run_logAll]
      rcases made with ⟨events, error | generated⟩
      · rfl
      · dsimp only
        rw [run_bind, run_writeOutput, disk_noted]
        generalize
          session.disk.writeOutput
            (pair.outputPath generated.fileName config.outDir)
            generated.source = written
        rcases written with ⟨failure | _, after⟩
        · rfl
        · rfl

end Session

end ShaderBindings
