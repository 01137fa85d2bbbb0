import ShaderBindings.Proofs.Batch.OnDisk
import ShaderBindings.Proofs.Batch.Outputs
import ShaderBindings.Proofs.Options.Groups

/-
  Answers to the prompt. The first line that is read is
  cleaned like an argument, and what happens behind the
  prompt depends on the disk only. So a path may be typed at
  the prompt or given among the arguments, and only the
  prompt itself tells the two runs apart.

  Key definitions include:
    * `Session.Trails`
    * `AsksNothing`
    * `firstLine`
    * `SameButPrompt`
    * `PromptsForPath`

  Key theorems include:
    * `asksNothing_runBatch`
    * `cleanPath_nextLine`
    * `Command.parse_insert`
    * `run_prompts_for_path`
-/

------------------------------------------------------------
-- Programs That Ask for Nothing
------------------------------------------------------------

namespace ShaderBindings

open Workspace

/-
  A session with the disk of another one, in which more was
  shown at the start. Their inputs do not matter.
-/
structure Session.Trails
    (shown : List Shown)
    (session other : Session) : Prop where
  disk : session.disk = other.disk
  transcript :
    session.transcript = shown ++ other.transcript

/-
  A program that asks for nothing. It does the same in all
  sessions with the same disk, whatever was shown before.
-/
def AsksNothing
    {α : Type}
    (program : StateM Session α) : Prop :=
  ∀ (shown : List Shown) (session other : Session),
    session.Trails shown other →
      (program.run session).1 = (program.run other).1 ∧
        (program.run session).2.Trails shown
          (program.run other).2

/- What is logged comes after everything shown before. -/
theorem Session.Trails.noted
    {shown : List Shown}
    {session other : Session}
    (hTrails : session.Trails shown other)
    (events : List Event) :
    (session.noted events).Trails shown
      (other.noted events) where
  disk := hTrails.disk
  transcript := by
    rw [Session.noted, hTrails.transcript, List.append_assoc]
    rfl

namespace AsksNothing

variable {α β : Type}

theorem pure (value : α) :
    AsksNothing (Pure.pure value : StateM Session α) := by
  intro shown session other hTrails
  exact ⟨rfl, hTrails⟩

theorem bind
    {program : StateM Session α}
    {next : α → StateM Session β}
    (hFirst : AsksNothing program)
    (hNext : ∀ value, AsksNothing (next value)) :
    AsksNothing (program >>= next) := by
  intro shown session other hTrails
  rcases hFirst shown session other hTrails with
    ⟨hValue, hBetween⟩
  rw [Session.run_bind, Session.run_bind, ← hValue]
  exact hNext _ shown _ _ hBetween

end AsksNothing

theorem asksNothing_log (event : Event) :
    AsksNothing (log event : StateM Session Unit) := by
  intro shown session other hTrails
  rw [Session.run_log, Session.run_log]
  exact ⟨rfl, hTrails.noted [event]⟩

theorem asksNothing_collectPairs (paths : List Path) :
    AsksNothing (collectPairs paths : StateM Session _) := by
  intro shown session other hTrails
  rw [Session.run_collectPairs, Session.run_collectPairs,
    hTrails.disk]
  exact ⟨rfl, hTrails.noted _⟩

theorem asksNothing_process
    (config : Config)
    (pair : ShaderPair) :
    AsksNothing
      (process config pair : StateM Session _) := by
  intro shown session other hTrails
  rw [Session.run_process, Session.run_process, hTrails.disk]
  exact ⟨rfl,
    { disk := rfl
      transcript := (hTrails.noted _).transcript }⟩

theorem asksNothing_processAll
    (config : Config)
    (pairs : List ShaderPair) :
    AsksNothing
      (processAll config pairs : StateM Session _) := by
  induction pairs with
  | nil => exact AsksNothing.pure 0
  | cons pair rest ih =>
      apply AsksNothing.bind (asksNothing_process config pair)
      rintro (failure | output)
      · apply AsksNothing.bind (asksNothing_log _)
        intro _
        apply AsksNothing.bind ih
        intro failed
        exact AsksNothing.pure _
      · apply AsksNothing.bind (asksNothing_log _)
        intro _
        exact ih

/- Once its paths are known, a batch asks for nothing. -/
theorem asksNothing_runBatch
    (config : Config)
    (paths : List Path) :
    AsksNothing
      (runBatch config paths : StateM Session _) := by
  apply AsksNothing.bind (asksNothing_collectPairs paths)
  intro collected
  apply AsksNothing.bind (asksNothing_processAll _ _)
  intro unprocessed
  dsimp only
  split
  · exact AsksNothing.pure _
  · exact AsksNothing.pure _

end ShaderBindings

------------------------------------------------------------
-- Paths of a Configuration
------------------------------------------------------------

namespace ShaderBindings

/- Pairs are processed alike whatever paths led to them. -/
theorem processAll_with_paths
    (config : Config)
    (paths : List Path)
    (pairs : List ShaderPair) :
    (processAll { config with paths } pairs :
        StateM Session _) =
      processAll config pairs := by
  induction pairs with
  | nil => rfl
  | cons pair rest ih =>
      rw [processAll, processAll, ih]
      rfl

/- A batch works on the paths that it is given. -/
theorem runBatch_with_paths
    (config : Config)
    (given paths : List Path) :
    (runBatch { config with paths := given } paths :
        StateM Session _) =
      runBatch config paths := by
  unfold runBatch
  simp only [processAll_with_paths]

namespace Command

open ArgumentGroup

/-
  A path among arguments that have none. What stands before
  it has to make sense by itself, or else the path might be
  taken for the value of an option.
-/
theorem parse_insert
    {before after : List String}
    {between config : Config}
    {typed : String}
    (hTyped : IsPathArgument typed)
    (hBefore : parse before = .ok (.run between))
    (hParse : parse (before ++ after) = .ok (.run config))
    (hPaths : config.paths = []) :
    parse (before ++ typed :: after) =
      .ok (.run
        { config with paths := [cleanPath typed] }) := by
  rcases exists_explain_of_parseFrom hBefore with
    ⟨groups, hGroups⟩
  have hSkip (rest : List String) :
      parse (before ++ rest) = parseFrom between rest := by
    rw [parse, hGroups.spelled,
      parseFrom_groups hGroups.readable, hGroups.applied]
  rw [hSkip] at hParse
  rcases exists_explain_of_parseFrom hParse with
    ⟨others, hOthers⟩
  have hRest (start : Config) :
      parseFrom start after =
        .ok (.run (others.foldl apply start)) := by
    rw [hOthers.spelled,
      ← List.append_nil (others.flatMap _),
      parseFrom_groups hOthers.readable]
    rfl
  have hNoPaths :
      between.paths = [] ∧
        (others.filterMap path?).map cleanPath = [] := by
    rw [← List.append_eq_nil_iff, ← paths_groups,
      hOthers.applied]
    exact hPaths
  rw [hSkip, parseFrom_path hTyped, hRest, apply,
    groups_with_paths, hOthers.applied, hNoPaths.1,
    hNoPaths.2]
  rfl

end Command

end ShaderBindings

------------------------------------------------------------
-- Answers
------------------------------------------------------------

namespace ShaderBindings

open Workspace

/- The first line of an input, without its end. -/
def firstLine (input : String) : String :=
  String.ofList (input.toList.takeWhile fun c => c != '\n')

/- White space at the end of a text is trimmed. -/
theorem trimBlank_append_blank
    (cs : List Char)
    {c : Char}
    (hBlank : Text.isBlank c = true) :
    Text.trimBlank (cs ++ [c]) = Text.trimBlank cs := by
  unfold Text.trimBlank
  rw [List.dropWhile_append]
  split
  · rename_i hEmpty
    rw [List.isEmpty_iff.mp hEmpty, List.dropWhile_cons,
      if_pos hBlank]
    rfl
  · rw [List.reverse_append, List.reverse_singleton,
      List.singleton_append, List.dropWhile_cons,
      if_pos hBlank]

/- What follows a line starts with its end. -/
theorem take_one_behind_line (cs : List Char) :
    (cs.dropWhile fun c => c != '\n').take 1 = [] ∨
      (cs.dropWhile fun c => c != '\n').take 1 = ['\n'] := by
  induction cs with
  | nil => exact Or.inl rfl
  | cons c rest ih =>
      by_cases hEnd : c = '\n'
      · rw [hEnd]
        exact Or.inr rfl
      · rw [List.dropWhile_cons, if_pos (by simpa using hEnd)]
        exact ih

/- The end of a line does not count for a path. -/
theorem cleanPath_nextLine
    (disk : Disk)
    (input : String) :
    cleanPath (Session.start disk input).nextLine.1 =
      cleanPath (firstLine input) := by
  unfold cleanPath Session.nextLine firstLine Session.start
  dsimp only
  rw [String.toList_ofList, String.toList_ofList]
  rcases take_one_behind_line input.toList with
    hEnd | hEnd
  · rw [hEnd, List.append_nil]
  · rw [hEnd, trimBlank_append_blank _ (by decide)]

theorem Session.run_print
    (text : String)
    (session : Session) :
    (print text : StateM Session Unit).run session =
      ((), session.record (.printed text)) :=
  rfl

theorem Session.run_readLine (session : Session) :
    (readLine : StateM Session String).run session =
      session.nextLine :=
  rfl

/- The text that asks for a path. -/
def promptText : String :=
  "shader path : "

/-
  The prompt is shown, and the first line is the answer.
  Nothing happens to the disk.
-/
theorem run_promptPath
    (disk : Disk)
    (input : String) :
    ∃ after,
      (promptPath : StateM Session _).run
          (Session.start disk input) =
        (if (cleanPath (firstLine input)).isEmpty then
          none
        else
          some (cleanPath (firstLine input)), after) ∧
      ∀ other,
        after.Trails [.printed promptText]
          (Session.start disk other) := by
  have hLine := cleanPath_nextLine disk input
  have hSame :
      ((Session.start disk input).record
          (.printed promptText)).nextLine.1 =
        (Session.start disk input).nextLine.1 :=
    rfl
  refine ⟨((Session.start disk input).record
    (.printed promptText)).nextLine.2, ?_, ?_⟩
  · rw [promptPath, Session.run_bind, Session.run_print,
      Session.run_bind, Session.run_readLine, ← hLine,
      ← hSame]
    rfl
  · intro other
    exact { disk := rfl, transcript := rfl }

end ShaderBindings

------------------------------------------------------------
-- Prompted Runs
------------------------------------------------------------

namespace ShaderBindings

open Session

/- A run of the command where nothing has happened yet. -/
def runFresh
    (arguments : List String)
    (disk : Disk)
    (input : String) : Outcome × Session :=
  (run arguments : StateM Session Outcome).run
    (Session.start disk input)

/-
  Runs of which the first shows the prompt before anything
  else. They end alike, leave the same disk and log the same
  events, and whatever level the log is shown down to, the
  prompt is all that their outputs differ in.
-/
structure SameButPrompt
    (prompted given : Outcome × Session) : Prop where
  exitCode : prompted.1.exitCode = given.1.exitCode
  complaint : prompted.1.complaint = given.1.complaint
  disk : prompted.2.disk = given.2.disk
  events : prompted.2.events = given.2.events
  output :
    ∀ limit,
      prompted.2.output limit =
        promptText ++ given.2.output limit

/- A prompt at the start of what is shown is no event. -/
theorem SameButPrompt.of_trails
    {prompted given : Outcome × Session}
    (hOutcome : prompted.1 = given.1)
    (hTrails :
      prompted.2.Trails [.printed promptText] given.2) :
    SameButPrompt prompted given where
  exitCode := by rw [hOutcome]
  complaint := by rw [hOutcome]
  disk := hTrails.disk
  events := by
    rw [Session.events, hTrails.transcript]
    rfl
  output := by
    intro limit
    rw [Session.output, hTrails.transcript,
      List.singleton_append, List.map_cons, String.join_cons]
    rfl

/-
  What a run does without a path among its arguments. The
  first line of the input is the path that it works on, as
  if it stood among the arguments. Without a path in that
  line, nothing is done.
-/
structure PromptsForPath
    (before after : List String)
    (disk : Disk)
    (input : String) : Prop where
  answered :
    (cleanPath (firstLine input)).isEmpty = false →
      ArgumentGroup.IsPathArgument (firstLine input) →
        ∀ other,
          SameButPrompt
            (runFresh (before ++ after) disk input)
            (runFresh (before ++ firstLine input :: after)
              disk other)
  declined :
    (cleanPath (firstLine input)).isEmpty = true →
      (runFresh (before ++ after) disk input).1.exitCode = 0 ∧
        (runFresh (before ++ after) disk input).2.disk = disk

/- A run without a path asks for one. -/
theorem runFresh_without_paths
    {arguments : List String}
    {config : Config}
    (hParse : Command.parse arguments = .ok (.run config))
    (hPaths : config.paths = [])
    (disk : Disk)
    (input : String) :
    runFresh arguments disk input =
      (promptPath >>= fun answer =>
        match answer with
        | some path => runBatch config [path]
        | none => pure (.ok ()) :
          StateM Session Outcome).run
        (Session.start disk input) := by
  rw [runFresh, run, hParse]
  dsimp only
  rw [hPaths]
  rfl

/- A run with paths works on them. -/
theorem runFresh_with_paths
    {arguments : List String}
    {config : Config}
    (hParse : Command.parse arguments = .ok (.run config))
    (hPaths : config.paths ≠ [])
    (disk : Disk)
    (input : String) :
    runFresh arguments disk input =
      (runBatch config config.paths :
        StateM Session Outcome).run
        (Session.start disk input) := by
  rw [runFresh, run, hParse]
  dsimp only
  rw [if_neg (by simpa using hPaths)]

/-
  A path that is typed at the prompt leads to the same run
  as one that is put among the arguments, behind arguments
  that make sense by themselves.
-/
theorem run_prompts_for_path
    (before after : List String)
    (between config : Config)
    (disk : Disk)
    (input : String)
    (hBefore : Command.parse before = .ok (.run between))
    (hParse :
      Command.parse (before ++ after) = .ok (.run config))
    (hPaths : config.paths = []) :
    PromptsForPath before after disk input := by
  rcases run_promptPath disk input with
    ⟨behind, hAsked, hTrails⟩
  have hPrompted :=
    runFresh_without_paths hParse hPaths disk input
  rw [Session.run_bind, hAsked] at hPrompted
  constructor
  case answered =>
    intro hAnswer hTyped other
    have hGiven :=
      runFresh_with_paths
        (Command.parse_insert hTyped hBefore hParse hPaths)
        (List.cons_ne_nil _ _) disk other
    rw [runBatch_with_paths] at hGiven
    rw [hAnswer] at hPrompted
    have hSame :=
      asksNothing_runBatch config
        [cleanPath (firstLine input)] [.printed promptText]
        behind (Session.start disk other) (hTrails other)
    rw [hPrompted, hGiven]
    exact SameButPrompt.of_trails hSame.1 hSame.2
  case declined =>
    intro hAnswer
    rw [hAnswer] at hPrompted
    rw [hPrompted]
    exact ⟨rfl, (hTrails input).disk⟩

/- A module named like an option, in strict mode or not. -/
def oddlyNamed (strict : Bool) : Config :=
  { Config.standard with
    strict
    names := { BindingOptions.standard with
      module := "--strict" } }

/- A quoted path may be typed or given, with other lines. -/
theorem run_prompts_for_moss :
    Command.parse ["--module", "--strict"] =
        .ok (.run (oddlyNamed false)) ∧
      Command.parse ["--module", "--strict", "--strict"] =
        .ok (.run (oddlyNamed true)) ∧
      (oddlyNamed true).paths = [] ∧
      SameButPrompt
        (runFresh ["--module", "--strict", "--strict"]
          mossAndMist.disk " \"moss.vert\" \nmist.vert\n")
        (runFresh
          ["--module", "--strict", " \"moss.vert\" ",
            "--strict"]
          mossAndMist.disk "") := by
  have hBefore :
      Command.parse ["--module", "--strict"] =
        .ok (.run (oddlyNamed false)) :=
    rfl
  have hParse :
      Command.parse ["--module", "--strict", "--strict"] =
        .ok (.run (oddlyNamed true)) :=
    rfl
  have hPrompts :
      PromptsForPath ["--module", "--strict"] ["--strict"]
        mossAndMist.disk " \"moss.vert\" \nmist.vert\n" :=
    run_prompts_for_path _ _ _ _ _ _ hBefore hParse rfl
  exact ⟨hBefore, hParse, rfl,
    hPrompts.answered
      (by decide) ⟨by decide, by decide⟩ ""⟩

end ShaderBindings
