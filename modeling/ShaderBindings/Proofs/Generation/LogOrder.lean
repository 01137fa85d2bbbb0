import ShaderBindings.Proofs.Generation.Steps
import ShaderBindings.Proofs.Interface.Warnings

/-
  The log of a generation without strict mode, event by
  event. What is found is announced, then comes what is worth
  a warning, and at last a clash of methods. The log breaks
  off where the generation does: in front of the warnings
  when there is no name for the class, and in front of the
  clash when one of the names is refused that the code is
  written under. Whatever fails later cuts nothing off.

  Key definitions include:
    * `AcceptsBaseName`
    * `BindingOptions.firstRefused?`
    * `LogEntry`
    * `Event.logEntry`
    * `Logged.eventsDownTo`
    * `LogsInOrder`

  Key theorems include:
    * `Generated.acceptsBaseName_ofInterface`
    * `Generated.ofInterface_of_refused`
    * `Generated.events_ofInterface`
    * `generate_named`
    * `generate_logs_in_order`
-/

------------------------------------------------------------
-- Complaints about the Base Name
------------------------------------------------------------

namespace ShaderBindings

/- A result is no complaint about the base name. -/
def AcceptsBaseName
    {α : Type}
    (result : Except GenerationError α) : Prop :=
  ∀ text, result ≠ .error (.invalidName text)

namespace AcceptsBaseName

variable {α β : Type}

theorem ok (value : α) :
    AcceptsBaseName (.ok value) := by
  intro text hError
  cases hError

theorem bind
    {first : Except GenerationError α}
    {next : α → Except GenerationError β}
    (hFirst : AcceptsBaseName first)
    (hNext : ∀ value, AcceptsBaseName (next value)) :
    AcceptsBaseName (first >>= next) := by
  intro text hError
  rcases except_bind_eq_error_iff.mp hError with
    hHere | ⟨value, _, hThere⟩
  · exact hFirst text hHere
  · exact hNext value text hThere

theorem mapM
    {step : α → Except GenerationError β}
    (hStep : ∀ input, AcceptsBaseName (step input))
    (inputs : List α) :
    AcceptsBaseName (inputs.mapM step) := by
  intro text hError
  rcases exists_input_of_mapM_eq_error hError with
    ⟨input, _, hInput⟩
  exact hStep input text hInput

/- Steps that are logged complain when one of them does. -/
theorem logged_bind
    {first : Logged GenerationError α}
    {next : α → Logged GenerationError β}
    (hFirst : AcceptsBaseName first.result)
    (hNext : ∀ value, AcceptsBaseName (next value).result) :
    AcceptsBaseName (first >>= next).result := by
  rw [Logged.result_bind]
  exact hFirst.bind hNext

end AcceptsBaseName

namespace Binding

theorem acceptsBaseName_ident (text : String) :
    AcceptsBaseName (ident text) := by
  intro name hError
  unfold ident at hError
  split at hError
  · cases hError
  · cases hError

theorem acceptsBaseName_runtimePath (text : String) :
    AcceptsBaseName (runtimePath text) := by
  intro name hError
  unfold runtimePath at hError
  split at hError
  · cases hError
  · cases hError

theorem acceptsBaseName_hostType (text : String) :
    AcceptsBaseName (hostType text) := by
  intro name hError
  unfold hostType at hError
  split at hError
  · cases hError
  · cases hError

theorem acceptsBaseName_aggregateMethod
    (entries : List LayoutEntry) :
    AcceptsBaseName (aggregateMethod entries) := by
  unfold aggregateMethod
  split
  · exact AcceptsBaseName.ok _
  · apply AcceptsBaseName.bind
      (AcceptsBaseName.mapM
        (fun _ => acceptsBaseName_ident _) _)
    intro methods
    apply AcceptsBaseName.bind (acceptsBaseName_ident _)
    intro name
    exact AcceptsBaseName.ok _

theorem acceptsBaseName_uniformMethod (declared : Uniform) :
    AcceptsBaseName (uniformMethod declared) := by
  apply AcceptsBaseName.bind (acceptsBaseName_ident _)
  intro name
  apply AcceptsBaseName.bind (acceptsBaseName_ident _)
  intro setter
  apply AcceptsBaseName.bind (acceptsBaseName_hostType _)
  intro host
  exact AcceptsBaseName.ok _

theorem acceptsBaseName_methodsOf (interface : Interface) :
    AcceptsBaseName (methodsOf interface) := by
  apply AcceptsBaseName.bind
  · apply AcceptsBaseName.mapM
    intro entry
    apply AcceptsBaseName.bind (acceptsBaseName_ident _)
    intro name
    exact AcceptsBaseName.ok _
  · intro single
    apply AcceptsBaseName.bind
      (acceptsBaseName_aggregateMethod _)
    intro aggregate
    apply AcceptsBaseName.bind
      (AcceptsBaseName.mapM acceptsBaseName_uniformMethod _)
    intro uniform
    exact AcceptsBaseName.ok _

theorem acceptsBaseName_ofInterface
    (names : BindingOptions)
    (interface : Interface) :
    AcceptsBaseName (ofInterface names interface).result := by
  apply AcceptsBaseName.logged_bind
    (acceptsBaseName_ident _)
  intro module
  apply AcceptsBaseName.logged_bind
    (acceptsBaseName_runtimePath _)
  intro runtime
  apply AcceptsBaseName.logged_bind
    (acceptsBaseName_ident _)
  intro className
  apply AcceptsBaseName.logged_bind
    (AcceptsBaseName.ok _)
  intro _
  apply AcceptsBaseName.logged_bind
    (acceptsBaseName_methodsOf interface)
  intro methods
  dsimp only
  split
  · exact AcceptsBaseName.ok _
  · intro text hError
    cases hError

end Binding

/- An interface has its base name checked already. -/
theorem Generated.acceptsBaseName_ofInterface
    (names : BindingOptions)
    (interface : Interface) :
    AcceptsBaseName (ofInterface names interface).result := by
  apply AcceptsBaseName.logged_bind
  · apply AcceptsBaseName.logged_bind
    · exact
        Binding.acceptsBaseName_ofInterface names interface
    · intro binding
      exact AcceptsBaseName.ok _
  · intro source
    exact AcceptsBaseName.ok _

end ShaderBindings

------------------------------------------------------------
-- Names That Are Refused
------------------------------------------------------------

namespace ShaderBindings

open Code

/-
  The first of the names that code is written under which is
  refused: the module, the path of the runtime, the class.
-/
def BindingOptions.firstRefused?
    (names : BindingOptions)
    (className : String) : Option String :=
  if (Ident.ofString? names.module).isNone then
    some names.module
  else if (RuntimePath.ofString? names.runtime).isNone then
    some names.runtime
  else if (Ident.ofString? className).isNone then
    some className
  else
    none

namespace Binding

/-
  A refused name ends a binding before a word is logged. The
  rest is made once all names are accepted.
-/
theorem ofInterface_cases
    (names : BindingOptions)
    (interface : Interface) :
    (∃ text,
        names.firstRefused? interface.className = some text ∧
          ofInterface names interface =
            .fail (.invalidIdent text)) ∨
      (names.firstRefused? interface.className = none ∧
        ∃ make : Logged GenerationError Binding,
          make.events = [] ∧
            ofInterface names interface =
              Logged.noteAll (clashEvents interface) >>=
                fun _ => make) := by
  unfold BindingOptions.firstRefused? ofInterface ident
    runtimePath
  cases hModule : Ident.ofString? names.module with
  | none => exact Or.inl ⟨names.module, rfl, rfl⟩
  | some module =>
      cases hRuntime :
          RuntimePath.ofString? names.runtime with
      | none => exact Or.inl ⟨names.runtime, rfl, rfl⟩
      | some runtime =>
          cases hClass :
              Ident.ofString? interface.className with
          | none =>
              exact Or.inl ⟨interface.className, rfl, rfl⟩
          | some className =>
              refine Or.inr ⟨rfl, _, ?_, rfl⟩
              apply Logged.events_bind_of_silent
              intro methods
              dsimp only
              split
              · rfl
              · rfl

end Binding

namespace Generated

variable {names : BindingOptions}
variable {interface : Interface}

/- A generation ends at a refused name. -/
theorem ofInterface_of_refused
    {text : String}
    (hRefused :
      names.firstRefused? interface.className = some text) :
    ofInterface names interface =
      .fail (.invalidIdent text) := by
  rcases Binding.ofInterface_cases names interface with
    ⟨first, hFirst, hFail⟩ | ⟨hNone, _⟩
  · rw [hRefused] at hFirst
    cases hFirst
    rw [ofInterface, writeCode, hFail]
    rfl
  · rw [hRefused] at hNone
    cases hNone

/-
  When no name is refused a clash is logged, and nothing
  else, however the generation ends.
-/
theorem events_ofInterface
    (hAccepted :
      names.firstRefused? interface.className = none) :
    (ofInterface names interface).events =
      Binding.clashEvents interface := by
  rcases Binding.ofInterface_cases names interface with
    ⟨text, hRefused, _⟩ | ⟨_, make, hSilent, hMake⟩
  · rw [hAccepted] at hRefused
    cases hRefused
  · unfold ofInterface writeCode
    rw [Logged.events_bind_of_silent,
      Logged.events_bind_of_silent, hMake,
      Logged.events_bind_of_silent, Logged.events_noteAll]
    · intro _
      exact hSilent
    · intro binding
      rfl
    · intro source
      rfl

end Generated

end ShaderBindings

------------------------------------------------------------
-- Entries of the Log
------------------------------------------------------------

namespace ShaderBindings

/-
  An entry of the log: how severe it is, its words, and its
  fields in order.
-/
structure LogEntry where
  level : Level
  message : String
  fields : List (String × FieldValue)
deriving DecidableEq, Repr

/- An event as an entry of the log. -/
def Event.logEntry (event : Event) : LogEntry where
  level := event.level
  message := event.message
  fields := event.fields

namespace LogEntry

/- A uniform that is found. -/
def uniformFound (declared : Uniform) : LogEntry where
  level := .debug
  message := "uniform"
  fields := [
    ("type_token", .text declared.typeToken),
    ("name", .text declared.name),
    ("is_array", .flag declared.isArray)]

/- An attribute that is found. -/
def attributeFound (declared : Attribute) : LogEntry where
  level := .debug
  message := "vertex attribute"
  fields := [
    ("location", .number declared.location.toNat),
    ("type_token", .text declared.typeToken),
    ("name", .text declared.name)]

/- The numbers of uniforms and attributes that are found. -/
def scanned (uniforms attributes : Nat) : LogEntry where
  level := .debug
  message := "scanned shader source"
  fields := [
    ("uniforms", .number uniforms),
    ("attributes", .number attributes)]

/- There are neither uniforms nor attributes. -/
def nothingDeclared (baseName : String) : LogEntry where
  level := .info
  message := "no uniforms or vertex attributes declared"
  fields := [("shader", .text baseName)]

/- A uniform whose name an earlier one has. -/
def uniformRepeated
    (baseName : String)
    (declared : Uniform) : LogEntry where
  level := .warn
  message := "uniform declared more than once"
  fields := [
    ("shader", .text baseName),
    ("uniform", .shown declared.name)]

/- An attribute whose location an earlier one has. -/
def locationReused
    (baseName previous : String)
    (declared : Attribute) : LogEntry where
  level := .warn
  message := "vertex attribute location reused"
  fields := [
    ("shader", .text baseName),
    ("location", .number declared.location.toNat),
    ("previous", .text previous),
    ("attribute", .shown declared.name)]

/- An attribute whose type has no known size. -/
def typeUnmapped
    (baseName : String)
    (declared : Attribute) : LogEntry where
  level := .warn
  message :=
    "vertex attribute type has no known size, " ++
      "later offsets will be wrong"
  fields := [
    ("shader", .text baseName),
    ("attribute", .shown declared.name),
    ("type_token", .shown declared.typeToken)]

/- Two setters that have the same method. -/
def methodsClash
    (className : String)
    (clash : MethodClash) : LogEntry where
  level := .warn
  message :=
    "`" ++ clash.first ++ "` and `" ++ clash.second ++
      "` generate the same method"
  fields := [
    ("class", .shown className),
    ("method", .shown clash.method)]

end LogEntry

end ShaderBindings

------------------------------------------------------------
-- The Order of the Log
------------------------------------------------------------

namespace ShaderBindings

/- What a computation logs, down to one level. -/
def Logged.eventsDownTo
    {ε α : Type}
    (limit : Level)
    (computation : Logged ε α) : List Event :=
  computation.events.filter fun event =>
    limit.admits event.level

/-
  How the log of a generation follows from the declarations
  that are found, down to the level of single findings:
    * a generation that succeeds announces what is found, the
      declarations, their numbers, and whether there are none,
      and then warns about the declarations and a clash,
    * only the empty base name is refused as such, and then
      the log ends before the first warning,
    * a module, a path of the runtime or a class whose name
      is refused ends it before the warning about a clash,
    * any other error comes after the whole log,
    * declarations are announced for debugging, that there
      are none is information, and the rest are warnings,
    * every declaration, both numbers, that there is nothing,
      and every warning has an entry with its own words and
      fields.
-/
structure LogsInOrder
    (names : BindingOptions)
    (baseName : String)
    (found : Declarations)
    (done : Logged GenerationError Generated) : Prop where
  succeeds :
    ∀ generated,
      done.result = .ok generated →
        done.eventsDownTo .debug =
          found.announcement baseName ++
            (found.warnings baseName ++
              found.clashWarnings
                generated.interface.className)
  unnamed_iff :
    (∃ text, done.result = .error (.invalidName text)) ↔
      baseName = ""
  unnamed :
    baseName = "" →
      done.eventsDownTo .debug = found.announcement baseName
  refused :
    ∀ className text,
      className? baseName = .ok className →
        names.firstRefused? className = some text →
          done.result = .error (.invalidIdent text) ∧
            done.eventsDownTo .debug =
              found.announcement baseName ++
                found.warnings baseName
  accepted :
    ∀ className,
      className? baseName = .ok className →
        names.firstRefused? className = none →
          done.eventsDownTo .debug =
            found.announcement baseName ++
              (found.warnings baseName ++
                found.clashWarnings className)
  levels_announced :
    (found.announcement baseName).map Event.level =
      List.replicate
          (found.uniforms.length + found.attributes.length + 1)
          .debug ++
        if found.isEmpty then [.info] else []
  level_warned :
    ∀ className,
      ∀ event ∈
        found.warnings baseName ++
          found.clashWarnings className,
        event.level = .warn
  entries_announced :
    (found.announcement baseName).map Event.logEntry =
      found.uniforms.map LogEntry.uniformFound ++
        found.attributes.map LogEntry.attributeFound ++
        [.scanned found.uniforms.length
          found.attributes.length] ++
        if found.uniforms.isEmpty &&
            found.attributes.isEmpty then
          [.nothingDeclared baseName]
        else
          []
  entry_repeated :
    ∀ declared,
      (Event.uniformRepeated baseName declared).logEntry =
        .uniformRepeated baseName declared
  entry_reused :
    ∀ previous declared,
      (Event.locationReused baseName previous declared).logEntry =
        .locationReused baseName previous declared
  entry_unmapped :
    ∀ declared,
      (Event.typeUnmapped baseName declared).logEntry =
        .typeUnmapped baseName declared
  entry_clash :
    ∀ className clash,
      (Event.methodsClash className clash).logEntry =
        .methodsClash className clash

/- A log is kept when the level admits all its events. -/
theorem Logged.eventsDownTo_eq
    {ε α : Type}
    {limit : Level}
    {computation : Logged ε α}
    (hAdmitted :
      ∀ event ∈ computation.events,
        limit.admits event.level = true) :
    computation.eventsDownTo limit = computation.events :=
  List.filter_eq_self.mpr hAdmitted

namespace Declarations

variable {found : Declarations}
variable {baseName className : String}
variable {event : Event}

/-
  Every declaration that is found and the numbers of them
  are details for debugging; that there are none is more.
-/
theorem levels_announcement
    (found : Declarations)
    (baseName : String) :
    (found.announcement baseName).map Event.level =
      List.replicate
          (found.uniforms.length + found.attributes.length + 1)
          .debug ++
        if found.isEmpty then [.info] else [] := by
  have hUniforms :
      (found.uniforms.map Event.uniformFound).map
          Event.level =
        List.replicate found.uniforms.length .debug := by
    rw [List.map_map]
    exact List.map_const'
  have hAttributes :
      (found.attributes.map Event.attributeFound).map
          Event.level =
        List.replicate found.attributes.length .debug := by
    rw [List.map_map]
    exact List.map_const'
  rw [announcement_eq, events, List.map_append,
    List.map_append, List.map_append, hUniforms, hAttributes,
    List.replicate_add, List.replicate_add]
  by_cases hEmpty : found.isEmpty = true
  · rw [if_pos hEmpty, if_pos hEmpty]
    rfl
  · rw [if_neg hEmpty, if_neg hEmpty]
    rfl

/- What is announced is written with its words and fields. -/
theorem entries_announcement
    (found : Declarations)
    (baseName : String) :
    (found.announcement baseName).map Event.logEntry =
      found.uniforms.map LogEntry.uniformFound ++
        found.attributes.map LogEntry.attributeFound ++
        [.scanned found.uniforms.length
          found.attributes.length] ++
        if found.uniforms.isEmpty &&
            found.attributes.isEmpty then
          [.nothingDeclared baseName]
        else
          [] := by
  rw [announcement, List.map_append, List.map_append,
    List.map_append, List.map_map, List.map_map]
  split
  · rfl
  · rfl

/- All that is announced is detail for debugging at least. -/
theorem admits_announcement
    (hEvent : event ∈ found.announcement baseName) :
    Level.debug.admits event.level = true := by
  have hLevel := List.mem_map_of_mem (f := Event.level) hEvent
  rw [levels_announcement] at hLevel
  rcases List.mem_append.mp hLevel with hFound | hNothing
  · rw [List.eq_of_mem_replicate hFound]
    rfl
  · by_cases hEmpty : found.isEmpty = true
    · rw [if_pos hEmpty] at hNothing
      rw [List.mem_singleton.mp hNothing]
      rfl
    · rw [if_neg hEmpty] at hNothing
      cases hNothing

/- All that is warned about is logged as a warning. -/
theorem level_of_mem_warned
    (hEvent :
      event ∈
        found.warnings baseName ++
          found.clashWarnings className) :
    event.level = .warn := by
  rcases List.mem_append.mp hEvent with hWarned | hClash
  · exact level_warnings hWarned
  · exact level_clashWarnings hClash

end Declarations

/- The clash of an interface is that of its declarations. -/
theorem Binding.clashEvents_eq (interface : Interface) :
    clashEvents interface =
      interface.declarations.clashWarnings
        interface.className := by
  unfold clashEvents Declarations.clashWarnings
  cases hClash :
      MethodClash.find? interface.uniforms
        interface.attributes with
  | none => simp [hClash, Interface.declarations]
  | some clash => simp [hClash, Interface.declarations]

/- Writing the code of an interface logs a clash at most. -/
theorem Generated.mem_clashEvents
    {names : BindingOptions}
    {interface : Interface}
    {event : Event}
    (hEvent : event ∈ (ofInterface names interface).events) :
    event ∈ Binding.clashEvents interface := by
  cases hRefused :
      names.firstRefused? interface.className with
  | none =>
      rwa [events_ofInterface hRefused] at hEvent
  | some text =>
      rw [ofInterface_of_refused hRefused] at hEvent
      cases hEvent

/- The interface of declarations, with all of them. -/
def Declarations.interfaceOf
    (found : Declarations)
    (className baseName : String) : Interface where
  className := className
  baseName := baseName
  uniforms := found.uniforms
  attributes := found.attributes

/- Under the empty base name nothing follows the findings. -/
theorem generate_unnamed
    (names : BindingOptions)
    (source : String) :
    generate { strict := false, names } "" source = {
      events :=
        (Declarations.ofSource source).announcement ""
      result := .error (.invalidName "") } := by
  rw [generate_eq]
  dsimp only
  rw [Interface.build_empty, Logged.fail_bind]
  change Logged.mk (_ ++ []) _ = _
  rw [List.append_nil]
  rfl

/-
  Without strict mode an interface is built from everything
  that is found, with all that is worth a warning in the log.
-/
theorem generate_named
    {baseName className : String}
    (names : BindingOptions)
    (source : String)
    (hName : className? baseName = .ok className) :
    let found := Declarations.ofSource source
    let made :=
      Generated.ofInterface names
        (found.interfaceOf className baseName)
    generate { strict := false, names } baseName source = {
      events :=
        found.announcement baseName ++
          (found.warnings baseName ++ made.events)
      result := made.result } := by
  intro found made
  rw [generate_eq, ← Declarations.warnings_eq]
  dsimp only
  rw [Interface.build_permissive hName]
  rfl

/- Warnings and a clash are shown, and so is what is found. -/
theorem eventsDownTo_generate_named
    {baseName className : String}
    (names : BindingOptions)
    (source : String)
    (hName : className? baseName = .ok className) :
    let found := Declarations.ofSource source
    let made :=
      Generated.ofInterface names
        (found.interfaceOf className baseName)
    (generate { strict := false, names } baseName
        source).eventsDownTo .debug =
      found.announcement baseName ++
        (found.warnings baseName ++ made.events) := by
  intro found made
  rw [generate_named names source hName]
  apply Logged.eventsDownTo_eq
  intro event hEvent
  rcases List.mem_append.mp hEvent with hFound | hBehind
  · exact Declarations.admits_announcement hFound
  · have hWarned :
        event ∈
          found.warnings baseName ++
            found.clashWarnings className := by
      rcases List.mem_append.mp hBehind with hHere | hMade
      · exact List.mem_append_left _ hHere
      · have hClash := Generated.mem_clashEvents hMade
        rw [Binding.clashEvents_eq] at hClash
        exact List.mem_append_right _ hClash
    rw [Declarations.level_of_mem_warned hWarned]
    rfl

/-
  Without strict mode the log of a generation is decided by
  the declarations in the source and by where it breaks off.
-/
theorem generate_logs_in_order
    (names : BindingOptions)
    (baseName source : String) :
    LogsInOrder names baseName (Declarations.ofSource source)
      (generate { strict := false, names } baseName
        source) := by
  have hAnnounced :=
    Declarations.levels_announcement
      (Declarations.ofSource source) baseName
  have hEntries :=
    Declarations.entries_announcement
      (Declarations.ofSource source) baseName
  by_cases hEmpty : baseName = ""
  · subst hEmpty
    have hUnnamed (className : String) :
        className? "" ≠ .ok className := by
      intro hName
      cases hName
    rw [generate_unnamed]
    exact {
      succeeds := by
        intro generated hResult
        cases hResult
      unnamed_iff := by simp
      unnamed := by
        intro _
        exact Logged.eventsDownTo_eq fun event hEvent =>
          Declarations.admits_announcement hEvent
      refused := fun className _ hName =>
        absurd hName (hUnnamed className)
      accepted := fun className hName =>
        absurd hName (hUnnamed className)
      levels_announced := hAnnounced
      level_warned := fun _ _ =>
        Declarations.level_of_mem_warned
      entries_announced := hEntries
      entry_repeated := fun _ => rfl
      entry_reused := fun _ _ => rfl
      entry_unmapped := fun _ => rfl
      entry_clash := fun _ _ => rfl }
  · rcases exists_className hEmpty with ⟨className, hName⟩
    have hLog := eventsDownTo_generate_named names source hName
    have hResult :=
      congrArg Logged.result
        (generate_named names source hName)
    dsimp only at hLog hResult
    generalize Declarations.ofSource source = found
      at hLog hResult hAnnounced hEntries ⊢
    have hClash :
        Binding.clashEvents
            (found.interfaceOf className baseName) =
          found.clashWarnings className :=
      Binding.clashEvents_eq _
    exact {
      succeeds := by
        intro generated hGenerated
        rw [hResult] at hGenerated
        rcases Generated.of_ofInterface hGenerated with
          ⟨_, _, rfl, hEvents⟩
        rw [hLog, hEvents, hClash]
        rfl
      unnamed_iff := by
        refine iff_of_false ?_ hEmpty
        rintro ⟨text, hError⟩
        rw [hResult] at hError
        exact
          Generated.acceptsBaseName_ofInterface _ _ text hError
      unnamed := fun hNone => absurd hNone hEmpty
      refused := by
        intro other text hOther hRefused
        rw [hName] at hOther
        cases hOther
        have hMade :
            Generated.ofInterface names
                (found.interfaceOf className baseName) =
              .fail (.invalidIdent text) :=
          Generated.ofInterface_of_refused hRefused
        rw [hLog, hResult, hMade, Logged.events_fail,
          List.append_nil]
        exact ⟨rfl, rfl⟩
      accepted := by
        intro other hOther hAccepted
        rw [hName] at hOther
        cases hOther
        have hEvents :
            (Generated.ofInterface names
                (found.interfaceOf className
                  baseName)).events =
              Binding.clashEvents
                (found.interfaceOf className baseName) :=
          Generated.events_ofInterface hAccepted
        rw [hLog, hEvents, hClash]
      levels_announced := hAnnounced
      level_warned := fun _ _ =>
        Declarations.level_of_mem_warned
      entries_announced := hEntries
      entry_repeated := fun _ => rfl
      entry_reused := fun _ _ => rfl
      entry_unmapped := fun _ => rfl
      entry_clash := fun _ _ => rfl }

end ShaderBindings
