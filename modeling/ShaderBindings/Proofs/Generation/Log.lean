import ShaderBindings.Proofs.Generation.Steps
import ShaderBindings.Proofs.Interface.Checks

/-
  What a generation may log. The events of the command itself
  are told apart from those of the library by their target,
  and a generation logs events of the library only, however
  it ends.

  Key definitions include:
    * `Event.isOfCommand`
    * `Logged.Logs`

  Key theorems include:
    * `Logged.Logs.bind`
    * `Interface.logs_build`
    * `generate_logs`
-/

------------------------------------------------------------
-- Events of the Command
------------------------------------------------------------

namespace ShaderBindings

/- The command itself logs an event. -/
def Event.isOfCommand (event : Event) : Bool :=
  event.target == "glint_gen"

namespace Logged

variable {ε α β : Type}
variable {property : Event → Prop}

/- All that a computation logs is of some sort. -/
def Logs
    (property : Event → Prop)
    (computation : Logged ε α) : Prop :=
  ∀ event ∈ computation.events, property event

namespace Logs

theorem noteAll
    {events : List Event}
    (hEvents : ∀ event ∈ events, property event) :
    Logs property (Logged.noteAll events : Logged ε Unit) :=
  hEvents

theorem silent
    {computation : Logged ε α}
    (hSilent : computation.events = []) :
    Logs property computation := by
  intro event hEvent
  rw [hSilent] at hEvent
  cases hEvent

theorem ofExcept (result : Except ε α) :
    Logs property (Logged.ofExcept result) :=
  silent rfl

/- Steps log what each of them logs. -/
theorem bind
    {first : Logged ε α}
    {next : α → Logged ε β}
    (hFirst : Logs property first)
    (hNext : ∀ value, Logs property (next value)) :
    Logs property (first >>= next) := by
  intro event hEvent
  change event ∈ (first.andThen next).events at hEvent
  unfold andThen at hEvent
  split at hEvent
  · rename_i value _
    rcases List.mem_append.mp hEvent with hHere | hThere
    · exact hFirst event hHere
    · exact hNext value event hThere
  · exact hFirst event hEvent

end Logs

end Logged

end ShaderBindings

------------------------------------------------------------
-- Events of the Library
------------------------------------------------------------

namespace ShaderBindings

open Logged

/- An event is logged by the library. -/
def Event.IsOfLibrary (event : Event) : Prop :=
  event.isOfCommand = false

theorem Declarations.announcement_of_library
    (found : Declarations)
    (baseName : String) :
    ∀ event ∈ found.announcement baseName,
      event.IsOfLibrary := by
  intro event hEvent
  unfold announcement at hEvent
  simp only [List.mem_append, List.mem_map,
    List.mem_singleton] at hEvent
  rcases hEvent with
    ((⟨_, _, rfl⟩ | ⟨_, _, rfl⟩) | rfl) | hNothing
  · rfl
  · rfl
  · rfl
  · split at hNothing
    · rw [List.mem_singleton.mp hNothing]
      rfl
    · cases hNothing

/- Violations that are warned of by the library. -/
def WarnedByLibrary (violations : List Violation) : Prop :=
  ∀ violation ∈ violations, violation.warning.IsOfLibrary

namespace Violation

theorem logs_reportAll
    {violations : List Violation}
    (strict : Bool)
    (hWarned : WarnedByLibrary violations) :
    Logs Event.IsOfLibrary (reportAll strict violations) := by
  cases strict with
  | true =>
      rw [reportAll_strict]
      split
      · exact Logs.silent rfl
      · exact Logs.silent rfl
  | false =>
      rw [reportAll_permissive]
      apply Logs.noteAll
      intro event hEvent
      rcases List.mem_map.mp hEvent with
        ⟨violation, hViolation, rfl⟩
      exact hWarned violation hViolation

end Violation

namespace Interface

theorem uniformViolations_of_library
    (shader : String)
    (seen : List String)
    (uniforms : List Uniform) :
    WarnedByLibrary
      (uniformViolations shader seen uniforms) := by
  induction uniforms generalizing seen with
  | nil =>
      intro violation hViolation
      cases hViolation
  | cons declared rest ih =>
      intro violation hViolation
      rcases List.mem_append.mp hViolation with hHere | hThere
      · split at hHere
        · rw [List.mem_singleton.mp hHere]
          rfl
        · cases hHere
      · exact ih _ violation hThere

theorem locationViolations_of_library
    (shader : String)
    (seen : List (UInt32 × String))
    (declared : Attribute) :
    WarnedByLibrary
      (locationViolations shader seen declared) := by
  intro violation hViolation
  unfold locationViolations at hViolation
  split at hViolation
  · rw [List.mem_singleton.mp hViolation]
    rfl
  · cases hViolation

theorem typeViolations_of_library
    (shader : String)
    (declared : Attribute) :
    WarnedByLibrary (typeViolations shader declared) := by
  intro violation hViolation
  unfold typeViolations at hViolation
  split at hViolation
  · cases hViolation
  · rw [List.mem_singleton.mp hViolation]
    rfl

theorem attributeViolations_of_library
    (shader : String)
    (seen : List (UInt32 × String))
    (attributes : List Attribute) :
    WarnedByLibrary
      (attributeViolations shader seen attributes) := by
  induction attributes generalizing seen with
  | nil =>
      intro violation hViolation
      cases hViolation
  | cons declared rest ih =>
      intro violation hViolation
      rcases List.mem_append.mp hViolation with hHere | hThere
      · rcases List.mem_append.mp hHere with hPlace | hType
        · exact locationViolations_of_library shader seen
            declared violation hPlace
        · exact typeViolations_of_library shader declared
            violation hType
      · exact ih _ violation hThere

/- Building an interface logs events of the library. -/
theorem logs_build
    (strict : Bool)
    (baseName : String)
    (uniforms : List Uniform)
    (attributes : List Attribute) :
    Logs Event.IsOfLibrary
      (build strict baseName uniforms attributes) := by
  rw [build_eq]
  refine Logs.bind (Logs.ofExcept _) ?_
  intro className
  apply Logs.bind
  · apply Violation.logs_reportAll
    intro violation hViolation
    rcases List.mem_append.mp hViolation with
      hUniform | hAttribute
    · exact uniformViolations_of_library baseName []
        uniforms violation hUniform
    · exact attributeViolations_of_library baseName []
        attributes violation hAttribute
  · intro _
    apply Logs.bind
    · unfold checkMethods
      split
      · split
        · exact Logs.silent rfl
        · exact Logs.silent rfl
      · exact Logs.silent rfl
    · intro _
      exact Logs.silent rfl

end Interface

/- Making the code of an interface logs a clash at most. -/
theorem Generated.logs_ofInterface
    (names : BindingOptions)
    (interface : Interface) :
    Logs Event.IsOfLibrary
      (Generated.ofInterface names interface) := by
  have hClash :
      ∀ event ∈ Binding.clashEvents interface,
        event.IsOfLibrary := by
    intro event hEvent
    unfold Binding.clashEvents at hEvent
    split at hEvent
    · rw [List.mem_singleton.mp hEvent]
      rfl
    · cases hEvent
  apply Logs.bind
  · apply Logs.bind
    · refine Logs.bind (Logs.ofExcept _) ?_
      intro module
      refine Logs.bind (Logs.ofExcept _) ?_
      intro runtime
      refine Logs.bind (Logs.ofExcept _) ?_
      intro className
      apply Logs.bind (Logs.noteAll hClash)
      intro _
      refine Logs.bind (Logs.ofExcept _) ?_
      intro methods
      dsimp only
      split
      · exact Logs.silent rfl
      · exact Logs.silent rfl
    · intro binding
      exact Logs.silent rfl
  · intro source
    exact Logs.silent rfl

/- A generation logs events of the library only. -/
theorem generate_logs
    (options : GenerationOptions)
    (baseName source : String) :
    Logs Event.IsOfLibrary
      (generate options baseName source) := by
  rw [generate_eq]
  apply Logs.bind
  · exact Logs.noteAll
      (Declarations.announcement_of_library _ baseName)
  · intro _
    apply Logs.bind (Interface.logs_build _ baseName _ _)
    intro interface
    exact Generated.logs_ofInterface options.names interface

end ShaderBindings
