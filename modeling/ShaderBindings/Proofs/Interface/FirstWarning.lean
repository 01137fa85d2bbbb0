import ShaderBindings.Binding
import ShaderBindings.Proofs.Interface.Checks

/-
  How the two modes of a check correspond. Every violation
  has an error and a warning that carry the same data, and
  both modes look for the same violations in the same order.
  Strict mode therefore ends with the error that belongs to
  the first thing that would be warned about otherwise, a
  clash of methods being the last of these.

  Key definitions include:
    * `Event.rejection?`
    * `Logged.warnings`
    * `Violation.Matched`

  Key theorems include:
    * `Interface.matched_of_mem_violations`
    * `Interface.build_permissive`
    * `Interface.build_strict`
    * `Interface.build_strict_rejects_first_warning`
-/

------------------------------------------------------------
-- Warnings and Errors
------------------------------------------------------------

namespace ShaderBindings

namespace Event

/-
  The error that strict mode ends with where an event is
  logged otherwise, if strict mode rejects what it reports.
-/
def rejection? : Event → Option GenerationError
| .uniformRepeated _ declared =>
    some (.duplicateUniform declared.name)
| .locationReused _ _ declared =>
    some (.duplicateLocation declared.location declared.name)
| .typeUnmapped _ declared =>
    some
      (.unmappedAttributeType declared.name
        declared.typeToken)
| .methodsClash _ clash => some (.duplicateMethod clash)
| _ => none

end Event

namespace Logged

variable {ε α : Type}

/- The warnings that a computation logs, in order. -/
def warnings (computation : Logged ε α) : List Event :=
  computation.events.filter fun event =>
    decide (event.level = .warn)

end Logged

namespace Violation

/-
  The warning of a violation is one, and it carries the data
  of the error.
-/
structure Matched (violation : Violation) : Prop where
  level : violation.warning.level = .warn
  rejection :
    violation.warning.rejection? = some violation.error

end Violation

end ShaderBindings

------------------------------------------------------------
-- Matched Violations
------------------------------------------------------------

namespace ShaderBindings

namespace Interface

variable {shader : String}
variable {violation : Violation}

theorem matched_of_mem_uniformViolations
    {seen : List String}
    {uniforms : List Uniform}
    (hViolation :
      violation ∈ uniformViolations shader seen uniforms) :
    violation.Matched := by
  induction uniforms generalizing seen with
  | nil => cases hViolation
  | cons declared rest ih =>
      rw [uniformViolations, List.mem_append] at hViolation
      rcases hViolation with hFirst | hRest
      · split at hFirst
        · rw [List.mem_singleton.mp hFirst]
          exact ⟨rfl, rfl⟩
        · cases hFirst
      · exact ih hRest

theorem matched_of_mem_locationViolations
    {seen : List (UInt32 × String)}
    {declared : Attribute}
    (hViolation :
      violation ∈ locationViolations shader seen declared) :
    violation.Matched := by
  unfold locationViolations at hViolation
  split at hViolation
  · rw [List.mem_singleton.mp hViolation]
    exact ⟨rfl, rfl⟩
  · cases hViolation

theorem matched_of_mem_typeViolations
    {declared : Attribute}
    (hViolation :
      violation ∈ typeViolations shader declared) :
    violation.Matched := by
  unfold typeViolations at hViolation
  split at hViolation
  · cases hViolation
  · rw [List.mem_singleton.mp hViolation]
    exact ⟨rfl, rfl⟩

theorem matched_of_mem_attributeViolations
    {seen : List (UInt32 × String)}
    {attributes : List Attribute}
    (hViolation :
      violation ∈
        attributeViolations shader seen attributes) :
    violation.Matched := by
  induction attributes generalizing seen with
  | nil => cases hViolation
  | cons declared rest ih =>
      rw [attributeViolations, List.mem_append,
        List.mem_append] at hViolation
      rcases hViolation with (hLocation | hType) | hRest
      · exact matched_of_mem_locationViolations hLocation
      · exact matched_of_mem_typeViolations hType
      · exact ih hRest

/- Errors and warnings carry the same data throughout. -/
theorem matched_of_mem_violations
    {uniforms : List Uniform}
    {attributes : List Attribute}
    (hViolation :
      violation ∈ violations shader uniforms attributes) :
    violation.Matched := by
  rcases List.mem_append.mp hViolation with
    hUniform | hAttribute
  · exact matched_of_mem_uniformViolations hUniform
  · exact matched_of_mem_attributeViolations hAttribute

end Interface

end ShaderBindings

------------------------------------------------------------
-- Both Modes
------------------------------------------------------------

namespace ShaderBindings

/- Only an empty base name leads to no class. -/
theorem exists_className
    {baseName : String}
    (hName : baseName ≠ "") :
    ∃ className, className? baseName = .ok className := by
  unfold className?
  cases hChars : baseName.toList with
  | nil =>
      rw [String.toList_eq_nil_iff] at hChars
      exact absurd hChars hName
  | cons first rest => exact ⟨_, rfl⟩

namespace Interface

variable {baseName className : String}
variable {uniforms : List Uniform}
variable {attributes : List Attribute}

/- There is no interface under the empty base name. -/
theorem build_empty
    (strict : Bool) :
    build strict "" uniforms attributes =
      .fail (.invalidName "") :=
  rfl

/- Permissive mode logs all violations and goes on. -/
theorem build_permissive
    (hName : className? baseName = .ok className) :
    build false baseName uniforms attributes = {
      events :=
        (violations baseName uniforms attributes).map
          Violation.warning
      result :=
        .ok { className, baseName, uniforms, attributes } } := by
  rw [build_eq, hName, Violation.reportAll_permissive]
  change Logged.mk (_ ++ ([] ++ [])) _ = _
  simp only [List.append_nil]
  rfl

/- Strict mode ends at the first violation, or at a clash. -/
theorem build_strict
    (hName : className? baseName = .ok className) :
    build true baseName uniforms attributes =
      match violations baseName uniforms attributes with
      | violation :: _ => .fail violation.error
      | [] =>
          match MethodClash.find? uniforms attributes with
          | some clash => .fail (.duplicateMethod clash)
          | none =>
              .done {
                className, baseName, uniforms, attributes } := by
  rw [build_eq, hName, Violation.reportAll_strict]
  cases violations baseName uniforms attributes with
  | cons violation rest => rfl
  | nil =>
      cases hClash :
          MethodClash.find? uniforms attributes with
      | some clash => simp [checkMethods, hClash]
      | none => simp [checkMethods, hClash]

/- All that permissive mode logs are warnings. -/
theorem warnings_build_permissive
    (hName : className? baseName = .ok className) :
    (build false baseName uniforms attributes).warnings =
      (violations baseName uniforms attributes).map
        Violation.warning := by
  rw [build_permissive hName]
  apply List.filter_eq_self.mpr
  intro event hEvent
  rcases List.mem_map.mp hEvent with
    ⟨violation, hViolation, rfl⟩
  exact decide_eq_true
    (matched_of_mem_violations hViolation).level

end Interface

end ShaderBindings

------------------------------------------------------------
-- The First Warning
------------------------------------------------------------

namespace ShaderBindings

namespace Interface

/-
  Strict mode rejects exactly what would be warned about, by
  the error that carries the data of the first warning:
    * without a base name both modes end with the same error
      and log nothing,
    * otherwise permissive mode keeps all declarations, and
      strict mode, which logs nothing, accepts the same
      interface when there is nothing to warn about, and
      ends with the error of the first warning when there
      is. The warning about a clash of methods, which is
      given when the code is written, counts as the last.
-/
theorem build_strict_rejects_first_warning
    (baseName : String)
    (uniforms : List Uniform)
    (attributes : List Attribute) :
    (baseName = "" →
      ∀ strict,
        build strict baseName uniforms attributes =
          .fail (.invalidName baseName)) ∧
    (baseName ≠ "" →
      ∃ className,
        className? baseName = .ok className ∧
        let interface : Interface :=
          { className, baseName, uniforms, attributes }
        let permissive :=
          build false baseName uniforms attributes
        let strict := build true baseName uniforms attributes
        let warnings :=
          permissive.warnings ++
            Binding.clashEvents interface
        permissive.result = .ok interface ∧
        strict.events = [] ∧
        (strict.result = .ok interface ↔ warnings = []) ∧
        ∀ first rest,
          warnings = first :: rest →
            ∃ error,
              first.rejection? = some error ∧
                strict.result = .error error) := by
  constructor
  · rintro rfl strict
    exact build_empty strict
  · intro hName
    rcases exists_className hName with ⟨className, hClass⟩
    refine ⟨className, hClass, ?_⟩
    dsimp only
    rw [warnings_build_permissive hClass,
      build_permissive hClass, build_strict hClass]
    refine ⟨rfl, ?_⟩
    cases hViolations :
        violations baseName uniforms attributes with
    | cons violation rest =>
        have hMatched : violation.Matched := by
          apply matched_of_mem_violations
          rw [hViolations]
          exact List.mem_cons_self
        refine ⟨rfl, by simp, ?_⟩
        intro first others hWarnings
        injection hWarnings with hFirst
        rw [← hFirst]
        exact ⟨violation.error, hMatched.rejection, rfl⟩
    | nil =>
        cases hClash :
            MethodClash.find? uniforms attributes with
        | none => simp [Binding.clashEvents, hClash]
        | some clash =>
            simp [Binding.clashEvents, hClash,
              Event.rejection?]

end Interface

end ShaderBindings
