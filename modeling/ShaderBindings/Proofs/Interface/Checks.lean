import ShaderBindings.Interface
import ShaderBindings.Proofs.Logged
import ShaderBindings.Proofs.MethodName.Clash

/-
  What the checks of an interface find. The checks of the
  uniforms and of the attributes go through a list of
  violations: strict mode ends at the first one, and
  otherwise each of them is logged. A strict check that ends
  well has found nothing, and then both modes agree.

  Key definitions include:
    * `Violation`
    * `Violation.reportAll`
    * `Interface.violations`
    * `Declarations.Unambiguous`

  Key theorems include:
    * `Interface.violations_eq_nil_iff`
    * `Interface.build_eq`
    * `Interface.eq_of_build`
    * `Interface.build_of_unambiguous`
    * `Interface.unambiguous_of_build`
-/

------------------------------------------------------------
-- Violations
------------------------------------------------------------

namespace ShaderBindings

/-
  What strict mode rejects: the error that it ends with, and
  the warning that is logged otherwise.
-/
structure Violation where
  error : GenerationError
  warning : Event
deriving DecidableEq, Repr

namespace Violation

/- Report violations, one after the other. -/
def reportAll (strict : Bool) :
    List Violation → Logged GenerationError Unit
| [] => .done ()
| violation :: rest => do
    Interface.report strict violation.error violation.warning
    reportAll strict rest

/- Reports of two lists are reported one after the other. -/
theorem reportAll_append
    (strict : Bool)
    (first second : List Violation) :
    reportAll strict (first ++ second) =
      reportAll strict first >>= fun _ =>
        reportAll strict second := by
  induction first with
  | nil => rfl
  | cons violation rest ih =>
      rw [List.cons_append, reportAll, reportAll, ih,
        bind_assoc]

/- Strict mode ends at the first violation. -/
theorem reportAll_strict
    (violations : List Violation) :
    reportAll true violations =
      match violations.head? with
      | none => .done ()
      | some violation => .fail violation.error := by
  cases violations with
  | nil => rfl
  | cons violation rest => rfl

/- Without strict mode every violation is logged. -/
theorem reportAll_permissive
    (violations : List Violation) :
    reportAll false violations =
      .noteAll (violations.map Violation.warning) := by
  induction violations with
  | nil => rfl
  | cons violation rest ih =>
      rw [reportAll, ih]
      rfl

end Violation

end ShaderBindings

------------------------------------------------------------
-- Violations of the Declarations
------------------------------------------------------------

namespace ShaderBindings

namespace Interface

/- The uniforms whose name was seen before. -/
def uniformViolations
    (shader : String)
    (seen : List String) :
    List Uniform → List Violation
| [] => []
| declared :: rest =>
    (if seen.contains declared.name then
      [⟨.duplicateUniform declared.name,
        .uniformRepeated shader declared⟩]
    else
      []) ++
      uniformViolations shader (declared.name :: seen) rest

/- An attribute whose location was seen before. -/
def locationViolations
    (shader : String)
    (seen : List (UInt32 × String))
    (declared : Attribute) : List Violation :=
  match seen.lookup declared.location with
  | some previous =>
      [⟨.duplicateLocation declared.location declared.name,
        .locationReused shader previous declared⟩]
  | none => []

/- An attribute whose type has no known size. -/
def typeViolations
    (shader : String)
    (declared : Attribute) : List Violation :=
  if declared.type.isMapped then
    []
  else
    [⟨.unmappedAttributeType declared.name declared.typeToken,
      .typeUnmapped shader declared⟩]

/- The attributes with a reused location or no known size. -/
def attributeViolations
    (shader : String)
    (seen : List (UInt32 × String)) :
    List Attribute → List Violation
| [] => []
| declared :: rest =>
    locationViolations shader seen declared ++
      typeViolations shader declared ++
      attributeViolations shader
        ((declared.location, declared.name) :: seen) rest

/- Everything that the uniforms and the attributes violate. -/
def violations
    (shader : String)
    (uniforms : List Uniform)
    (attributes : List Attribute) : List Violation :=
  uniformViolations shader [] uniforms ++
    attributeViolations shader [] attributes

/- The check of the uniforms reports their violations. -/
theorem checkUniforms_eq
    (strict : Bool)
    (shader : String)
    (seen : List String)
    (uniforms : List Uniform) :
    checkUniforms strict shader seen uniforms =
      Violation.reportAll strict
        (uniformViolations shader seen uniforms) := by
  induction uniforms generalizing seen with
  | nil => rfl
  | cons declared rest ih =>
      rw [checkUniforms, uniformViolations,
        Violation.reportAll_append, ih]
      by_cases hSeen : seen.contains declared.name = true
      · rw [if_pos hSeen, if_pos hSeen, Violation.reportAll,
          bind_assoc]
        rfl
      · rw [if_neg hSeen, if_neg hSeen]
        rfl

/- The check of the attributes reports their violations. -/
theorem checkAttributes_eq
    (strict : Bool)
    (shader : String)
    (seen : List (UInt32 × String))
    (attributes : List Attribute) :
    checkAttributes strict shader seen attributes =
      Violation.reportAll strict
        (attributeViolations shader seen attributes) := by
  induction attributes generalizing seen with
  | nil => rfl
  | cons declared rest ih =>
      rw [checkAttributes, attributeViolations,
        List.append_assoc, Violation.reportAll_append,
        Violation.reportAll_append, ih]
      unfold locationViolations typeViolations
      cases hSeen : seen.lookup declared.location with
      | none =>
          cases hMapped : declared.type.isMapped with
          | true => rfl
          | false => simp [Violation.reportAll]
      | some previous =>
          cases hMapped : declared.type.isMapped with
          | true => simp [Violation.reportAll]
          | false => simp [Violation.reportAll]

end Interface

end ShaderBindings

------------------------------------------------------------
-- Nothing Violated
------------------------------------------------------------

namespace ShaderBindings

/-
  Declarations from which a binding can be made without
  compromise: uniforms are told apart by their names and
  attributes by their locations, every attribute has a known
  size, and every setter has a name of its own.
-/
structure Declarations.Unambiguous
    (found : Declarations) : Prop where
  uniformNames : (found.uniforms.map Uniform.name).Nodup
  locations : (found.attributes.map Attribute.location).Nodup
  mapped :
    ∀ declared ∈ found.attributes, declared.type.isMapped
  methods :
    (MethodName.methods found.uniforms
      found.attributes).Nodup

namespace Interface

/- No uniform violates anything when every name is new. -/
theorem uniformViolations_eq_nil_iff
    (shader : String)
    (seen : List String)
    (uniforms : List Uniform) :
    uniformViolations shader seen uniforms = [] ↔
      Unseen seen (uniforms.map Uniform.name) := by
  induction uniforms generalizing seen with
  | nil => simp [uniformViolations]
  | cons declared rest ih =>
      rw [uniformViolations, List.append_eq_nil_iff, ih,
        List.map_cons, unseen_cons_iff]
      simp

theorem locationViolations_eq_nil_iff
    (shader : String)
    (seen : List (UInt32 × String))
    (declared : Attribute) :
    locationViolations shader seen declared = [] ↔
      declared.location ∉ seen.map Prod.fst := by
  rw [← lookup_eq_none_iff_notMem, locationViolations]
  cases seen.lookup declared.location with
  | none => simp
  | some previous => simp

theorem typeViolations_eq_nil_iff
    (shader : String)
    (declared : Attribute) :
    typeViolations shader declared = [] ↔
      declared.type.isMapped := by
  rw [typeViolations]
  cases declared.type.isMapped with
  | true => simp
  | false => simp

/-
  No attribute violates anything when every location is new
  and every type has a known size.
-/
theorem attributeViolations_eq_nil_iff
    (shader : String)
    (seen : List (UInt32 × String))
    (attributes : List Attribute) :
    attributeViolations shader seen attributes = [] ↔
      Unseen (seen.map Prod.fst)
          (attributes.map Attribute.location) ∧
        ∀ declared ∈ attributes, declared.type.isMapped := by
  induction attributes generalizing seen with
  | nil => simp [attributeViolations]
  | cons declared rest ih =>
      rw [attributeViolations, List.append_eq_nil_iff,
        List.append_eq_nil_iff, ih,
        locationViolations_eq_nil_iff,
        typeViolations_eq_nil_iff, List.map_cons, List.map_cons,
        unseen_cons_iff, List.forall_mem_cons]
      tauto

/-
  Nothing is violated and nothing clashes exactly when the
  declarations are unambiguous.
-/
theorem violations_eq_nil_iff
    (shader : String)
    (found : Declarations) :
    violations shader found.uniforms found.attributes = [] ∧
        MethodClash.find? found.uniforms found.attributes =
          none ↔
      found.Unambiguous := by
  rw [violations, List.append_eq_nil_iff,
    uniformViolations_eq_nil_iff,
    attributeViolations_eq_nil_iff,
    MethodClash.find?_eq_none_iff, List.map_nil,
    unseen_nil_left_iff, unseen_nil_left_iff]
  constructor
  · rintro ⟨⟨hNames, hLocations, hMapped⟩, hMethods⟩
    exact ⟨hNames, hLocations, hMapped, hMethods⟩
  · rintro ⟨hNames, hLocations, hMapped, hMethods⟩
    exact ⟨⟨hNames, hLocations, hMapped⟩, hMethods⟩

end Interface

end ShaderBindings

------------------------------------------------------------
-- Built Interfaces
------------------------------------------------------------

namespace ShaderBindings

namespace Interface

/-
  Building an interface names its class, reports what the
  declarations violate, and then looks for a clash.
-/
theorem build_eq
    (strict : Bool)
    (baseName : String)
    (uniforms : List Uniform)
    (attributes : List Attribute) :
    build strict baseName uniforms attributes = do
      let className ← Logged.ofExcept (className? baseName)
      Violation.reportAll strict
        (violations baseName uniforms attributes)
      checkMethods strict uniforms attributes
      return { className, baseName, uniforms, attributes } := by
  unfold build violations
  simp only [checkUniforms_eq, checkAttributes_eq,
    Violation.reportAll_append, bind_assoc]

/- An interface that is built holds what it is built from. -/
theorem eq_of_build
    {strict : Bool}
    {baseName : String}
    {uniforms : List Uniform}
    {attributes : List Attribute}
    {interface : Interface}
    (hBuild :
      (build strict baseName uniforms attributes).result =
        .ok interface) :
    ∃ className,
      className? baseName = .ok className ∧
        interface =
          { className, baseName, uniforms, attributes } := by
  unfold build at hBuild
  rcases Logged.result_bind_eq_ok_iff.mp hBuild with
    ⟨className, hName, hNamed⟩
  rcases Logged.result_bind_eq_ok_iff.mp hNamed with
    ⟨_, _, hUniforms⟩
  rcases Logged.result_bind_eq_ok_iff.mp hUniforms with
    ⟨_, _, hAttributes⟩
  rcases Logged.result_bind_eq_ok_iff.mp hAttributes with
    ⟨_, _, hMade⟩
  cases hMade
  exact ⟨className, hName, rfl⟩

/-
  Unambiguous declarations become an interface without a
  word in the log, in either mode.
-/
theorem build_of_unambiguous
    {found : Declarations}
    {baseName className : String}
    (strict : Bool)
    (hName : className? baseName = .ok className)
    (hFound : found.Unambiguous) :
    build strict baseName found.uniforms found.attributes =
      .done {
        className, baseName
        uniforms := found.uniforms
        attributes := found.attributes } := by
  have hNothing :=
    (violations_eq_nil_iff baseName found).mpr hFound
  rw [build_eq, hName, hNothing.1]
  cases strict with
  | false => rfl
  | true =>
      simp only [checkMethods, hNothing.2]
      rfl

/- What strict mode accepts is unambiguous. -/
theorem unambiguous_of_build
    {found : Declarations}
    {baseName : String}
    {interface : Interface}
    (hBuild :
      (build true baseName found.uniforms
        found.attributes).result = .ok interface) :
    found.Unambiguous ∧
      ∃ className, className? baseName = .ok className := by
  rw [build_eq, Violation.reportAll_strict] at hBuild
  rcases Logged.result_bind_eq_ok_iff.mp hBuild with
    ⟨className, hName, hReported⟩
  rcases Logged.result_bind_eq_ok_iff.mp hReported with
    ⟨_, hReport, hChecked⟩
  rcases Logged.result_bind_eq_ok_iff.mp hChecked with
    ⟨_, hCheck, _⟩
  refine ⟨?_, className, hName⟩
  apply (violations_eq_nil_iff baseName found).mp
  constructor
  · cases hFirst :
        violations baseName found.uniforms
          found.attributes with
    | nil => rfl
    | cons violation rest =>
        rw [hFirst] at hReport
        cases hReport
  · rw [checkMethods, if_pos rfl] at hCheck
    cases hClash :
        MethodClash.find? found.uniforms
          found.attributes with
    | none => rfl
    | some clash =>
        rw [hClash] at hCheck
        cases hCheck

end Interface

end ShaderBindings
