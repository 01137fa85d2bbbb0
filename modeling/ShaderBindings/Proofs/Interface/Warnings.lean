import Mathlib.Data.List.Infix
import ShaderBindings.Proofs.Interface.FirstWarning
import ShaderBindings.Proofs.Lookup

/-
  What is warned about, told by the places of declarations.
  Whether a declaration is worth a warning depends on it and
  on those in front of it, however the checks keep track of
  what they have seen: a reused location is reported with the
  latest of the earlier names, since a name that is noted
  later is found first.

  Key definitions include:
    * `withEarlier`
    * `Uniform.repeatWarnings`
    * `Attribute.reuseWarnings`
    * `Attribute.sizeWarnings`
    * `Declarations.warnings`
    * `Declarations.clashWarnings`

  Key theorems include:
    * `lookup_latest`
    * `Declarations.warnings_eq`
    * `Declarations.level_warnings`
-/

------------------------------------------------------------
-- Earlier Items
------------------------------------------------------------

namespace ShaderBindings

variable {α β κ : Type}

/- Every item of a list beside those in front of it. -/
def withEarlier (items : List α) : List (List α × α) :=
  items.inits.zip items

/- The first item is in front of all the others. -/
theorem withEarlier_cons
    (first : α)
    (rest : List α) :
    withEarlier (first :: rest) =
      ([], first) ::
        (withEarlier rest).map fun place =>
          (first :: place.1, place.2) := by
  unfold withEarlier
  rw [List.inits_cons, List.zip_cons_cons, List.zip_map_left]
  rfl

/-
  Going through items one by one, with those behind a start
  in front of them.
-/
theorem flatMap_withEarlier_cons
    (told : List α → α → List β)
    (start : List α)
    (first : α)
    (rest : List α) :
    ((withEarlier (first :: rest)).flatMap fun place =>
        told (start ++ place.1) place.2) =
      told start first ++
        (withEarlier rest).flatMap fun place =>
          told (start ++ [first] ++ place.1) place.2 := by
  rw [withEarlier_cons, List.flatMap_cons, List.append_nil,
    List.flatMap_map]
  simp only [List.append_assoc, List.singleton_append]

/-
  When items are noted one before the other, a key leads to
  the latest item that has it.
-/
theorem lookup_latest
    [DecidableEq κ]
    (key : α → κ)
    (value : α → β)
    (items : List α)
    (wanted : κ) :
    (items.reverse.map fun item =>
        (key item, value item)).lookup wanted =
      (items.filter fun item =>
        key item = wanted).getLast?.map value := by
  induction items using List.reverseRecOn with
  | nil => rfl
  | append_singleton front last ih =>
      rw [List.reverse_append, List.reverse_singleton,
        List.singleton_append, List.map_cons,
        lookup_cons_eq_ite, ih, List.filter_append]
      by_cases hKey : key last = wanted
      · simp [hKey]
      · simp [hKey, Ne.symm hKey]

end ShaderBindings

------------------------------------------------------------
-- Warnings about Declarations
------------------------------------------------------------

namespace ShaderBindings

/- A uniform is reported when an earlier one has its name. -/
def Uniform.repeatWarnings
    (shader : String)
    (earlier : List Uniform)
    (declared : Uniform) : List Event :=
  if declared.name ∈ earlier.map Uniform.name then
    [.uniformRepeated shader declared]
  else
    []

namespace Attribute

/-
  An attribute is reported when an earlier one has its
  location, together with the latest one that has.
-/
def reuseWarnings
    (shader : String)
    (earlier : List Attribute)
    (declared : Attribute) : List Event :=
  match
    (earlier.filter fun other =>
      other.location = declared.location).getLast?
  with
  | some latest =>
      [.locationReused shader latest.name declared]
  | none => []

/- An attribute is reported when its type has no known size. -/
def sizeWarnings
    (shader : String)
    (declared : Attribute) : List Event :=
  if declared.type.isMapped then
    []
  else
    [.typeUnmapped shader declared]

end Attribute

namespace Declarations

/-
  All warnings about declarations: the uniforms in order,
  and then the attributes in order, each for its location
  and then for its type.
-/
def warnings
    (found : Declarations)
    (shader : String) : List Event :=
  ((withEarlier found.uniforms).flatMap fun place =>
      Uniform.repeatWarnings shader place.1 place.2) ++
    (withEarlier found.attributes).flatMap fun place =>
      Attribute.reuseWarnings shader place.1 place.2 ++
        Attribute.sizeWarnings shader place.2

/- The warning about methods that share a name, if any do. -/
def clashWarnings
    (found : Declarations)
    (className : String) : List Event :=
  (MethodClash.find? found.uniforms
      found.attributes).toList.map
    (Event.methodsClash className)

end Declarations

end ShaderBindings

------------------------------------------------------------
-- Warnings of the Checks
------------------------------------------------------------

namespace ShaderBindings

namespace Interface

/- The check of the uniforms warns about repeated names. -/
theorem map_warning_uniformViolations
    (shader : String)
    (start uniforms : List Uniform) :
    (uniformViolations shader
        (start.reverse.map Uniform.name)
        uniforms).map Violation.warning =
      (withEarlier uniforms).flatMap fun place =>
        Uniform.repeatWarnings shader
          (start ++ place.1) place.2 := by
  induction uniforms generalizing start with
  | nil => rfl
  | cons declared rest ih =>
      have hRest := ih (start ++ [declared])
      rw [List.reverse_append, List.reverse_singleton,
        List.singleton_append, List.map_cons] at hRest
      rw [uniformViolations, List.map_append, hRest,
        flatMap_withEarlier_cons, Uniform.repeatWarnings]
      by_cases hSeen :
          declared.name ∈ start.map Uniform.name
      · have hContains :
            (start.reverse.map Uniform.name).contains
              declared.name = true := by
          simpa using hSeen
        rw [if_pos hSeen, if_pos hContains]
        rfl
      · have hContains :
            ¬ (start.reverse.map Uniform.name).contains
              declared.name = true := by
          simpa using hSeen
        rw [if_neg hSeen, if_neg hContains]
        rfl

/- A reused location is reported with its latest name. -/
theorem map_warning_locationViolations
    (shader : String)
    (earlier : List Attribute)
    (declared : Attribute) :
    (locationViolations shader
        (earlier.reverse.map fun other =>
          (other.location, other.name))
        declared).map Violation.warning =
      Attribute.reuseWarnings shader earlier declared := by
  unfold locationViolations Attribute.reuseWarnings
  rw [lookup_latest]
  cases (earlier.filter fun other =>
      other.location = declared.location).getLast? with
  | none => rfl
  | some latest => rfl

theorem map_warning_typeViolations
    (shader : String)
    (declared : Attribute) :
    (typeViolations shader declared).map Violation.warning =
      Attribute.sizeWarnings shader declared := by
  unfold typeViolations Attribute.sizeWarnings
  by_cases hMapped : declared.type.isMapped = true
  · rw [if_pos hMapped, if_pos hMapped]
    rfl
  · rw [if_neg hMapped, if_neg hMapped]
    rfl

/- The check of the attributes warns about both. -/
theorem map_warning_attributeViolations
    (shader : String)
    (start attributes : List Attribute) :
    (attributeViolations shader
        (start.reverse.map fun other =>
          (other.location, other.name))
        attributes).map Violation.warning =
      (withEarlier attributes).flatMap fun place =>
        Attribute.reuseWarnings shader
            (start ++ place.1) place.2 ++
          Attribute.sizeWarnings shader place.2 := by
  induction attributes generalizing start with
  | nil => rfl
  | cons declared rest ih =>
      have hRest := ih (start ++ [declared])
      rw [List.reverse_append, List.reverse_singleton,
        List.singleton_append, List.map_cons] at hRest
      rw [attributeViolations, List.map_append,
        List.map_append, hRest,
        map_warning_locationViolations,
        map_warning_typeViolations]
      exact
        (flatMap_withEarlier_cons
          (fun earlier other =>
            Attribute.reuseWarnings shader earlier other ++
              Attribute.sizeWarnings shader other)
          start declared rest).symm

end Interface

namespace Declarations

variable {found : Declarations}
variable {shader className : String}

/- The checks warn about what is worth a warning. -/
theorem warnings_eq
    (found : Declarations)
    (shader : String) :
    (Interface.violations shader found.uniforms
        found.attributes).map Violation.warning =
      found.warnings shader := by
  have hUniforms :=
    Interface.map_warning_uniformViolations shader []
      found.uniforms
  have hAttributes :=
    Interface.map_warning_attributeViolations shader []
      found.attributes
  rw [Interface.violations, List.map_append]
  exact congrArg₂ (· ++ ·) hUniforms hAttributes

/- What is worth a warning is logged as one. -/
theorem level_warnings
    {event : Event}
    (hEvent : event ∈ found.warnings shader) :
    event.level = .warn := by
  rw [← warnings_eq] at hEvent
  rcases List.mem_map.mp hEvent with
    ⟨violation, hViolation, rfl⟩
  exact
    (Interface.matched_of_mem_violations hViolation).level

/- A clash is logged as a warning. -/
theorem level_clashWarnings
    {event : Event}
    (hEvent : event ∈ found.clashWarnings className) :
    event.level = .warn := by
  rcases List.mem_map.mp hEvent with ⟨clash, _, rfl⟩
  rfl

end Declarations

end ShaderBindings
