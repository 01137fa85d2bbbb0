import Mathlib.Data.List.Nodup
import ShaderBindings.MethodName

/-
  When methods clash. The search for a clash keeps what it
  has seen and stops at the first method that was seen
  before, so it finds nothing exactly when no two methods of
  the list share a name.

  Key definitions include:
    * `Unseen`
    * `MethodName.methods`

  Key theorems include:
    * `unseen_cons_iff`
    * `lookup_eq_none_iff_notMem`
    * `MethodClash.firstRepeat?_eq_none_iff`
    * `MethodClash.find?_eq_none_iff`
    * `MethodName.nodup_attributeNames`
    * `MethodName.exists_setterChars`
-/

------------------------------------------------------------
-- Keys Not Seen Before
------------------------------------------------------------

namespace ShaderBindings

variable {κ : Type}

/-
  No key of a list was seen before, neither at the start nor
  earlier in the list.
-/
def Unseen (seen keys : List κ) : Prop :=
  keys.Nodup ∧ keys.Disjoint seen

@[simp] theorem unseen_nil
    (seen : List κ) :
    Unseen seen [] := by
  exact ⟨List.nodup_nil, List.disjoint_nil_left seen⟩

/- Before anything is seen, only repeats matter. -/
theorem unseen_nil_left_iff
    {keys : List κ} :
    Unseen [] keys ↔ keys.Nodup := by
  constructor
  · intro hUnseen
    exact hUnseen.1
  · intro hNodup
    exact ⟨hNodup, List.disjoint_nil_right keys⟩

/- A key that is new counts as seen for the keys behind it. -/
theorem unseen_cons_iff
    {seen keys : List κ}
    {key : κ} :
    Unseen seen (key :: keys) ↔
      key ∉ seen ∧ Unseen (key :: seen) keys := by
  unfold Unseen
  rw [List.nodup_cons, List.disjoint_cons_left,
    List.disjoint_cons_right]
  constructor
  · rintro ⟨⟨hKey, hNodup⟩, hNew, hDisjoint⟩
    exact ⟨hNew, hNodup, hKey, hDisjoint⟩
  · rintro ⟨hNew, hNodup, hKey, hDisjoint⟩
    exact ⟨⟨hKey, hNodup⟩, hNew, hDisjoint⟩

/- A key that finds nothing in a list is no key of the list. -/
theorem lookup_eq_none_iff_notMem
    [BEq κ]
    [LawfulBEq κ]
    {α : Type}
    {entries : List (κ × α)}
    {key : κ} :
    entries.lookup key = none ↔
      key ∉ entries.map Prod.fst := by
  rw [List.lookup_eq_none_iff, List.mem_map]
  constructor
  · rintro hNone ⟨entry, hEntry, hKey⟩
    have hDiffers := hNone entry hEntry
    rw [hKey] at hDiffers
    simp at hDiffers
  · intro hKey entry hEntry
    rw [bne_iff_ne]
    intro hEq
    exact hKey ⟨entry, hEntry, hEq.symm⟩

end ShaderBindings

------------------------------------------------------------
-- No Clash
------------------------------------------------------------

namespace ShaderBindings

namespace MethodClash

/- Nothing repeats exactly when every method is new. -/
theorem firstRepeat?_eq_none_iff
    (seen setters : List (String × String)) :
    firstRepeat? seen setters = none ↔
      Unseen (seen.map Prod.fst)
        (setters.map Prod.fst) := by
  induction setters generalizing seen with
  | nil => simp [firstRepeat?]
  | cons setter rest ih =>
      rcases setter with ⟨method, source⟩
      rw [List.map_cons, unseen_cons_iff, firstRepeat?]
      rw [← lookup_eq_none_iff_notMem]
      cases hSeen : seen.lookup method with
      | none =>
          rw [ih]
          simp
      | some first => simp

end MethodClash

namespace MethodName

/- The names of the setters, in order. -/
def methods
    (uniforms : List Uniform)
    (attributes : List Attribute) : List String :=
  (setters uniforms attributes).map Prod.fst

/- The names of the setters, by what they are made from. -/
theorem methods_eq
    (uniforms : List Uniform)
    (attributes : List Attribute) :
    methods uniforms attributes =
      attributes.map (fun found => attributeSetter found.name) ++
        (if attributes.isEmpty then [] else [aggregateSetter]) ++
        uniforms.map (fun found => uniformSetter found.name) := by
  unfold methods setters
  rw [List.map_append, List.map_append, List.map_map,
    List.map_map]
  split
  · rfl
  · rfl

end MethodName

/- Nothing clashes exactly when no two setters share a name. -/
theorem MethodClash.find?_eq_none_iff
    (uniforms : List Uniform)
    (attributes : List Attribute) :
    MethodClash.find? uniforms attributes = none ↔
      (MethodName.methods uniforms attributes).Nodup := by
  unfold MethodClash.find? MethodName.methods
  rw [firstRepeat?_eq_none_iff]
  exact unseen_nil_left_iff

end ShaderBindings

------------------------------------------------------------
-- Names Behind Methods
------------------------------------------------------------

namespace ShaderBindings

namespace MethodName

/-
  Attributes whose setters have different names have
  different names themselves, as the name of a setter is
  made from the name of its attribute alone.
-/
theorem nodup_attributeNames
    {uniforms : List Uniform}
    {attributes : List Attribute}
    (hNodup : (methods uniforms attributes).Nodup) :
    (attributes.map Attribute.name).Nodup := by
  rw [methods_eq, List.append_assoc] at hNodup
  have hSetters := hNodup.of_append_left
  rw [← Function.comp_def attributeSetter Attribute.name,
    ← List.map_map] at hSetters
  exact hSetters.of_map

/- Every setter starts with the same four characters. -/
theorem exists_setterChars
    {uniforms : List Uniform}
    {attributes : List Attribute}
    {method : String}
    (hMethod : method ∈ methods uniforms attributes) :
    ∃ rest, method.toList = 's' :: 'e' :: 't' :: '_' :: rest := by
  rw [methods_eq] at hMethod
  simp only [List.mem_append, List.mem_map] at hMethod
  rcases hMethod with (⟨found, _, rfl⟩ | hAggregate) |
    ⟨found, _, rfl⟩
  · exact ⟨_, by simp [attributeSetter]; rfl⟩
  · refine ⟨"vertex_attributes".toList, ?_⟩
    split at hAggregate
    · cases hAggregate
    · rw [List.mem_singleton.mp hAggregate]
      rfl
  · exact ⟨_, by simp [uniformSetter]; rfl⟩

end MethodName

end ShaderBindings
