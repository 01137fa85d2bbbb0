import Mathlib.Data.List.Nodup

/-
  Entries that are found by their keys. When no key is there
  twice, every entry is found, and the order of the entries
  does not matter.

  Key theorems include:
    * `lookup_cons_eq_ite`
    * `lookup_eq_some_iff_mem`
    * `lookup_of_perm`
-/

------------------------------------------------------------
-- Keys
------------------------------------------------------------

namespace ShaderBindings

variable {α β : Type}
variable [DecidableEq α] [BEq α] [LawfulBEq α]
variable {key : α}
variable {value : β}
variable {entries other : List (α × β)}

/- A key is that of the first entry or of one behind it. -/
theorem lookup_cons_eq_ite
    (key first : α)
    (value : β)
    (rest : List (α × β)) :
    ((first, value) :: rest).lookup key =
      if key = first then some value else rest.lookup key := by
  rw [List.lookup_cons]
  by_cases hSame : key = first
  · rw [if_pos hSame, beq_iff_eq.mpr hSame]
  · rw [if_neg hSame, beq_eq_false_iff_ne.mpr hSame]

/- Every entry is found when no key is there twice. -/
theorem lookup_eq_some_iff_mem
    (hNodup : (entries.map Prod.fst).Nodup) :
    entries.lookup key = some value ↔
      (key, value) ∈ entries := by
  induction entries with
  | nil => simp
  | cons entry rest ih =>
      rcases entry with ⟨first, kept⟩
      rcases List.nodup_cons.mp hNodup with ⟨hFirst, hRest⟩
      rw [lookup_cons_eq_ite, List.mem_cons]
      by_cases hSame : key = first
      · subst hSame
        have hAbsent : (key, value) ∉ rest := by
          intro hBehind
          exact hFirst (List.mem_map.mpr ⟨_, hBehind, rfl⟩)
        simp [hAbsent, eq_comm]
      · rw [if_neg hSame, ih hRest]
        simp [hSame]

/- Permuted entries are found under the same keys. -/
theorem lookup_of_perm
    (hNodup : (entries.map Prod.fst).Nodup)
    (hPerm : other.Perm entries)
    (key : α) :
    other.lookup key = entries.lookup key := by
  have hOther : (other.map Prod.fst).Nodup :=
    (hPerm.map Prod.fst).nodup_iff.mpr hNodup
  apply Option.ext
  intro value
  rw [lookup_eq_some_iff_mem hOther,
    lookup_eq_some_iff_mem hNodup, hPerm.mem_iff]

end ShaderBindings
