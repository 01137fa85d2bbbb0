import ShaderBindings.Proofs.Text.Classes
import ShaderBindings.Text.LetterCase

/-
  How letter case behaves. No character is upper case and
  lower case, and the lower-case form of a character is never
  empty and holds no underscore but that of an underscore.

  Key definitions include:
    * `Spans.isBetween`
    * `Spans.isStaggered`
    * `CaseRun.codes`
    * `loweredSpans`

  Key theorems include:
    * `isLower_eq_false_of_isUpper`
    * `mem_lowered_cases`
    * `underscore_not_mem_lowered`
    * `isUpper_toLower`
-/

------------------------------------------------------------
-- Upper Case and Lower Case
------------------------------------------------------------

namespace ShaderBindings

namespace Text

namespace Spans

/-
  A span that is a single character, which is none of every
  second character of another span.
-/
def isBetween (span other : Nat × Nat) : Bool :=
  span.1 == span.2 && (span.1 + other.1) % 2 == 1

/- Every second character of two spans is another one. -/
def isStaggered (span other : Nat × Nat) : Bool :=
  (span.1 + other.1) % 2 == 1

variable {spans others : Spans}
variable {c : Char}

theorem containsAlternate_eq_true_iff :
    spans.containsAlternate c = true ↔
      ∃ span ∈ spans,
        (span.1 ≤ c.toNat ∧ c.toNat ≤ span.2) ∧
          (c.toNat - span.1) % 2 = 0 := by
  simp [containsAlternate]

theorem not_containsAlternate_of_contains
    (hBetween : MeetOnly isBetween spans others)
    (hContains : spans.contains c = true) :
    others.containsAlternate c = false := by
  rw [Bool.eq_false_iff]
  intro hOther
  rcases contains_eq_true_iff.mp hContains with
    ⟨span, hSpan, hFirst, hLast⟩
  rcases containsAlternate_eq_true_iff.mp hOther with
    ⟨other, hMember, ⟨hOtherFirst, hOtherLast⟩, hEven⟩
  have hSides := hBetween span hSpan other hMember
  simp only [isBetween, Bool.and_eq_true, beq_iff_eq] at hSides
  omega

theorem not_containsAlternate_of_alternate
    (hStaggered : MeetOnly isStaggered spans others)
    (hContains : spans.containsAlternate c = true) :
    others.containsAlternate c = false := by
  rw [Bool.eq_false_iff]
  intro hOther
  rcases containsAlternate_eq_true_iff.mp hContains with
    ⟨span, hSpan, ⟨hFirst, hLast⟩, hEven⟩
  rcases containsAlternate_eq_true_iff.mp hOther with
    ⟨other, hMember, ⟨hOtherFirst, hOtherLast⟩, hOtherEven⟩
  have hSides := hStaggered span hSpan other hMember
  simp only [isStaggered, beq_iff_eq] at hSides
  omega

end Spans

/- The tables of upper case against those of lower case. -/
theorem caseSpans_meet :
    Spans.Apart upperSpans lowerSpans ∧
      Spans.MeetOnly Spans.isBetween upperSpans
        lowerAlternateSpans ∧
      Spans.MeetOnly Spans.isBetween lowerSpans
        upperAlternateSpans ∧
      Spans.MeetOnly Spans.isStaggered upperAlternateSpans
        lowerAlternateSpans := by
  refine
    ⟨Spans.apart_of_sweep ?_, Spans.meetOnly_of_sweep ?_,
      Spans.meetOnly_of_sweep ?_, Spans.meetOnly_of_sweep ?_⟩
  · decide +kernel
  · decide +kernel
  · decide +kernel
  · decide +kernel

/- The letters of ASCII have one case only. -/
theorem not_isLower_of_ascii
    {c : Char}
    (hSmall : c.toNat < 128)
    (hUpper : c.isUpper = true) :
    c.isLower = false := by
  revert hUpper
  exact of_ascii hSmall (by decide)

/- No character is upper case and lower case. -/
theorem isLower_eq_false_of_isUpper
    {c : Char}
    (hUpper : isUpper c = true) :
    isLower c = false := by
  unfold isUpper at hUpper
  unfold isLower
  split at hUpper
  · rename_i hSmall
    rw [if_pos hSmall]
    exact not_isLower_of_ascii hSmall hUpper
  · rename_i hLarge
    rw [if_neg hLarge, Bool.or_eq_false_iff]
    rcases caseSpans_meet with
      ⟨hApart, hUpperBetween, hLowerBetween, hStaggered⟩
    rcases Bool.or_eq_true_iff.mp hUpper with
      hSpan | hAlternate
    · exact
        ⟨hApart.contains_eq_false hSpan,
          Spans.not_containsAlternate_of_contains
            hUpperBetween hSpan⟩
    · refine
        ⟨?_, Spans.not_containsAlternate_of_alternate
          hStaggered hAlternate⟩
      rw [Bool.eq_false_iff]
      intro hSpan
      rw [Spans.not_containsAlternate_of_contains
        hLowerBetween hSpan] at hAlternate
      cases hAlternate

/- An underscore is neither a letter nor a number. -/
@[simp] theorem isUpper_underscore :
    isUpper '_' = false :=
  rfl

@[simp] theorem isLower_underscore :
    isLower '_' = false :=
  rfl

@[simp] theorem isNumeric_underscore :
    isNumeric '_' = false :=
  rfl

end Text

end ShaderBindings

------------------------------------------------------------
-- Lower-Case Characters
------------------------------------------------------------

namespace ShaderBindings

namespace Text

/- A code of no character stands for the character zero. -/
theorem toNat_ofNat_eq_or (code : Nat) :
    (Char.ofNat code).toNat = 0 ∨
      (Char.ofNat code).toNat = code := by
  by_cases hValid : code.isValidChar
  · rw [Char.ofNat, dif_pos hValid]
    exact Or.inr rfl
  · rw [Char.ofNat, dif_neg hValid]
    exact Or.inl rfl

namespace CaseRun

/- The codes that a run leads to. -/
def codes (run : CaseRun) : Nat × Nat :=
  (run.image, run.image + (run.last - run.first))

/-
  The image of a character has a code of the run, or the code
  zero when that is not the code of any character.
-/
theorem toNat_image
    {run : CaseRun}
    {c image : Char}
    (hImage : run.image? c = some image) :
    image.toNat = 0 ∨
      (run.codes.1 ≤ image.toNat ∧
        image.toNat ≤ run.codes.2) := by
  unfold image? at hImage
  split at hImage
  · rename_i hRun
    cases hImage
    have hCode :=
      toNat_ofNat_eq_or (run.image + (c.toNat - run.first))
    simp only [codes]
    omega
  · cases hImage

end CaseRun

/-
  The codes that the lower-case mapping beyond ASCII leads
  to: those of its runs, the code zero, and the two of the
  capital I with a dot above.
-/
def loweredSpans : Spans :=
  [(0, 0), (0x69, 0x69), (0x307, 0x307)] ++
    loweredRuns.map CaseRun.codes

variable {c d : Char}

theorem loweredSpans_contains
    (hImage : CaseRun.lookup? loweredRuns c = some d) :
    loweredSpans.contains d = true := by
  unfold CaseRun.lookup? at hImage
  rcases List.exists_of_findSome?_eq_some hImage with
    ⟨run, hRun, hRunImage⟩
  rw [Spans.contains_eq_true_iff]
  rcases CaseRun.toNat_image hRunImage with hZero | hCodes
  · exact ⟨(0, 0), by simp [loweredSpans], by simp [hZero]⟩
  · refine ⟨run.codes, ?_, hCodes⟩
    exact List.mem_append_right _ (List.mem_map_of_mem hRun)

/-
  A character of ASCII has the lower-case form of ASCII. Any
  other keeps its form or goes where the mapping leads.
-/
theorem mem_lowered_cases
    (hLowered : d ∈ lowered c) :
    (c.toNat < 128 ∧ d = c.toLower) ∨ d = c ∨
      loweredSpans.contains d = true := by
  unfold lowered at hLowered
  split at hLowered
  · rename_i hSmall
    exact Or.inl ⟨hSmall, List.mem_singleton.mp hLowered⟩
  · split at hLowered
    · refine Or.inr (Or.inr ?_)
      rw [Spans.contains_eq_true_iff]
      have hBoth : d = 'i' ∨ d = Char.ofNat 0x307 := by
        simpa using hLowered
      rcases hBoth with rfl | rfl
      · exact ⟨(0x69, 0x69), by simp [loweredSpans], by decide⟩
      · exact
          ⟨(0x307, 0x307), by simp [loweredSpans], by decide⟩
    · rw [List.mem_singleton] at hLowered
      cases hLookup : CaseRun.lookup? loweredRuns c with
      | none =>
          rw [hLookup, Option.getD_none] at hLowered
          exact Or.inr (Or.inl hLowered)
      | some image =>
          rw [hLookup, Option.getD_some] at hLowered
          subst hLowered
          exact Or.inr (Or.inr (loweredSpans_contains hLookup))

/- Every character has a lower-case form. -/
theorem lowered_ne_nil (c : Char) : lowered c ≠ [] := by
  unfold lowered
  split
  · simp
  · split
    · simp
    · simp

theorem toLower_ne_underscore
    (hSmall : c.toNat < 128)
    (hOther : c ≠ '_') :
    c.toLower ≠ '_' := by
  revert hOther
  exact of_ascii hSmall (by decide)

/- A lower-case form holds no underscore that was not there. -/
theorem underscore_not_mem_lowered
    (hOther : c ≠ '_') :
    '_' ∉ lowered c := by
  intro hScore
  rcases mem_lowered_cases hScore with
    ⟨hSmall, hLower⟩ | hSame | hContains
  · exact toLower_ne_underscore hSmall hOther hLower.symm
  · exact hOther hSame.symm
  · have hOutside : loweredSpans.contains '_' = false := by
      decide
    rw [hOutside] at hContains
    cases hContains

/- The lower-case form of ASCII is not upper case. -/
theorem isUpper_toLower
    (hSmall : c.toNat < 128) :
    isUpper c.toLower = false :=
  of_ascii hSmall (by decide)

end Text

end ShaderBindings
