import Mathlib.Data.List.Chain
import Mathlib.Data.List.TakeWhile
import ShaderBindings.Text.Blank

/-
  How the classes of characters lie to each other. The tables
  of two classes are compared span by span, so that a fact
  about all their characters is decided once. Long tables are
  compared in one sweep from left to right.

  Key definitions include:
    * `Spans.Apart`
    * `Spans.MeetOnly`
    * `Spans.sweep`
    * `wordSpans`

  Key theorems include:
    * `Spans.Apart.contains_eq_false`
    * `Spans.meetOnly_of_sweep`
    * `of_ascii`
    * `isWordChar_eq_false_of_isBlank`
    * `isBlank_eq_false_of_isDigit`
-/

------------------------------------------------------------
-- Spans Apart
------------------------------------------------------------

namespace ShaderBindings

namespace Text

namespace Spans

/- No span of one list meets a span of another. -/
def Apart (spans others : Spans) : Prop :=
  ∀ span ∈ spans, ∀ other ∈ others,
    span.2 < other.1 ∨ other.2 < span.1

instance (spans others : Spans) :
    Decidable (Apart spans others) := by
  unfold Apart
  infer_instance

theorem contains_eq_true_iff
    {spans : Spans}
    {c : Char} :
    spans.contains c = true ↔
      ∃ span ∈ spans,
        span.1 ≤ c.toNat ∧ c.toNat ≤ span.2 := by
  simp [contains]

/- No character is in the spans of two lists apart. -/
theorem Apart.contains_eq_false
    {spans others : Spans}
    {c : Char}
    (hApart : Apart spans others)
    (hContains : spans.contains c = true) :
    others.contains c = false := by
  rcases contains_eq_true_iff.mp hContains with
    ⟨span, hSpan, hFirst, hLast⟩
  rw [Bool.eq_false_iff]
  intro hOther
  rcases contains_eq_true_iff.mp hOther with
    ⟨other, hMember, hOtherFirst, hOtherLast⟩
  have hSides := hApart span hSpan other hMember
  omega

theorem Apart.symm
    {spans others : Spans}
    (hApart : Apart spans others) :
    Apart others spans := by
  intro other hOther span hSpan
  exact (hApart span hSpan other hOther).symm

theorem apart_append_iff
    {spans others behind : Spans} :
    Apart spans (others ++ behind) ↔
      Apart spans others ∧ Apart spans behind := by
  constructor
  · intro hApart
    exact
      ⟨fun span hSpan other hOther =>
        hApart span hSpan other (List.mem_append_left _ hOther),
      fun span hSpan other hOther =>
        hApart span hSpan other
          (List.mem_append_right _ hOther)⟩
  · rintro ⟨hFirst, hBehind⟩ span hSpan other hOther
    rcases List.mem_append.mp hOther with hOther | hOther
    · exact hFirst span hSpan other hOther
    · exact hBehind span hSpan other hOther

/- Spans are told apart by their numbers alone. -/
theorem apart_of_all
    {spans others : Spans}
    (hAll :
      (spans.all fun span =>
        others.all fun other =>
          Nat.blt span.2 other.1 ||
            Nat.blt other.2 span.1) = true) :
    Apart spans others := by
  intro span hSpan other hOther
  have hSides :=
    List.all_eq_true.mp
      (List.all_eq_true.mp hAll span hSpan) other hOther
  simpa [Nat.blt_eq] using hSides

end Spans

end Text

end ShaderBindings

------------------------------------------------------------
-- Sweeps over Sorted Spans
------------------------------------------------------------

namespace ShaderBindings

namespace Text

namespace Spans

/- Spans of two lists meet only as it is allowed. -/
def MeetOnly
    (allowed : Nat × Nat → Nat × Nat → Bool)
    (spans others : Spans) : Prop :=
  ∀ span ∈ spans, ∀ other ∈ others,
    span.2 < other.1 ∨ other.2 < span.1 ∨
      allowed span other = true

/- A span that starts no later than another one. -/
def Leads (span next : Nat × Nat) : Prop :=
  span.1 ≤ next.1

/- The spans stand in the order in which they start. -/
def isSorted : Spans → Bool
| span :: next :: rest =>
    Nat.ble span.1 next.1 && isSorted (next :: rest)
| _ => true

/-
  A sweep over two sorted lists: spans of the second list that
  end in front of a span of the first one are left behind, and
  those that meet it are compared with it.
-/
def sweep
    (allowed : Nat × Nat → Nat × Nat → Bool) :
    Spans → Spans → Bool
| [], _ => true
| span :: rest, others =>
    let kept :=
      others.dropWhile fun other =>
        Nat.blt other.2 span.1
    let met :=
      kept.takeWhile fun other =>
        Nat.ble other.1 span.2
    met.all (allowed span) && sweep allowed rest kept

variable {allowed : Nat × Nat → Nat × Nat → Bool}
variable {spans others : Spans}
variable {span : Nat × Nat}

theorem pairwise_of_isSorted
    (hSorted : isSorted spans = true) :
    spans.Pairwise Leads := by
  have hTrans : Trans Leads Leads Leads := ⟨Nat.le_trans⟩
  rw [← List.isChain_iff_pairwise]
  fun_induction isSorted spans with
  | case1 span next rest ih =>
      rw [Bool.and_eq_true] at hSorted
      rcases hSorted with ⟨hFirst, hRest⟩
      exact
        List.IsChain.cons_cons (Nat.le_of_ble_eq_true hFirst)
          (ih hRest)
  | case2 spans hShort =>
      match spans with
      | [] => exact List.IsChain.nil
      | [span] => exact List.IsChain.singleton span
      | span :: next :: rest =>
          exact absurd rfl (hShort span next rest)

theorem mem_takeWhile_or_mem_dropWhile
    (p : Nat × Nat → Bool)
    (hMember : span ∈ spans) :
    span ∈ spans.takeWhile p ∨ span ∈ spans.dropWhile p := by
  rw [← List.mem_append, List.takeWhile_append_dropWhile]
  exact hMember

/- Sorted spans behind a late one start late as well. -/
theorem lt_of_mem_dropWhile
    {stop : Nat}
    (hSorted : spans.Pairwise Leads)
    (hMember :
      span ∈ spans.dropWhile fun each =>
        Nat.ble each.1 stop) :
    stop < span.1 := by
  induction spans with
  | nil => cases hMember
  | cons head rest ih =>
      rw [List.pairwise_cons] at hSorted
      rcases hSorted with ⟨hHead, hRest⟩
      rw [List.dropWhile_cons] at hMember
      split at hMember
      · exact ih hRest hMember
      · rename_i hLate
        have hStop : stop < head.1 := by
          simpa [Nat.ble_eq] using hLate
        rcases List.mem_cons.mp hMember with rfl | hBehind
        · exact hStop
        · exact Nat.lt_of_lt_of_le hStop (hHead span hBehind)

/- Sorted spans meet as the sweep finds them. -/
theorem meetOnly_of_pairwise
    (hSpans : spans.Pairwise Leads)
    (hOthers : others.Pairwise Leads)
    (hSweep : sweep allowed spans others = true) :
    MeetOnly allowed spans others := by
  induction spans generalizing others with
  | nil =>
      intro span hSpan
      cases hSpan
  | cons head rest ih =>
      rw [List.pairwise_cons] at hSpans
      rcases hSpans with ⟨hHead, hRest⟩
      rw [sweep, Bool.and_eq_true] at hSweep
      rcases hSweep with ⟨hMet, hKept⟩
      have hSorted :=
        hOthers.sublist
          (List.dropWhile_sublist fun other =>
            Nat.blt other.2 head.1)
      intro span hSpan other hOther
      rcases mem_takeWhile_or_mem_dropWhile
        (fun other => Nat.blt other.2 head.1) hOther with
        hLeft | hOther
      · -- what ends in front of the head is left of the rest
        have hEnd : other.2 < head.1 := by
          simpa [Nat.blt_eq] using List.mem_takeWhile_imp hLeft
        have hStart : head.1 ≤ span.1 := by
          rcases List.mem_cons.mp hSpan with rfl | hSpan
          · exact Nat.le_refl _
          · exact hHead span hSpan
        exact Or.inr (Or.inl (Nat.lt_of_lt_of_le hEnd hStart))
      · rcases List.mem_cons.mp hSpan with rfl | hSpan
        · rcases mem_takeWhile_or_mem_dropWhile
            (fun other => Nat.ble other.1 span.2) hOther with
            hMeets | hBehind
          · exact
              Or.inr
                (Or.inr
                  (List.all_eq_true.mp hMet other hMeets))
          · exact Or.inl (lt_of_mem_dropWhile hSorted hBehind)
        · exact ih hRest hSorted hKept span hSpan other hOther

theorem meetOnly_of_sweep
    (hSweep :
      (isSorted spans && isSorted others &&
        sweep allowed spans others) = true) :
    MeetOnly allowed spans others := by
  rw [Bool.and_eq_true, Bool.and_eq_true] at hSweep
  rcases hSweep with ⟨⟨hSpans, hOthers⟩, hMeet⟩
  exact
    meetOnly_of_pairwise (pairwise_of_isSorted hSpans)
      (pairwise_of_isSorted hOthers) hMeet

/- Spans of which none may meet are apart. -/
theorem apart_of_sweep
    (hSweep :
      (isSorted spans && isSorted others &&
        sweep (fun _ _ => false) spans others) = true) :
    Apart spans others := by
  intro span hSpan other hOther
  simpa using meetOnly_of_sweep hSweep span hSpan other hOther

end Spans

end Text

end ShaderBindings

------------------------------------------------------------
-- Characters of ASCII
------------------------------------------------------------

namespace ShaderBindings

namespace Text

/- What holds of the first 128 characters is decided once. -/
@[elab_as_elim]
theorem of_ascii
    {motive : Char → Prop}
    {c : Char}
    (hSmall : c.toNat < 128)
    (hAll : ∀ code : Fin 128, motive (Char.ofNat code)) :
    motive c := by
  have hChar := hAll ⟨c.toNat, hSmall⟩
  rw [Char.ofNat_toNat] at hChar
  exact hChar

end Text

end ShaderBindings

------------------------------------------------------------
-- White Space and Words
------------------------------------------------------------

namespace ShaderBindings

namespace Text

/- The characters of words, those of ASCII included. -/
def wordSpans : Spans :=
  [(0x30, 0x39), (0x41, 0x5A), (0x5F, 0x5F), (0x61, 0x7A)] ++
    alphanumericSpans

/- Every character of a word is in the spans of words. -/
theorem wordSpans_contains
    {c : Char}
    (hWord : isWordChar c = true) :
    wordSpans.contains c = true := by
  rw [Spans.contains_eq_true_iff]
  simp only [wordSpans, List.mem_append]
  rcases Bool.or_eq_true_iff.mp hWord with hLetter | hScore
  · unfold isAlphanumeric at hLetter
    split at hLetter
    · rcases Bool.or_eq_true_iff.mp hLetter with
        hAlpha | hDigit
      · rcases Bool.or_eq_true_iff.mp hAlpha with
          hUpper | hLower
        · exact
            ⟨(0x41, 0x5A), by simp, of_decide_eq_true hUpper⟩
        · rcases Bool.and_eq_true_iff.mp hLower with
            ⟨hLow, hHigh⟩
          exact
            ⟨(0x61, 0x7A), by simp, of_decide_eq_true hLow,
              of_decide_eq_true hHigh⟩
      · rcases Bool.and_eq_true_iff.mp hDigit with
          ⟨hLow, hHigh⟩
        exact
          ⟨(0x30, 0x39), by simp, of_decide_eq_true hLow,
            of_decide_eq_true hHigh⟩
    · rcases Spans.contains_eq_true_iff.mp hLetter with
        ⟨span, hSpan, hRange⟩
      exact ⟨span, Or.inr hSpan, hRange⟩
  · have hChar : c = '_' := by simpa using hScore
    subst hChar
    exact ⟨(0x5F, 0x5F), by simp, by decide⟩

theorem blankSpans_apart :
    Spans.Apart blankSpans wordSpans :=
  Spans.apart_of_sweep (by decide +kernel)

/- White space ends a word. -/
theorem isWordChar_eq_false_of_isBlank
    {c : Char}
    (hBlank : isBlank c = true) :
    isWordChar c = false := by
  rw [Bool.eq_false_iff]
  intro hWord
  have hOutside :=
    blankSpans_apart.contains_eq_false hBlank
  rw [wordSpans_contains hWord] at hOutside
  simp at hOutside

/- A character of a word ends white space. -/
theorem isBlank_eq_false_of_isWordChar
    {c : Char}
    (hWord : isWordChar c = true) :
    isBlank c = false := by
  rw [Bool.eq_false_iff]
  intro hBlank
  rw [isWordChar_eq_false_of_isBlank hBlank] at hWord
  simp at hWord

/- Decimal digits are characters of words. -/
theorem isWordChar_of_isDigit
    {c : Char}
    (hDigit : c.isDigit = true) :
    isWordChar c = true := by
  have hSmall : c.toNat < 128 := by
    have hRange := hDigit
    simp only [Char.isDigit, Bool.and_eq_true,
      decide_eq_true_eq] at hRange
    have hLast : c.toNat ≤ 57 := hRange.2
    omega
  simp [isWordChar, isAlphanumeric, hSmall, Char.isAlphanum,
    hDigit]

/- White space ends a number. -/
theorem isDigit_eq_false_of_isBlank
    {c : Char}
    (hBlank : isBlank c = true) :
    c.isDigit = false := by
  rw [Bool.eq_false_iff]
  intro hDigit
  have hWord := isWordChar_of_isDigit hDigit
  rw [isWordChar_eq_false_of_isBlank hBlank] at hWord
  simp at hWord

/- A decimal digit ends white space. -/
theorem isBlank_eq_false_of_isDigit
    {c : Char}
    (hDigit : c.isDigit = true) :
    isBlank c = false :=
  isBlank_eq_false_of_isWordChar
    (isWordChar_of_isDigit hDigit)

end Text

end ShaderBindings
