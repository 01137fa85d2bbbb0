import ShaderBindings.Declaration.Scan
import Mathlib.Data.List.Infix

/-
  A scan finds what a patient search finds that tries the
  reader at every character. It may jump from keyword to
  keyword because every declaration starts with the keyword,
  and it may skip the keyword after a failure because no
  keyword overlaps itself.

  Key definitions include:
    * `DeclarationForm.search`
    * `DeclarationForm.Silent`
    * `Overlaps`
    * `DeclarationForm.Seekable`
    * `DeclarationForm.turn`
    * `DeclarationForm.HaltsAfter`

  Key theorems include:
    * `DeclarationForm.search_append_of_silent`
    * `DeclarationForm.Seekable.scan_eq_search`
    * `DeclarationForm.exists_haltsAfter`
    * `ofSource_finds_every_success`
-/

------------------------------------------------------------
-- Searching at Every Character
------------------------------------------------------------

namespace ShaderBindings

namespace DeclarationForm

variable {α : Type}
variable {form : DeclarationForm α}

/-
  Every success of the reader, tried at every character from
  left to right. After a failure the search goes on one
  character further, after a success behind what was read.
-/
def search
    (form : DeclarationForm α)
    (text : List Char) : List α :=
  match text with
  | [] => []
  | c :: text =>
      match hRead : form.read? (c :: text) with
      | some (declaration, rest) =>
          have := form.read?_length hRead
          declaration :: form.search rest
      | none => form.search text
termination_by text.length
decreasing_by
  · assumption
  · exact Nat.lt_succ_self _

@[simp] theorem search_nil : form.search [] = [] := by
  simp [search]

/- Nothing is read at the end of a text. -/
theorem read?_nil : form.read? [] = none := by
  cases hRead : form.read? [] with
  | none => rfl
  | some found =>
      have hShorter := form.read?_length hRead
      simp at hShorter

/- A success is found, and what lies behind it. -/
theorem search_of_read?
    {text rest : List Char}
    {declaration : α}
    (hRead : form.read? text = some (declaration, rest)) :
    form.search text = declaration :: form.search rest := by
  cases text with
  | nil => simp [read?_nil] at hRead
  | cons c text =>
      rw [search]
      split
      · rename_i hSame
        rw [hRead] at hSame
        simp only [Option.some.injEq, Prod.mk.injEq] at hSame
        rw [hSame.1, hSame.2]
      · rename_i hNone
        simp [hRead] at hNone

/- A failure costs one character. -/
theorem search_of_read?_eq_none
    {c : Char}
    {text : List Char}
    (hRead : form.read? (c :: text) = none) :
    form.search (c :: text) = form.search text := by
  rw [search]
  split
  · rename_i hSome
    simp [hRead] at hSome
  · rfl

/-
  No declaration starts at a character of a text when
  another text follows.
-/
def Silent
    (form : DeclarationForm α)
    (text rest : List Char) : Prop :=
  ∀ start, start < text.length →
    form.read? (text.drop start ++ rest) = none

@[simp] theorem silent_nil
    {rest : List Char} :
    form.Silent [] rest := by
  simp [Silent]

theorem silent_cons_iff
    {c : Char}
    {text rest : List Char} :
    form.Silent (c :: text) rest ↔
      form.read? (c :: (text ++ rest)) = none ∧
        form.Silent text rest := by
  constructor
  · intro hSilent
    refine ⟨hSilent 0 (by simp), ?_⟩
    intro start hStart
    exact hSilent (start + 1) (by simpa using hStart)
  · rintro ⟨hHead, hTail⟩ start hStart
    cases start with
    | zero => exact hHead
    | succ start => exact hTail start (by simpa using hStart)

theorem silent_append_iff
    {text middle rest : List Char} :
    form.Silent (text ++ middle) rest ↔
      form.Silent text (middle ++ rest) ∧
        form.Silent middle rest := by
  induction text with
  | nil => simp
  | cons c text ih =>
      rw [List.cons_append, silent_cons_iff, silent_cons_iff,
        ih, List.append_assoc, and_assoc]

/- Nothing is found in a silent text. -/
theorem search_append_of_silent
    {text rest : List Char}
    (hSilent : form.Silent text rest) :
    form.search (text ++ rest) = form.search rest := by
  induction text with
  | nil => rfl
  | cons c text ih =>
      rcases silent_cons_iff.mp hSilent with ⟨hHead, hTail⟩
      rw [List.cons_append, search_of_read?_eq_none hHead,
        ih hTail]

end DeclarationForm

end ShaderBindings

------------------------------------------------------------
-- Keywords That Can Be Sought
------------------------------------------------------------

namespace ShaderBindings

/-
  The end of one text is the start of another, where the end
  is neither empty nor the whole text.
-/
def Overlaps (text other : List Char) : Prop :=
  ∃ start, start < text.length ∧
    0 < start ∧ text.drop start <+: other

instance (text other : List Char) :
    Decidable (Overlaps text other) := by
  unfold Overlaps
  infer_instance

/- A text overlaps the start of what it overlaps. -/
theorem Overlaps.of_append
    {text other rest : List Char}
    (hLength : text.length ≤ other.length + 1)
    (hOverlaps : Overlaps text (other ++ rest)) :
    Overlaps text other := by
  rcases hOverlaps with ⟨start, hStart, hPositive, hEnd⟩
  refine ⟨start, hStart, hPositive, ?_⟩
  apply List.prefix_of_prefix_length_le hEnd
    (List.prefix_append other rest)
  rw [List.length_drop]
  omega

/-
  Where a keyword starts in a text, it ends there as well, or
  it goes on in the text that follows.
-/
theorem isPrefix_drop_or_overlaps
    {keyword text rest : List Char}
    {start : Nat}
    (hStart : start < text.length)
    (hStarts : keyword <+: text.drop start ++ rest) :
    keyword <+: text.drop start ∨ Overlaps keyword rest := by
  rcases Nat.lt_or_ge (text.drop start).length
      keyword.length with hShort | hLong
  · apply Or.inr
    have hEnd : text.drop start <+: keyword :=
      List.prefix_of_prefix_length_le
        (List.prefix_append _ _) hStarts hShort.le
    rcases hEnd with ⟨tail, hTail⟩
    rw [← hTail, List.prefix_append_right_inj] at hStarts
    refine ⟨(text.drop start).length, hShort, ?_, ?_⟩
    · rw [List.length_drop]
      omega
    · rwa [← hTail, List.drop_left]
  · apply Or.inl
    exact List.prefix_of_prefix_length_le hStarts
      (List.prefix_append _ _) hLong

namespace DeclarationForm

variable {α : Type}
variable {form : DeclarationForm α}

/-
  The keyword leads to all declarations: each starts with
  it, and it does not overlap itself.
-/
structure Seekable (form : DeclarationForm α) : Prop where
  starts_with_keyword :
    ∀ {text rest : List Char} {declaration : α},
      form.read? text = some (declaration, rest) →
        form.keyword <+: text
  not_overlaps : ¬ Overlaps form.keyword form.keyword

namespace Seekable

/- Without the keyword nothing is read. -/
theorem read?_eq_none
    (hSeekable : form.Seekable)
    {text : List Char}
    (hKeyword : ¬ form.keyword <+: text) :
    form.read? text = none := by
  cases hRead : form.read? text with
  | none => rfl
  | some found =>
      exact absurd (hSeekable.starts_with_keyword hRead) hKeyword

/-
  A text without the keyword is silent, unless a keyword
  starts at its end and goes on in the text that follows.
-/
theorem silent_of_free
    (hSeekable : form.Seekable)
    {text rest : List Char}
    (hFree : ¬ form.keyword <:+: text)
    (hSeam : ¬ Overlaps form.keyword rest) :
    form.Silent text rest := by
  intro start hStart
  apply hSeekable.read?_eq_none
  intro hStarts
  rcases isPrefix_drop_or_overlaps hStart hStarts with
    hInside | hOverlaps
  · exact hFree
      (hInside.isInfix.trans (List.drop_suffix _ _).isInfix)
  · exact hSeam hOverlaps

/-
  A keyword at which nothing is read is silent: nothing can
  be read further on in it either.
-/
theorem silent_keyword
    (hSeekable : form.Seekable)
    {rest : List Char}
    (hRead : form.read? (form.keyword ++ rest) = none) :
    form.Silent form.keyword rest := by
  intro start hStart
  rcases Nat.eq_zero_or_pos start with rfl | hPositive
  · exact hRead
  · apply hSeekable.read?_eq_none
    intro hKeyword
    apply hSeekable.not_overlaps
    refine ⟨start, hStart, hPositive, ?_⟩
    apply List.prefix_of_prefix_length_le
      (List.prefix_append _ rest) hKeyword
    rw [List.length_drop]
    omega

end Seekable

end DeclarationForm

end ShaderBindings

------------------------------------------------------------
-- Jumping from Keyword to Keyword
------------------------------------------------------------

namespace ShaderBindings

namespace DeclarationForm

variable {α : Type}
variable {form : DeclarationForm α}

/- What is sought starts with the keyword. -/
theorem keyword_isPrefix_seek
    {keyword text : List Char}
    (hFound : seek keyword text ≠ []) :
    keyword <+: seek keyword text := by
  induction text with
  | nil => exact absurd rfl hFound
  | cons c text ih =>
      unfold seek at hFound ⊢
      split
      · rename_i hKeyword
        exact List.isPrefixOf_iff_prefix.mp hKeyword
      · rename_i hKeyword
        rw [if_neg hKeyword] at hFound
        exact ih hFound

namespace Seekable

/- What is jumped over is silent. -/
theorem exists_silent_seek
    (hSeekable : form.Seekable)
    (text : List Char) :
    ∃ skipped,
      text = skipped ++ seek form.keyword text ∧
        form.Silent skipped (seek form.keyword text) := by
  induction text with
  | nil => exact ⟨[], rfl, silent_nil⟩
  | cons c text ih =>
      unfold seek
      split
      · exact ⟨[], rfl, silent_nil⟩
      · rename_i hKeyword
        rcases ih with ⟨skipped, hText, hSilent⟩
        refine ⟨c :: skipped, ?_, ?_⟩
        · rw [List.cons_append, ← hText]
        · rw [silent_cons_iff, ← hText]
          refine ⟨?_, hSilent⟩
          apply hSeekable.read?_eq_none
          rwa [← List.isPrefixOf_iff_prefix]

/- The search may start where the keyword is found. -/
theorem search_seek
    (hSeekable : form.Seekable)
    (text : List Char) :
    form.search text = form.search (seek form.keyword text) := by
  rcases hSeekable.exists_silent_seek text with
    ⟨skipped, hText, hSilent⟩
  calc
    form.search text =
        form.search (skipped ++ seek form.keyword text) := by
      rw [← hText]
    _ = form.search (seek form.keyword text) :=
      search_append_of_silent hSilent

/- After a failure the search may skip the keyword. -/
theorem search_drop_keyword
    (hSeekable : form.Seekable)
    {text : List Char}
    (hKeyword : form.keyword <+: text)
    (hRead : form.read? text = none) :
    form.search text =
      form.search (text.drop form.keyword.length) := by
  rcases hKeyword with ⟨rest, rfl⟩
  rw [List.drop_left]
  exact search_append_of_silent
    (hSeekable.silent_keyword hRead)

end Seekable

end DeclarationForm

end ShaderBindings

------------------------------------------------------------
-- The Scan Turn by Turn
------------------------------------------------------------

namespace ShaderBindings

/- What is left to scan, and what was found before it. -/
structure Progress (α : Type) where
  rest : List Char
  found : List α

namespace DeclarationForm

variable {α : Type}
variable {form : DeclarationForm α}

/-
  One turn of a scan: jump to the keyword and read there. A
  turn fails when the keyword does not occur any more.
-/
def turn
    (form : DeclarationForm α)
    (progress : Progress α) : Option (Progress α) :=
  match seek form.keyword progress.rest with
  | [] => none
  | c :: text =>
      match form.read? (c :: text) with
      | some (declaration, rest) =>
          some ⟨rest, progress.found ++ [declaration]⟩
      | none =>
          some
            ⟨(c :: text).drop form.keyword.length,
              progress.found⟩

/- A scan takes so many turns and then stops. -/
inductive HaltsAfter (form : DeclarationForm α) :
    Nat → Progress α → Progress α → Prop where
| stop {progress : Progress α} :
    form.turn progress = none →
      HaltsAfter form 0 progress progress
| next {turns : Nat} {progress further last : Progress α} :
    form.turn progress = some further →
      HaltsAfter form turns further last →
        HaltsAfter form (turns + 1) progress last

/- Without the keyword a scan finds nothing. -/
theorem scan_of_seek_nil
    {text : List Char}
    (hSeek : seek form.keyword text = []) :
    form.scan text = [] := by
  rw [scan]
  split
  · rfl
  · rename_i hFound
    simp [hSeek] at hFound

/- A scan finds what is read at the keyword. -/
theorem scan_of_read?
    {text rest : List Char}
    {declaration : α}
    (hRead :
      form.read? (seek form.keyword text) =
        some (declaration, rest)) :
    form.scan text = declaration :: form.scan rest := by
  rw [scan]
  split
  · rename_i hSeek
    simp [hSeek, read?_nil] at hRead
  · rename_i c found hSeek
    rw [hSeek] at hRead
    split
    · rename_i hSame
      rw [hRead] at hSame
      simp only [Option.some.injEq, Prod.mk.injEq] at hSame
      rw [hSame.1, hSame.2]
    · rename_i hNone
      simp [hRead] at hNone

/- A scan skips the keyword when nothing is read there. -/
theorem scan_of_read?_eq_none
    {text : List Char}
    (hRead : form.read? (seek form.keyword text) = none) :
    form.scan text =
      form.scan
        ((seek form.keyword text).drop form.keyword.length) := by
  rw [scan]
  split
  · rename_i hSeek
    simp only [hSeek, List.drop_nil]
    exact (scan_of_seek_nil rfl).symm
  · rename_i c found hSeek
    rw [hSeek] at hRead
    simp only [hSeek]
    split
    · rename_i hSome
      simp [hRead] at hSome
    · rfl

/- How a turn ends, by what is sought and what is read. -/
theorem turn_cases
    (form : DeclarationForm α)
    (progress : Progress α) :
    (seek form.keyword progress.rest = [] ∧
        form.turn progress = none) ∨
      (∃ declaration rest,
        form.read? (seek form.keyword progress.rest) =
            some (declaration, rest) ∧
          form.turn progress =
            some ⟨rest, progress.found ++ [declaration]⟩) ∨
      (seek form.keyword progress.rest ≠ [] ∧
        form.read? (seek form.keyword progress.rest) = none ∧
          form.turn progress =
            some
              ⟨(seek form.keyword progress.rest).drop
                form.keyword.length, progress.found⟩) := by
  unfold turn
  cases hSeek : seek form.keyword progress.rest with
  | nil => exact Or.inl ⟨rfl, rfl⟩
  | cons c text =>
      cases hRead : form.read? (c :: text) with
      | none =>
          refine Or.inr (Or.inr ⟨by simp, rfl, ?_⟩)
          simp only [hRead]
      | some found =>
          refine Or.inr (Or.inl ⟨found.1, found.2, rfl, ?_⟩)
          simp only [hRead]

/- Every turn leaves less text. -/
theorem length_of_turn
    {progress further : Progress α}
    (hTurn : form.turn progress = some further) :
    further.rest.length < progress.rest.length := by
  have hSought := seek_length form.keyword progress.rest
  rcases turn_cases form progress with
    ⟨_, hNone⟩ | ⟨declaration, rest, hRead, hSome⟩ |
      ⟨hFound, _, hSome⟩
  · simp [hNone] at hTurn
  · rw [hSome, Option.some.injEq] at hTurn
    have hShorter := form.read?_length hRead
    rw [← hTurn]
    exact Nat.lt_of_lt_of_le hShorter hSought
  · rw [hSome, Option.some.injEq] at hTurn
    have hKeyword := List.length_pos_iff.mpr form.keyword_ne_nil
    have hLeft := List.length_pos_iff.mpr hFound
    rw [← hTurn, List.length_drop]
    omega

/-
  A turn keeps what was found together with what a scan of
  the rest still finds.
-/
theorem scan_of_turn
    {progress further : Progress α}
    (hTurn : form.turn progress = some further) :
    further.found ++ form.scan further.rest =
      progress.found ++ form.scan progress.rest := by
  rcases turn_cases form progress with
    ⟨_, hNone⟩ | ⟨declaration, rest, hRead, hSome⟩ |
      ⟨_, hRead, hSome⟩
  · simp [hNone] at hTurn
  · rw [hSome, Option.some.injEq] at hTurn
    rw [← hTurn, scan_of_read? hRead, List.append_assoc,
      List.singleton_append]
  · rw [hSome, Option.some.injEq] at hTurn
    rw [← hTurn, scan_of_read?_eq_none hRead]

/-
  A turn keeps what was found together with what a search of
  the rest still finds.
-/
theorem Seekable.search_of_turn
    (hSeekable : form.Seekable)
    {progress further : Progress α}
    (hTurn : form.turn progress = some further) :
    further.found ++ form.search further.rest =
      progress.found ++ form.search progress.rest := by
  rw [hSeekable.search_seek progress.rest]
  rcases turn_cases form progress with
    ⟨_, hNone⟩ | ⟨declaration, rest, hRead, hSome⟩ |
      ⟨hFound, hRead, hSome⟩
  · simp [hNone] at hTurn
  · rw [hSome, Option.some.injEq] at hTurn
    rw [← hTurn, search_of_read? hRead, List.append_assoc,
      List.singleton_append]
  · rw [hSome, Option.some.injEq] at hTurn
    rw [← hTurn, hSeekable.search_drop_keyword
      (keyword_isPrefix_seek hFound) hRead]

/- When no turn is left the keyword does not occur. -/
theorem seek_of_turn_eq_none
    {progress : Progress α}
    (hTurn : form.turn progress = none) :
    seek form.keyword progress.rest = [] := by
  rcases turn_cases form progress with
    ⟨hSeek, _⟩ | ⟨_, _, _, hSome⟩ | ⟨_, _, hSome⟩
  · exact hSeek
  · simp [hTurn] at hSome
  · simp [hTurn] at hSome

/- A scan stops, after one turn a character at most. -/
theorem exists_haltsAfter
    (form : DeclarationForm α)
    (progress : Progress α) :
    ∃ turns last,
      turns ≤ progress.rest.length ∧
        form.HaltsAfter turns progress last := by
  induction hLength : progress.rest.length
    using Nat.strong_induction_on generalizing progress with
  | h length ih =>
      cases hTurn : form.turn progress with
      | none =>
          exact ⟨0, progress, Nat.zero_le _, .stop hTurn⟩
      | some further =>
          have hShorter := length_of_turn hTurn
          rcases ih further.rest.length (by omega) further rfl
            with ⟨turns, last, hTurns, hHalts⟩
          exact
            ⟨turns + 1, last, by omega, .next hTurn hHalts⟩

/- A scan that stops has found what it finds. -/
theorem HaltsAfter.found_eq_scan
    {turns : Nat}
    {progress last : Progress α}
    (hHalts : form.HaltsAfter turns progress last) :
    last.found = progress.found ++ form.scan progress.rest := by
  induction hHalts with
  | stop hTurn =>
      rw [scan_of_seek_nil (seek_of_turn_eq_none hTurn),
        List.append_nil]
  | next hTurn _ ih => rw [ih, scan_of_turn hTurn]

/- A scan that stops has found what a search finds. -/
theorem HaltsAfter.found_eq_search
    (hSeekable : form.Seekable)
    {turns : Nat}
    {progress last : Progress α}
    (hHalts : form.HaltsAfter turns progress last) :
    last.found =
      progress.found ++ form.search progress.rest := by
  induction hHalts with
  | stop hTurn =>
      rw [hSeekable.search_seek, seek_of_turn_eq_none hTurn,
        search_nil, List.append_nil]
  | next hTurn _ ih => rw [ih, hSeekable.search_of_turn hTurn]

/- A scan finds exactly what the search finds. -/
theorem Seekable.scan_eq_search
    (hSeekable : form.Seekable)
    (text : List Char) :
    form.scan text = form.search text := by
  rcases exists_haltsAfter form ⟨text, []⟩ with
    ⟨turns, last, _, hHalts⟩
  calc
    form.scan text = last.found := hHalts.found_eq_scan.symm
    _ = form.search text := hHalts.found_eq_search hSeekable

/- A scan stops with what it finds. -/
theorem exists_haltsAfter_scan
    (form : DeclarationForm α)
    (text : List Char) :
    ∃ turns left,
      turns ≤ text.length ∧
        form.HaltsAfter turns ⟨text, []⟩
          ⟨left, form.scan text⟩ := by
  rcases exists_haltsAfter form ⟨text, []⟩ with
    ⟨turns, last, hTurns, hHalts⟩
  have hFound : last.found = form.scan text :=
    hHalts.found_eq_scan
  refine ⟨turns, last.rest, hTurns, ?_⟩
  rw [← hFound]
  exact hHalts

end DeclarationForm

end ShaderBindings

------------------------------------------------------------
-- Scanning a Shader
------------------------------------------------------------

namespace ShaderBindings

open DeclarationForm

/- A reader that starts with a keyword reads nothing else. -/
theorem Form.isPrefix_of_keyword?_bind
    {α : Type}
    {keyword text : List Char}
    {next : List Char → Option α}
    {found : α}
    (hRead : (keyword? keyword text).bind next = some found) :
    keyword <+: text := by
  rcases Option.bind_eq_some_iff.mp hRead with
    ⟨after, hKeyword, _⟩
  exact ⟨after, (keyword?_eq_some_iff.mp hKeyword).symm⟩

/- The keyword of uniforms leads to all of them. -/
theorem Uniform.form_seekable : Uniform.form.Seekable where
  starts_with_keyword := by
    intro text rest declaration hRead
    exact Form.isPrefix_of_keyword?_bind hRead
  not_overlaps := by decide

/- The keyword of attributes leads to all of them. -/
theorem Attribute.form_seekable : Attribute.form.Seekable where
  starts_with_keyword := by
    intro text rest declaration hRead
    exact Form.isPrefix_of_keyword?_bind hRead
  not_overlaps := by decide

namespace Declarations

/-
  The declarations of a shader are the successes of the
  readers, tried at every character of its text. Both scans
  stop, whatever the text is.
-/
theorem ofSource_finds_every_success (source : String) :
    (ofSource source).uniforms =
        Uniform.form.search source.toList ∧
      (ofSource source).attributes =
        Attribute.form.search source.toList ∧
      (∃ turns left,
        turns ≤ source.toList.length ∧
          Uniform.form.HaltsAfter turns ⟨source.toList, []⟩
            ⟨left, (ofSource source).uniforms⟩) ∧
      (∃ turns left,
        turns ≤ source.toList.length ∧
          Attribute.form.HaltsAfter turns ⟨source.toList, []⟩
            ⟨left, (ofSource source).attributes⟩) := by
  refine ⟨?_, ?_, ?_, ?_⟩
  · exact Uniform.form_seekable.scan_eq_search source.toList
  · exact Attribute.form_seekable.scan_eq_search source.toList
  · exact exists_haltsAfter_scan _ source.toList
  · exact exists_haltsAfter_scan _ source.toList

end Declarations

end ShaderBindings
