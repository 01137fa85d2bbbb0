import Mathlib.Data.String.Basic
import ShaderBindings.Code.Ident
import ShaderBindings.Proofs.Text.Classes

/-
  Identifiers of solid texts. A character is solid when no
  trivia starts with it and no mark is made of it. A text of
  solid characters only names an identifier if it is one, so
  the identifier is written exactly like the text.

  Key definitions include:
    * `looseSpans`
    * `isSolid`

  Key theorems include:
    * `skipTrivia_of_solid`
    * `soleWord?_of_solid`
    * `Ident.text_of_solid`
    * `HostType.text_of_solid`
-/

------------------------------------------------------------
-- Solid Characters
------------------------------------------------------------

namespace ShaderBindings

namespace Code

open Text

/-
  What is not part of a word on either side of it: white
  space, the marks of the direction of writing, the slash
  that starts a comment, and the byte order mark.
-/
def looseSpans : Spans :=
  blankSpans ++
    [(0x200E, 0x200F), (0x2F, 0x2F), (0xFEFF, 0xFEFF)]

/- A character that no trivia starts with. -/
def isSolid (c : Char) : Bool :=
  !looseSpans.contains c

theorem looseSpans_apart :
    Spans.Apart wordSpans looseSpans := by
  rw [looseSpans, Spans.apart_append_iff]
  exact
    ⟨blankSpans_apart.symm,
      Spans.apart_of_all (by decide +kernel)⟩

/- The characters of words are solid. -/
theorem isSolid_of_isWordChar
    {c : Char}
    (hWord : isWordChar c = true) :
    isSolid c = true := by
  have hOutside :=
    looseSpans_apart.contains_eq_false
      (wordSpans_contains hWord)
  simp [isSolid, hOutside]

theorem isSolid_eq_false_of_mem
    {span : Nat × Nat}
    {c : Char}
    (hSpan : span ∈ looseSpans)
    (hFirst : span.1 ≤ c.toNat)
    (hLast : c.toNat ≤ span.2) :
    isSolid c = false := by
  have hContains : looseSpans.contains c = true :=
    Spans.contains_eq_true_iff.mpr
      ⟨span, hSpan, hFirst, hLast⟩
  simp [isSolid, hContains]

/- A solid character is not white space between tokens. -/
theorem isTriviaBlank_eq_false_of_isSolid
    {c : Char}
    (hSolid : isSolid c = true) :
    isTriviaBlank c = false := by
  rw [Bool.eq_false_iff]
  intro hBlank
  have hLoose : isSolid c = false := by
    simp only [isTriviaBlank, Bool.or_eq_true,
      beq_iff_eq] at hBlank
    rcases hBlank with (hBlank | hLeft) | hRight
    · rcases Spans.contains_eq_true_iff.mp hBlank with
        ⟨span, hSpan, hFirst, hLast⟩
      exact isSolid_eq_false_of_mem
        (List.mem_append_left _ hSpan) hFirst hLast
    · exact isSolid_eq_false_of_mem
        (by decide : (0x200E, 0x200F) ∈ looseSpans)
        (by simp [hLeft]) (by simp [hLeft])
    · exact isSolid_eq_false_of_mem
        (by decide : (0x200E, 0x200F) ∈ looseSpans)
        (by simp [hRight]) (by simp [hRight])
  rw [hLoose] at hSolid
  cases hSolid

/- A solid character is not the start of a comment. -/
theorem ne_slash_of_isSolid
    {c : Char}
    (hSolid : isSolid c = true) :
    c ≠ '/' := by
  intro hSlash
  rw [hSlash] at hSolid
  revert hSolid
  decide

/- A solid character is not the mark before a text. -/
theorem ne_byteOrderMark_of_isSolid
    {c : Char}
    (hSolid : isSolid c = true) :
    c ≠ byteOrderMark := by
  intro hMark
  rw [hMark] at hSolid
  revert hSolid
  decide

end Code

end ShaderBindings

------------------------------------------------------------
-- Texts without Trivia
------------------------------------------------------------

namespace ShaderBindings

namespace Code

open Text

/- Nothing is skipped in front of a solid character. -/
theorem afterTrivium?_of_isSolid
    {c : Char}
    (hSolid : isSolid c = true)
    (rest : List Char) :
    afterTrivium? (c :: rest) = none := by
  have hSlash := ne_slash_of_isSolid hSolid
  simp [afterTrivium?, afterLineComment?,
    afterBlockComment?,
    isTriviaBlank_eq_false_of_isSolid hSolid, hSlash]

/- A text that is solid throughout has no trivia to skip. -/
theorem skipTrivia_of_solid
    {text : List Char}
    (hSolid : ∀ c ∈ text, isSolid c = true) :
    skipTrivia text = text := by
  cases text with
  | nil =>
      rw [skipTrivia]
      rfl
  | cons c rest =>
      have hNone :=
        afterTrivium?_of_isSolid (hSolid c (by simp)) rest
      rw [skipTrivia]
      split
      · rfl
      · rename_i hSome
        rw [hNone] at hSome
        cases hSome

/- A word at the start of a text is written like it is. -/
theorem plainWord?_append
    {text word rest : List Char}
    (hWord : plainWord? text = some (word, rest)) :
    text = word ++ rest := by
  unfold plainWord? at hWord
  split at hWord
  · cases hWord
  · split at hWord
    · cases hWord
      simp [List.takeWhile_append_dropWhile]
    · cases hWord

theorem wordToken?_append
    {text rest : List Char}
    {word : String}
    (hWord : wordToken? text = some (word, rest)) :
    text = word.toList ++ rest := by
  unfold wordToken? at hWord
  split at hWord
  · rename_i marked
    split at hWord
    · rename_i plain after hPlain
      split at hWord
      · cases hWord
      · cases hWord
        simp [plainWord?_append hPlain]
    · cases hWord
  · split at hWord
    · rename_i plain after hPlain
      cases hWord
      simp [plainWord?_append hPlain]
    · cases hWord

/- The word of a solid text stands at its start. -/
theorem wordToken?_of_soleWord?
    {text word : String}
    (hSolid : ∀ c ∈ text.toList, isSolid c = true)
    (hWord : soleWord? text = some word) :
    ∃ rest,
      wordToken? text.toList = some (word, rest) ∧
        skipTrivia rest = [] := by
  have hSkip := skipTrivia_of_solid hSolid
  unfold soleWord? at hWord
  cases hChars : text.toList with
  | nil =>
      rw [hChars] at hSkip
      simp only [hChars, hSkip] at hWord
      cases hWord
  | cons c rest =>
      have hMark : c ≠ byteOrderMark :=
        ne_byteOrderMark_of_isSolid
          (hSolid c (by simp [hChars]))
      rw [hChars] at hSkip
      simp only [hChars, if_neg hMark, hSkip] at hWord
      split at hWord
      · rename_i found after hToken
        split at hWord
        · rename_i hEmpty
          cases hWord
          exact ⟨after, hToken, List.isEmpty_iff.mp hEmpty⟩
        · cases hWord
      · cases hWord

/- The one word of a solid text is the text. -/
theorem soleWord?_of_solid
    {text word : String}
    (hSolid : ∀ c ∈ text.toList, isSolid c = true)
    (hWord : soleWord? text = some word) :
    word = text := by
  rcases wordToken?_of_soleWord? hSolid hWord with
    ⟨rest, hToken, hSkip⟩
  have hText := wordToken?_append hToken
  have hRest : skipTrivia rest = rest := by
    apply skipTrivia_of_solid
    intro c hMember
    apply hSolid
    rw [hText]
    exact List.mem_append_right _ hMember
  rw [← hRest, hSkip, List.append_nil] at hText
  exact (String.toList_injective hText).symm

/- An identifier is written like the solid text naming it. -/
theorem Ident.text_of_solid
    {text : String}
    {name : Ident}
    (hSolid : ∀ c ∈ text.toList, isSolid c = true)
    (hName : Ident.ofString? text = some name) :
    name.text = text := by
  unfold Ident.ofString? at hName
  split at hName
  · rename_i word hWord
    split at hName
    · cases hName
    · cases hName
      exact soleWord?_of_solid hSolid hWord
  · cases hName

/- A host type is written like the solid text naming it. -/
theorem HostType.text_of_solid
    {text : String}
    {type : HostType}
    (hSolid : ∀ c ∈ text.toList, isSolid c = true)
    (hType : HostType.ofString? text = some type) :
    type.text = text := by
  unfold HostType.ofString? at hType
  split at hType
  · rename_i word hWord
    split at hType
    · cases hType
      exact soleWord?_of_solid hSolid hWord
    · cases hType
  · cases hType

end Code

end ShaderBindings
