import ShaderBindings.MethodName
import ShaderBindings.Proofs.Code.Ident
import ShaderBindings.Proofs.Declaration.Pieces
import ShaderBindings.Proofs.Text.LetterCase

/-
  Methods of words are solid. The lower-case form of a solid
  character is solid again, as no run of the case mapping
  leads to white space or to a mark, and the underscores that
  join words are solid as well.

  Key theorems include:
    * `isSolid_of_mem_lowered`
    * `MethodName.isSolid_of_mem_snakeFrom`
    * `MethodName.uniformSetter_solid`
    * `MethodName.attributeSetter_solid`
-/

------------------------------------------------------------
-- Lower-Case Characters
------------------------------------------------------------

namespace ShaderBindings

namespace Code

open Text

/- The lower-case mapping never leads to trivia. -/
theorem loweredSpans_apart :
    Spans.Apart loweredSpans looseSpans :=
  Spans.apart_of_all (by decide +kernel)

/- The characters of ASCII stay solid in lower case. -/
theorem isSolid_toLower
    {c : Char}
    (hSmall : c.toNat < 128)
    (hSolid : isSolid c = true) :
    isSolid c.toLower = true := by
  revert hSolid
  exact of_ascii hSmall (by decide)

/- Lower case keeps a character solid. -/
theorem isSolid_of_mem_lowered
    {c d : Char}
    (hSolid : isSolid c = true)
    (hLowered : d ∈ lowered c) :
    isSolid d = true := by
  rcases mem_lowered_cases hLowered with
    ⟨hSmall, rfl⟩ | rfl | hContains
  · exact isSolid_toLower hSmall hSolid
  · exact hSolid
  · have hOutside :=
      loweredSpans_apart.contains_eq_false hContains
    simp [isSolid, hOutside]

end Code

end ShaderBindings

------------------------------------------------------------
-- Names of Setters
------------------------------------------------------------

namespace ShaderBindings

namespace MethodName

open Code
open Form
open Text

/- A solid text is solid in lower-case words. -/
theorem isSolid_of_mem_snakeFrom
    {previous : Option Char}
    {text : List Char}
    (hSolid : ∀ c ∈ text, isSolid c = true)
    {d : Char}
    (hMember : d ∈ snakeFrom previous text) :
    isSolid d = true := by
  induction text generalizing previous with
  | nil => cases hMember
  | cons c rest ih =>
      have hFirst : isSolid c = true := hSolid c (by simp)
      have hRest : ∀ e ∈ rest, isSolid e = true := by
        intro e hTail
        exact hSolid e (List.mem_cons_of_mem c hTail)
      rw [snakeFrom] at hMember
      split at hMember
      · rcases List.mem_append.mp hMember with hWord | hTail
        · rcases List.mem_append.mp hWord with hScore | hLower
          · split at hScore
            · rw [List.mem_singleton.mp hScore]
              decide
            · cases hScore
          · exact isSolid_of_mem_lowered hFirst hLower
        · exact ih hRest hTail
      · rcases List.mem_cons.mp hMember with hHead | hTail
        · rw [hHead]
          exact hFirst
        · exact ih hRest hTail

/- The setter of a uniform named by a word is solid. -/
theorem uniformSetter_solid
    {name : String}
    (hName : IsWord name) :
    ∀ c ∈ (uniformSetter name).toList, isSolid c = true := by
  intro c hMember
  simp only [uniformSetter, snakeCase, String.toList_append,
    String.toList_ofList, List.mem_append] at hMember
  rcases hMember with hStart | hWords
  · have hAll : "set_".toList.all isSolid = true := by
      decide
    exact List.all_eq_true.mp hAll c hStart
  · refine isSolid_of_mem_snakeFrom ?_ hWords
    intro d hWord
    exact isSolid_of_isWordChar (hName.isWordChar hWord)

/- The setter of an attribute named by a word is solid. -/
theorem attributeSetter_solid
    {name : String}
    (hName : IsWord name) :
    ∀ c ∈ (attributeSetter name).toList, isSolid c = true := by
  intro c hMember
  have hSetter :
      attributeSetter name =
        uniformSetter name ++ "_attribute" := by
    rfl
  rw [hSetter, String.toList_append, List.mem_append] at hMember
  rcases hMember with hUniform | hEnd
  · exact uniformSetter_solid hName c hUniform
  · have hAll : "_attribute".toList.all isSolid = true := by
      decide
    exact List.all_eq_true.mp hAll c hEnd

theorem aggregateSetter_solid :
    ∀ c ∈ aggregateSetter.toList, isSolid c = true :=
  List.all_eq_true.mp (by decide)

end MethodName

end ShaderBindings
