import ShaderBindings.Interface
import ShaderBindings.ShaderPair
import ShaderBindings.Proofs.MethodName.Solid
import ShaderBindings.Proofs.Path.Extension

/-
  The names of the files that bindings are written to. The
  base name of a pair is a stem, which holds no slash, and no
  character has a slash in its upper-case form. So the name
  of a class and its ending are a plain name.

  Key definitions include:
    * `classFile`

  Key theorems include:
    * `slash_not_mem_raised`
    * `ShaderPair.slash_not_mem_baseName`
    * `isPlainName_classFile`
-/

------------------------------------------------------------
-- Upper-Case Characters
------------------------------------------------------------

namespace ShaderBindings

namespace Text

/- The code of a slash. -/
theorem toNat_slash : '/'.toNat = 0x2F :=
  rfl

/- No run of the upper-case mapping leads to a slash. -/
theorem raisedRuns_no_slash :
    ∀ run ∈ raisedRuns,
      0x2F < run.codes.1 ∨ run.codes.2 < 0x2F := by
  decide +kernel

/- No long upper-case form holds a slash. -/
theorem raisedLong_no_slash :
    ∀ entry ∈ raisedLong, 0x2F ∉ entry.2 := by
  decide +kernel

theorem toUpper_ne_slash
    {c : Char}
    (hSmall : c.toNat < 128)
    (hOther : c ≠ '/') :
    c.toUpper ≠ '/' := by
  revert hOther
  exact of_ascii hSmall (by decide)

/- An upper-case form holds no slash that was not there. -/
theorem slash_not_mem_raised
    {c : Char}
    (hOther : c ≠ '/') :
    '/' ∉ raised c := by
  unfold raised
  split
  · rename_i hSmall
    rw [List.mem_singleton]
    exact (toUpper_ne_slash hSmall hOther).symm
  · split
    · rename_i codes hCodes
      intro hSlash
      rcases List.mem_map.mp hSlash with ⟨code, hCode, hChar⟩
      have hEntry : (c.toNat, codes) ∈ raisedLong := by
        rcases List.lookup_eq_some_iff.mp hCodes with
          ⟨before, behind, hLong, _⟩
        rw [hLong]
        simp
      have hKind := toNat_ofNat_eq_or code
      rw [hChar, toNat_slash] at hKind
      rcases hKind with hZero | hSame
      · omega
      · apply raisedLong_no_slash _ hEntry
        rw [hSame]
        exact hCode
    · rw [List.mem_singleton]
      intro hSlash
      cases hLookup : CaseRun.lookup? raisedRuns c with
      | none =>
          rw [hLookup] at hSlash
          exact hOther hSlash.symm
      | some image =>
          rw [hLookup, Option.getD_some] at hSlash
          rcases List.exists_of_findSome?_eq_some hLookup with
            ⟨run, hRun, hImage⟩
          have hOutside := raisedRuns_no_slash run hRun
          have hCodes := CaseRun.toNat_image hImage
          rw [← hSlash, toNat_slash] at hCodes
          omega

end Text

end ShaderBindings

------------------------------------------------------------
-- Stems
------------------------------------------------------------

namespace ShaderBindings

namespace ShaderPair

/- The base name of a pair holds no slash. -/
theorem slash_not_mem_baseName
    {path : Path}
    {pair : ShaderPair}
    (hPair : ofFile path = .ok pair) :
    '/' ∉ pair.baseName.toList := by
  unfold ofFile at hPair
  split at hPair
  · cases hPair
  · cases hPair
    rw [String.toList_ofList]
    cases hStem : path.stem? with
    | none => simp
    | some stem => exact Path.slash_not_mem_stem hStem

end ShaderPair

end ShaderBindings

------------------------------------------------------------
-- Files of Classes
------------------------------------------------------------

namespace ShaderBindings

/- The name of the file for a class. -/
def classFile (className : String) : String :=
  className ++ ".rs"

/- Classes with files of one name have one name. -/
theorem classFile_inj
    {className other : String}
    (hSame : classFile className = classFile other) :
    className = other := by
  have hChars := congrArg String.toList hSame
  simp only [classFile, String.toList_append,
    List.append_cancel_right_eq] at hChars
  exact String.toList_injective hChars

/- The name of a class holds no slash and is not empty. -/
theorem slash_not_mem_className
    {baseName className : String}
    (hBase : '/' ∉ baseName.toList)
    (hClass : className? baseName = .ok className) :
    '/' ∉ className.toList := by
  unfold className? at hClass
  split at hClass
  · cases hClass
  · rename_i first rest hChars
    cases hClass
    rw [hChars, List.mem_cons, not_or] at hBase
    have hRaised :=
      Text.slash_not_mem_raised (Ne.symm hBase.1)
    simp only [String.toList_append, String.toList_ofList,
      List.mem_append, not_or]
    exact ⟨⟨hRaised, hBase.2⟩, by decide⟩

/- The file of a class is named by a plain name. -/
theorem isPlainName_classFile
    {baseName className : String}
    (hBase : '/' ∉ baseName.toList)
    (hClass : className? baseName = .ok className) :
    Path.IsPlainName (classFile className) := by
  have hUnslashed := slash_not_mem_className hBase hClass
  have hEnd :
      (classFile className).toList =
        className.toList ++ ['.', 'r', 's'] := by
    simp [classFile]
  have hLong : 2 < (classFile className).toList.length := by
    rw [hEnd]
    simp
  exact {
    nonempty := by
      intro hEmpty
      simp [hEmpty] at hLong
    unslashed := by
      rw [hEnd, List.mem_append, not_or]
      exact ⟨hUnslashed, by decide⟩
    not_here := by
      intro hHere
      simp [hHere] at hLong
    not_above := by
      intro hAbove
      simp [hAbove] at hLong }

end ShaderBindings
