import ShaderBindings.Proofs.Path.Behind
import ShaderBindings.Proofs.ShaderPair.ByStem
import ShaderBindings.Proofs.ShaderPair.Files

/-
  How the files of a stem are spelled. The extension of a
  stage counts in every letter case, but a partner is always
  looked for under the one usual name, and not at all when
  the stem is a dot.

  Key definitions include:
    * `Stage.Spells`
    * `Stage.usualName`

  Key theorems include:
    * `ShaderPair.isShader_join_iff`
    * `ShaderPair.partner_join`
    * `ShaderPair.partner_join_dot`
-/

------------------------------------------------------------
-- Spellings
------------------------------------------------------------

namespace ShaderBindings

namespace Stage

/-
  A name is that of a file of a stage under a stem: the stem,
  a dot and the extension of the stage in some letter case.
-/
def Spells
    (stage : Stage)
    (stem name : String) : Prop :=
  stem ≠ "" ∧
    ∃ extension : List Char,
      extension.map Char.toLower = stage.extension ∧
        name.toList = stem.toList ++ '.' :: extension

/- The name of a file of a stage with a lower-case extension. -/
def usualName
    (stage : Stage)
    (stem : String) : String :=
  String.ofList (stem.toList ++ '.' :: stage.extension)

variable {stage : Stage}
variable {stem name : String}
variable {extension : List Char}

/- An extension stands for a stage in every letter case. -/
theorem ofExtension?_eq_some_iff :
    ofExtension? extension = some stage ↔
      extension.map Char.toLower = stage.extension := by
  constructor
  · exact map_toLower_of_ofExtension
  · intro hLowered
    unfold ofExtension?
    dsimp only
    rw [hLowered]
    cases stage with
    | vertex => rfl
    | fragment => decide

/- What is not in the extension of a stage is in no spelling. -/
theorem not_mem_of_map_toLower
    {c : Char}
    (hLowered :
      extension.map Char.toLower = stage.extension)
    (hOutside : c.toLower ∉ stage.extension) :
    c ∉ extension := by
  intro hMember
  apply hOutside
  rw [← hLowered]
  exact List.mem_map_of_mem hMember

/- An extension of a stage holds no dot. -/
theorem dot_not_mem_of_map_toLower
    (hLowered :
      extension.map Char.toLower = stage.extension) :
    '.' ∉ extension := by
  apply not_mem_of_map_toLower hLowered
  cases stage with
  | vertex => decide
  | fragment => decide

/- The usual name of a file is one of its spellings. -/
theorem spells_usualName
    (hStem : stem ≠ "")
    (stage : Stage) :
    stage.Spells stem (stage.usualName stem) := by
  refine ⟨hStem, stage.extension, ?_, ?_⟩
  · exact map_toLower_of_ofExtension
      (ofExtension_extension stage)
  · exact String.toList_ofList

/- A spelling of a stem that can stand in a path is plain. -/
theorem Spells.isPlainName
    (hSpells : stage.Spells stem name)
    (hUnslashed : '/' ∉ stem.toList) :
    Path.IsPlainName name := by
  rcases hSpells with ⟨hStem, extension, hLowered, hName⟩
  have hExtension : extension.length = 4 := by
    have hLength := congrArg List.length hLowered
    rw [List.length_map] at hLength
    rw [hLength]
    cases stage <;> rfl
  have hLong : 4 < name.toList.length := by
    rw [hName, List.length_append, List.length_cons]
    omega
  have hNoSlash : '/' ∉ extension := by
    apply not_mem_of_map_toLower hLowered
    cases stage with
    | vertex => decide
    | fragment => decide
  exact {
    nonempty := by
      intro hEmpty
      simp [hEmpty] at hLong
    unslashed := by
      rw [hName]
      simp [hUnslashed, hNoSlash]
    not_here := by
      rintro rfl
      exact absurd hLong (by decide)
    not_above := by
      rintro rfl
      exact absurd hLong (by decide) }

end Stage

end ShaderBindings

------------------------------------------------------------
-- Files in a Directory
------------------------------------------------------------

namespace ShaderBindings

open ShaderBindings.Path

namespace ShaderPair

variable {stage : Stage}
variable {stem name : String}

/- A file in a directory counts for the stem it is spelled by. -/
theorem isShader_join_iff
    (hName : IsPlainName name)
    (directory : Path) :
    (directory.join ⟨name⟩).isShader stage stem = true ↔
      stage.Spells stem name := by
  have hParts :
      (directory.join ⟨name⟩).isShader stage stem = true ↔
        (partName name.toList).2.bind Stage.ofExtension? =
            some stage ∧
          (partName name.toList).1 = stem.toList := by
    rw [Path.isShader, decide_eq_true_iff, Stage.ofPath?,
      extension_join hName, stem_join hName, Option.some.injEq]
  rw [hParts]
  constructor
  · rintro ⟨hStage, hStem⟩
    rcases Option.bind_eq_some_iff.mp hStage with
      ⟨extension, hExtension, hOf⟩
    refine ⟨?_, extension,
      Stage.ofExtension?_eq_some_iff.mp hOf, ?_⟩
    · rintro rfl
      exact partName_ne_nil hName.nonempty hStem
    · rw [← hStem]
      exact eq_of_partName hExtension
  · rintro ⟨hStem, extension, hLowered, hSpelled⟩
    have hFilled : stem.toList ≠ [] :=
      mt String.toList_eq_nil_iff.mp hStem
    rw [hSpelled, partName_append_dot hFilled
      (Stage.dot_not_mem_of_map_toLower hLowered)]
    exact ⟨Stage.ofExtension?_eq_some_iff.mpr hLowered, rfl⟩

/- The stem of a file in a directory holds no slash. -/
theorem slash_not_mem_of_spells
    (hName : IsPlainName name)
    (hSpells : stage.Spells stem name) :
    '/' ∉ stem.toList := by
  rcases hSpells with ⟨_, extension, _, hSpelled⟩
  exact hName.slash_not_mem_of_append hSpelled

/-
  The partner of a file in a directory is looked for in this
  directory, under the usual name for the stem.
-/
theorem partner_join
    {pair : ShaderPair}
    (hName : IsPlainName name)
    (hSpells : stage.Spells stem name)
    (hDot : stem ≠ ".")
    {directory : Path}
    (hPair : ofFile (directory.join ⟨name⟩) = .ok pair) :
    pair.partner =
      directory.join ⟨stage.partner.usualName stem⟩ := by
  rw [ofFile_eq_ok ((isShader_join_iff hName directory).mpr
    hSpells)] at hPair
  cases hPair
  have hUsual : IsPlainName (stage.partner.usualName stem) :=
    (Stage.spells_usualName hSpells.1 _).isPlainName
      (slash_not_mem_of_spells hName hSpells)
  rcases hSpells with ⟨hStem, extension, hLowered, hSpelled⟩
  have hFilled : stem.toList ≠ [] :=
    mt String.toList_eq_nil_iff.mp hStem
  have hNotDot : stem.toList ≠ ['.'] := by
    intro hHere
    exact hDot (String.toList_injective hHere)
  dsimp only
  rw [withExtension_join hName hSpelled hFilled
      (Stage.dot_not_mem_of_map_toLower hLowered) hNotDot,
    join_eq_ofChars hUsual, Stage.usualName,
    String.toList_ofList]

/- The partner of a file whose stem is a dot leads up. -/
theorem partner_join_dot
    {pair : ShaderPair}
    (hName : IsPlainName name)
    (hSpells : stage.Spells "." name)
    {directory : Path}
    (hPair : ofFile (directory.join ⟨name⟩) = .ok pair) :
    pair.partner = ofChars (directory.opening ++ ['.', '.']) := by
  rw [ofFile_eq_ok ((isShader_join_iff hName directory).mpr
    hSpells)] at hPair
  cases hPair
  rcases hSpells with ⟨_, extension, hLowered, hSpelled⟩
  exact withExtension_join_dot hName hSpelled
    (Stage.dot_not_mem_of_map_toLower hLowered) directory

end ShaderPair

end ShaderBindings
