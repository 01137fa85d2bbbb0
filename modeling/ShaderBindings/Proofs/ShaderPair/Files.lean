import ShaderBindings.Proofs.ShaderPair.FileName

/-
  The files of a pair. Both are named by an extension of a
  stage, in some letter case, and no such name is one of a
  file with code. The partner has the first names of its
  primary, unless it has no file name at all.

  Key definitions include:
    * `IsCodeName`
    * `Path.NamesShader`

  Key theorems include:
    * `isCodeName_classFile`
    * `ShaderPair.namesShader_primary`
    * `ShaderPair.names_partner`
-/

------------------------------------------------------------
-- Names of Files with Code
------------------------------------------------------------

namespace ShaderBindings

/- The name is one of a file with code. -/
def IsCodeName (name : String) : Prop :=
  ['.', 'r', 's'] <:+ name.toList

instance (name : String) : Decidable (IsCodeName name) :=
  inferInstanceAs (Decidable (_ <:+ _))

/- Bindings are written to files with code. -/
theorem isCodeName_classFile (className : String) :
    IsCodeName (classFile className) := by
  rw [IsCodeName, classFile, String.toList_append]
  exact List.suffix_append _ _

theorem Stage.map_toLower_of_ofExtension
    {extension : List Char}
    {stage : Stage}
    (hStage : Stage.ofExtension? extension = some stage) :
    extension.map Char.toLower = stage.extension := by
  unfold ofExtension? at hStage
  dsimp only at hStage
  split at hStage
  · rename_i hVertex
    cases hStage
    exact hVertex
  · split at hStage
    · rename_i hFragment
      cases hStage
      exact hFragment
    · cases hStage

/- The extension of a stage is one of the stage. -/
theorem Stage.ofExtension_extension (stage : Stage) :
    Stage.ofExtension? stage.extension = some stage := by
  cases stage with
  | vertex => rfl
  | fragment => decide

/- The extension of a stage holds no slash. -/
theorem Stage.slash_not_mem_extension (stage : Stage) :
    '/' ∉ stage.extension := by
  cases stage with
  | vertex => decide
  | fragment => decide

/- A name that ends in the extension of a stage is no code. -/
theorem not_isCodeName_of_stage
    {extension : List Char}
    {stage : Stage}
    (hStage : Stage.ofExtension? extension = some stage)
    (stem : List Char) :
    ¬ IsCodeName
      (String.ofList (stem ++ '.' :: extension)) := by
  have hLowered :=
    Stage.map_toLower_of_ofExtension hStage
  intro hCode
  rw [IsCodeName, String.toList_ofList] at hCode
  rcases hCode with ⟨before, hBefore⟩
  have hLast := congrArg List.getLast? hBefore
  rw [List.getLast?_append, List.getLast?_append] at hLast
  cases hExtension : extension.getLast? with
  | none =>
      rw [List.getLast?_eq_none_iff.mp hExtension] at hLowered
      cases stage <;> cases hLowered
  | some c =>
      have hEnd : c = 's' := by
        simpa [List.getLast?_cons, hExtension] using hLast.symm
      have hSame := congrArg List.getLast? hLowered
      rw [List.getLast?_map, hExtension, hEnd] at hSame
      cases stage <;> exact absurd hSame (by decide)

end ShaderBindings

------------------------------------------------------------
-- Files of a Pair
------------------------------------------------------------

namespace ShaderBindings

/- The last name on a path is one of a file without code. -/
def Path.NamesShader (path : Path) : Prop :=
  ∃ first name,
    Path.names path.chars = first ++ [name] ∧
      Path.IsPlainName name ∧
      ¬ IsCodeName name

namespace ShaderPair

open ShaderBindings.Path

variable {path : Path}
variable {pair : ShaderPair}

/- The partner is the primary with another extension. -/
theorem exists_stage_of_ofFile
    (hPair : ofFile path = .ok pair) :
    ∃ stage,
      Stage.ofPath? path = some stage ∧
        pair.primary = path ∧
        pair.partner =
          path.withExtension stage.partner.extension := by
  unfold ofFile at hPair
  split at hPair
  · cases hPair
  · rename_i stage hStage
    cases hPair
    exact ⟨stage, hStage, rfl, rfl⟩

/- The primary is named by an extension of a stage. -/
theorem namesShader_primary
    (hPair : ofFile path = .ok pair) :
    pair.primary.NamesShader := by
  rcases exists_stage_of_ofFile hPair with
    ⟨stage, hStage, hPrimary, _⟩
  rcases Option.bind_eq_some_iff.mp hStage with
    ⟨extension, hExtension, hOfExtension⟩
  rcases Option.bind_eq_some_iff.mp hExtension with
    ⟨name, hName, hParted⟩
  rcases names_of_fileName hName with
    ⟨before, _, hNames, hPlain⟩
  rw [hPrimary]
  refine ⟨_, _, hNames, hPlain, ?_⟩
  rw [eq_of_partName hParted]
  exact not_isCodeName_of_stage hOfExtension _

/-
  A partner that ends in a plain name is named by an
  extension of a stage as well, behind first names of the
  primary. It may also have no name, or lead up at its end.
-/
theorem names_partner
    {first : List String}
    {name : String}
    (hPair : ofFile path = .ok pair)
    (hNames : names pair.partner.chars = first ++ [name])
    (hPlain : IsPlainName name) :
    first <+: names pair.primary.chars ∧
      ¬ IsCodeName name := by
  rcases exists_stage_of_ofFile hPair with
    ⟨stage, _, rfl, hPartner⟩
  have hUnslashed :=
    stage.partner.slash_not_mem_extension
  rw [hPartner] at hNames
  cases renamed_withExtension hUnslashed pair.primary with
  | named first stem hFirst hName hStem hRenamed =>
      rw [hRenamed, List.append_singleton_inj] at hNames
      rcases hNames with ⟨rfl, rfl⟩
      exact
        ⟨hFirst,
          not_isCodeName_of_stage
            (Stage.ofExtension_extension _) stem⟩
  | unnamed hRenamed =>
      rw [hRenamed] at hNames
      simp at hNames
  | above others hRenamed =>
      rw [hRenamed, List.append_singleton_inj] at hNames
      exact absurd hNames.2.symm hPlain.not_above

end ShaderPair

end ShaderBindings
