import ShaderBindings.Proofs.Path.Components
import ShaderBindings.Proofs.ShaderPair.Spelling

/-
  The two halves of a pair. The partner of a shader lies in
  the same directory under the same stem and has the other
  stage, and the pair that the partner belongs to has the
  same base name and writes to the same place. All of this
  fails for the stem of a single dot, when the cut of the
  extension leaves a step up.

  Key definitions include:
    * `Path.EndsInShader`
    * `Path.EndsInName`
    * `ShaderPair.IsBeside`
    * `ShaderPair.Mirrors`

  Key theorems include:
    * `Path.exists_endsInShader`
    * `Path.EndsInShader.partner_eq`
    * `ShaderPair.isBeside_iff`
    * `ShaderPair.exists_mirrors_iff`
    * `ShaderPair.ofFile_pairs_halves`
-/

------------------------------------------------------------
-- Paths of Shaders
------------------------------------------------------------

namespace ShaderBindings

namespace Path

/-
  The path ends in the name of a shader: a stem, a dot and
  the extension of a stage in some letter case.
-/
structure EndsInShader
    (path : Path)
    (stage : Stage)
    (before stem extension trail : List Char) : Prop where
  endsIn : path.EndsIn before (stem ++ '.' :: extension) trail
  nonempty : stem ≠ []
  lowered : extension.map Char.toLower = stage.extension

variable {path : Path}
variable {stage : Stage}
variable {before stem extension trail : List Char}

/- Every path of a stage ends in the name of a shader. -/
theorem exists_endsInShader
    (hStage : Stage.ofPath? path = some stage) :
    ∃ before stem extension trail,
      path.EndsInShader stage before stem extension trail := by
  rcases Option.bind_eq_some_iff.mp hStage with
    ⟨extension, hExtension, hOf⟩
  rcases Option.bind_eq_some_iff.mp hExtension with
    ⟨name, hName, hParted⟩
  rcases names_of_fileName hName with
    ⟨before, hPiece, _, hPlain⟩
  rcases exists_endsIn hPiece with ⟨trail, hEnds⟩
  refine
    ⟨before, (partName name).1, extension, trail, ?_, ?_, ?_⟩
  · rw [← eq_of_partName hParted]
    exact hEnds
  · exact partName_ne_nil hEnds.isName.nonempty
  · exact Stage.ofExtension?_eq_some_iff.mp hOf

namespace EndsInShader

variable
  (hShader :
    path.EndsInShader stage before stem extension trail)

include hShader

theorem length_extension : extension.length = 4 := by
  have hLength := congrArg List.length hShader.lowered
  rw [List.length_map] at hLength
  rw [hLength]
  cases stage <;> rfl

theorem dot_not_mem : '.' ∉ extension :=
  Stage.dot_not_mem_of_map_toLower hShader.lowered

/- The name of a shader is no step up. -/
theorem ne_dots : stem ++ '.' :: extension ≠ ['.', '.'] := by
  intro hDots
  have hLength := congrArg List.length hDots
  rw [List.length_append, List.length_cons,
    hShader.length_extension] at hLength
  simp only [List.length_cons, List.length_nil] at hLength
  omega

theorem stem_eq : path.stem? = some stem :=
  hShader.endsIn.stem_eq hShader.nonempty hShader.dot_not_mem
    hShader.ne_dots

theorem extension_eq : path.extension? = some extension :=
  hShader.endsIn.extension_eq hShader.nonempty
    hShader.dot_not_mem hShader.ne_dots

theorem stage_eq : Stage.ofPath? path = some stage := by
  rw [Stage.ofPath?, hShader.extension_eq, Option.bind_some,
    Stage.ofExtension?_eq_some_iff]
  exact hShader.lowered

/- The pair that the file belongs to. -/
theorem ofFile_eq :
    ShaderPair.ofFile path =
      .ok {
        baseName := String.ofList stem
        primary := path
        partner :=
          path.withExtension stage.partner.extension } := by
  rw [ShaderPair.ofFile, hShader.stage_eq, hShader.stem_eq,
    Option.getD_some]

/- Something is left of the name, unless it is two dots. -/
theorem cut_ne_dots
    (hKept : stem ≠ ['.'] ∨ trail ≠ []) :
    stem ++ '.' :: extension.take trail.length ≠
      ['.', '.'] := by
  intro hDots
  have hLength := congrArg List.length hDots
  have hStem := List.length_pos_iff.mpr hShader.nonempty
  rw [List.length_append, List.length_cons, List.length_take,
    hShader.length_extension] at hLength
  simp only [List.length_cons, List.length_nil] at hLength
  rcases hKept with hStemKept | hTrail
  · have hOne : stem.length = 1 := by omega
    rcases List.length_eq_one_iff.mp hOne with ⟨c, rfl⟩
    apply hStemKept
    simpa using congrArg List.head? hDots
  · have hFilled := List.length_pos_iff.mpr hTrail
    omega

/-
  The path of a partner has the same stem behind the same
  text, unless the stem is a dot and nothing follows it.
-/
theorem partner_eq
    (hKept : stem ≠ ['.'] ∨ trail ≠ [])
    (other : List Char) :
    path.withExtension other =
      ofChars (before ++ (stem ++ '.' :: other)) := by
  rw [hShader.endsIn.withExtension hShader.nonempty
      hShader.dot_not_mem hShader.ne_dots
      (hShader.cut_ne_dots hKept),
    List.append_assoc]

end EndsInShader

/- The path of a shader has a stem before any extension. -/
theorem EndsInShader.ofChars_stage
    (hShader :
      path.EndsInShader stage before stem extension trail)
    (other : Stage) :
    (ofChars
      (before ++ (stem ++ '.' :: other.extension))).EndsInShader
        other before stem other.extension [] where
  endsIn :=
    endsIn_append hShader.endsIn.isOpen
      (isName_append_dot hShader.nonempty
        hShader.endsIn.slash_not_mem.1
        other.slash_not_mem_extension)
  nonempty := hShader.nonempty
  lowered :=
    Stage.map_toLower_of_ofExtension
      (Stage.ofExtension_extension other)

/- The partner under a stem of one dot is a step up. -/
theorem EndsInShader.partner_dots
    (hShader :
      path.EndsInShader stage before ['.'] extension [])
    (other : List Char) :
    path.withExtension other =
      ofChars (before ++ ['.', '.']) := by
  apply hShader.endsIn.withExtension_dots _ hShader.dot_not_mem
  rintro rfl
  exact absurd hShader.length_extension (by decide)

/- Two dots at the end of a path name no file. -/
theorem fileName?_dots
    (hOpen : IsOpen before) :
    (ofChars (before ++ ['.', '.'])).fileName? = none := by
  rw [fileName?, (endsIn_append hOpen isName_dots).lastPiece]
  rfl

/- The path ends in the name of its file, without a trail. -/
def EndsInName (path : Path) : Prop :=
  ∃ name ∈ path.fileName?, name <:+ path.chars

/- The last character of an extension is none of a trail. -/
theorem EndsInShader.endsInName_iff
    (hShader :
      path.EndsInShader stage before stem extension trail) :
    path.EndsInName ↔ trail = [] := by
  have hName := hShader.endsIn.fileName hShader.ne_dots
  constructor
  · rintro ⟨name, hMember, front, hFront⟩
    rw [hName, Option.mem_some_iff] at hMember
    subst hMember
    by_contra hFilled
    rcases hShader.endsIn.isTrail.exists_getLast? hFilled with
      ⟨c, hTrail, hKind⟩
    have hLast := congrArg List.getLast? hFront
    rw [hShader.endsIn.chars_eq, List.getLast?_append,
      List.getLast?_append, List.getLast?_cons,
      List.getLast?_append, hTrail] at hLast
    have hMember : c ∈ extension := by
      cases hExtension : extension.getLast? with
      | none =>
          have hLength := hShader.length_extension
          rw [List.getLast?_eq_none_iff.mp hExtension]
            at hLength
          cases hLength
      | some d =>
          rw [hExtension] at hLast
          cases hLast
          exact List.mem_of_getLast? hExtension
    rcases hKind with rfl | rfl
    · exact hShader.endsIn.slash_not_mem.2 hMember
    · exact hShader.dot_not_mem hMember
  · rintro rfl
    refine ⟨_, hName, before, ?_⟩
    rw [hShader.endsIn.chars_eq, List.append_nil]

end Path

end ShaderBindings

------------------------------------------------------------
-- Partners
------------------------------------------------------------

namespace ShaderBindings

@[simp] theorem Stage.partner_partner (stage : Stage) :
    stage.partner.partner = stage := by
  cases stage with
  | vertex => rfl
  | fragment => rfl

namespace ShaderPair

open ShaderBindings.Path

/-
  The partner lies in the directory of the primary, under the
  base name of the pair, and has the other stage.
-/
structure IsBeside (pair : ShaderPair) : Prop where
  directory :
    ∃ directory,
      pair.primary.parent? = some directory ∧
        pair.partner.parent? = some directory
  stem :
    pair.primary.stem? = some pair.baseName.toList ∧
      pair.partner.stem? = some pair.baseName.toList
  stage :
    ∃ stage,
      Stage.ofPath? pair.primary = some stage ∧
        Stage.ofPath? pair.partner = some stage.partner

/-
  A pair that starts from the partner of another one. It has
  the same base name, leads back to the same components, and
  writes every file to the same path.
-/
structure Mirrors (back pair : ShaderPair) : Prop where
  baseName_eq : back.baseName = pair.baseName
  primary_eq : back.primary = pair.partner
  partner_eq :
    back.partner.components = pair.primary.components
  outputPath_eq :
    ∀ fileName outDir,
      back.outputPath fileName outDir =
        pair.outputPath fileName outDir

variable {path : Path}
variable {pair : ShaderPair}

theorem ofList_eq_dot_iff
    {stem : List Char} :
    String.ofList stem = "." ↔ stem = ['.'] := by
  constructor
  · exact eq_toList_of_ofList
  · rintro rfl
    rfl

/-
  The partner lies beside the primary, unless nothing but the
  extension stands behind the dot that is the base name.
-/
theorem isBeside_iff
    (hPair : ofFile path = .ok pair) :
    pair.IsBeside ↔
      ¬ (pair.baseName = "." ∧ path.EndsInName) := by
  rcases exists_stage_of_ofFile hPair with
    ⟨stage, hStage, _, _⟩
  rcases exists_endsInShader hStage with
    ⟨before, stem, extension, trail, hShader⟩
  rw [hShader.ofFile_eq] at hPair
  cases hPair
  rw [ofList_eq_dot_iff, hShader.endsInName_iff, not_and_or]
  constructor
  · intro hBeside
    by_contra hLost
    rw [not_or, not_not, not_not] at hLost
    rcases hLost with ⟨rfl, rfl⟩
    have hStem := hBeside.stem.2
    dsimp only at hStem
    rw [hShader.partner_dots, stem?,
      fileName?_dots hShader.endsIn.isOpen] at hStem
    cases hStem
  · intro hKept
    have hOther := hShader.ofChars_stage stage.partner
    rw [← hShader.partner_eq hKept] at hOther
    exact {
      directory :=
        ⟨_, hShader.endsIn.parent, hOther.endsIn.parent⟩
      stem := by
        rw [String.toList_ofList]
        exact ⟨hShader.stem_eq, hOther.stem_eq⟩
      stage := ⟨stage, hShader.stage_eq, hOther.stage_eq⟩ }

/- The path of a shader is not one that leads up. -/
theorem components_ne_dots
    {stage : Stage}
    {before stem extension trail : List Char}
    (hShader :
      path.EndsInShader stage before stem extension trail) :
    (ofChars (before ++ ['.', '.'])).components ≠
      path.components := by
  have hName :
      String.ofList (stem ++ '.' :: extension) ≠ ".." := by
    intro hDots
    exact hShader.ne_dots (eq_toList_of_ofList hDots)
  have hDots :=
    (endsIn_append hShader.endsIn.isOpen
      isName_dots).components
  intro hSame
  rw [hDots, hShader.endsIn.components,
    List.append_singleton_inj] at hSame
  have hLast := hSame.2
  rw [Component.ofName, Component.ofName, if_pos rfl,
    if_neg hName] at hLast
  cases hLast

/-
  A partner with a lower-case extension leads back, unless
  the base name is a dot.
-/
theorem exists_mirrors_iff
    {stage : Stage}
    (hPair : ofFile path = .ok pair)
    (hLower : path.extension? = some stage.extension) :
    (∃ back, ofFile pair.partner = .ok back ∧
        back.Mirrors pair) ↔
      pair.baseName ≠ "." := by
  have hStage : Stage.ofPath? path = some stage := by
    rw [Stage.ofPath?, hLower, Option.bind_some,
      Stage.ofExtension_extension]
  rcases exists_endsInShader hStage with
    ⟨before, stem, extension, trail, hShader⟩
  rw [hShader.extension_eq, Option.some.injEq] at hLower
  subst hLower
  rw [hShader.ofFile_eq] at hPair
  cases hPair
  rw [ne_eq, ofList_eq_dot_iff]
  have hOther := hShader.ofChars_stage stage.partner
  constructor
  · rintro ⟨back, hBack, hMirrors⟩ rfl
    by_cases hTrail : trail = []
    · subst hTrail
      rw [hShader.partner_dots, ofFile, Stage.ofPath?,
        extension?, fileName?_dots hShader.endsIn.isOpen]
        at hBack
      cases hBack
    · -- the partner has no trail, so that its own leads up
      rw [hShader.partner_eq (Or.inr hTrail),
        hOther.ofFile_eq] at hBack
      cases hBack
      have hBackward := hMirrors.partner_eq
      dsimp only at hBackward
      rw [hOther.partner_dots] at hBackward
      exact components_ne_dots hShader hBackward
  · intro hDot
    have hPartner :=
      hShader.partner_eq (Or.inl hDot) stage.partner.extension
    have hBackward :=
      hOther.partner_eq (Or.inl hDot)
        stage.partner.partner.extension
    rw [Stage.partner_partner] at hBackward
    rw [hPartner, hOther.ofFile_eq, Stage.partner_partner,
      hBackward]
    refine ⟨_, rfl, ?_⟩
    exact {
      baseName_eq := rfl
      primary_eq := rfl
      partner_eq := by
        rw [(hShader.ofChars_stage stage).endsIn.components,
          hShader.endsIn.components]
      outputPath_eq := by
        intro fileName outDir
        cases outDir with
        | none =>
            unfold outputPath
            dsimp only
            rw [hOther.endsIn.parent, hShader.endsIn.parent]
        | some directory => rfl }

/-
  A file with an extension of a stage has its partner beside
  it, unless its name is a dot in front of the extension and
  ends the path. When the extension is in lower case, the
  partner leads back to a pair of the same base name and of
  the same output, unless the base name is a dot.
-/
theorem ofFile_pairs_halves
    {path : Path}
    {pair : ShaderPair}
    (hPair : ofFile path = .ok pair) :
    (pair.IsBeside ↔
        ¬ (pair.baseName = "." ∧ path.EndsInName)) ∧
      ∀ stage : Stage,
        path.extension? = some stage.extension →
          ((∃ back, ofFile pair.partner = .ok back ∧
              back.Mirrors pair) ↔
            pair.baseName ≠ ".") := by
  refine ⟨isBeside_iff hPair, ?_⟩
  intro stage hLower
  exact exists_mirrors_iff hPair hLower

/- The pair of a vertex shader behind whose name dots stand. -/
def shoreWithTrail : ShaderPair where
  baseName := "sandy.shore"
  primary := ⟨"shaders//sandy.shore.vert/./"⟩
  partner := ⟨"shaders//sandy.shore.frag"⟩

/- Slashes and dots behind a name do not lead astray. -/
theorem ofFile_pairs_halves_of_shore :
    ofFile ⟨"shaders//sandy.shore.vert/./"⟩ =
        .ok shoreWithTrail ∧
      Path.extension? ⟨"shaders//sandy.shore.vert/./"⟩ =
        some Stage.vertex.extension ∧
      shoreWithTrail.IsBeside ∧
      ∃ back,
        ofFile ⟨"shaders//sandy.shore.frag"⟩ = .ok back ∧
          back.Mirrors shoreWithTrail := by
  have hPair :
      ofFile ⟨"shaders//sandy.shore.vert/./"⟩ =
        .ok shoreWithTrail := by
    decide +kernel
  have hLower :
      Path.extension? ⟨"shaders//sandy.shore.vert/./"⟩ =
        some Stage.vertex.extension := by
    decide +kernel
  have hDot : shoreWithTrail.baseName ≠ "." := by
    decide
  rcases ofFile_pairs_halves hPair with ⟨hBeside, hMirrors⟩
  exact
    ⟨hPair, hLower, hBeside.mpr fun hLost => hDot hLost.1,
      (hMirrors .vertex hLower).mpr hDot⟩

/-
  The partner of a vertex shader whose stem is a dot is the
  directory above, which has no stem and is no shader.
-/
theorem ofFile_partner_of_dot_leads_up :
    ofFile ⟨"..vert"⟩ =
        .ok {
          baseName := "."
          primary := ⟨"..vert"⟩
          partner := ⟨".."⟩ } ∧
      Path.extension? ⟨"..vert"⟩ =
        some Stage.vertex.extension ∧
      Path.stem? ⟨".."⟩ = none ∧
      ofFile ⟨".."⟩ =
        .error (.unsupportedExtension ⟨".."⟩) := by
  decide +kernel

end ShaderPair

end ShaderBindings
