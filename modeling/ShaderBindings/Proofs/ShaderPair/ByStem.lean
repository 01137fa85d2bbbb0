import Mathlib.Data.List.Induction
import ShaderBindings.Proofs.Logged
import ShaderBindings.Proofs.Lookup
import ShaderBindings.ShaderPair

/-
  Files in the places of their stems. The stems stay in
  order, and what stands in the place of a stem is known from
  the files alone: the last one of the vertex stage, or else
  the first one of the fragment stage. Every file that has a
  place is one of a pair, so pairs are always found.

  Key definitions include:
    * `ShaderPair.ByStem.IsSorted`
    * `Path.isShader`
    * `ShaderPair.leader?`
    * `ShaderPair.AreLed`

  Key theorems include:
    * `ShaderPair.isSorted_foldl_addFile`
    * `ShaderPair.lookup_foldl_addFile`
    * `ShaderPair.AreLed.leader?_eq_some_iff`
    * `ShaderPair.exists_amongFiles`
-/

------------------------------------------------------------
-- Stems in Order
------------------------------------------------------------

namespace ShaderBindings

namespace ShaderPair

/- The stems are in order, and none of them is there twice. -/
def ByStem.IsSorted (found : ByStem) : Prop :=
  found.Pairwise fun item next => item.1 < next.1

variable {stem other : String}
variable {path : Path}
variable {found : ByStem}
variable {item : String × Path}

/- A stem that is not before another one is the same or after. -/
theorem lt_of_not_lt
    (hNotBefore : ¬ stem < other)
    (hDiffers : stem ≠ other) :
    other < stem := by
  by_cases hAfter : other < stem
  · exact hAfter
  · exact absurd
      (String.le_antisymm (String.not_lt.mp hAfter)
        (String.not_lt.mp hNotBefore))
      hDiffers

/- A file that is put in its place is the only new one. -/
theorem mem_insertStem
    (hItem : item ∈ insertStem stem path found) :
    item = (stem, path) ∨ item ∈ found := by
  induction found with
  | nil => exact Or.inl (List.mem_singleton.mp hItem)
  | cons entry rest ih =>
      rcases entry with ⟨other, kept⟩
      rw [insertStem] at hItem
      split at hItem
      · exact List.mem_cons.mp hItem
      · split at hItem
        · rcases List.mem_cons.mp hItem with hNew | hRest
          · exact Or.inl hNew
          · exact Or.inr (List.mem_cons_of_mem _ hRest)
        · rcases List.mem_cons.mp hItem with hHead | hTail
          · exact Or.inr (hHead ▸ List.mem_cons_self)
          · rcases ih hTail with hNew | hRest
            · exact Or.inl hNew
            · exact Or.inr (List.mem_cons_of_mem _ hRest)

/- A file is put where the order of the stems is kept. -/
theorem isSorted_insertStem
    (hSorted : found.IsSorted) :
    (insertStem stem path found).IsSorted := by
  induction found with
  | nil => exact List.pairwise_singleton _ _
  | cons entry rest ih =>
      rcases entry with ⟨other, kept⟩
      rcases List.pairwise_cons.mp hSorted with
        ⟨hFirst, hRest⟩
      rw [insertStem]
      split
      · rename_i hBefore
        refine List.pairwise_cons.mpr ⟨?_, hSorted⟩
        intro item hItem
        rcases List.mem_cons.mp hItem with rfl | hBehind
        · exact hBefore
        · exact String.lt_trans hBefore (hFirst item hBehind)
      · rename_i hNotBefore
        split
        · rename_i hSame
          subst hSame
          exact List.pairwise_cons.mpr ⟨hFirst, hRest⟩
        · rename_i hDiffers
          refine List.pairwise_cons.mpr ⟨?_, ih hRest⟩
          intro item hItem
          rcases mem_insertStem hItem with rfl | hBehind
          · exact lt_of_not_lt hNotBefore hDiffers
          · exact hFirst item hBehind

theorem isSorted_addFile
    (hSorted : found.IsSorted)
    (path : Path) :
    (addFile found path).IsSorted := by
  unfold addFile
  split
  · dsimp only
    split
    · exact isSorted_insertStem hSorted
    · exact hSorted
  · exact hSorted

/- The places of files are in the order of their stems. -/
theorem isSorted_foldl_addFile
    (files : List Path)
    (hSorted : found.IsSorted) :
    (files.foldl addFile found).IsSorted := by
  induction files generalizing found with
  | nil => exact hSorted
  | cons path rest ih => exact ih (isSorted_addFile hSorted path)

/- Stems in order are not there twice. -/
theorem ByStem.IsSorted.nodup
    (hSorted : found.IsSorted) :
    (found.map Prod.fst).Nodup := by
  rw [List.Nodup, List.pairwise_map]
  apply hSorted.imp
  intro item next hBefore hSame
  rw [hSame] at hBefore
  exact String.lt_irrefl _ hBefore

end ShaderPair

end ShaderBindings

------------------------------------------------------------
-- The File of a Stem
------------------------------------------------------------

namespace ShaderBindings

/- The file at a path is one of a stage, under a stem. -/
def Path.isShader
    (stage : Stage)
    (stem : String)
    (path : Path) : Bool :=
  Stage.ofPath? path = some stage ∧
    path.stem? = some stem.toList

namespace ShaderPair

variable {stem : String}
variable {path : Path}
variable {found : ByStem}
variable {files : List Path}

/-
  The file in the place of a stem: the last one of the vertex
  stage, or else the first one of the fragment stage.
-/
def leader?
    (files : List Path)
    (stem : String) : Option Path :=
  (files.filter (Path.isShader .vertex stem)).getLast?.or
    (files.filter (Path.isShader .fragment stem)).head?

/- A file that is put in its place is found there. -/
theorem lookup_insertStem
    (stem : String)
    (path : Path)
    (found : ByStem)
    (other : String) :
    (insertStem stem path found).lookup other =
      if other = stem then some path else found.lookup other := by
  induction found with
  | nil => exact lookup_cons_eq_ite other stem path []
  | cons entry rest ih =>
      rcases entry with ⟨first, kept⟩
      rw [insertStem]
      split
      · exact lookup_cons_eq_ite other stem path _
      · split
        · rename_i hPlace
          subst hPlace
          rw [lookup_cons_eq_ite, lookup_cons_eq_ite]
          split
          · rfl
          · rfl
        · rename_i hPlace
          rw [lookup_cons_eq_ite, lookup_cons_eq_ite, ih]
          by_cases hFirst : other = first
          · rw [if_pos hFirst, if_pos hFirst, if_neg]
            exact hFirst ▸ Ne.symm hPlace
          · rw [if_neg hFirst, if_neg hFirst]

/- A file without a stage or a stem is no shader. -/
theorem isShader_eq_false
    (hNone : Stage.ofPath? path = none ∨ path.stem? = none)
    (stage : Stage)
    (stem : String) :
    path.isShader stage stem = false := by
  rcases hNone with hNone | hNone
  · simp [Path.isShader, hNone]
  · simp [Path.isShader, hNone]

/- A shader belongs to the stage and the stem that it has. -/
theorem isShader_eq
    {stage : Stage}
    {name : List Char}
    (hStage : Stage.ofPath? path = some stage)
    (hStem : path.stem? = some name)
    (other : Stage)
    (stem : String) :
    path.isShader other stem =
      (stage = other ∧ stem = String.ofList name : Bool) := by
  have hName :
      name = stem.toList ↔ stem = String.ofList name := by
    constructor
    · rintro rfl
      rw [String.ofList_toList]
    · rintro rfl
      rw [String.toList_ofList]
  simp [Path.isShader, hStage, hStem, hName]

/-
  What stands in the place of a stem when one more file has
  been taken into account: the file itself if it is a vertex
  shader of the stem, or a fragment shader that finds the
  place empty.
-/
theorem lookup_addFile
    (found : ByStem)
    (path : Path)
    (stem : String) :
    (addFile found path).lookup stem =
      if path.isShader .vertex stem then
        some path
      else if path.isShader .fragment stem then
        (found.lookup stem).or (some path)
      else
        found.lookup stem := by
  unfold addFile
  split
  · rename_i stage name hStage hStem
    rw [isShader_eq hStage hStem, isShader_eq hStage hStem]
    dsimp only
    by_cases hSame : stem = String.ofList name
    · subst hSame
      cases stage with
      | vertex =>
          rw [if_pos (Or.inl rfl), lookup_insertStem]
          simp
      | fragment =>
          cases hKept : found.lookup (String.ofList name) with
          | none => simp [lookup_insertStem]
          | some kept => simp [hKept]
    · have hOther :
          (insertStem (String.ofList name) path found).lookup
              stem =
            found.lookup stem := by
        rw [lookup_insertStem, if_neg hSame]
      split
      · simp [hSame, hOther]
      · simp [hSame]
  · rename_i hNone
    have hNot (stage : Stage) :
        path.isShader stage stem = false := by
      apply isShader_eq_false
      cases hStage : Stage.ofPath? path with
      | none => exact Or.inl rfl
      | some found =>
          cases hStem : path.stem? with
          | none => exact Or.inr rfl
          | some name => exact absurd hStem (hNone _ _ hStage)
    simp [hNot]

/- One more file changes the leader of a stem in the same way. -/
theorem leader?_append_singleton
    (files : List Path)
    (path : Path)
    (stem : String) :
    leader? (files ++ [path]) stem =
      if path.isShader .vertex stem then
        some path
      else if path.isShader .fragment stem then
        (leader? files stem).or (some path)
      else
        leader? files stem := by
  unfold leader?
  simp only [List.filter_append, List.filter_cons,
    List.filter_nil]
  by_cases hVertex : path.isShader .vertex stem = true
  · rw [if_pos hVertex, if_pos hVertex, List.getLast?_concat,
      Option.some_or]
  · rw [if_neg hVertex, if_neg hVertex, List.append_nil]
    by_cases hFragment : path.isShader .fragment stem = true
    · rw [if_pos hFragment, if_pos hFragment,
        List.head?_append, Option.or_assoc]
      rfl
    · rw [if_neg hFragment, if_neg hFragment, List.append_nil]

/- In the place of every stem stands its leader. -/
theorem lookup_foldl_addFile
    (files : List Path)
    (stem : String) :
    (files.foldl addFile []).lookup stem =
      leader? files stem := by
  induction files using List.reverseRecOn with
  | nil => rfl
  | append_singleton files path ih =>
      rw [List.foldl_append, List.foldl_cons, List.foldl_nil,
        lookup_addFile, leader?_append_singleton, ih]

end ShaderPair

end ShaderBindings

------------------------------------------------------------
-- Leaders
------------------------------------------------------------

namespace ShaderBindings

namespace ShaderPair

variable {stem : String}
variable {path : Path}
variable {files : List Path}

/- A leader is a file of its stem, of one of the stages. -/
theorem mem_of_leader?
    (hLeader : leader? files stem = some path) :
    path ∈ files ∧
      ∃ stage, path.isShader stage stem = true := by
  rcases Option.or_eq_some_iff.mp hLeader with
    hVertex | ⟨_, hFragment⟩
  · rcases List.mem_filter.mp (List.mem_of_getLast? hVertex)
      with ⟨hFile, hShader⟩
    exact ⟨hFile, .vertex, hShader⟩
  · rcases List.mem_filter.mp (List.mem_of_head? hFragment)
      with ⟨hFile, hShader⟩
    exact ⟨hFile, .fragment, hShader⟩

/- The leader is a vertex shader if its stem has one. -/
theorem isShader_vertex_of_leader?
    {other : Path}
    (hLeader : leader? files stem = some path)
    (hOther : other ∈ files)
    (hVertex : other.isShader .vertex stem = true) :
    path.isShader .vertex stem = true := by
  rcases Option.or_eq_some_iff.mp hLeader with
    hLast | ⟨hNone, _⟩
  · exact (List.mem_filter.mp (List.mem_of_getLast? hLast)).2
  · rw [List.getLast?_eq_none_iff] at hNone
    have hMember :
        other ∈ files.filter (Path.isShader .vertex stem) :=
      List.mem_filter.mpr ⟨hOther, hVertex⟩
    rw [hNone] at hMember
    cases hMember

/- A stem has a leader if it has a file at all. -/
theorem exists_leader?
    {stage : Stage}
    (hFile : path ∈ files)
    (hShader : path.isShader stage stem = true) :
    ∃ leader, leader? files stem = some leader := by
  have hMember :
      path ∈ files.filter (Path.isShader stage stem) :=
    List.mem_filter.mpr ⟨hFile, hShader⟩
  rw [← Option.isSome_iff_exists, leader?, Option.isSome_or,
    Bool.or_eq_true]
  cases stage with
  | vertex =>
      left
      rw [List.getLast?_isSome]
      exact List.ne_nil_of_mem hMember
  | fragment =>
      right
      rw [List.isSome_head?]
      exact List.ne_nil_of_mem hMember

end ShaderPair

end ShaderBindings

------------------------------------------------------------
-- Pairs of the Leaders
------------------------------------------------------------

namespace ShaderBindings

namespace ShaderPair

/- A shader makes a pair under its stem. -/
theorem ofFile_eq_ok
    {path : Path}
    {stage : Stage}
    {stem : String}
    (hShader : path.isShader stage stem = true) :
    ofFile path =
      .ok {
        baseName := stem
        primary := path
        partner :=
          path.withExtension stage.partner.extension } := by
  rcases of_decide_eq_true hShader with ⟨hStage, hStem⟩
  rw [ofFile, hStage, hStem, Option.getD_some,
    String.ofList_toList]

/-
  Pairs are those of the leaders among files, and stand in
  the order of their base names.
-/
structure AreLed
    (files : List Path)
    (pairs : List ShaderPair) : Prop where
  increasing :
    pairs.Pairwise fun pair next =>
      pair.baseName < next.baseName
  mem_iff :
    ∀ pair,
      pair ∈ pairs ↔
        leader? files pair.baseName = some pair.primary ∧
          ofFile pair.primary = .ok pair

/- The leaders among files can be read off their pairs. -/
theorem AreLed.leader?_eq_some_iff
    {files : List Path}
    {pairs : List ShaderPair}
    {stem : String}
    {path : Path}
    (hLed : AreLed files pairs) :
    leader? files stem = some path ↔
      ∃ pair ∈ pairs,
        pair.baseName = stem ∧ pair.primary = path := by
  constructor
  · intro hLeader
    rcases mem_of_leader? hLeader with ⟨_, stage, hShader⟩
    let pair : ShaderPair := {
      baseName := stem
      primary := path
      partner :=
        path.withExtension stage.partner.extension }
    have hPair : pair ∈ pairs :=
      (hLed.mem_iff pair).mpr
        ⟨hLeader, ofFile_eq_ok hShader⟩
    exact ⟨pair, hPair, rfl, rfl⟩
  · rintro ⟨pair, hPair, rfl, rfl⟩
    exact ((hLed.mem_iff pair).mp hPair).1

/- The pairs among files are found, and are those of leaders. -/
theorem exists_amongFiles (files : List Path) :
    ∃ pairs,
      amongFiles files = .ok pairs ∧ AreLed files pairs := by
  have hSorted :
      ByStem.IsSorted (files.foldl addFile []) :=
    isSorted_foldl_addFile files List.Pairwise.nil
  have hPlaced (stem : String) (path : Path) :
      (stem, path) ∈ files.foldl addFile [] ↔
        leader? files stem = some path := by
    rw [← lookup_eq_some_iff_mem hSorted.nodup,
      lookup_foldl_addFile]
  have hPair :
      ∀ item ∈ files.foldl addFile [],
        ∃ pair,
          ofFile item.2 = .ok pair ∧
            (pair.baseName, pair.primary) = item := by
    rintro ⟨stem, path⟩ hItem
    rcases mem_of_leader? ((hPlaced stem path).mp hItem) with
      ⟨_, stage, hShader⟩
    exact ⟨_, ofFile_eq_ok hShader, rfl⟩
  have hStep :
      ∀ item ∈ files.foldl addFile [],
        ∃ pair, ofFile item.2 = .ok pair := by
    intro item hItem
    rcases hPair item hItem with ⟨pair, hOfFile, _⟩
    exact ⟨pair, hOfFile⟩
  rcases exists_mapM_eq_ok hStep with ⟨pairs, hPairs⟩
  have hItems :
      pairs.map (fun pair => (pair.baseName, pair.primary)) =
        files.foldl addFile [] := by
    rw [map_of_mapM_eq_ok
      (fun pair => (pair.baseName, pair.primary)) id ?_ hPairs,
      List.map_id]
    intro item hItem pair hOfFile
    rcases hPair item hItem with ⟨other, hOther, hSame⟩
    cases hOfFile.symm.trans hOther
    exact hSame
  refine ⟨pairs, hPairs, ?_, ?_⟩
  · rw [← hItems, ByStem.IsSorted, List.pairwise_map]
      at hSorted
    exact hSorted
  · intro pair
    rw [← hPlaced, ← hItems]
    constructor
    · intro hMember
      rcases exists_input_of_mapM_eq_ok hPairs hMember with
        ⟨item, hItem, hOfFile⟩
      rcases hPair item hItem with ⟨other, hOther, hSame⟩
      cases hOfFile.symm.trans hOther
      refine ⟨List.mem_map_of_mem hMember, ?_⟩
      rw [← hSame] at hOfFile
      exact hOfFile
    · rintro ⟨hMember, hOfFile⟩
      rw [hItems] at hMember
      rcases exists_result_of_mapM_eq_ok hPairs hMember with
        ⟨result, hResult, hSame⟩
      cases hOfFile.symm.trans hSame
      exact hResult

end ShaderPair

end ShaderBindings
