import ShaderBindings.Proofs.Batch.Discovery

/-
  What the order of a directory decides. The base names of
  the pairs, and the stages that they start from, are the
  same in every order of the entries. Which file a pair
  starts from is not: several files of one stage whose
  extensions differ in their letter case only are rivals for
  one stem, and the order decides between them.

  Key definitions include:
    * `ShaderPair.outline`
    * `Disk.IsUnrivaled`
    * `Session.DiscoversInOrder`

  Key theorems include:
    * `ShaderPair.AreLed.leader?_eq`
    * `Disk.IsUnrivaled.leader?_eq`
    * `Disk.isUnrivaled_of_reversed`
    * `discover_in_every_order`
-/

------------------------------------------------------------
-- Lists without Choices
------------------------------------------------------------

namespace ShaderBindings

variable {α : Type}

/- Lists that increase alike and have the same items are one. -/
theorem eq_of_increasing
    (key : α → String)
    {items others : List α}
    (hItems : items.Pairwise fun item next => key item < key next)
    (hOthers :
      others.Pairwise fun item next => key item < key next)
    (hSame : ∀ item, item ∈ items ↔ item ∈ others) :
    items = others := by
  have hNodup {list : List α}
      (hList :
        list.Pairwise fun item next => key item < key next) :
      list.Nodup := by
    apply hList.imp
    rintro item next hBefore rfl
    exact String.lt_irrefl _ hBefore
  apply List.Perm.eq_of_pairwise ?_ hItems hOthers
  · exact
      (List.perm_ext_iff_of_nodup (hNodup hItems)
        (hNodup hOthers)).mpr hSame
  · intro item next _ _ hBefore hAfter
    exact absurd (String.lt_trans hBefore hAfter)
      (String.lt_irrefl _)

/- Items that are all the same stand in one order only. -/
theorem eq_of_perm_of_same
    {items others : List α}
    (hPerm : others.Perm items)
    (hNodup : items.Nodup)
    (hSame :
      ∀ item ∈ items, ∀ other ∈ items, item = other) :
    others = items := by
  cases items with
  | nil => exact hPerm.eq_nil
  | cons first rest =>
      cases rest with
      | nil => exact List.perm_singleton.mp hPerm
      | cons second rest =>
          have hEqual :=
            hSame first List.mem_cons_self second
              (List.mem_cons_of_mem _ List.mem_cons_self)
          rw [List.nodup_cons, hEqual] at hNodup
          exact absurd List.mem_cons_self hNodup.1

/- Items that end as they start are all the same. -/
theorem same_of_getLast_eq_head
    {items : List α}
    (hNodup : items.Nodup)
    (hEnds : items.getLast? = items.head?) :
    ∀ item ∈ items, ∀ other ∈ items, item = other := by
  cases items with
  | nil =>
      intro item hItem
      cases hItem
  | cons first rest =>
      cases hRest : rest.getLast? with
      | none =>
          rw [List.getLast?_eq_none_iff] at hRest
          subst hRest
          intro item hItem other hOther
          rw [List.mem_singleton.mp hItem,
            List.mem_singleton.mp hOther]
      | some last =>
          rw [List.getLast?_cons, hRest, List.head?_cons,
            Option.getD_some, Option.some.injEq] at hEnds
          rw [List.nodup_cons, ← hEnds] at hNodup
          exact absurd (List.mem_of_getLast? hRest) hNodup.1

end ShaderBindings

------------------------------------------------------------
-- Leaders in Other Orders
------------------------------------------------------------

namespace ShaderBindings

namespace ShaderPair

variable {files others : List Path}
variable {pairs found : List ShaderPair}

/- Files with the same pairs have the same leaders. -/
theorem AreLed.leader?_eq
    (hLed : AreLed files pairs)
    (hOthers : AreLed others pairs)
    (stem : String) :
    leader? others stem = leader? files stem := by
  apply Option.ext
  intro path
  rw [hLed.leader?_eq_some_iff, hOthers.leader?_eq_some_iff]

/- Files with the same leaders have the same pairs. -/
theorem AreLed.eq_of_leader?
    (hLed : AreLed files pairs)
    (hFound : AreLed others found)
    (hSame :
      ∀ stem, leader? others stem = leader? files stem) :
    found = pairs := by
  apply eq_of_increasing ShaderPair.baseName
    hFound.increasing hLed.increasing
  intro pair
  rw [hFound.mem_iff, hLed.mem_iff, hSame]

end ShaderPair

end ShaderBindings

------------------------------------------------------------
-- Rivals
------------------------------------------------------------

namespace ShaderBindings

open ShaderBindings.Path

/-
  No two files are rivals for a stem: there is at most one of
  the vertex stage, and at most one of the fragment stage if
  there is none of the vertex stage.
-/
structure Disk.IsUnrivaled
    (disk : Disk)
    (directory : Path) : Prop where
  vertex :
    ∀ stem name other,
      disk.Holds directory .vertex stem name →
        disk.Holds directory .vertex stem other →
          name = other
  fragment :
    ∀ stem,
      (∀ name, ¬ disk.Holds directory .vertex stem name) →
        ∀ name other,
          disk.Holds directory .fragment stem name →
            disk.Holds directory .fragment stem other →
              name = other

namespace Disk

variable {disk other : Disk}
variable {directory : Path}
variable {stage : Stage}
variable {stem name : String}
variable {names others : List String}

/- The names in a directory are not listed twice. -/
theorem IsNodup.list
    (hNodup : disk.IsNodup)
    (hList : disk.list directory = .ok names) :
    names.Nodup := by
  rcases list_eq_ok_iff.mp hList with ⟨location, _, _, rfl⟩
  have hEntries : disk.entries.Pairwise fun item next =>
      item.1 ≠ next.1 :=
    List.pairwise_map.mp hNodup
  rw [List.Nodup, children, List.pairwise_filterMap]
  apply hEntries.imp
  intro item next hDiffers name hName other hOther hSame
  split at hName
  · rename_i hFirst
    split at hOther
    · rename_i hSecond
      apply hDiffers
      rw [List.getLast?_eq_some_iff] at hName hOther
      rcases hName with ⟨above, hAbove⟩
      rcases hOther with ⟨below, hBelow⟩
      rw [hAbove, List.dropLast_concat] at hFirst
      rw [hBelow, List.dropLast_concat] at hSecond
      rw [hAbove, hBelow, hFirst, hSecond, hSame]
    · cases hOther
  · cases hName

/- The regular files of a directory are not there twice. -/
theorem IsNodup.regular
    (hNodup : disk.IsNodup)
    (hTree : disk.IsTree)
    (hList : disk.list directory = .ok names) :
    (disk.regular directory names).Nodup := by
  apply List.Nodup.filter
  apply List.Nodup.map_on ?_ (hNodup.list hList)
  intro name hName other hOther hSame
  exact Path.join_inj
    (hTree.isPlainName_of_list hList hName)
    (hTree.isPlainName_of_list hList hOther) hSame

/-
  The files of a stage under a stem are all the same exactly
  when they have one name.
-/
theorem same_shaders_iff
    (hTree : disk.IsTree)
    (hList : disk.list directory = .ok names) :
    (let shaders :=
        (disk.regular directory names).filter
          (Path.isShader stage stem)
      ∀ path ∈ shaders, ∀ other ∈ shaders, path = other) ↔
      ∀ name other,
        disk.Holds directory stage stem name →
          disk.Holds directory stage stem other →
            name = other := by
  constructor
  · intro hSame name other hName hOther
    apply Path.join_inj (hName.isPlainName hTree)
      (hOther.isPlainName hTree)
    apply hSame
    · exact List.mem_filter.mpr
        ((mem_shaders_iff hTree hList).mpr
          ⟨name, hName, rfl⟩)
    · exact List.mem_filter.mpr
        ((mem_shaders_iff hTree hList).mpr
          ⟨other, hOther, rfl⟩)
  · intro hSame shaders path hPath other hOther
    rcases (mem_shaders_iff hTree hList).mp
        (List.mem_filter.mp hPath) with ⟨name, hName, rfl⟩
    rcases (mem_shaders_iff hTree hList).mp
        (List.mem_filter.mp hOther) with ⟨next, hNext, rfl⟩
    rw [hSame name next hName hNext]

/- A stem has no file of a stage when there is none in it. -/
theorem no_shaders_iff
    (hTree : disk.IsTree)
    (hList : disk.list directory = .ok names) :
    (disk.regular directory names).filter
        (Path.isShader stage stem) = [] ↔
      ∀ name, ¬ disk.Holds directory stage stem name := by
  rw [List.eq_nil_iff_forall_not_mem]
  constructor
  · intro hNone name hHolds
    exact hNone _
      (List.mem_filter.mpr
        ((mem_shaders_iff hTree hList).mpr
          ⟨name, hHolds, rfl⟩))
  · intro hNone path hPath
    rcases (mem_shaders_iff hTree hList).mp
        (List.mem_filter.mp hPath) with ⟨name, hHolds, _⟩
    exact hNone name hHolds

/- Without rivals, permuted files have the same leaders. -/
theorem IsUnrivaled.leader?_eq
    (hUnrivaled : disk.IsUnrivaled directory)
    (hTree : disk.IsTree)
    (hNodup : disk.IsNodup)
    (hList : disk.list directory = .ok names)
    {files : List Path}
    (hPerm : files.Perm (disk.regular directory names))
    (stem : String) :
    ShaderPair.leader? files stem =
      ShaderPair.leader? (disk.regular directory names)
        stem := by
  have hFiles := hNodup.regular hTree hList
  have hVertex :
      files.filter (Path.isShader .vertex stem) =
        (disk.regular directory names).filter
          (Path.isShader .vertex stem) :=
    eq_of_perm_of_same (hPerm.filter _) (hFiles.filter _)
      ((same_shaders_iff hTree hList).mpr
        (hUnrivaled.vertex stem))
  unfold ShaderPair.leader?
  rw [hVertex]
  by_cases hNone :
      (disk.regular directory names).filter
        (Path.isShader .vertex stem) = []
  · have hFragment :
        files.filter (Path.isShader .fragment stem) =
          (disk.regular directory names).filter
            (Path.isShader .fragment stem) :=
      eq_of_perm_of_same (hPerm.filter _) (hFiles.filter _)
        ((same_shaders_iff hTree hList).mpr
          (hUnrivaled.fragment stem
            ((no_shaders_iff hTree hList).mp hNone)))
    rw [hFragment]
  · rcases Option.isSome_iff_exists.mp
        (List.getLast?_isSome.mpr hNone) with ⟨last, hLast⟩
    rw [hLast, Option.some_or, Option.some_or]

/- Reversed files have other leaders if there are rivals. -/
theorem isUnrivaled_of_reversed
    (hTree : disk.IsTree)
    (hNodup : disk.IsNodup)
    (hList : disk.list directory = .ok names)
    (hSame :
      ∀ stem,
        ShaderPair.leader?
            (disk.regular directory names).reverse stem =
          ShaderPair.leader? (disk.regular directory names)
            stem) :
    disk.IsUnrivaled directory := by
  have hFiles := hNodup.regular hTree hList
  constructor
  · intro stem
    rw [← same_shaders_iff hTree hList]
    apply same_of_getLast_eq_head (hFiles.filter _)
    have hLeader := hSame stem
    unfold ShaderPair.leader? at hLeader
    rw [List.filter_reverse, List.filter_reverse,
      List.getLast?_reverse] at hLeader
    generalize
      (disk.regular directory names).filter
        (Path.isShader .vertex stem) = shaders at hLeader ⊢
    cases shaders with
    | nil => rfl
    | cons first rest =>
        rcases Option.isSome_iff_exists.mp
            (List.getLast?_isSome.mpr
              (List.cons_ne_nil first rest)) with ⟨last, hLast⟩
        rw [hLast, List.head?_cons, Option.some_or,
          Option.some_or] at hLeader
        rw [hLast, List.head?_cons, hLeader]
  · intro stem hNone
    rw [← no_shaders_iff hTree hList] at hNone
    rw [← same_shaders_iff hTree hList]
    apply same_of_getLast_eq_head (hFiles.filter _)
    have hLeader := hSame stem
    unfold ShaderPair.leader? at hLeader
    rw [List.filter_reverse, List.filter_reverse, hNone,
      List.head?_reverse] at hLeader
    exact hLeader

end Disk

end ShaderBindings

------------------------------------------------------------
-- Outlines
------------------------------------------------------------

namespace ShaderBindings

open ShaderBindings.Path

/- The base name of a pair, and the stage that it starts from. -/
def ShaderPair.outline
    (pair : ShaderPair) : String × Option Stage :=
  (pair.baseName, Stage.ofPath? pair.primary)

namespace Disk

variable {disk other : Disk}
variable {directory : Path}
variable {stage first second : Stage}
variable {stem name next : String}
variable {names : List String}
variable {pairs : List ShaderPair}

/- A stem is led by files of one stage only. -/
theorem Leads.stage_eq
    (hFirst : disk.Leads directory first stem name)
    (hSecond : disk.Leads directory second stem next) :
    first = second := by
  cases first with
  | vertex =>
      cases second with
      | vertex => rfl
      | fragment =>
          exact absurd hFirst.holds (hSecond.first rfl name)
  | fragment =>
      cases second with
      | vertex =>
          exact absurd hSecond.holds (hFirst.first rfl next)
      | fragment => rfl

/- The outlines of pairs are those of the leaders. -/
theorem mem_outlines_iff
    (hTree : disk.IsTree)
    (hList : disk.list directory = .ok names)
    (hLed :
      ShaderPair.AreLed (disk.regular directory names) pairs)
    {outline : String × Option Stage} :
    outline ∈ pairs.map ShaderPair.outline ↔
      ∃ stage name,
        disk.Leads directory stage outline.1 name ∧
          outline.2 = some stage := by
  have hOutline :
      ∀ pair ∈ pairs,
        ∃ stage name,
          disk.Leads directory stage pair.baseName name ∧
            pair.outline = (pair.baseName, some stage) := by
    intro pair hPair
    rcases leads_of_mem hTree hList hLed hPair with
      ⟨stage, name, hLeads, hPrimary, _⟩
    refine ⟨stage, name, hLeads, ?_⟩
    have hShader :=
      (ShaderPair.isShader_join_iff
        (hLeads.holds.isPlainName hTree) directory).mpr
          hLeads.holds.spelled
    rw [ShaderPair.outline, hPrimary,
      (of_decide_eq_true hShader).1]
  constructor
  · intro hMember
    rcases List.mem_map.mp hMember with ⟨pair, hPair, rfl⟩
    rcases hOutline pair hPair with
      ⟨stage, name, hLeads, hSame⟩
    rw [hSame]
    exact ⟨stage, name, hLeads, rfl⟩
  · rintro ⟨stage, name, hLeads, hStage⟩
    have hStem :=
      (mem_baseNames_iff hTree hList hLed).mpr
        ⟨stage, name, hLeads.holds⟩
    rcases List.mem_map.mp hStem with ⟨pair, hPair, hBase⟩
    rcases hOutline pair hPair with
      ⟨other, next, hOther, hSame⟩
    rw [hBase] at hOther hSame
    rw [hLeads.stage_eq hOther] at hStage
    refine List.mem_map.mpr ⟨pair, hPair, ?_⟩
    rw [hSame, ← hStage]

namespace Relists

theorem symm (hRelists : disk.Relists other) :
    other.Relists disk where
  home := hRelists.home.symm
  entries := hRelists.entries.symm

theorem isNodup
    (hRelists : disk.Relists other)
    (hNodup : disk.IsNodup) :
    other.IsNodup :=
  (hRelists.entries.map Prod.fst).nodup_iff.mpr hNodup

/- A tree is one in every order of its entries. -/
theorem isTree
    (hRelists : disk.Relists other)
    (hNodup : disk.IsNodup)
    (hTree : disk.IsTree) :
    other.IsTree where
  home := by
    rw [hRelists.entry_eq hNodup, hRelists.home]
    exact hTree.home
  nested := by
    intro item hItem
    rw [hRelists.entry_eq hNodup]
    exact hTree.nested item (hRelists.entries.subset hItem)
  named := fun item hItem =>
    hTree.named item (hRelists.entries.subset hItem)

/- The same shaders are held in every order of the entries. -/
theorem holds
    (hRelists : disk.Relists other)
    (hNodup : disk.IsNodup)
    (hHolds : disk.Holds directory stage stem name) :
    other.Holds directory stage stem name where
  listed := by
    rcases hHolds.listed with ⟨names, hList, hName⟩
    rcases hRelists.list_perm hNodup hList with
      ⟨others, hOthers, hPerm⟩
    exact ⟨others, hOthers, hPerm.mem_iff.mpr hName⟩
  isFile := by
    rw [hRelists.isFile_eq hNodup]
    exact hHolds.isFile
  spelled := hHolds.spelled

/- A stem is led by the same files in every order. -/
theorem leads
    (hRelists : disk.Relists other)
    (hNodup : disk.IsNodup)
    (hLeads : disk.Leads directory stage stem name) :
    other.Leads directory stage stem name where
  holds := hRelists.holds hNodup hLeads.holds
  first := by
    intro hFragment next hNext
    exact hLeads.first hFragment next
      (hRelists.symm.holds (hRelists.isNodup hNodup) hNext)

/- The regular files of a directory are permuted. -/
theorem regular_perm
    {others : List String}
    (hRelists : disk.Relists other)
    (hNodup : disk.IsNodup)
    (hPerm : others.Perm names) :
    (other.regular directory others).Perm
      (disk.regular directory names) := by
  have hSame : other.isFile = disk.isFile := by
    funext path
    exact hRelists.isFile_eq hNodup path
  unfold regular
  rw [hSame]
  exact (hPerm.map _).filter _

end Relists

/- The files of a directory are reversed with the entries. -/
theorem regular_reversed
    (hNodup : disk.IsNodup)
    (hList : disk.list directory = .ok names) :
    disk.reversed.list directory = .ok names.reverse ∧
      disk.reversed.regular directory names.reverse =
        (disk.regular directory names).reverse := by
  have hRelists := relists_reversed disk
  constructor
  · rcases list_eq_ok_iff.mp hList with
      ⟨location, hLocate, hDirectory, rfl⟩
    apply list_eq_ok_iff.mpr
    refine ⟨location, ?_, ?_, ?_⟩
    · rw [hRelists.locate_eq hNodup]
      exact hLocate
    · rw [hRelists.entry_eq hNodup]
      exact hDirectory
    · exact (children_reversed disk location).symm
  · have hSame : disk.reversed.isFile = disk.isFile := by
      funext path
      exact hRelists.isFile_eq hNodup path
    rw [regular, regular, hSame, List.map_reverse,
      List.filter_reverse]

end Disk

end ShaderBindings

------------------------------------------------------------
-- Discovery in Every Order
------------------------------------------------------------

namespace ShaderBindings

/-
  What the order of the entries decides about the pairs of a
  directory:
    * pairs with the same base names, which start from the
      same stages, are found in every order,
    * the very same pairs are found in every order exactly
      when no two files are rivals for a stem.
-/
structure Session.DiscoversInOrder
    (session : Session)
    (directory : Path) : Prop where
  outlines :
    ∀ other,
      session.disk.Relists other →
        ∃ pairs others,
          ((discover directory : StateM Session _).run
              session).1 = .ok pairs ∧
            ((discover directory : StateM Session _).run
              { session with disk := other }).1 =
                .ok others ∧
            others.map ShaderPair.outline =
              pairs.map ShaderPair.outline
  same_iff :
    (∀ other,
      session.disk.Relists other →
        ((discover directory : StateM Session _).run
            { session with disk := other }).1 =
          ((discover directory : StateM Session _).run
            session).1) ↔
      session.disk.IsUnrivaled directory

namespace Disk

variable {disk other : Disk}
variable {directory : Path}
variable {names others : List String}
variable {pairs found : List ShaderPair}

/- Pairs have the same outlines in every order. -/
theorem outlines_eq
    (hTree : disk.IsTree)
    (hNodup : disk.IsNodup)
    (hRelists : disk.Relists other)
    (hList : disk.list directory = .ok names)
    (hLed :
      ShaderPair.AreLed (disk.regular directory names) pairs)
    (hOthers : other.list directory = .ok others)
    (hFound :
      ShaderPair.AreLed (other.regular directory others)
        found) :
    found.map ShaderPair.outline =
      pairs.map ShaderPair.outline := by
  have hOtherTree := hRelists.isTree hNodup hTree
  have hOtherNodup := hRelists.isNodup hNodup
  apply eq_of_increasing Prod.fst
  · exact List.pairwise_map.mpr hFound.increasing
  · exact List.pairwise_map.mpr hLed.increasing
  · intro outline
    rw [mem_outlines_iff hOtherTree hOthers hFound,
      mem_outlines_iff hTree hList hLed]
    constructor
    · rintro ⟨stage, name, hLeads, hStage⟩
      exact
        ⟨stage, name,
          hRelists.symm.leads hOtherNodup hLeads, hStage⟩
    · rintro ⟨stage, name, hLeads, hStage⟩
      exact
        ⟨stage, name, hRelists.leads hNodup hLeads, hStage⟩

end Disk

/-
  In a tree of files, the order of the entries decides
  between rivals for a stem, and nothing else.
-/
theorem discover_in_every_order
    (session : Session)
    (directory : Path)
    (hTree : session.disk.IsTree)
    (hNodup : session.disk.IsNodup)
    (hDirectory :
      session.disk.isDirectory directory = true) :
    session.DiscoversInOrder directory := by
  rcases Disk.exists_list_of_isDirectory hDirectory with
    ⟨names, hList⟩
  rcases Disk.exists_discover hList with
    ⟨pairs, hPairs, hLed⟩
  exact {
    outlines := by
      intro other hRelists
      rcases hRelists.list_perm hNodup hList with
        ⟨others, hOthers, _⟩
      rcases Disk.exists_discover hOthers with
        ⟨found, hFound, hFoundLed⟩
      refine ⟨pairs, found, ?_, ?_, ?_⟩
      · rw [Session.run_discover, hPairs]
      · rw [Session.run_discover, hFound]
      · exact Disk.outlines_eq hTree hNodup hRelists hList hLed
          hOthers hFoundLed
    same_iff := by
      constructor
      · intro hSame
        -- the reversed order is enough to tell rivals apart
        rcases Disk.regular_reversed hNodup hList with
          ⟨hReversed, hFiles⟩
        rcases Disk.exists_discover hReversed with
          ⟨found, hFound, hFoundLed⟩
        have hEqual :=
          hSame _ (Disk.relists_reversed session.disk)
        rw [Session.run_discover, Session.run_discover,
          hPairs, hFound, Except.ok.injEq] at hEqual
        subst hEqual
        rw [hFiles] at hFoundLed
        exact Disk.isUnrivaled_of_reversed hTree hNodup hList
          (hLed.leader?_eq hFoundLed)
      · intro hUnrivaled other hRelists
        rcases hRelists.list_perm hNodup hList with
          ⟨others, hOthers, hPerm⟩
        rcases Disk.exists_discover hOthers with
          ⟨found, hFound, hFoundLed⟩
        have hFiles :
            (other.regular directory others).Perm
              (session.disk.regular directory names) :=
          hRelists.regular_perm hNodup hPerm
        rw [Session.run_discover, Session.run_discover,
          hPairs, hFound,
          hLed.eq_of_leader? hFoundLed
            (hUnrivaled.leader?_eq hTree hNodup hList
              hFiles)] }

/- The order of the entries decides nothing at the shore. -/
theorem discover_shore_in_every_order :
    shore.disk.IsTree ∧
      shore.disk.IsNodup ∧
      shore.disk.isDirectory ⟨"."⟩ = true ∧
      shore.DiscoversInOrder ⟨"."⟩ := by
  have hTree : shore.disk.IsTree := by
    decide +kernel
  have hNodup : shore.disk.IsNodup := by
    decide +kernel
  have hDirectory : shore.disk.isDirectory ⟨"."⟩ = true := by
    decide +kernel
  exact
    ⟨hTree, hNodup, hDirectory,
      discover_in_every_order shore ⟨"."⟩ hTree hNodup
        hDirectory⟩

/- A directory with two vertex shaders for one stem. -/
def twinVertices : Session :=
  let file (name text : String) : Path × Entry :=
    (⟨name⟩, .file text.toUTF8)
  let files := [
    file "wave.vert" "uniform float height;",
    file "wave.VERT" "uniform vec3 crest;",
    file "wave.frag" ""]
  Session.start (Disk.ofFiles ["shore"] files) ""

/- Two orders of one directory lead to two primary files. -/
theorem discover_twin_vertices_depends_on_order :
    twinVertices.disk.IsTree ∧
      twinVertices.disk.IsNodup ∧
      twinVertices.disk.Relists twinVertices.disk.reversed ∧
      ((discover ⟨"."⟩ : StateM Session _).run
          twinVertices).1 =
        .ok [{
          baseName := "wave"
          primary := ⟨"./wave.VERT"⟩
          partner := ⟨"./wave.frag"⟩ }] ∧
      ((discover ⟨"."⟩ : StateM Session _).run
          { twinVertices with
            disk := twinVertices.disk.reversed }).1 =
        .ok [{
          baseName := "wave"
          primary := ⟨"./wave.vert"⟩
          partner := ⟨"./wave.frag"⟩ }] := by
  refine ⟨?_, ?_, Disk.relists_reversed _, ?_, ?_⟩
  · decide +kernel
  · decide +kernel
  · decide +kernel
  · decide +kernel

end ShaderBindings
