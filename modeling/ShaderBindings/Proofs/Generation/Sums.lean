import ShaderBindings.Proofs.Binding.Pointers
import ShaderBindings.Proofs.Generation.Coverage
import ShaderBindings.Proofs.Generation.Driving
import ShaderBindings.Proofs.VertexLayout.Composition

/-
  The numbers of a generation are the sums that they stand
  for. The vertices of a shader are never larger than its
  source, so no source that a 32-bit number can measure makes
  an addition wrap around. The stride and the offsets, both
  those that are returned and those in the code, are sums of
  sizes.

  Key definitions include:
    * `VertexLayout.NeverWraps`
    * `Generated.SumsExactly`

  Key theorems include:
    * `VertexLayout.map_toNat_place`
    * `generate_sums_exactly`
-/

------------------------------------------------------------
-- Sums in the Layout
------------------------------------------------------------

namespace ShaderBindings

namespace VertexLayout

/-
  Every size that is added to what is reached before it stays
  below the first number that 32 bits cannot hold.
-/
def NeverWraps (attributes : List Attribute) : Prop :=
  ∀ before declared behind,
    attributes = before ++ declared :: behind →
      (extent 0 before).toNat +
          declared.type.byteSize.toNat <
        2 ^ 32

/- Attributes that fit never make a sum wrap around. -/
theorem neverWraps_of_fits
    {attributes : List Attribute}
    (hFits : totalSize attributes < 2 ^ 32) :
    NeverWraps attributes := by
  rintro before declared behind rfl
  rw [totalSize_append, totalSize_cons] at hFits
  have hBefore : totalSize before < 2 ^ 32 := by omega
  have hReached : (extent 0 before).toNat = totalSize before :=
    toNat_stride hBefore
  omega

/- Every offset is the sum of the sizes in front of it. -/
theorem map_toNat_place
    {offset : UInt32}
    {attributes : List Attribute}
    (hFits : offset.toNat + totalSize attributes < 2 ^ 32) :
    ((place offset attributes).map fun entry =>
        entry.offset.toNat) =
      (List.range attributes.length).map fun index =>
        offset.toNat + totalSize (attributes.take index) := by
  induction attributes generalizing offset with
  | nil => rfl
  | cons declared rest ih =>
      have hNext := toNat_offset_add hFits
      rw [totalSize_cons, ← Nat.add_assoc, ← hNext] at hFits
      rw [place, List.map_cons, ih hFits, List.length_cons,
        List.range_succ_eq_map, List.map_cons, List.map_map]
      simp [hNext, Nat.add_assoc]

/- An attribute is placed behind the sizes in front of it. -/
theorem exists_entry_of_getElem?
    {attributes : List Attribute}
    (hFits : totalSize attributes < 2 ^ 32)
    {index : Nat}
    {declared : Attribute}
    (hDeclared : attributes[index]? = some declared) :
    ∃ offset,
      ⟨declared, offset⟩ ∈ place 0 attributes ∧
        offset.toNat = totalSize (attributes.take index) := by
  rcases List.getElem?_eq_some_iff.mp hDeclared with
    ⟨hBound, hAt⟩
  have hSplit :
      attributes.take index ++
          declared :: attributes.drop (index + 1) =
        attributes := by
    rw [← hAt, ← List.drop_eq_getElem_cons hBound,
      List.take_append_drop]
  have hFront : totalSize (attributes.take index) < 2 ^ 32 := by
    rw [← hSplit, totalSize_append] at hFits
    omega
  have hPlaced :=
    place_append 0 (attributes.take index)
      (declared :: attributes.drop (index + 1))
  rw [hSplit] at hPlaced
  refine
    ⟨extent 0 (attributes.take index), ?_,
      toNat_stride hFront⟩
  rw [hPlaced]
  exact List.mem_append_right _ List.mem_cons_self

end VertexLayout

end ShaderBindings

------------------------------------------------------------
-- Sums in a Generation
------------------------------------------------------------

namespace ShaderBindings

/-
  What is generated for some attributes has their sums: the
  stride is the sum of all sizes and each offset that of the
  sizes in front of it. The function of every attribute in
  the code writes these sums.
-/
structure Generated.SumsExactly
    (generated : Generated)
    (attributes : List Attribute) : Prop where
  declared : generated.interface.attributes = attributes
  stride :
    generated.stride.toNat = VertexLayout.totalSize attributes
  offsets :
    generated.offsets.map UInt32.toNat =
      (List.range attributes.length).map fun index =>
        VertexLayout.totalSize (attributes.take index)
  code :
    ∀ index placed,
      attributes[index]? = some placed →
        Code.Configures generated.source placed
          (VertexLayout.totalSize attributes)
          (VertexLayout.totalSize (attributes.take index))

/-
  What is generated for a source has the sums of the source,
  if these fit into 32 bits.
-/
theorem Generated.sumsExactly_of_fits
    {options : GenerationOptions}
    {baseName source : String}
    {generated : Generated}
    (hFits :
      VertexLayout.totalSize
          (Declarations.ofSource source).attributes <
        2 ^ 32)
    (hGenerated :
      (generate options baseName source).result =
        .ok generated) :
    generated.SumsExactly
      (Declarations.ofSource source).attributes := by
  rcases exists_binding_of_generate hGenerated with
    ⟨_, hDeclared, binding, hBinding, hSource⟩
  rcases layout_of_generate hGenerated with
    ⟨_, hStride, hOffsets⟩
  have hNamed :
      generated.interface.declarations.NamedByWords := by
    rw [hDeclared]
    exact Declarations.ofSource_namedByWords source
  have hAttributes :
      generated.interface.attributes =
        (Declarations.ofSource source).attributes :=
    congrArg Declarations.attributes hDeclared
  rw [← hAttributes] at hFits ⊢
  exact {
    declared := rfl
    stride := by
      rw [hStride, VertexLayout.toNat_stride hFits]
    offsets := by
      have hPlaces :=
        VertexLayout.map_toNat_place
          (VertexLayout.zero_add_totalSize_lt hFits)
      simp only [UInt32.toNat_zero, Nat.zero_add] at hPlaces
      rw [hOffsets, VertexLayout.offsets, List.map_map]
      exact hPlaces
    code := by
      intro index placed hPlaced
      rcases VertexLayout.exists_entry_of_getElem? hFits
          hPlaced with
        ⟨offset, hEntry, hOffset⟩
      have hConfigures :=
        Binding.configures_render hNamed hBinding hEntry
      rw [← hSource] at hConfigures
      rw [← VertexLayout.toNat_stride hFits, ← hOffset]
      exact hConfigures }

/-
  The sizes of the attributes of a shader sum up to at most
  the bytes of its source. When a 32-bit number can measure
  the source, no addition in the layout wraps around, and
  whatever is generated for the source has the exact sums.
-/
theorem generate_sums_exactly (source : String) :
    let attributes := (Declarations.ofSource source).attributes
    VertexLayout.totalSize attributes ≤ source.utf8ByteSize ∧
      (source.utf8ByteSize < 2 ^ 32 →
        VertexLayout.NeverWraps attributes ∧
          ∀ options baseName generated,
            (generate options baseName source).result =
                .ok generated →
              generated.SumsExactly attributes) := by
  intro attributes
  have hSize := Declarations.totalSize_le_utf8ByteSize source
  refine ⟨hSize, ?_⟩
  intro hShort
  have hFits := Nat.lt_of_le_of_lt hSize hShort
  refine ⟨VertexLayout.neverWraps_of_fits hFits, ?_⟩
  intro options baseName generated hGenerated
  exact Generated.sumsExactly_of_fits hFits hGenerated

/- The source of a terrain: the size of a frame is unknown. -/
def terrainSource : String :=
  "layout (location = 0) in vec3 position; " ++
    "layout (location = 1) in mat4 frame; " ++
    "layout (location = 2) in vec2 uv; uniform float time;"

/- A vertex of a terrain has twenty bytes, and says so. -/
theorem generate_terrain_sums_exactly :
    let attributes :=
      (Declarations.ofSource terrainSource).attributes
    terrainSource.utf8ByteSize < 2 ^ 32 ∧
      VertexLayout.totalSize attributes = 20 ∧
      VertexLayout.totalSize attributes ≤
        terrainSource.utf8ByteSize ∧
      VertexLayout.NeverWraps attributes ∧
      ∃ generated,
        (generate { strict := false, names := .standard }
              "terrain" terrainSource).result =
            .ok generated ∧
          generated.offsets = [0, 12, 12] ∧
          generated.SumsExactly attributes := by
  intro attributes
  have hShort : terrainSource.utf8ByteSize < 2 ^ 32 := by
    decide +kernel
  have hTotal : VertexLayout.totalSize attributes = 20 := by
    decide +kernel
  have hOffsets :
      (generate { strict := false, names := .standard }
          "terrain" terrainSource).result.map
            Generated.offsets =
        .ok [0, 12, 12] := by
    decide +kernel
  rcases generate_sums_exactly terrainSource with
    ⟨hSize, hThen⟩
  rcases hThen hShort with ⟨hNever, hSums⟩
  refine ⟨hShort, hTotal, hSize, hNever, ?_⟩
  cases hGenerated :
      (generate { strict := false, names := .standard }
        "terrain" terrainSource).result with
  | error error =>
      rw [hGenerated] at hOffsets
      cases hOffsets
  | ok generated =>
      rw [hGenerated] at hOffsets
      injection hOffsets with hOffsets
      exact ⟨generated, rfl, hOffsets,
        hSums _ _ generated hGenerated⟩

end ShaderBindings
