import Mathlib.Algebra.GroupWithZero.Nat
import Mathlib.Order.Interval.Finset.Nat
import ShaderBindings.VertexLayout

/-
  How the attributes of a vertex are packed. As long as the
  sum of the sizes does not wrap around, every attribute
  starts where the one before it ends, so that together they
  take every byte of the vertex exactly once.

  Key definitions include:
    * `LayoutEntry.bytes`
    * `LayoutEntry.Tiles`
    * `VertexLayout.totalSize`

  Key theorems include:
    * `LayoutEntry.Tiles.pairwise_disjoint`
    * `LayoutEntry.Tiles.pairwise_offset`
    * `LayoutEntry.Tiles.mem_iff`
    * `VertexLayout.extent_toNat`
    * `VertexLayout.place_tiles`
-/

------------------------------------------------------------
-- Sizes of Attributes
------------------------------------------------------------

namespace ShaderBindings

/- A known type has at least one component and at most four. -/
theorem AttributeKind.componentCount_bounds
    (kind : AttributeKind) :
    0 < kind.componentCount.toNat ∧
      kind.componentCount.toNat ≤ 4 := by
  cases kind with
  | int => decide
  | bool => decide
  | float => decide
  | vec2 => decide
  | vec3 => decide
  | vec4 => decide

namespace AttributeType

theorem componentCount_le
    (type : AttributeType) :
    type.componentCount.toNat ≤ 4 := by
  cases type with
  | known kind => exact kind.componentCount_bounds.2
  | unmapped => decide

/- Four bytes for each component, without wrapping around. -/
theorem byteSize_toNat
    (type : AttributeType) :
    type.byteSize.toNat = type.componentCount.toNat * 4 := by
  have hCount := type.componentCount_le
  have hFour : (4 : UInt32).toNat = 4 := rfl
  rw [byteSize, UInt32.toNat_mul, hFour, Nat.mod_eq_of_lt]
  omega

theorem byteSize_le
    (type : AttributeType) :
    type.byteSize.toNat ≤ 16 := by
  have hCount := type.componentCount_le
  rw [byteSize_toNat]
  omega

/- A known type takes some bytes. -/
theorem byteSize_pos
    {type : AttributeType}
    (hMapped : type.isMapped) :
    0 < type.byteSize.toNat := by
  rw [byteSize_toNat]
  cases type with
  | unmapped => cases hMapped
  | known kind =>
      have hCount := kind.componentCount_bounds.1
      exact Nat.mul_pos hCount (by decide)

end AttributeType

end ShaderBindings

------------------------------------------------------------
-- Entries Without Gaps
------------------------------------------------------------

namespace ShaderBindings

namespace LayoutEntry

/- The first byte of a placed attribute. -/
def start (entry : LayoutEntry) : Nat :=
  entry.offset.toNat

/- The first byte behind a placed attribute. -/
def stop (entry : LayoutEntry) : Nat :=
  entry.offset.toNat + entry.declared.type.byteSize.toNat

/- The bytes that a placed attribute takes. -/
def bytes (entry : LayoutEntry) : Finset Nat :=
  Finset.Ico entry.start entry.stop

theorem mem_bytes_iff
    {entry : LayoutEntry}
    {byte : Nat} :
    byte ∈ entry.bytes ↔
      entry.start ≤ byte ∧ byte < entry.stop :=
  Finset.mem_Ico

theorem start_le_stop
    (entry : LayoutEntry) :
    entry.start ≤ entry.stop :=
  Nat.le_add_right _ _

/- An attribute of a known type takes at least one byte. -/
theorem bytes_nonempty
    {entry : LayoutEntry}
    (hMapped : entry.declared.type.isMapped) :
    entry.bytes.Nonempty := by
  have hSize := AttributeType.byteSize_pos hMapped
  refine ⟨entry.start, mem_bytes_iff.mpr ⟨Nat.le_refl _, ?_⟩⟩
  exact Nat.lt_add_of_pos_right hSize

/- An attribute that ends before another one shares no byte. -/
theorem disjoint_bytes
    {entry next : LayoutEntry}
    (hBefore : entry.stop ≤ next.start) :
    Disjoint entry.bytes next.bytes := by
  rw [Finset.disjoint_left]
  intro byte hEntry hNext
  have hUpper := (mem_bytes_iff.mp hEntry).2
  have hLower := (mem_bytes_iff.mp hNext).1
  omega

/-
  Entries that follow one another without a gap, from some
  byte up to the byte behind the last of them.
-/
def Tiles
    (start : Nat) :
    List LayoutEntry → Nat → Prop
| [], stop => start = stop
| entry :: rest, stop =>
    entry.start = start ∧ Tiles entry.stop rest stop

namespace Tiles

variable {start stop : Nat}
variable {entries : List LayoutEntry}

theorem start_le_stop
    (hTiles : Tiles start entries stop) :
    start ≤ stop := by
  induction entries generalizing start with
  | nil => exact Nat.le_of_eq hTiles
  | cons entry rest ih =>
      rcases hTiles with ⟨hFirst, hRest⟩
      have hLast := ih hRest
      have hEntry := entry.start_le_stop
      omega

theorem start_le_start
    (hTiles : Tiles start entries stop)
    {entry : LayoutEntry}
    (hEntry : entry ∈ entries) :
    start ≤ entry.start := by
  induction entries generalizing start with
  | nil => cases hEntry
  | cons head rest ih =>
      rcases hTiles with ⟨hFirst, hRest⟩
      rcases List.mem_cons.mp hEntry with hHead | hTail
      · rw [hHead, hFirst]
      · have hLast := ih hRest hTail
        have hHead := head.start_le_stop
        omega

/- Every entry ends before the entries behind it start. -/
theorem pairwise
    (hTiles : Tiles start entries stop) :
    entries.Pairwise fun entry next =>
      entry.stop ≤ next.start := by
  induction entries generalizing start with
  | nil => exact List.Pairwise.nil
  | cons entry rest ih =>
      rcases hTiles with ⟨_, hRest⟩
      refine List.pairwise_cons.mpr ⟨?_, ih hRest⟩
      intro next hNext
      exact start_le_start hRest hNext

/- No byte belongs to two entries. -/
theorem pairwise_disjoint
    (hTiles : Tiles start entries stop) :
    entries.Pairwise fun entry next =>
      Disjoint entry.bytes next.bytes :=
  hTiles.pairwise.imp disjoint_bytes

/- The offsets of entries that take some bytes increase. -/
theorem pairwise_offset
    (hTiles : Tiles start entries stop)
    (hMapped :
      ∀ entry ∈ entries, entry.declared.type.isMapped) :
    (entries.map LayoutEntry.offset).Pairwise (· < ·) := by
  rw [List.pairwise_map]
  apply hTiles.pairwise.imp_of_mem
  intro entry next hEntry _ hBefore
  have hSize := AttributeType.byteSize_pos (hMapped entry hEntry)
  rw [UInt32.lt_iff_toNat_lt]
  unfold LayoutEntry.start LayoutEntry.stop at hBefore
  omega

/- The entries take the bytes between their ends. -/
theorem mem_iff
    (hTiles : Tiles start entries stop)
    (byte : Nat) :
    (∃ entry ∈ entries, byte ∈ entry.bytes) ↔
      start ≤ byte ∧ byte < stop := by
  induction entries generalizing start with
  | nil =>
      have hEmpty : start = stop := hTiles
      simp [hEmpty]
  | cons entry rest ih =>
      rcases hTiles with ⟨hFirst, hRest⟩
      have hEntry := entry.start_le_stop
      have hLast := hRest.start_le_stop
      rw [List.exists_mem_cons_iff, ih hRest, mem_bytes_iff, hFirst]
      omega

end Tiles

end LayoutEntry

end ShaderBindings

------------------------------------------------------------
-- Exact Sums
------------------------------------------------------------

namespace ShaderBindings

namespace VertexLayout

/- The sum of the sizes, which never wraps around. -/
def totalSize (attributes : List Attribute) : Nat :=
  (attributes.map fun declared =>
    declared.type.byteSize.toNat).sum

@[simp] theorem totalSize_nil : totalSize [] = 0 :=
  rfl

@[simp] theorem totalSize_cons
    (declared : Attribute)
    (rest : List Attribute) :
    totalSize (declared :: rest) =
      declared.type.byteSize.toNat + totalSize rest := by
  simp [totalSize]

/- A sum that fits is the sum of the numbers. -/
theorem toNat_offset_add
    {offset : UInt32}
    {declared : Attribute}
    {rest : List Attribute}
    (hFits :
      offset.toNat + totalSize (declared :: rest) < 2 ^ 32) :
    (offset + declared.type.byteSize).toNat =
      offset.toNat + declared.type.byteSize.toNat := by
  rw [totalSize_cons] at hFits
  rw [UInt32.toNat_add, Nat.mod_eq_of_lt]
  omega

/- The end of a layout that fits is the exact sum. -/
theorem extent_toNat
    {offset : UInt32}
    {attributes : List Attribute}
    (hFits : offset.toNat + totalSize attributes < 2 ^ 32) :
    (extent offset attributes).toNat =
      offset.toNat + totalSize attributes := by
  induction attributes generalizing offset with
  | nil => rfl
  | cons declared rest ih =>
      have hNext := toNat_offset_add hFits
      rw [totalSize_cons, ← Nat.add_assoc, ← hNext] at hFits
      calc
        (extent offset (declared :: rest)).toNat =
            (extent (offset + declared.type.byteSize)
              rest).toNat := rfl
        _ = (offset + declared.type.byteSize).toNat +
              totalSize rest := ih hFits
        _ = offset.toNat + totalSize (declared :: rest) := by
              rw [hNext, totalSize_cons, Nat.add_assoc]

/- Attributes that fit are placed without gaps. -/
theorem place_tiles
    {offset : UInt32}
    {attributes : List Attribute}
    (hFits : offset.toNat + totalSize attributes < 2 ^ 32) :
    LayoutEntry.Tiles offset.toNat (place offset attributes)
      (extent offset attributes).toNat := by
  induction attributes generalizing offset with
  | nil => exact rfl
  | cons declared rest ih =>
      have hNext := toNat_offset_add hFits
      rw [totalSize_cons, ← Nat.add_assoc, ← hNext] at hFits
      have hRest := ih hFits
      rw [hNext] at hRest
      exact ⟨rfl, hRest⟩

end VertexLayout

end ShaderBindings

------------------------------------------------------------
-- Entries and Attributes
------------------------------------------------------------

namespace ShaderBindings

namespace VertexLayout

/- Every attribute is placed once, in order. -/
theorem map_place
    {α : Type}
    (offset : UInt32)
    (attributes : List Attribute)
    (observe : Attribute → α) :
    ((place offset attributes).map fun entry =>
        observe entry.declared) =
      attributes.map observe := by
  induction attributes generalizing offset with
  | nil => rfl
  | cons declared rest ih =>
      rw [place, List.map_cons, List.map_cons, ih]

theorem declared_mem_of_mem_place
    {offset : UInt32}
    {attributes : List Attribute}
    {entry : LayoutEntry}
    (hEntry : entry ∈ place offset attributes) :
    entry.declared ∈ attributes := by
  have hDeclared :=
    List.mem_map_of_mem (f := LayoutEntry.declared) hEntry
  have hAll := map_place offset attributes id
  rw [List.map_id] at hAll
  rw [← hAll]
  exact hDeclared

@[simp] theorem length_place
    (offset : UInt32)
    (attributes : List Attribute) :
    (place offset attributes).length = attributes.length := by
  induction attributes generalizing offset with
  | nil => rfl
  | cons declared rest ih =>
      rw [place, List.length_cons, List.length_cons, ih]

/- The entries are the attributes beside their offsets. -/
theorem zipWith_place
    (offset : UInt32)
    (attributes : List Attribute) :
    List.zipWith LayoutEntry.mk attributes
        ((place offset attributes).map LayoutEntry.offset) =
      place offset attributes := by
  induction attributes generalizing offset with
  | nil => rfl
  | cons declared rest ih =>
      rw [place, List.map_cons, List.zipWith_cons_cons, ih]

end VertexLayout

end ShaderBindings
