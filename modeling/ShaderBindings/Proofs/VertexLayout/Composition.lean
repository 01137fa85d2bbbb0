import Mathlib.Data.List.Chain
import ShaderBindings.Proofs.VertexLayout.Packing

/-
  What the layout of a vertex depends on. The layout of two
  lists of attributes is the layout of the one followed by
  that of the other, shifted by the stride of the first. Only
  the types matter, and those without a known size do not
  matter to the other attributes.

  Key definitions include:
    * `LayoutEntry.shifted`
    * `VertexLayout.Composes`
    * `VertexLayout.Pads`
    * `VertexLayout.PacksExactly`

  Key theorems include:
    * `LayoutEntry.Tiles.isChain`
    * `VertexLayout.place_append`
    * `VertexLayout.place_add`
    * `VertexLayout.place_of_types`
    * `VertexLayout.Pads.place`
    * `VertexLayout.ofAttributes_packs_exactly`
-/

------------------------------------------------------------
-- Entries One after the Other
------------------------------------------------------------

namespace ShaderBindings

namespace LayoutEntry

namespace Tiles

variable {start stop : Nat}
variable {entries : List LayoutEntry}

/- The first entry starts at the start. -/
theorem start_head
    (hTiles : Tiles start entries stop) :
    ∀ entry ∈ entries.head?, entry.start = start := by
  cases entries with
  | nil => simp
  | cons entry rest =>
      intro first hFirst
      cases hFirst
      exact hTiles.1

/- Every entry starts where the one before it ends. -/
theorem isChain
    (hTiles : Tiles start entries stop) :
    entries.IsChain fun entry next =>
      next.start = entry.stop := by
  induction entries generalizing start with
  | nil => exact List.IsChain.nil
  | cons entry rest ih =>
      exact List.isChain_cons.mpr
        ⟨hTiles.2.start_head, ih hTiles.2⟩

/- The last entry ends at the end. -/
theorem stop_getLast
    (hTiles : Tiles start entries stop) :
    ∀ entry ∈ entries.getLast?, entry.stop = stop := by
  induction entries generalizing start with
  | nil => simp
  | cons entry rest ih =>
      cases rest with
      | nil =>
          intro last hLast
          cases hLast
          exact hTiles.2
      | cons next rest =>
          rw [List.getLast?_cons_cons]
          exact ih hTiles.2

/- No entry ends behind the end. -/
theorem stop_le_stop
    (hTiles : Tiles start entries stop)
    {entry : LayoutEntry}
    (hEntry : entry ∈ entries) :
    entry.stop ≤ stop := by
  induction entries generalizing start with
  | nil => cases hEntry
  | cons head rest ih =>
      rcases List.mem_cons.mp hEntry with rfl | hRest
      · exact hTiles.2.start_le_stop
      · exact ih hTiles.2 hRest

/-
  Every entry starts at a multiple of four when the first one
  does, as every size is one, and the end is a multiple too.
-/
theorem four_dvd
    (hTiles : Tiles start entries stop)
    (hStart : 4 ∣ start) :
    (∀ entry ∈ entries, 4 ∣ entry.start) ∧ 4 ∣ stop := by
  induction entries generalizing start with
  | nil =>
      refine ⟨by simp, ?_⟩
      rwa [← show start = stop from hTiles]
  | cons entry rest ih =>
      rcases hTiles with ⟨rfl, hRest⟩
      have hStop : 4 ∣ entry.stop := by
        unfold LayoutEntry.stop
        rw [AttributeType.byteSize_toNat]
        exact Nat.dvd_add hStart (Nat.dvd_mul_left 4 _)
      rcases ih hRest hStop with ⟨hEntries, hEnd⟩
      exact
        ⟨List.forall_mem_cons.mpr ⟨hStart, hEntries⟩, hEnd⟩

end Tiles

/- An entry that is moved further back. -/
def shifted
    (distance : UInt32)
    (entry : LayoutEntry) : LayoutEntry :=
  { entry with offset := distance + entry.offset }

end LayoutEntry

end ShaderBindings

------------------------------------------------------------
-- Layouts of Two Lists
------------------------------------------------------------

namespace ShaderBindings

namespace VertexLayout

@[simp] theorem totalSize_append
    (first second : List Attribute) :
    totalSize (first ++ second) =
      totalSize first + totalSize second := by
  simp [totalSize]

theorem extent_cons
    (offset : UInt32)
    (declared : Attribute)
    (rest : List Attribute) :
    extent offset (declared :: rest) =
      extent (offset + declared.type.byteSize) rest :=
  rfl

/- Attributes are placed behind those in front of them. -/
theorem place_append
    (offset : UInt32)
    (first second : List Attribute) :
    place offset (first ++ second) =
      place offset first ++
        place (extent offset first) second := by
  induction first generalizing offset with
  | nil => rfl
  | cons declared rest ih =>
      rw [List.cons_append, place, place, ih]
      rfl

/- Starting further back moves every entry. -/
theorem place_add
    (distance offset : UInt32)
    (attributes : List Attribute) :
    place (distance + offset) attributes =
      (place offset attributes).map
        (LayoutEntry.shifted distance) := by
  induction attributes generalizing offset with
  | nil => rfl
  | cons declared rest ih =>
      rw [place, place, List.map_cons, UInt32.add_assoc, ih]
      rfl

/-
  The layout of two lists of attributes is made of those of
  the lists. The second one is shifted by the stride of the
  first, and no sum wraps around.
-/
structure Composes
    (first second : List Attribute) : Prop where
  entries :
    (ofAttributes (first ++ second)).entries =
      (ofAttributes first).entries ++
        (ofAttributes second).entries.map
          (LayoutEntry.shifted (ofAttributes first).stride)
  start_shifted :
    ∀ entry ∈ (ofAttributes second).entries,
      (entry.shifted (ofAttributes first).stride).start =
        (ofAttributes first).stride.toNat + entry.start
  stride :
    (ofAttributes (first ++ second)).stride.toNat =
      (ofAttributes first).stride.toNat +
        (ofAttributes second).stride.toNat

/- Attributes that fit still fit when they start at zero. -/
theorem zero_add_totalSize_lt
    {attributes : List Attribute}
    (hFits : totalSize attributes < 2 ^ 32) :
    (0 : UInt32).toNat + totalSize attributes < 2 ^ 32 := by
  rwa [UInt32.toNat_zero, Nat.zero_add]

/- The stride of attributes that fit is the exact sum. -/
theorem toNat_stride
    {attributes : List Attribute}
    (hFits : totalSize attributes < 2 ^ 32) :
    (ofAttributes attributes).stride.toNat =
      totalSize attributes :=
  (extent_toNat (zero_add_totalSize_lt hFits)).trans
    (Nat.zero_add _)

/- Attributes that fit tile the vertex. -/
theorem tiles_ofAttributes
    {attributes : List Attribute}
    (hFits : totalSize attributes < 2 ^ 32) :
    LayoutEntry.Tiles 0 (ofAttributes attributes).entries
      (ofAttributes attributes).stride.toNat :=
  place_tiles (zero_add_totalSize_lt hFits)

/- Layouts compose as long as they fit together. -/
theorem composes
    {first second : List Attribute}
    (hFits : totalSize (first ++ second) < 2 ^ 32) :
    Composes first second := by
  have hSum := hFits
  rw [totalSize_append] at hSum
  have hFirst : totalSize first < 2 ^ 32 := by omega
  have hSecond : totalSize second < 2 ^ 32 := by omega
  have hTiles := tiles_ofAttributes hSecond
  rw [← toNat_stride hFirst, ← toNat_stride hSecond] at hSum
  exact {
    entries := by
      have hShifted :=
        place_add (extent 0 first) 0 second
      rw [UInt32.add_zero] at hShifted
      exact (place_append 0 first second).trans
        (congrArg (place 0 first ++ ·) hShifted)
    start_shifted := by
      intro entry hEntry
      have hStop := hTiles.stop_le_stop hEntry
      have hStart := entry.start_le_stop
      unfold LayoutEntry.start LayoutEntry.shifted at *
      rw [UInt32.toNat_add, Nat.mod_eq_of_lt]
      omega
    stride := by
      rw [toNat_stride hFits, toNat_stride hFirst,
        toNat_stride hSecond, totalSize_append] }

end VertexLayout

end ShaderBindings

------------------------------------------------------------
-- What Does Not Matter
------------------------------------------------------------

namespace ShaderBindings

/- An attribute of an unmapped type takes no byte. -/
theorem AttributeType.byteSize_eq_zero
    {type : AttributeType}
    (hSpare : type.isMapped = false) :
    type.byteSize = 0 := by
  cases type with
  | known kind => cases hSpare
  | unmapped => rfl

namespace VertexLayout

/- Only the types decide where attributes start and end. -/
theorem place_of_types
    {attributes others : List Attribute}
    (hTypes :
      others.map Attribute.type =
        attributes.map Attribute.type)
    (offset : UInt32) :
    (place offset others).map LayoutEntry.offset =
        (place offset attributes).map LayoutEntry.offset ∧
      extent offset others = extent offset attributes := by
  induction attributes generalizing others offset with
  | nil =>
      rw [List.map_nil, List.map_eq_nil_iff] at hTypes
      rw [hTypes]
      exact ⟨rfl, rfl⟩
  | cons declared rest ih =>
      rcases List.map_eq_cons_iff.mp hTypes with
        ⟨other, behind, rfl, hType, hBehind⟩
      rcases ih hBehind (offset + declared.type.byteSize) with
        ⟨hOffsets, hExtent⟩
      rw [place, place, List.map_cons, List.map_cons,
        extent_cons, extent_cons, hType, hOffsets, hExtent]
      exact ⟨rfl, rfl⟩

/-
  A list with spare elements put in between, in front or
  behind, as many as one likes.
-/
inductive Pads
    {α : Type}
    (Spare : α → Prop) :
    List α → List α → Prop where
| nil : Pads Spare [] []
| keep {list padded : List α}
    (element : α) :
    Pads Spare list padded →
      Pads Spare (element :: list) (element :: padded)
| insert {list padded : List α}
    {spare : α} :
    Spare spare →
      Pads Spare list padded →
        Pads Spare list (spare :: padded)

/- An attribute of a type without a known size. -/
def Unmapped (declared : Attribute) : Prop :=
  declared.type.isMapped = false

/-
  Two lists of attributes, of which the second one has some
  more of unmapped type, leave the same room in the vertex,
  and all entries of the first are entries of the second.
-/
structure Alike
    (attributes padded : List Attribute) : Prop where
  stride :
    (ofAttributes padded).stride =
      (ofAttributes attributes).stride
  entries :
    Pads (fun entry => Unmapped entry.declared)
      (ofAttributes attributes).entries
      (ofAttributes padded).entries

namespace Pads

variable {attributes padded : List Attribute}

/- Spare attributes do not move the end. -/
theorem extent_eq
    (hPads : Pads Unmapped attributes padded)
    (offset : UInt32) :
    extent offset padded = extent offset attributes := by
  induction hPads generalizing offset with
  | nil => rfl
  | keep declared _ ih =>
      exact ih (offset + declared.type.byteSize)
  | insert hSpare _ ih =>
      rw [extent_cons, AttributeType.byteSize_eq_zero hSpare,
        UInt32.add_zero]
      exact ih offset

/- Spare attributes add their entries and move no other. -/
theorem place
    (hPads : Pads Unmapped attributes padded)
    (offset : UInt32) :
    Pads (fun entry => Unmapped entry.declared)
      (VertexLayout.place offset attributes)
      (VertexLayout.place offset padded) := by
  induction hPads generalizing offset with
  | nil => exact Pads.nil
  | keep declared _ ih =>
      exact Pads.keep _ (ih (offset + declared.type.byteSize))
  | insert hSpare _ ih =>
      rw [VertexLayout.place,
        AttributeType.byteSize_eq_zero hSpare,
        UInt32.add_zero]
      exact Pads.insert hSpare (ih offset)

/- Attributes of unmapped type do not move the others. -/
theorem alike
    (hPads : Pads Unmapped attributes padded) :
    Alike attributes padded where
  stride := hPads.extent_eq 0
  entries := hPads.place 0

end Pads

end VertexLayout

end ShaderBindings

------------------------------------------------------------
-- The Whole Layout
------------------------------------------------------------

namespace ShaderBindings

namespace VertexLayout

/-
  What the layout of a list of attributes promises. The
  entries fill the vertex in order, at multiples of four, the
  layout of a list is made of those of its parts, and names,
  locations and attributes of unmapped type do not move
  anything.
-/
structure PacksExactly
    (attributes : List Attribute) : Prop where
  order :
    (ofAttributes attributes).entries.map
        LayoutEntry.declared =
      attributes
  first :
    ∀ entry ∈ (ofAttributes attributes).entries.head?,
      entry.offset = 0
  next :
    (ofAttributes attributes).entries.IsChain
      fun entry next => next.start = entry.stop
  last :
    ∀ entry ∈ (ofAttributes attributes).entries.getLast?,
      entry.stop = (ofAttributes attributes).stride.toNat
  exact :
    (ofAttributes attributes).stride.toNat =
      totalSize attributes
  aligned :
    (∀ entry ∈ (ofAttributes attributes).entries,
      4 ∣ entry.offset.toNat) ∧
        4 ∣ (ofAttributes attributes).stride.toNat
  composed :
    ∀ first second,
      attributes = first ++ second → Composes first second
  types :
    ∀ others : List Attribute,
      others.map Attribute.type =
          attributes.map Attribute.type →
        (ofAttributes others).offsets =
            (ofAttributes attributes).offsets ∧
          (ofAttributes others).stride =
            (ofAttributes attributes).stride
  inserted :
    ∀ padded,
      Pads Unmapped attributes padded →
        Alike attributes padded
  removed :
    ∀ thinned,
      Pads Unmapped thinned attributes →
        Alike thinned attributes

/-
  Attributes whose sizes sum up to what a 32-bit number can
  hold are packed exactly.
-/
theorem ofAttributes_packs_exactly
    (attributes : List Attribute)
    (hFits : totalSize attributes < 2 ^ 32) :
    PacksExactly attributes := by
  have hTiles := tiles_ofAttributes hFits
  exact {
    order := by
      rw [ofAttributes, map_place 0 attributes fun declared =>
        declared, List.map_id']
    first := by
      intro entry hEntry
      exact UInt32.toNat_inj.mp
        (hTiles.start_head entry hEntry)
    next := hTiles.isChain
    last := hTiles.stop_getLast
    exact := toNat_stride hFits
    aligned := hTiles.four_dvd (Nat.dvd_zero 4)
    composed := by
      rintro first second rfl
      exact composes hFits
    types := fun _ hTypes => place_of_types hTypes 0
    inserted := fun _ hPads => hPads.alike
    removed := fun _ hPads => hPads.alike }

/-
  The size of a matrix is not known. It does not move the
  texture coordinates.
-/
theorem ofAttributes_matrix_between :
    let attributes : List Attribute :=
      [ { location := 0
          typeToken := "vec3"
          name := "position" },
        { location := 1
          typeToken := "mat4"
          name := "instance" },
        { location := 2
          typeToken := "vec2"
          name := "uv" } ]
    totalSize attributes < 2 ^ 32 ∧
      (ofAttributes attributes).offsets = [0, 12, 12] ∧
        (ofAttributes attributes).stride = 20 ∧
          PacksExactly attributes := by
  intro attributes
  have hFits : totalSize attributes < 2 ^ 32 := by decide
  exact
    ⟨hFits, by decide, by decide,
      ofAttributes_packs_exactly attributes hFits⟩

end VertexLayout

end ShaderBindings
