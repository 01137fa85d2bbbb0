import ShaderBindings.Declaration
import ShaderBindings.AttributeType

/-
  The layout of one vertex: the attributes are packed in
  declaration order, without alignment or padding. Offsets
  and the stride are 32-bit sums of the sizes.

  Key definitions include:
    * `Attribute.type`
    * `LayoutEntry`
    * `VertexLayout`
    * `VertexLayout.ofAttributes`
    * `VertexLayout.offsets`
-/

------------------------------------------------------------
-- Packed Layouts
------------------------------------------------------------

namespace ShaderBindings

/- The type of an attribute. -/
def Attribute.type (declared : Attribute) : AttributeType :=
  AttributeType.ofToken declared.typeToken

/- An attribute and the offset of its first byte. -/
structure LayoutEntry where
  declared : Attribute
  offset : UInt32
deriving DecidableEq, Repr

/- The placed attributes and the size of a whole vertex. -/
structure VertexLayout where
  stride : UInt32
  entries : List LayoutEntry
deriving DecidableEq, Repr

namespace VertexLayout

/- The attributes placed one after the other from an offset. -/
def place
    (offset : UInt32) :
    List Attribute → List LayoutEntry
| [] => []
| declared :: rest =>
    { declared, offset } ::
      place (offset + declared.type.byteSize) rest

/- The offset behind the attributes placed from an offset. -/
def extent
    (offset : UInt32)
    (attributes : List Attribute) : UInt32 :=
  attributes.foldl
    (fun reached declared => reached + declared.type.byteSize)
    offset

/- The layout of a list of attributes. -/
def ofAttributes
    (attributes : List Attribute) : VertexLayout where
  stride := extent 0 attributes
  entries := place 0 attributes

/- The offsets in declaration order. -/
def offsets (layout : VertexLayout) : List UInt32 :=
  layout.entries.map LayoutEntry.offset

end VertexLayout

end ShaderBindings
