/-
  The types of vertex attributes: how many components they
  have, how many bytes they take and how their components
  are read. Every component is four bytes wide.

  Key definitions include:
    * `PointerFormat`
    * `AttributeKind`
    * `AttributeKind.ofToken?`
    * `AttributeType`
    * `AttributeType.ofToken`
    * `AttributeType.componentCount`
    * `AttributeType.byteSize`
    * `AttributeType.format`
-/

------------------------------------------------------------
-- Pointer Formats
------------------------------------------------------------

namespace ShaderBindings

/-
  How the components of an attribute are read. An attribute
  whose type has no known size is unmapped.
-/
inductive PointerFormat where
| float
| int
| unmapped
deriving DecidableEq, Repr

namespace PointerFormat

/- The short name of a format, empty for an unmapped one. -/
def tag : PointerFormat → String
| .float => "float"
| .int => "int"
| .unmapped => ""

end PointerFormat

end ShaderBindings

------------------------------------------------------------
-- Kinds with a Known Size
------------------------------------------------------------

namespace ShaderBindings

/- The attribute types with a known size. -/
inductive AttributeKind where
| int
| bool
| float
| vec2
| vec3
| vec4
deriving DecidableEq, Repr

namespace AttributeKind

/- The kind that a type word stands for. -/
def ofToken? : String → Option AttributeKind
| "int" => some .int
| "bool" => some .bool
| "float" => some .float
| "vec2" => some .vec2
| "vec3" => some .vec3
| "vec4" => some .vec4
| _ => none

/- The number of components. -/
def componentCount : AttributeKind → UInt32
| .int => 1
| .bool => 1
| .float => 1
| .vec2 => 2
| .vec3 => 3
| .vec4 => 4

/- Integers and truth values are read as integers. -/
def format : AttributeKind → PointerFormat
| .int => .int
| .bool => .int
| _ => .float

end AttributeKind

end ShaderBindings

------------------------------------------------------------
-- Types of Attributes
------------------------------------------------------------

namespace ShaderBindings

/-
  The type of an attribute. An unmapped type contributes no
  components and no bytes.
-/
inductive AttributeType where
| known (kind : AttributeKind)
| unmapped
deriving DecidableEq, Repr

namespace AttributeType

/- The type that a type word stands for. -/
def ofToken (token : String) : AttributeType :=
  match AttributeKind.ofToken? token with
  | some kind => .known kind
  | none => .unmapped

/- The type has a known size. -/
def isMapped : AttributeType → Bool
| .known _ => true
| .unmapped => false

/- The number of components. -/
def componentCount : AttributeType → UInt32
| .known kind => kind.componentCount
| .unmapped => 0

/- The number of bytes, four for each component. -/
def byteSize (type : AttributeType) : UInt32 :=
  type.componentCount * 4

/- How the components are read. -/
def format : AttributeType → PointerFormat
| .known kind => kind.format
| .unmapped => .unmapped

end AttributeType

end ShaderBindings
