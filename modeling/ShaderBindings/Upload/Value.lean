import ShaderBindings.AttributeType

/-
  The values that shaders receive. Numbers with a fraction
  are kept by the 32 bits of their single-precision form,
  since nothing is computed with them.

  Key definitions include:
    * `Single`
    * `Vector3`
    * `Vector4`
    * `Matrix4`
    * `UniformValue`
    * `AttributePointer`
    * `Material`
    * `DirectionalLight`
    * `PointLight`
-/

------------------------------------------------------------
-- Numbers, Vectors and Matrices
------------------------------------------------------------

namespace ShaderBindings

namespace Upload

/- A single-precision number, by its bits. -/
structure Single where
  bits : UInt32
deriving DecidableEq, Repr

namespace Single

/- The number one. -/
def one : Single :=
  ⟨0x3F800000⟩

/- The number thirty-two. -/
def thirtyTwo : Single :=
  ⟨0x42000000⟩

end Single

/- A position or a direction. -/
structure Vector3 where
  x : Single
  y : Single
  z : Single
deriving DecidableEq, Repr

/- A color. -/
structure Vector4 where
  x : Single
  y : Single
  z : Single
  w : Single
deriving DecidableEq, Repr

namespace Vector4

/- One in every component. -/
def one : Vector4 :=
  ⟨.one, .one, .one, .one⟩

end Vector4

/- A matrix, by its columns. -/
structure Matrix4 where
  first : Vector4
  second : Vector4
  third : Vector4
  fourth : Vector4
deriving DecidableEq, Repr

end Upload

end ShaderBindings

------------------------------------------------------------
-- Values a Backend Receives
------------------------------------------------------------

namespace ShaderBindings

namespace Upload

/- The value of one uniform that is not a struct. -/
inductive UniformValue where
| int (value : Int32)
| float (value : Single)
| bool (value : Bool)
| vector (value : Vector3)
| color (value : Vector4)
| matrix4 (value : Matrix4)
deriving DecidableEq, Repr

namespace UniformValue

/- The name of the kind of a value. -/
def kind : UniformValue → String
| .int _ => "int"
| .float _ => "float"
| .bool _ => "bool"
| .vector _ => "vector"
| .color _ => "color"
| .matrix4 _ => "matrix4"

end UniformValue

/- Where the data of a vertex attribute is found. -/
structure AttributePointer where
  location : UInt32
  components : UInt32
  format : PointerFormat
  stride : UInt32
  offset : UInt32
deriving DecidableEq, Repr

end Upload

end ShaderBindings

------------------------------------------------------------
-- Structs
------------------------------------------------------------

namespace ShaderBindings

namespace Upload

/- How a surface reflects light. -/
structure Material where
  diffuse : Vector4
  specular : Vector4
  shininess : Single
deriving DecidableEq, Repr

namespace Material

/- A white material. -/
def standard : Material where
  diffuse := .one
  specular := .one
  shininess := .thirtyTwo

end Material

/- A light from one direction. -/
structure DirectionalLight where
  direction : Vector3
  ambient : Vector4
  diffuse : Vector4
  specular : Vector4
deriving DecidableEq, Repr

/- A light from one point, weaker with the distance. -/
structure PointLight where
  position : Vector3
  ambient : Vector4
  diffuse : Vector4
  specular : Vector4
  constant : Single
  linear : Single
  quadratic : Single
deriving DecidableEq, Repr

end Upload

end ShaderBindings
