/-
  The types of uniforms. Nine type words have a setter of
  their own in the runtime; every other word stands for a
  type that the host defines under the same name.

  Key definitions include:
    * `UniformKind`
    * `UniformKind.ofToken?`
    * `UniformType`
    * `UniformType.ofToken`
    * `UniformType.hostType`
    * `UniformType.accessor`
    * `UniformType.byValue`
-/

------------------------------------------------------------
-- Kinds with a Setter of Their Own
------------------------------------------------------------

namespace ShaderBindings

/- The uniform types that the runtime has a setter for. -/
inductive UniformKind where
| int
| float
| bool
| vector
| color
| matrix4
| material
| directionalLight
| pointLight
deriving DecidableEq, Repr

namespace UniformKind

/- The kind that a type word stands for. -/
def ofToken? : String → Option UniformKind
| "int" => some .int
| "float" => some .float
| "bool" => some .bool
| "vec3" => some .vector
| "vec4" => some .color
| "mat4" => some .matrix4
| "Material" => some .material
| "DirectionalLight" => some .directionalLight
| "PointLight" => some .pointLight
| _ => none

/- The type of the values on the host. -/
def hostType : UniformKind → String
| .int => "i32"
| .float => "f32"
| .bool => "bool"
| .vector => "Vector"
| .color => "Color"
| .matrix4 => "Matrix4"
| .material => "Material"
| .directionalLight => "DirectionalLight"
| .pointLight => "PointLight"

/- What the runtime's setter is named after. -/
def accessor : UniformKind → String
| .int => "int"
| .float => "float"
| .bool => "bool"
| .vector => "vector"
| .color => "color"
| .matrix4 => "matrix4"
| .material => "material"
| .directionalLight => "directional_light"
| .pointLight => "point_light"

/-
  Scalars are passed by value and everything else by
  reference.
-/
def byValue : UniformKind → Bool
| .int => true
| .float => true
| .bool => true
| _ => false

end UniformKind

end ShaderBindings

------------------------------------------------------------
-- Types of Uniforms
------------------------------------------------------------

namespace ShaderBindings

/-
  The type of a uniform: a kind known to the runtime, or a
  word that is both a host type and its own accessor.
-/
inductive UniformType where
| known (kind : UniformKind)
| passThrough (token : String)
deriving DecidableEq, Repr

namespace UniformType

/- The type that a type word stands for. -/
def ofToken (token : String) : UniformType :=
  match UniformKind.ofToken? token with
  | some kind => .known kind
  | none => .passThrough token

/- The type of the values on the host. -/
def hostType : UniformType → String
| .known kind => kind.hostType
| .passThrough token => token

/- What the runtime's setter is named after. -/
def accessor : UniformType → String
| .known kind => kind.accessor
| .passThrough token => token

/- Values are passed by value. -/
def byValue : UniformType → Bool
| .known kind => kind.byValue
| .passThrough _ => false

end UniformType

end ShaderBindings
