import Mathlib.Data.List.Nodup
import ShaderBindings.MethodName
import ShaderBindings.Proofs.Text.Template
import ShaderBindings.UniformType
import ShaderBindings.Upload.Shader

/-
  The setters of a shader, one for each type of values that
  the host has: under which name a setter is called, how it
  takes its value, and what it delivers. The table of uniform
  types names exactly these setters.

  Key definitions include:
    * `HostValue`
    * `Primitive`
    * `HostValue.primitive`
    * `HostValue.call`
    * `Payload.name?`

  Key theorems include:
    * `HostValue.primitive_eq`
    * `HostValue.payloadNames_call`
    * `HostValue.nodup_payloadNames_call`
    * `HostValue.nodup_payloadNames_elements`
-/

------------------------------------------------------------
-- Setters of a Shader
------------------------------------------------------------

namespace ShaderBindings

namespace Upload

/- A value of the host that a shader has a setter for. -/
inductive HostValue where
| int (value : Int32)
| float (value : Single)
| bool (value : Bool)
| vector (value : Vector3)
| color (value : Vector4)
| matrix4 (value : Matrix4)
| material (value : Material)
| directionalLight (value : DirectionalLight)
| pointLight (value : PointLight)
deriving DecidableEq, Repr

/-
  A setter of a shader: its name, the type of the values
  that it takes, and whether it takes them by value or by
  reference.
-/
structure Primitive where
  name : String
  hostType : String
  byValue : Bool
deriving DecidableEq, Repr

namespace HostValue

/- The kind of uniform that a value is for. -/
def kind : HostValue → UniformKind
| .int _ => .int
| .float _ => .float
| .bool _ => .bool
| .vector _ => .vector
| .color _ => .color
| .matrix4 _ => .matrix4
| .material _ => .material
| .directionalLight _ => .directionalLight
| .pointLight _ => .pointLight

/- The setter that takes a value. -/
def primitive : HostValue → Primitive
| .int _ => ⟨"set_int", "i32", true⟩
| .float _ => ⟨"set_float", "f32", true⟩
| .bool _ => ⟨"set_bool", "bool", true⟩
| .vector _ => ⟨"set_vector", "Vector", false⟩
| .color _ => ⟨"set_color", "Color", false⟩
| .matrix4 _ => ⟨"set_matrix4", "Matrix4", false⟩
| .material _ => ⟨"set_material", "Material", false⟩
| .directionalLight _ =>
    ⟨"set_directional_light", "DirectionalLight", false⟩
| .pointLight _ => ⟨"set_point_light", "PointLight", false⟩

/- The call that sets a uniform to a value. -/
def call (name : String) : HostValue → Call
| .int value => .setInt name value
| .float value => .setFloat name value
| .bool value => .setBool name value
| .vector value => .setVector name value
| .color value => .setColor name value
| .matrix4 value => .setMatrix4 name value
| .material value => .setMaterial name value
| .directionalLight value =>
    .setDirectionalLight name value
| .pointLight value => .setPointLight name value

/- Accessors are written in lower-case words already. -/
theorem uniformSetter_accessor (kind : UniformKind) :
    MethodName.uniformSetter kind.accessor =
      "set_" ++ kind.accessor := by
  cases kind <;> decide +kernel

/-
  The table of uniform types tells how to call the setter of
  a value: its name is made from the accessor of the kind.
-/
theorem primitive_eq (value : HostValue) :
    value.primitive = {
      name := MethodName.uniformSetter value.kind.accessor
      hostType := value.kind.hostType
      byValue := value.kind.byValue } := by
  rw [uniformSetter_accessor]
  cases value <;> rfl

end HostValue

end Upload

end ShaderBindings

------------------------------------------------------------
-- Names of Payloads
------------------------------------------------------------

namespace ShaderBindings

namespace Upload

namespace Payload

/- The name of the uniform that a payload sets. -/
def name? : Payload → Option String
| .uniform name _ => some name
| .pointer _ => none

end Payload

namespace HostValue

/-
  What stands behind the name of a uniform in the names of
  its payloads: nothing, or the members of a struct.
-/
def endings : HostValue → List String
| .material value =>
    value.members.map fun member => "." ++ member.1
| .directionalLight value =>
    value.members.map fun member => "." ++ member.1
| .pointLight value =>
    value.members.map fun member => "." ++ member.1
| _ => [""]

/- A payload is named by its uniform and an ending. -/
theorem payloadNames_call
    (name : String)
    (value : HostValue) :
    (value.call name).payloads.map Payload.name? =
      value.endings.map fun ending => some (name ++ ending) := by
  cases value <;>
    simp [call, Call.payloads, memberPayloads, memberName,
      endings, Payload.name?, String.append_assoc,
      Function.comp_def]

theorem nodup_endings (value : HostValue) :
    value.endings.Nodup := by
  cases value <;>
    simp [endings, Material.members,
      DirectionalLight.members, PointLight.members]

/- The payloads of one call have different names. -/
theorem nodup_payloadNames_call
    (name : String)
    (value : HostValue) :
    ((value.call name).payloads.map Payload.name?).Nodup := by
  rw [payloadNames_call]
  apply value.nodup_endings.map
  intro ending other hSame
  injection hSame with hNames
  apply String.toList_injective
  have hChars := congrArg String.toList hNames
  rw [String.toList_append, String.toList_append] at hChars
  exact List.append_cancel_left hChars

/-
  The payloads of all the elements of an array have different
  names, since an element is named by its index.
-/
theorem nodup_payloadNames_elements
    (array : String)
    (values : List HostValue) :
    ((values.zipIdx.flatMap fun item =>
      (item.1.call
        (Text.elementName array item.2)).payloads).map
          Payload.name?).Nodup := by
  rw [List.map_flatMap, List.nodup_flatMap]
  constructor
  · intro item _
    exact item.1.nodup_payloadNames_call _
  · have hIndices :
        values.zipIdx.Pairwise fun item other =>
          item.2 ≠ other.2 := by
      have hRange : (values.zipIdx.map Prod.snd).Nodup := by
        rw [List.zipIdx_map_snd]
        exact List.nodup_range'
      exact List.pairwise_map.mp hRange
    apply hIndices.imp
    intro item other hDiffers name hItem hOther
    dsimp only at hItem hOther
    rw [payloadNames_call] at hItem hOther
    rcases List.mem_map.mp hItem with ⟨ending, _, rfl⟩
    rcases List.mem_map.mp hOther with ⟨tail, _, hSame⟩
    injection hSame with hNames
    have hChars := congrArg String.toList hNames
    rw [String.toList_append, String.toList_append] at hChars
    exact hDiffers (Text.elementName_append_inj hChars).1.symm

end HostValue

end Upload

end ShaderBindings
