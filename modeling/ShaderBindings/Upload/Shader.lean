import ShaderBindings.Upload.Value
import ShaderBindings.Text.Quoted

/-
  Handles to shader programs and what a backend receives
  when one is called. A struct is delivered member by
  member, each under the name of the uniform and its own.

  Key definitions include:
    * `Payload`
    * `Call`
    * `Call.payloads`
    * `Shader`
    * `Shader.reach?`
    * `Delivery`
    * `Shader.perform`
-/

------------------------------------------------------------
-- Calls
------------------------------------------------------------

namespace ShaderBindings

namespace Upload

/- One thing a backend receives for a program. -/
inductive Payload where
| uniform (name : String) (value : UniformValue)
| pointer (pointer : AttributePointer)
deriving DecidableEq, Repr

/- A call on a shader. -/
inductive Call where
| setInt (name : String) (value : Int32)
| setFloat (name : String) (value : Single)
| setBool (name : String) (value : Bool)
| setVector (name : String) (value : Vector3)
| setColor (name : String) (value : Vector4)
| setMatrix4 (name : String) (value : Matrix4)
| setMaterial (name : String) (value : Material)
| setDirectionalLight
    (name : String) (value : DirectionalLight)
| setPointLight (name : String) (value : PointLight)
| vertexAttribPointer (pointer : AttributePointer)
deriving DecidableEq, Repr

/- The name of a member of a struct uniform. -/
def memberName
    (name : String)
    (member : String) : String :=
  name ++ "." ++ member

namespace Material

/- The members of a material. -/
def members (material : Material) :
    List (String × UniformValue) :=
  [("diffuse", .color material.diffuse),
    ("specular", .color material.specular),
    ("shininess", .float material.shininess)]

end Material

namespace DirectionalLight

/- The members of a directional light. -/
def members (light : DirectionalLight) :
    List (String × UniformValue) :=
  [("direction", .vector light.direction),
    ("ambient", .color light.ambient),
    ("diffuse", .color light.diffuse),
    ("specular", .color light.specular)]

end DirectionalLight

namespace PointLight

/- The members of a point light. -/
def members (light : PointLight) :
    List (String × UniformValue) :=
  [("position", .vector light.position),
    ("ambient", .color light.ambient),
    ("diffuse", .color light.diffuse),
    ("specular", .color light.specular),
    ("constant", .float light.constant),
    ("linear", .float light.linear),
    ("quadratic", .float light.quadratic)]

end PointLight

/- The payloads of the members of a struct uniform. -/
def memberPayloads
    (name : String)
    (members : List (String × UniformValue)) :
    List Payload :=
  members.map fun member =>
    .uniform (memberName name member.1) member.2

namespace Call

/- What a call delivers, in order. -/
def payloads : Call → List Payload
| .setInt name value => [.uniform name (.int value)]
| .setFloat name value => [.uniform name (.float value)]
| .setBool name value => [.uniform name (.bool value)]
| .setVector name value => [.uniform name (.vector value)]
| .setColor name value => [.uniform name (.color value)]
| .setMatrix4 name value => [.uniform name (.matrix4 value)]
| .setMaterial name value =>
    memberPayloads name value.members
| .setDirectionalLight name value =>
    memberPayloads name value.members
| .setPointLight name value =>
    memberPayloads name value.members
| .vertexAttribPointer pointer => [.pointer pointer]

end Call

end Upload

end ShaderBindings

------------------------------------------------------------
-- Shaders
------------------------------------------------------------

namespace ShaderBindings

namespace Upload

variable {β : Type}

/-
  A handle to a shader program: its name, and a backend of
  its own if it has one.
-/
structure Shader (β : Type) where
  name : String
  backend : Option β
deriving DecidableEq, Repr

/- What one backend receives, and for which program. -/
structure Delivery (β : Type) where
  backend : β
  program : String
  payload : Payload
deriving DecidableEq, Repr

namespace Shader

/-
  The backend that calls reach: the shader's own, else the
  installed one.
-/
def reach?
    (installed : Option β)
    (shader : Shader β) : Option β :=
  match shader.backend with
  | some backend => some backend
  | none => installed

/-
  The deliveries of a call. Without a backend the call is
  dropped.
-/
def perform
    (installed : Option β)
    (shader : Shader β)
    (call : Call) : List (Delivery β) :=
  match shader.reach? installed with
  | some backend =>
      call.payloads.map fun payload =>
        { backend, program := shader.name, payload }
  | none => []

/- The payloads of a call that no backend receives. -/
def dropped
    (installed : Option β)
    (shader : Shader β)
    (call : Call) : List Payload :=
  match shader.reach? installed with
  | some _ => []
  | none => call.payloads

/- A handle as it is shown to a reader. -/
def describe (shader : Shader β) : String :=
  "Shader \x7b name: " ++ Text.quoted shader.name ++
    ", backend: " ++
    (if shader.backend.isSome then "true" else "false") ++
    " \x7d"

end Shader

end Upload

end ShaderBindings
