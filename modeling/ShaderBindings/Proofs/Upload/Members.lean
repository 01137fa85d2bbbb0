import ShaderBindings.Proofs.Lookup
import ShaderBindings.Proofs.Upload.Primitive
import ShaderBindings.Proofs.Upload.Routing

/-
  Structs and their members. A struct is delivered field by
  field, under the name of its uniform, a dot and the name of
  the field. Since no field has a dot in its name, the last
  dot tells the uniform and the field apart, so that the
  struct can be put together again from what was delivered,
  and no two uniforms share the name of a member.

  Key definitions include:
    * `StructValue`
    * `StructValue.fields`
    * `StructValue.ofPayloads?`
    * `ownerName`
    * `Shader.SplitsStructs`

  Key theorems include:
    * `ownerName_memberName`
    * `memberName_inj`
    * `StructValue.ofPayloads?_call`
    * `Shader.perform_splits_structs`
-/

------------------------------------------------------------
-- Structs
------------------------------------------------------------

namespace ShaderBindings

namespace Upload

/- A value that is set as a struct. -/
inductive StructValue where
| material (value : Material)
| directionalLight (value : DirectionalLight)
| pointLight (value : PointLight)
deriving DecidableEq, Repr

namespace StructValue

/- A struct among the values of the host. -/
def host : StructValue → HostValue
| .material value => .material value
| .directionalLight value => .directionalLight value
| .pointLight value => .pointLight value

/- The call that sets a uniform to a struct. -/
def call
    (name : String)
    (value : StructValue) : Call :=
  value.host.call name

/- The fields of a struct, in the order of its declaration. -/
def fields : StructValue → List (String × UniformValue)
| .material ⟨diffuse, specular, shininess⟩ =>
    [("diffuse", .color diffuse), ("specular", .color specular),
      ("shininess", .float shininess)]
| .directionalLight ⟨direction, ambient, diffuse, specular⟩ =>
    [("direction", .vector direction),
      ("ambient", .color ambient), ("diffuse", .color diffuse),
      ("specular", .color specular)]
| .pointLight
      ⟨position, ambient, diffuse, specular, constant, linear,
        quadratic⟩ =>
    [("position", .vector position),
      ("ambient", .color ambient), ("diffuse", .color diffuse),
      ("specular", .color specular),
      ("constant", .float constant), ("linear", .float linear),
      ("quadratic", .float quadratic)]

/- A call sets one uniform for each field, in their order. -/
theorem payloads_call
    (name : String)
    (value : StructValue) :
    (value.call name).payloads =
      value.fields.map fun field =>
        .uniform (memberName name field.1) field.2 := by
  cases value with
  | material value => rfl
  | directionalLight value => rfl
  | pointLight value => rfl

/- No two fields of a struct share a name. -/
theorem nodup_fields (value : StructValue) :
    (value.fields.map Prod.fst).Nodup := by
  cases value <;> simp [fields]

/- There is no dot in the name of a field. -/
theorem dot_not_mem_field
    {value : StructValue}
    {field : String × UniformValue}
    (hField : field ∈ value.fields) :
    '.' ∉ field.1.toList := by
  have hName : field.1 ∈ value.fields.map Prod.fst :=
    List.mem_map_of_mem hField
  generalize field.1 = name at hName ⊢
  revert name
  cases value with
  | material value =>
      change ∀ name ∈ ["diffuse", "specular", "shininess"], _
      decide
  | directionalLight value =>
      change
        ∀ name ∈
          ["direction", "ambient", "diffuse", "specular"], _
      decide
  | pointLight value =>
      change
        ∀ name ∈
          ["position", "ambient", "diffuse", "specular",
            "constant", "linear", "quadratic"], _
      decide

end StructValue

end Upload

end ShaderBindings

------------------------------------------------------------
-- Names of Members
------------------------------------------------------------

namespace ShaderBindings

namespace Upload

/- What stands before the last dot of the name of a member. -/
def ownerName (member : String) : String :=
  String.ofList
    ((member.toList.reverse.dropWhile fun c =>
      c != '.').drop 1).reverse

variable {name other field tail : String}

theorem toList_memberName
    (name field : String) :
    (memberName name field).toList =
      name.toList ++ '.' :: field.toList := by
  simp [memberName]

/- Fields with different names are different members. -/
theorem memberName_injective (name : String) :
    Function.Injective (memberName name) := by
  intro field tail hSame
  apply String.toList_injective
  have hChars := congrArg String.toList hSame
  rw [toList_memberName, toList_memberName] at hChars
  simpa using hChars

/- The last dot stands behind the name of the uniform. -/
theorem ownerName_memberName
    (hField : '.' ∉ field.toList) :
    ownerName (memberName name field) = name := by
  have hBehind :
      ∀ c ∈ field.toList.reverse, (c != '.') = true := by
    intro c hMember
    rw [bne_iff_ne]
    rintro rfl
    exact hField (List.mem_reverse.mp hMember)
  rw [ownerName, toList_memberName, List.reverse_append,
    List.reverse_cons, List.append_assoc,
    List.dropWhile_append_of_pos hBehind]
  simp

/- A member belongs to one uniform, and is one of its fields. -/
theorem memberName_inj
    (hField : '.' ∉ field.toList)
    (hTail : '.' ∉ tail.toList)
    (hSame : memberName name field = memberName other tail) :
    name = other ∧ field = tail := by
  have hOwners := congrArg ownerName hSame
  rw [ownerName_memberName hField, ownerName_memberName hTail]
    at hOwners
  subst hOwners
  exact ⟨rfl, memberName_injective name hSame⟩

/- The name of a member has a dot. -/
theorem dot_mem_memberName :
    '.' ∈ (memberName name field).toList := by
  rw [toList_memberName]
  simp

/- The brackets and the index of an element bring no dot. -/
theorem dot_not_mem_elementName
    (hArray : '.' ∉ name.toList)
    (index : Nat) :
    '.' ∉ (Text.elementName name index).toList := by
  have hDigits : '.' ∉ Nat.toDigits 10 index := by
    intro hMember
    have hDigit : '.'.isDigit = true :=
      Nat.isDigit_of_mem_toDigits (by decide) (by decide)
        hMember
    cases hDigit
  simp [Text.elementName, hArray, hDigits]

end Upload

end ShaderBindings

------------------------------------------------------------
-- Structs from Their Members
------------------------------------------------------------

namespace ShaderBindings

namespace Upload

namespace UniformValue

/- The value as a number, if it is one. -/
def float? : UniformValue → Option Single
| .float value => some value
| _ => none

/- The value as a vector, if it is one. -/
def vector? : UniformValue → Option Vector3
| .vector value => some value
| _ => none

/- The value as a color, if it is one. -/
def color? : UniformValue → Option Vector4
| .color value => some value
| _ => none

end UniformValue

variable (member : String → Option UniformValue)

/- The material with some members, if they are all there. -/
def Material.ofMembers? : Option Material := do
  let diffuse ← (member "diffuse").bind UniformValue.color?
  let specular ← (member "specular").bind UniformValue.color?
  let shininess ←
    (member "shininess").bind UniformValue.float?
  return { diffuse, specular, shininess }

/- The directional light with some members. -/
def DirectionalLight.ofMembers? :
    Option DirectionalLight := do
  let direction ←
    (member "direction").bind UniformValue.vector?
  let ambient ← (member "ambient").bind UniformValue.color?
  let diffuse ← (member "diffuse").bind UniformValue.color?
  let specular ← (member "specular").bind UniformValue.color?
  return { direction, ambient, diffuse, specular }

/- The point light with some members. -/
def PointLight.ofMembers? : Option PointLight := do
  let position ← (member "position").bind UniformValue.vector?
  let ambient ← (member "ambient").bind UniformValue.color?
  let diffuse ← (member "diffuse").bind UniformValue.color?
  let specular ← (member "specular").bind UniformValue.color?
  let constant ← (member "constant").bind UniformValue.float?
  let linear ← (member "linear").bind UniformValue.float?
  let quadratic ←
    (member "quadratic").bind UniformValue.float?
  return {
    position, ambient, diffuse, specular, constant, linear
    quadratic }

namespace StructValue

/-
  The struct with some members. Each kind of struct has a
  member that no other kind has.
-/
def ofMembers? : Option StructValue :=
  (Material.ofMembers? member).map .material <|>
    (DirectionalLight.ofMembers? member).map
      .directionalLight <|>
    (PointLight.ofMembers? member).map .pointLight

/- A struct is the one that has its fields as members. -/
theorem ofMembers?_fields (value : StructValue) :
    ofMembers? (fun name => value.fields.lookup name) =
      some value := by
  cases value with
  | material value => rfl
  | directionalLight value => rfl
  | pointLight value => rfl

end StructValue

/- The value that a uniform is set to among payloads. -/
def valueOf?
    (payloads : List Payload)
    (name : String) : Option UniformValue :=
  payloads.findSome? fun payload =>
    match payload with
    | .uniform other value =>
        if other = name then some value else none
    | .pointer _ => none

namespace StructValue

/-
  The struct that payloads set, and the uniform that it is
  for. The uniform is read off the first name, and the
  members are then looked up by theirs.
-/
def ofPayloads? (payloads : List Payload) :
    Option (String × StructValue) := do
  let name ←
    (payloads.head?.bind Payload.name?).map ownerName
  let value ←
    ofMembers? fun field =>
      valueOf? payloads (memberName name field)
  return (name, value)

/- The members of a uniform are found by their names. -/
theorem valueOf?_members
    (name field : String)
    (members : List (String × UniformValue)) :
    valueOf?
        (members.map fun entry =>
          .uniform (memberName name entry.1) entry.2)
        (memberName name field) =
      members.lookup field := by
  induction members with
  | nil => rfl
  | cons entry rest ih =>
      rw [lookup_cons_eq_ite, ← ih]
      unfold valueOf?
      rw [List.map_cons, List.findSome?_cons]
      by_cases hSame : field = entry.1
      · simp [hSame]
      · have hNames :
            memberName name entry.1 ≠ memberName name field := by
          intro hMembers
          exact hSame (memberName_injective name hMembers).symm
        simp [hNames, hSame]

/- The first payload of a struct names its uniform. -/
theorem ownerName_head
    (name : String)
    (value : StructValue) :
    ((value.call name).payloads.head?.bind
        Payload.name?).map ownerName =
      some name := by
  rw [payloads_call]
  cases hFields : value.fields with
  | nil => cases value <;> cases hFields
  | cons first rest =>
      have hMember : first ∈ value.fields := by
        rw [hFields]
        exact List.mem_cons_self
      have hFirst : '.' ∉ first.1.toList :=
        dot_not_mem_field hMember
      exact congrArg some (ownerName_memberName hFirst)

/- A struct can be put together from what a call sets. -/
theorem ofPayloads?_call
    (name : String)
    (value : StructValue) :
    ofPayloads? (value.call name).payloads =
      some (name, value) := by
  unfold ofPayloads?
  rw [ownerName_head, payloads_call]
  simp only [valueOf?_members, Option.bind_eq_bind,
    Option.bind_some, ofMembers?_fields]
  rfl

end StructValue

end Upload

end ShaderBindings

------------------------------------------------------------
-- Deliveries of Structs
------------------------------------------------------------

namespace ShaderBindings

namespace Upload

variable {β : Type}

/- The names of the uniforms that are set by deliveries. -/
def deliveredNames
    (received : List (Delivery β)) : List String :=
  received.filterMap fun delivery => delivery.payload.name?

namespace Shader

variable {installed : Option β}
variable {shader : Shader β}
variable {backend : β}

/-
  How a shader that reaches a backend splits structs:
    * the backend receives the fields of a struct in their
      order, each under its own name behind that of the
      uniform and a dot, and nothing is dropped,
    * no field is delivered twice,
    * the uniform and the struct can be told from the payloads
      alone,
    * structs of uniforms with different names have no names
      of members in common,
    * no member has the name of a uniform without a dot, nor
      that of an element of an array without a dot.
-/
structure SplitsStructs
    (installed : Option β)
    (shader : Shader β)
    (backend : β) : Prop where
  delivered :
    ∀ name (value : StructValue),
      shader.perform installed (value.call name) =
        value.fields.map fun field => {
          backend
          program := shader.name
          payload := .uniform (name ++ "." ++ field.1) field.2 }
  kept :
    ∀ name (value : StructValue),
      shader.dropped installed (value.call name) = []
  once :
    ∀ name (value : StructValue),
      (deliveredNames
        (shader.perform installed (value.call name))).Nodup
  rebuilt :
    ∀ name (value : StructValue),
      StructValue.ofPayloads?
          ((shader.perform installed (value.call name)).map
            Delivery.payload) =
        some (name, value)
  apart :
    ∀ name other (value otherValue : StructValue),
      name ≠ other →
        (deliveredNames
            (shader.perform installed
              (value.call name))).Disjoint
          (deliveredNames
            (shader.perform installed
              (otherValue.call other)))
  undotted :
    ∀ name (value : StructValue) plain,
      '.' ∉ plain.toList →
        plain ∉
            deliveredNames
              (shader.perform installed (value.call name)) ∧
          ∀ index,
            Text.elementName plain index ∉
              deliveredNames
                (shader.perform installed (value.call name))

/- Deliveries carry the payloads of their call. -/
theorem map_payload_deliveries
    (call : Call)
    (backend : β)
    (program : String) :
    (call.deliveries backend program).map Delivery.payload =
      call.payloads := by
  unfold Call.deliveries
  rw [List.map_map, Call.payloads_eq_carried]
  exact List.map_id _

/- The members of a uniform are delivered under their names. -/
theorem deliveredNames_perform
    (hReach : shader.reach? installed = some backend)
    (name : String)
    (value : StructValue) :
    deliveredNames
        (shader.perform installed (value.call name)) =
      value.fields.map fun field =>
        memberName name field.1 := by
  rw [(perform_of_reach hReach _).1, Call.deliveries,
    ← Call.payloads_eq_carried, StructValue.payloads_call,
    deliveredNames, List.map_map, List.filterMap_map]
  change
    value.fields.filterMap
        (some ∘ fun field => memberName name field.1) = _
  rw [List.filterMap_eq_map]

/- A shader splits structs without loss and without mix-up. -/
theorem perform_splits_structs
    (installed : Option β)
    (shader : Shader β)
    (backend : β)
    (hReach : shader.reach? installed = some backend) :
    SplitsStructs installed shader backend where
  delivered := by
    intro name value
    rw [(perform_of_reach hReach _).1, Call.deliveries,
      ← Call.payloads_eq_carried, StructValue.payloads_call,
      List.map_map]
    rfl
  kept := fun _ _ => (perform_of_reach hReach _).2
  once := by
    intro name value
    have hNames :
        ((value.fields.map Prod.fst).map
          (memberName name)).Nodup :=
      value.nodup_fields.map (memberName_injective name)
    rw [List.map_map] at hNames
    rw [deliveredNames_perform hReach]
    exact hNames
  rebuilt := by
    intro name value
    rw [(perform_of_reach hReach _).1, map_payload_deliveries,
      StructValue.ofPayloads?_call]
  apart := by
    intro name other value otherValue hDiffers
    rw [deliveredNames_perform hReach,
      deliveredNames_perform hReach]
    intro member hHere hThere
    rcases List.mem_map.mp hHere with ⟨field, hField, rfl⟩
    rcases List.mem_map.mp hThere with ⟨tail, hTail, hSame⟩
    have hBoth :=
      memberName_inj
        (StructValue.dot_not_mem_field hTail)
        (StructValue.dot_not_mem_field hField) hSame
    exact hDiffers hBoth.1.symm
  undotted := by
    intro name value plain hPlain
    rw [deliveredNames_perform hReach]
    have hMembers :
        ∀ free, '.' ∉ free.toList →
          free ∉ value.fields.map fun field =>
            memberName name field.1 := by
      intro free hFree hMember
      rcases List.mem_map.mp hMember with ⟨field, _, rfl⟩
      exact hFree dot_mem_memberName
    constructor
    · exact hMembers plain hPlain
    · intro index
      exact hMembers _ (dot_not_mem_elementName hPlain index)

/- A shader of its own backend, beside an installed one. -/
def litShader : Shader Nat where
  name := "lit"
  backend := some 7

/- A shader with a backend of its own splits structs. -/
theorem perform_splits_structs_lit :
    litShader.reach? (some 1) = some 7 ∧
      SplitsStructs (some 1) litShader 7 := by
  have hReach : litShader.reach? (some 1) = some 7 := by
    decide
  exact
    ⟨hReach,
      perform_splits_structs (some 1) litShader 7 hReach⟩

end Shader

end Upload

end ShaderBindings
