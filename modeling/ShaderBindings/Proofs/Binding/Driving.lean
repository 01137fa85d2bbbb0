import ShaderBindings.Proofs.Binding.Parts
import ShaderBindings.Proofs.Upload.Routing

/-
  What the methods of a binding deliver. When no two methods
  share a name, calling the aggregate setter delivers the
  place of every attribute, and calling the setter of a
  uniform of a known type delivers what the setter of the
  shader delivers for the name of the uniform, or for the
  names of its elements.

  Key definitions include:
    * `Binding.pointers`
    * `Binding.Binds`
    * `Binding.Drives`

  Key theorems include:
    * `Binding.Binds.calls?_aggregateSetter`
    * `Binding.Binds.calls?_uniformSetter`
    * `Binding.Binds.calls?_uniformSetter_array`
    * `Binding.Binds.drives`
-/

------------------------------------------------------------
-- Calls of Setters
------------------------------------------------------------

namespace ShaderBindings

open Code
open Form
open Upload

/- A step that succeeds everywhere succeeds on a list. -/
theorem mapM_eq_some_map
    {α γ : Type}
    {step : α → Option γ}
    {result : α → γ}
    {inputs : List α}
    (hStep :
      ∀ input ∈ inputs, step input = some (result input)) :
    inputs.mapM step = some (inputs.map result) := by
  induction inputs with
  | nil => rfl
  | cons input rest ih =>
      rw [List.mapM_cons, hStep input List.mem_cons_self,
        ih fun other hOther =>
          hStep other (List.mem_cons_of_mem input hOther)]
      rfl

namespace Body

/- A setter is called with the values that it is for. -/
theorem forward?_kind
    (name : String)
    (value : HostValue) :
    forward?
        ⟨MethodName.uniformSetter value.kind.accessor⟩
        ⟨value.kind.hostType⟩ value.kind.byValue name value =
      some (value.call name) := by
  rw [forward?, if_pos value.primitive_eq]

/- Every element of an array is set under its own name. -/
theorem forwardElement?_kind
    {array : String}
    (hArray : IsWord array)
    (item : HostValue × Nat) :
    forwardElement?
        ⟨MethodName.uniformSetter item.1.kind.accessor⟩
        ⟨item.1.kind.hostType⟩ item.1.kind.byValue array
        item =
      some
        (item.1.call (Text.elementName array item.2)) := by
  rw [forwardElement?, Text.filled?_elementTemplate hArray]
  simp only [String.ofList_toList]
  exact forward?_kind _ _

end Body

end ShaderBindings

------------------------------------------------------------
-- Bindings without Clashes
------------------------------------------------------------

namespace ShaderBindings

open Code
open Form
open Upload

namespace Binding

/- Where the data of the attributes is found, in order. -/
def pointers (interface : Interface) :
    List AttributePointer :=
  let layout := VertexLayout.ofAttributes interface.attributes
  layout.entries.map (pointerOf layout.stride)

/-
  A binding has the methods of an interface whose names are
  words, and no two of them share a name.
-/
structure Binds
    (binding : Binding)
    (interface : Interface) : Prop where
  named : interface.declarations.NamedByWords
  methods : methodsOf interface = .ok binding.methods
  distinct : binding.methodNames.Nodup

namespace Binds

variable {binding : Binding}
variable {interface : Interface}

/- The shader of a binding is named by the base name. -/
theorem shader?_eq
    {β : Type}
    (hBinds : binding.Binds interface) :
    binding.shader? =
      some
        ({ name := interface.baseName
           backend := none } : Shader β) := by
  rcases parts_of_methodsOf hBinds.named hBinds.methods with
    ⟨uniform, _, hParts⟩
  rw [shader?, method?, hParts]
  rfl

/- The setter of an attribute spells one call. -/
theorem ownCalls?_attributeSetter
    (hBinds : binding.Binds interface)
    {entry : LayoutEntry}
    (hEntry :
      entry ∈ VertexLayout.place 0 interface.attributes) :
    binding.ownCalls?
        ⟨MethodName.attributeSetter entry.declared.name⟩ =
      some
        [.vertexAttribPointer
          (pointerOf
            (VertexLayout.extent 0 interface.attributes)
            entry)] := by
  have hMember :=
    configuring_mem_of_methodsOf hBinds.named hBinds.methods
      hEntry
  have hFound := method?_of_mem hBinds.distinct hMember
  dsimp only [configuring] at hFound
  rw [ownCalls?, hFound]
  rfl

/- The aggregate setter spells one call per attribute. -/
theorem calls?_aggregateSetter
    (hBinds : binding.Binds interface)
    (hSome : interface.attributes ≠ []) :
    binding.calls? MethodName.aggregateSetter .nothing =
      some
        ((pointers interface).map
          Call.vertexAttribPointer) := by
  rcases parts_of_methodsOf hBinds.named hBinds.methods with
    ⟨uniform, _, hParts⟩
  have hMember :
      configuringAll interface.attributes ∈
        binding.methods := by
    rw [hParts, if_neg (by simpa using hSome)]
    simp
  have hFound := method?_of_mem hBinds.distinct hMember
  dsimp only [configuringAll] at hFound
  have hEach :
      (interface.attributes.map fun declared =>
          (⟨MethodName.attributeSetter declared.name⟩ :
            Ident)).mapM binding.ownCalls? =
        some
          ((VertexLayout.place 0 interface.attributes).map
            fun entry =>
              [.vertexAttribPointer
                (pointerOf
                  (VertexLayout.extent 0 interface.attributes)
                  entry)]) := by
    rw [← VertexLayout.map_place 0 interface.attributes,
      List.mapM_map]
    apply mapM_eq_some_map
    intro entry hEntry
    exact hBinds.ownCalls?_attributeSetter hEntry
  rw [calls?, hFound]
  simp only [hEach, Option.map_some]
  rw [← List.flatMap_def, ← List.map_eq_flatMap, pointers,
    List.map_map]
  rfl

/- The methods of a binding include those of its uniforms. -/
theorem method?_uniformSetter
    (hBinds : binding.Binds interface)
    {declared : Uniform}
    {kind : UniformKind}
    (hDeclared : declared ∈ interface.uniforms)
    (hKind :
      UniformType.ofToken declared.typeToken = .known kind) :
    binding.method? (MethodName.uniformSetter declared.name) =
      some (setting kind declared) := by
  rcases parts_of_methodsOf hBinds.named hBinds.methods with
    ⟨uniform, hUniform, hParts⟩
  rcases exists_result_of_mapM_eq_ok hUniform hDeclared with
    ⟨method, hMethod, hMade⟩
  have hMember : method ∈ binding.methods := by
    rw [hParts]
    exact List.mem_append_right _ hMethod
  rw [eq_setting_of_known
    (hBinds.named.uniforms declared hDeclared) hKind hMade]
    at hMember
  exact method?_of_mem hBinds.distinct hMember

/- The setter of a uniform spells one call. -/
theorem calls?_uniformSetter
    (hBinds : binding.Binds interface)
    {declared : Uniform}
    (hDeclared : declared ∈ interface.uniforms)
    (hSingle : declared.isArray = false)
    {value : HostValue}
    (hKind :
      UniformType.ofToken declared.typeToken =
        .known value.kind) :
    binding.calls? (MethodName.uniformSetter declared.name)
        (.value value) =
      some [value.call declared.name] := by
  rw [calls?, hBinds.method?_uniformSetter hDeclared hKind]
  simp only [setting, hSingle]
  change (Body.forward? _ _ _ _ _).map _ = _
  rw [Body.forward?_kind]
  rfl

/- The setter of an array spells one call per element. -/
theorem calls?_uniformSetter_array
    (hBinds : binding.Binds interface)
    {declared : Uniform}
    {kind : UniformKind}
    (hDeclared : declared ∈ interface.uniforms)
    (hArray : declared.isArray = true)
    (hKind :
      UniformType.ofToken declared.typeToken = .known kind)
    {values : List HostValue}
    (hValues : ∀ value ∈ values, value.kind = kind) :
    binding.calls? (MethodName.uniformSetter declared.name)
        (.values values) =
      some
        (values.zipIdx.map fun item =>
          item.1.call
            (Text.elementName declared.name item.2)) := by
  rw [calls?, hBinds.method?_uniformSetter hDeclared hKind]
  simp only [setting, hArray]
  apply mapM_eq_some_map
  intro item hItem
  have hItemKind : item.1.kind = kind :=
    hValues item.1 (List.fst_mem_of_mem_zipIdx hItem)
  rw [← hItemKind]
  exact Body.forwardElement?_kind
    (hBinds.named.uniforms declared hDeclared) item

end Binds

end Binding

end ShaderBindings

------------------------------------------------------------
-- Deliveries
------------------------------------------------------------

namespace ShaderBindings

open Upload

namespace Binding

/- The attributes beside their offsets, as pointers. -/
theorem pointers_eq_zipWith (interface : Interface) :
    let layout :=
      VertexLayout.ofAttributes interface.attributes
    pointers interface =
      List.zipWith
        (fun declared offset => {
          location := declared.location
          components := declared.type.componentCount
          format := declared.type.format
          stride := layout.stride
          offset })
        interface.attributes layout.offsets := by
  intro layout
  have hEntries :
      layout.entries =
        List.zipWith LayoutEntry.mk interface.attributes
          layout.offsets :=
    (VertexLayout.zipWith_place 0 interface.attributes).symm
  rw [pointers, hEntries, List.map_zipWith]
  rfl

/-
  A binding drives the runtime for an interface. Whatever
  backend is installed, it receives, under the base name:
    * from the aggregate setter, one pointer per attribute,
      in order, with the offset and the stride of the layout,
    * from the setter of a uniform of a known type, what the
      setter of the shader delivers for its name,
    * from the setter of an array of a known type, what the
      setter of the shader delivers for each of the elements
      in order, under names that are all different.
  What the setters of the shader deliver is what their calls
  carry.
-/
structure Drives
    (binding : Binding)
    (interface : Interface) : Prop where
  carried :
    ∀ {β : Type} (backend : β) (call : Call),
      let shader : Shader β :=
        { name := interface.baseName, backend := none }
      shader.perform (some backend) call =
        call.carried.map fun payload => {
          backend
          program := interface.baseName
          payload }
  attributes :
    ∀ {β : Type} (backend : β),
      let layout :=
        VertexLayout.ofAttributes interface.attributes
      interface.attributes ≠ [] →
        layout.offsets.length = interface.attributes.length ∧
        binding.deliveries? (some backend)
            MethodName.aggregateSetter .nothing =
          some
            (List.zipWith
              (fun declared offset => {
                backend
                program := interface.baseName
                payload := .pointer {
                  location := declared.location
                  components := declared.type.componentCount
                  format := declared.type.format
                  stride := layout.stride
                  offset } })
              interface.attributes layout.offsets)
  uniforms :
    ∀ {β : Type} (backend : β),
      let shader : Shader β :=
        { name := interface.baseName, backend := none }
      ∀ declared ∈ interface.uniforms,
        declared.isArray = false →
          ∀ value : HostValue,
            UniformType.ofToken declared.typeToken =
                .known value.kind →
              binding.deliveries? (some backend)
                  (MethodName.uniformSetter declared.name)
                  (.value value) =
                some
                  (shader.perform (some backend)
                    (value.call declared.name))
  arrays :
    ∀ {β : Type} (backend : β),
      let shader : Shader β :=
        { name := interface.baseName, backend := none }
      ∀ declared ∈ interface.uniforms,
        declared.isArray = true →
          ∀ kind,
            UniformType.ofToken declared.typeToken =
                .known kind →
              ∀ values : List HostValue,
                (∀ value ∈ values, value.kind = kind) →
                  ∃ deliveries,
                    binding.deliveries? (some backend)
                        (MethodName.uniformSetter
                          declared.name)
                        (.values values) =
                      some deliveries ∧
                    deliveries =
                      values.zipIdx.flatMap (fun item =>
                        shader.perform (some backend)
                          (item.1.call
                            (declared.name ++ "[" ++
                              toString item.2 ++ "]"))) ∧
                    deliveries.Pairwise fun delivery other =>
                      delivery.payload.name? ≠
                        other.payload.name?

end Binding

namespace Upload

namespace Shader

/- A shader without a backend reaches the installed one. -/
theorem perform_installed
    {β : Type}
    (name : String)
    (backend : β)
    (call : Call) :
    ({ name, backend := none } : Shader β).perform
        (some backend) call =
      call.payloads.map fun payload =>
        { backend, program := name, payload } :=
  rfl

/- The payloads that are delivered are those of the calls. -/
theorem map_payload_flatMap_perform
    {α β : Type}
    (name : String)
    (backend : β)
    (calls : α → Call)
    (items : List α) :
    (items.flatMap fun item =>
        ({ name, backend := none } : Shader β).perform
          (some backend) (calls item)).map
        Delivery.payload =
      items.flatMap fun item => (calls item).payloads := by
  rw [List.map_flatMap]
  congr 1
  funext item
  rw [perform_installed, List.map_map]
  exact List.map_id _

end Shader

end Upload

namespace Binding

namespace Binds

variable {binding : Binding}
variable {interface : Interface}

/- A binding whose methods are told apart drives the runtime. -/
theorem drives
    (hBinds : binding.Binds interface) :
    binding.Drives interface where
  carried := by
    intro β backend call shader
    rw [← Call.payloads_eq_carried]
    exact Shader.perform_installed _ backend call
  attributes := by
    intro β backend layout hSome
    constructor
    · simp [layout, VertexLayout.offsets,
        VertexLayout.ofAttributes]
    · rw [deliveries?_of_calls? hBinds.shader?_eq
        (hBinds.calls?_aggregateSetter hSome),
        List.flatMap_map]
      simp only [Shader.perform_installed, Call.payloads,
        List.map_singleton]
      rw [← List.map_eq_flatMap, pointers_eq_zipWith,
        List.map_zipWith]
  uniforms := by
    intro β backend shader declared hDeclared hSingle value
      hKind
    rw [deliveries?_of_calls? hBinds.shader?_eq
      (hBinds.calls?_uniformSetter hDeclared hSingle hKind)]
    simp [shader]
  arrays := by
    intro β backend shader declared hDeclared hArray kind
      hKind values hValues
    refine ⟨_,
      deliveries?_of_calls? hBinds.shader?_eq
        (hBinds.calls?_uniformSetter_array hDeclared hArray
          hKind hValues), ?_, ?_⟩
    · rw [List.flatMap_map]
      rfl
    · have hNames :=
        HostValue.nodup_payloadNames_elements declared.name
          values
      rw [← Shader.map_payload_flatMap_perform
        interface.baseName backend, List.map_map] at hNames
      rw [List.flatMap_map]
      exact List.pairwise_map.mp hNames

end Binds

end Binding

end ShaderBindings
