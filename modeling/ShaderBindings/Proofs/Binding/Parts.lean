import ShaderBindings.Proofs.Binding.Invocation
import ShaderBindings.Proofs.Binding.Methods

/-
  What the methods of a binding are. For declarations that
  are named by words every method is known from the interface
  it is made from: those of every class, one that configures
  each attribute at its place in the layout, one that calls
  all of these, and one that sets each uniform.

  Key definitions include:
    * `Binding.configuring`
    * `Binding.configuringAll`
    * `Binding.setting`

  Key theorems include:
    * `Binding.parts_of_methodsOf`
    * `Binding.configuring_mem_of_methodsOf`
    * `Binding.body_of_uniformMethod`
    * `Binding.eq_setting_of_known`
-/

------------------------------------------------------------
-- Methods of Attributes
------------------------------------------------------------

namespace ShaderBindings

open Code
open Form
open Upload

namespace Binding

/- The method that configures a placed attribute. -/
def configuring
    (stride : UInt32)
    (entry : LayoutEntry) : Method where
  name := ⟨MethodName.attributeSetter entry.declared.name⟩
  body := .configure (pointerOf stride entry)

/- The method that configures all attributes in order. -/
def configuringAll (attributes : List Attribute) : Method where
  name := ⟨MethodName.aggregateSetter⟩
  body :=
    .callEach
      (attributes.map fun declared =>
        ⟨MethodName.attributeSetter declared.name⟩)

/- An identifier that is made from a solid text is the text. -/
theorem eq_of_ident
    {text : String}
    {name : Ident}
    (hSolid : ∀ c ∈ text.toList, isSolid c = true)
    (hIdent : ident text = .ok name) :
    name = ⟨text⟩ := by
  rw [← text_of_ident hSolid hIdent]

theorem eq_of_attributeMethod
    {stride : UInt32}
    {entry : LayoutEntry}
    {method : Method}
    (hWord : IsWord entry.declared.name)
    (hMethod : attributeMethod stride entry = .ok method) :
    method = configuring stride entry := by
  rcases except_bind_eq_ok_iff.mp hMethod with
    ⟨name, hName, hMade⟩
  cases hMade
  rw [eq_of_ident (MethodName.attributeSetter_solid hWord)
    hName]
  rfl

/- The aggregate setter calls the setters of the entries. -/
theorem eq_of_aggregateMethod
    {attributes : List Attribute}
    {methods : List Method}
    (hWords :
      ∀ declared ∈ attributes, IsWord declared.name)
    (hMethods :
      aggregateMethod (VertexLayout.place 0 attributes) =
        .ok methods) :
    methods =
      if attributes.isEmpty then
        []
      else
        [configuringAll attributes] := by
  cases attributes with
  | nil =>
      cases hMethods
      rfl
  | cons first rest =>
      rw [aggregateMethod, if_neg (by simp [VertexLayout.place])]
        at hMethods
      rcases except_bind_eq_ok_iff.mp hMethods with
        ⟨called, hCalled, hNamed⟩
      rcases except_bind_eq_ok_iff.mp hNamed with
        ⟨name, hName, hMade⟩
      cases hMade
      have hSetters :
          called.map id =
            (VertexLayout.place 0 (first :: rest)).map
              fun entry =>
                (⟨MethodName.attributeSetter
                  entry.declared.name⟩ : Ident) := by
        apply map_of_mapM_eq_ok _ _ ?_ hCalled
        intro entry hEntry setter hSetter
        apply eq_of_ident ?_ hSetter
        apply MethodName.attributeSetter_solid
        exact hWords entry.declared
          (VertexLayout.declared_mem_of_mem_place hEntry)
      rw [List.map_id, VertexLayout.map_place 0 (first :: rest)
        fun declared =>
          (⟨MethodName.attributeSetter declared.name⟩ : Ident)]
        at hSetters
      rw [hSetters,
        eq_of_ident MethodName.aggregateSetter_solid hName]
      rfl

end Binding

end ShaderBindings

------------------------------------------------------------
-- Methods of Uniforms
------------------------------------------------------------

namespace ShaderBindings

open Code
open Form
open Upload

namespace Binding

/- The method that sets a uniform of a known kind. -/
def setting
    (kind : UniformKind)
    (declared : Uniform) : Method where
  name := ⟨MethodName.uniformSetter declared.name⟩
  body :=
    if declared.isArray then
      .setEach
        ⟨MethodName.uniformSetter kind.accessor⟩
        declared.name ⟨kind.hostType⟩ kind.byValue
    else
      .set
        ⟨MethodName.uniformSetter kind.accessor⟩
        declared.name ⟨kind.hostType⟩ kind.byValue

/- The method of a uniform calls no method of the class. -/
theorem body_of_uniformMethod
    {declared : Uniform}
    {method : Method}
    (hMethod : uniformMethod declared = .ok method)
    (methods : List Ident) :
    method.body ≠ .callEach methods := by
  rcases except_bind_eq_ok_iff.mp hMethod with
    ⟨name, _, hNamed⟩
  rcases except_bind_eq_ok_iff.mp hNamed with
    ⟨setter, _, hSet⟩
  rcases except_bind_eq_ok_iff.mp hSet with
    ⟨host, _, hMade⟩
  cases hMade
  cases declared.isArray with
  | true => simp
  | false => simp

theorem accessor_solid (kind : UniformKind) :
    ∀ c ∈ (MethodName.uniformSetter kind.accessor).toList,
      isSolid c = true := by
  apply List.all_eq_true.mp
  cases kind <;> decide +kernel

theorem hostType_solid (kind : UniformKind) :
    ∀ c ∈ kind.hostType.toList, isSolid c = true := by
  apply List.all_eq_true.mp
  cases kind <;> decide +kernel

theorem eq_of_hostType
    {text : String}
    {type : HostType}
    (hSolid : ∀ c ∈ text.toList, isSolid c = true)
    (hType : hostType text = .ok type) :
    type = ⟨text⟩ := by
  unfold hostType at hType
  split at hType
  · rename_i found hFound
    cases hType
    rw [← HostType.text_of_solid hSolid hFound]
  · cases hType

/- A uniform of a known kind is set by the method for it. -/
theorem eq_setting_of_known
    {kind : UniformKind}
    {declared : Uniform}
    {method : Method}
    (hWord : IsWord declared.name)
    (hKind :
      UniformType.ofToken declared.typeToken = .known kind)
    (hMethod : uniformMethod declared = .ok method) :
    method = setting kind declared := by
  unfold uniformMethod at hMethod
  rw [hKind] at hMethod
  rcases except_bind_eq_ok_iff.mp hMethod with
    ⟨name, hName, hNamed⟩
  rcases except_bind_eq_ok_iff.mp hNamed with
    ⟨setter, hSetter, hSet⟩
  rcases except_bind_eq_ok_iff.mp hSet with
    ⟨host, hHost, hMade⟩
  cases hMade
  rw [eq_of_ident (MethodName.uniformSetter_solid hWord) hName,
    eq_of_ident (accessor_solid kind) hSetter,
    eq_of_hostType (hostType_solid kind) hHost]
  rfl

end Binding

end ShaderBindings

------------------------------------------------------------
-- All Methods
------------------------------------------------------------

namespace ShaderBindings

open Code
open Form
open Upload

namespace Binding

/-
  The methods of a binding, part by part. Only the methods of
  the uniforms are left open, as their types may be any.
-/
theorem parts_of_methodsOf
    {interface : Interface}
    {methods : List Method}
    (hNamed : interface.declarations.NamedByWords)
    (hMethods : methodsOf interface = .ok methods) :
    let layout :=
      VertexLayout.ofAttributes interface.attributes
    ∃ uniform,
      interface.uniforms.mapM uniformMethod = .ok uniform ∧
        methods =
          constructors interface.baseName ++
            layout.entries.map (configuring layout.stride) ++
            (if interface.attributes.isEmpty then
              []
            else
              [configuringAll interface.attributes]) ++
            uniform := by
  intro layout
  rcases except_bind_eq_ok_iff.mp hMethods with
    ⟨single, hSingle, hAfterSingle⟩
  rcases except_bind_eq_ok_iff.mp hAfterSingle with
    ⟨aggregate, hAggregate, hAfterAggregate⟩
  rcases except_bind_eq_ok_iff.mp hAfterAggregate with
    ⟨uniform, hUniform, hMade⟩
  cases hMade
  have hConfiguring :
      single.map id =
        layout.entries.map (configuring layout.stride) := by
    apply map_of_mapM_eq_ok _ _ ?_ hSingle
    intro entry hEntry method hMethod
    apply eq_of_attributeMethod ?_ hMethod
    exact hNamed.attributes entry.declared
      (VertexLayout.declared_mem_of_mem_place hEntry)
  rw [List.map_id] at hConfiguring
  refine ⟨uniform, hUniform, ?_⟩
  rw [hConfiguring,
    eq_of_aggregateMethod hNamed.attributes hAggregate]
  rfl

/- Every placed attribute has its method. -/
theorem configuring_mem_of_methodsOf
    {interface : Interface}
    {methods : List Method}
    (hNamed : interface.declarations.NamedByWords)
    (hMethods : methodsOf interface = .ok methods)
    {entry : LayoutEntry}
    (hEntry :
      entry ∈ VertexLayout.place 0 interface.attributes) :
    configuring (VertexLayout.extent 0 interface.attributes)
        entry ∈
      methods := by
  rcases parts_of_methodsOf hNamed hMethods with
    ⟨uniform, _, hParts⟩
  rw [hParts]
  simp only [List.mem_append]
  exact Or.inl (Or.inl (Or.inr (List.mem_map_of_mem hEntry)))

end Binding

end ShaderBindings
