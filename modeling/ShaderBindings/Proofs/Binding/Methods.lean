import ShaderBindings.Binding
import ShaderBindings.Proofs.Declaration.Found
import ShaderBindings.Proofs.Logged
import ShaderBindings.Proofs.MethodName.Clash
import ShaderBindings.Proofs.MethodName.Solid

/-
  The methods of a binding. Names of methods are computed
  twice, once to look for clashes and once when the binding
  is made, where they are read as identifiers. For
  declarations that are named by words both ways agree: the
  methods of a binding are those of every class, followed by
  exactly the setters of its declarations.

  Key definitions include:
    * `Interface.declarations`
    * `Binding.methodNames`

  Key theorems include:
    * `Binding.names_of_methodsOf`
    * `Binding.of_ofInterface`
    * `Binding.nodup_methodNames`
-/

------------------------------------------------------------
-- Names of Methods
------------------------------------------------------------

namespace ShaderBindings

open Code
open Form

/- What an interface declares. -/
def Interface.declarations
    (interface : Interface) : Declarations where
  uniforms := interface.uniforms
  attributes := interface.attributes

namespace Binding

/- The names of the methods of a binding, in order. -/
def methodNames (binding : Binding) : List String :=
  binding.methods.map fun method => method.name.text

/- An identifier is written like the solid text it is from. -/
theorem text_of_ident
    {text : String}
    {name : Ident}
    (hSolid : ∀ c ∈ text.toList, isSolid c = true)
    (hIdent : ident text = .ok name) :
    name.text = text := by
  unfold ident at hIdent
  cases hName : Ident.ofString? text with
  | none =>
      rw [hName] at hIdent
      cases hIdent
  | some found =>
      rw [hName] at hIdent
      cases hIdent
      exact Ident.text_of_solid hSolid hName

/- The setter of an attribute has its name. -/
theorem name_of_attributeMethod
    {stride : UInt32}
    {entry : LayoutEntry}
    {method : Method}
    (hWord : IsWord entry.declared.name)
    (hMethod : attributeMethod stride entry = .ok method) :
    method.name.text =
      MethodName.attributeSetter entry.declared.name := by
  rcases except_bind_eq_ok_iff.mp hMethod with
    ⟨name, hName, hMade⟩
  cases hMade
  exact text_of_ident
    (MethodName.attributeSetter_solid hWord) hName

/- The setter of a uniform has its name. -/
theorem name_of_uniformMethod
    {declared : Uniform}
    {method : Method}
    (hWord : IsWord declared.name)
    (hMethod : uniformMethod declared = .ok method) :
    method.name.text =
      MethodName.uniformSetter declared.name := by
  rcases except_bind_eq_ok_iff.mp hMethod with
    ⟨name, hName, hNamed⟩
  rcases except_bind_eq_ok_iff.mp hNamed with
    ⟨setter, _, hSet⟩
  rcases except_bind_eq_ok_iff.mp hSet with
    ⟨host, _, hMade⟩
  cases hMade
  exact text_of_ident
    (MethodName.uniformSetter_solid hWord) hName

/- There is one setter for all attributes, if there are any. -/
theorem names_of_aggregateMethod
    {entries : List LayoutEntry}
    {methods : List Method}
    (hMethods : aggregateMethod entries = .ok methods) :
    (methods.map fun method => method.name.text) =
      if entries.isEmpty then
        []
      else
        [MethodName.aggregateSetter] := by
  unfold aggregateMethod at hMethods
  split at hMethods
  · rename_i hEmpty
    cases hMethods
    rw [if_pos hEmpty]
    rfl
  · rename_i hSome
    rcases except_bind_eq_ok_iff.mp hMethods with
      ⟨called, _, hCalled⟩
    rcases except_bind_eq_ok_iff.mp hCalled with
      ⟨name, hName, hMade⟩
    cases hMade
    have hText :=
      text_of_ident MethodName.aggregateSetter_solid hName
    rw [if_neg hSome, List.map_singleton, hText]

/-
  The methods of an interface are those of every class and
  then its setters, under the names that are compared when
  clashes are looked for.
-/
theorem names_of_methodsOf
    {interface : Interface}
    {methods : List Method}
    (hNamed : interface.declarations.NamedByWords)
    (hMethods : methodsOf interface = .ok methods) :
    (methods.map fun method => method.name.text) =
      ["new", "instance", "shader"] ++
        MethodName.methods interface.uniforms
          interface.attributes := by
  rcases except_bind_eq_ok_iff.mp hMethods with
    ⟨single, hSingle, hAfterSingle⟩
  rcases except_bind_eq_ok_iff.mp hAfterSingle with
    ⟨aggregate, hAggregate, hAfterAggregate⟩
  rcases except_bind_eq_ok_iff.mp hAfterAggregate with
    ⟨uniform, hUniform, hMade⟩
  cases hMade
  have hSingleNames :
      (single.map fun method => method.name.text) =
        interface.attributes.map fun declared =>
          MethodName.attributeSetter declared.name := by
    rw [← VertexLayout.map_place 0]
    apply map_of_mapM_eq_ok _ _ ?_ hSingle
    intro entry hEntry method hMethod
    have hDeclared : entry.declared ∈ interface.attributes :=
      VertexLayout.declared_mem_of_mem_place hEntry
    exact name_of_attributeMethod
      (hNamed.attributes entry.declared hDeclared) hMethod
  have hUniformNames :
      (uniform.map fun method => method.name.text) =
        interface.uniforms.map fun declared =>
          MethodName.uniformSetter declared.name := by
    apply map_of_mapM_eq_ok _ _ ?_ hUniform
    intro declared hDeclared method hMethod
    exact name_of_uniformMethod
      (hNamed.uniforms declared hDeclared) hMethod
  have hAggregateNames := names_of_aggregateMethod hAggregate
  have hEmpty :
      (VertexLayout.ofAttributes
          interface.attributes).entries.isEmpty =
        interface.attributes.isEmpty := by
    cases interface.attributes with
    | nil => rfl
    | cons declared rest => rfl
  rw [hEmpty] at hAggregateNames
  rw [MethodName.methods_eq, ← hSingleNames, ← hUniformNames,
    ← hAggregateNames]
  simp [constructors]

end Binding

end ShaderBindings

------------------------------------------------------------
-- Bindings That Are Made
------------------------------------------------------------

namespace ShaderBindings

open Code

namespace Binding

/-
  A binding that is made has the methods of its interface,
  and a clash is all that is logged on the way.
-/
theorem of_ofInterface
    {options : BindingOptions}
    {interface : Interface}
    {binding : Binding}
    (hBinding :
      (ofInterface options interface).result = .ok binding) :
    methodsOf interface = .ok binding.methods ∧
      (ofInterface options interface).events =
        clashEvents interface := by
  unfold ofInterface at hBinding ⊢
  rcases Logged.result_bind_eq_ok_iff.mp hBinding with
    ⟨module, hModule, hAfterModule⟩
  rcases Logged.result_bind_eq_ok_iff.mp hAfterModule with
    ⟨runtime, hRuntime, hAfterRuntime⟩
  rcases Logged.result_bind_eq_ok_iff.mp hAfterRuntime with
    ⟨className, hClass, hAfterClass⟩
  rcases Logged.result_bind_eq_ok_iff.mp hAfterClass with
    ⟨_, hLog, hAfterLog⟩
  rcases Logged.result_bind_eq_ok_iff.mp hAfterLog with
    ⟨methods, hMethods, hMade⟩
  rw [Logged.events_bind hModule, Logged.events_bind hRuntime,
    Logged.events_bind hClass, Logged.events_bind hLog,
    Logged.events_bind hMethods]
  dsimp only at hMade ⊢
  split at hMade
  · rename_i hWritable
    cases hMade
    rw [if_pos hWritable]
    exact ⟨hMethods, by simp⟩
  · cases hMade

/-
  When no setters clash, no two methods of a binding share a
  name: the methods of every class are no setters.
-/
theorem nodup_methodNames
    {interface : Interface}
    {binding : Binding}
    (hNamed : interface.declarations.NamedByWords)
    (hSetters :
      (MethodName.methods interface.uniforms
        interface.attributes).Nodup)
    (hMethods :
      methodsOf interface = .ok binding.methods) :
    binding.methodNames.Nodup := by
  unfold methodNames
  rw [names_of_methodsOf hNamed hMethods, List.nodup_append]
  refine ⟨by decide, hSetters, ?_⟩
  rintro name hOwn method hSetter rfl
  rcases MethodName.exists_setterChars hSetter with
    ⟨rest, hChars⟩
  have hDiffers :
      ∀ own ∈ ["new", "instance", "shader"],
        own.toList.take 4 ≠ ['s', 'e', 't', '_'] := by
    decide
  apply hDiffers name hOwn
  rw [hChars]
  rfl

end Binding

end ShaderBindings
