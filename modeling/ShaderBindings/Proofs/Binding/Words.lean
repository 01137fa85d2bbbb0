import ShaderBindings.Proofs.Binding.Methods
import ShaderBindings.Proofs.Code.Words

/-
  The words of a binding. Every name that a binding is made
  with is one word of code, whichever text it was read from.

  Key definitions include:
    * `Method.WordsWhole`
    * `Binding.WordsWhole`

  Key theorems include:
    * `Binding.wordsWhole_of_ofInterface`
-/

------------------------------------------------------------
-- Words of a Method
------------------------------------------------------------

namespace ShaderBindings

open Code

/- The words of a body are whole. -/
def Body.WordsWhole : Body → Prop
| .callEach methods => ∀ name ∈ methods, IsWhole name.text
| .set setter _ hostType _ =>
    IsWhole setter.text ∧ IsWhole hostType.text
| .setEach setter _ hostType _ =>
    IsWhole setter.text ∧ IsWhole hostType.text
| _ => True

/- The words of a method are whole. -/
structure Method.WordsWhole (method : Method) : Prop where
  name : IsWhole method.name.text
  body : method.body.WordsWhole

end ShaderBindings

------------------------------------------------------------
-- Words of a Binding
------------------------------------------------------------

namespace ShaderBindings

open Code

namespace Binding

/-
  The words of a binding are whole, and its runtime has a
  path without arguments.
-/
structure WordsWhole (binding : Binding) : Prop where
  module : IsWhole binding.module.text
  runtime :
    ∀ segment ∈ binding.runtime.segments, IsWhole segment
  located : binding.runtime.segments ≠ []
  plain : binding.runtime.generic = false
  className : IsWhole binding.className.text
  methods : ∀ method ∈ binding.methods, method.WordsWhole

theorem isWhole_of_ident
    {text : String}
    {name : Ident}
    (hIdent : ident text = .ok name) :
    IsWhole name.text := by
  unfold ident at hIdent
  split at hIdent
  · rename_i found hFound
    cases hIdent
    exact Code.isWhole_of_ident hFound
  · cases hIdent

theorem isWhole_of_hostType
    {text : String}
    {type : HostType}
    (hType : hostType text = .ok type) :
    IsWhole type.text := by
  unfold hostType at hType
  split at hType
  · rename_i found hFound
    cases hType
    exact Code.isWhole_of_hostType hFound
  · cases hType

theorem wordsWhole_of_attributeMethod
    {stride : UInt32}
    {entry : LayoutEntry}
    {method : Method}
    (hMethod : attributeMethod stride entry = .ok method) :
    method.WordsWhole := by
  rcases except_bind_eq_ok_iff.mp hMethod with
    ⟨name, hName, hMade⟩
  cases hMade
  exact ⟨isWhole_of_ident hName, trivial⟩

theorem wordsWhole_of_aggregateMethod
    {entries : List LayoutEntry}
    {methods : List Method}
    (hMethods : aggregateMethod entries = .ok methods) :
    ∀ method ∈ methods, method.WordsWhole := by
  unfold aggregateMethod at hMethods
  split at hMethods
  · cases hMethods
    simp
  · rcases except_bind_eq_ok_iff.mp hMethods with
      ⟨called, hCalled, hNamed⟩
    rcases except_bind_eq_ok_iff.mp hNamed with
      ⟨name, hName, hMade⟩
    cases hMade
    intro method hMethod
    rw [List.mem_singleton.mp hMethod]
    refine ⟨isWhole_of_ident hName, ?_⟩
    intro setter hSetter
    rcases exists_input_of_mapM_eq_ok hCalled hSetter with
      ⟨entry, _, hIdent⟩
    exact isWhole_of_ident hIdent

theorem wordsWhole_of_uniformMethod
    {declared : Uniform}
    {method : Method}
    (hMethod : uniformMethod declared = .ok method) :
    method.WordsWhole := by
  rcases except_bind_eq_ok_iff.mp hMethod with
    ⟨name, hName, hNamed⟩
  rcases except_bind_eq_ok_iff.mp hNamed with
    ⟨setter, hSetter, hSet⟩
  rcases except_bind_eq_ok_iff.mp hSet with
    ⟨host, hHost, hMade⟩
  cases hMade
  refine ⟨isWhole_of_ident hName, ?_⟩
  have hWords :
      IsWhole setter.text ∧ IsWhole host.text :=
    ⟨isWhole_of_ident hSetter, isWhole_of_hostType hHost⟩
  cases declared.isArray with
  | true => exact hWords
  | false => exact hWords

/- The methods of every class have whole names. -/
theorem wordsWhole_constructors
    (program : String) :
    ∀ method ∈ constructors program, method.WordsWhole := by
  have hNew : IsWhole "new" :=
    isWhole_of_all (by decide) rfl
  have hInstance : IsWhole "instance" :=
    isWhole_of_all (by decide) rfl
  have hShader : IsWhole "shader" :=
    isWhole_of_all (by decide) rfl
  intro method hMethod
  simp only [constructors, List.mem_cons, List.not_mem_nil,
    or_false] at hMethod
  rcases hMethod with rfl | rfl | rfl
  · exact ⟨hNew, trivial⟩
  · exact ⟨hInstance, trivial⟩
  · exact ⟨hShader, trivial⟩

theorem wordsWhole_of_methodsOf
    {interface : Interface}
    {methods : List Method}
    (hMethods : methodsOf interface = .ok methods) :
    ∀ method ∈ methods, method.WordsWhole := by
  rcases except_bind_eq_ok_iff.mp hMethods with
    ⟨single, hSingle, hAfterSingle⟩
  rcases except_bind_eq_ok_iff.mp hAfterSingle with
    ⟨aggregate, hAggregate, hAfterAggregate⟩
  rcases except_bind_eq_ok_iff.mp hAfterAggregate with
    ⟨uniform, hUniform, hMade⟩
  cases hMade
  intro method hMethod
  simp only [List.mem_append] at hMethod
  rcases hMethod with
    ((hConstructor | hAttribute) | hAll) | hSetter
  · exact wordsWhole_constructors _ method hConstructor
  · rcases exists_input_of_mapM_eq_ok hSingle hAttribute with
      ⟨entry, _, hEntry⟩
    exact wordsWhole_of_attributeMethod hEntry
  · exact wordsWhole_of_aggregateMethod hAggregate method
      hAll
  · rcases exists_input_of_mapM_eq_ok hUniform hSetter with
      ⟨declared, _, hDeclared⟩
    exact wordsWhole_of_uniformMethod hDeclared

/- Bindings are only made of whole words. -/
theorem wordsWhole_of_ofInterface
    {options : BindingOptions}
    {interface : Interface}
    {binding : Binding}
    (hBinding :
      (ofInterface options interface).result = .ok binding) :
    binding.WordsWhole := by
  unfold ofInterface at hBinding
  rcases Logged.result_bind_eq_ok_iff.mp hBinding with
    ⟨module, hModule, hAfterModule⟩
  rcases Logged.result_bind_eq_ok_iff.mp hAfterModule with
    ⟨runtime, hRuntime, hAfterRuntime⟩
  rcases Logged.result_bind_eq_ok_iff.mp hAfterRuntime with
    ⟨className, hClass, hAfterClass⟩
  rcases Logged.result_bind_eq_ok_iff.mp hAfterClass with
    ⟨_, _, hAfterLog⟩
  rcases Logged.result_bind_eq_ok_iff.mp hAfterLog with
    ⟨methods, hMethods, hMade⟩
  dsimp only at hMade
  split at hMade
  · rename_i hWritable
    cases hMade
    have hImportable : runtime.isImportable = true := by
      simp only [isWritable, Bool.and_eq_true] at hWritable
      exact hWritable.1
    have hPath :
        RuntimePath.ofString? options.runtime =
          some runtime := by
      rw [Logged.result_ofExcept] at hRuntime
      unfold runtimePath at hRuntime
      split at hRuntime
      · rename_i path hPath
        cases hRuntime
        exact hPath
      · cases hRuntime
    have hPlain :=
      RuntimePath.plain_of_isImportable hPath hImportable
    exact {
      module := isWhole_of_ident hModule
      runtime :=
        RuntimePath.isWhole_of_segment hPath hImportable
      located := hPlain.1
      plain := hPlain.2
      className := isWhole_of_ident hClass
      methods := wordsWhole_of_methodsOf hMethods }
  · cases hMade

end Binding

end ShaderBindings
