import ShaderBindings.Proofs.Binding.Invocation
import ShaderBindings.Proofs.Binding.Parts

/-
  The methods of a binding cover its interface. They are
  those of every class and then the setters under whose names
  clashes are looked for, one method for each name. Every
  attribute is configured once, at its place in the layout,
  and the aggregate setter calls the setters of the
  attributes in order.

  Key definitions include:
    * `Body.callsOwn`
    * `Binding.Covers`

  Key theorems include:
    * `Attribute.format_eq_unmapped_iff`
    * `Binding.covers_of_methodsOf`
-/

------------------------------------------------------------
-- Covered Interfaces
------------------------------------------------------------

namespace ShaderBindings

open Code
open Upload

/- A body calls other methods of the class. -/
def Body.callsOwn : Body → Bool
| .callEach _ => true
| _ => false

namespace Binding

/-
  A binding covers an interface:
    * its methods have the names of the methods of every
      class and then of the setters of the interface,
    * the method of the attribute at a place spells the one
      call that configures it, with the offset that the
      layout has at this place, and with no format when the
      type of the attribute is not known,
    * only the aggregate setter calls other methods. It is
      there when there are attributes, behind their setters,
      and calls each of these in order.
-/
structure Covers
    (binding : Binding)
    (interface : Interface) : Prop where
  names :
    binding.methodNames =
      ["new", "instance", "shader"] ++
        MethodName.methods interface.uniforms
          interface.attributes
  attributes :
    let layout :=
      VertexLayout.ofAttributes interface.attributes
    layout.offsets.length = interface.attributes.length ∧
      ∀ place declared offset,
        interface.attributes[place]? = some declared →
          layout.offsets[place]? = some offset →
            ∃ method,
              binding.methods[3 + place]? = some method ∧
                method.name.text =
                  MethodName.attributeSetter declared.name ∧
                method.body.calls? .nothing =
                  some [.vertexAttribPointer {
                    location := declared.location
                    components :=
                      declared.type.componentCount
                    format := declared.type.format
                    stride := layout.stride
                    offset }]
  unmapped :
    ∀ declared ∈ interface.attributes,
      declared.type.format = .unmapped ↔
        AttributeKind.ofToken? declared.typeToken = none
  aggregate :
    binding.methods.filter (fun method =>
        method.body.callsOwn) =
      if interface.attributes.isEmpty then
        []
      else
        [configuringAll interface.attributes]
  aggregate_place :
    interface.attributes ≠ [] →
      binding.methods[3 + interface.attributes.length]? =
        some (configuringAll interface.attributes)

end Binding

end ShaderBindings

------------------------------------------------------------
-- Coverage
------------------------------------------------------------

namespace ShaderBindings

open Code
open Form
open Upload

/- Only an unknown type leaves an attribute unmapped. -/
theorem Attribute.format_eq_unmapped_iff
    (declared : Attribute) :
    declared.type.format = .unmapped ↔
      AttributeKind.ofToken? declared.typeToken = none := by
  unfold Attribute.type AttributeType.ofToken
  cases AttributeKind.ofToken? declared.typeToken with
  | none => simp [AttributeType.format]
  | some kind =>
      cases kind <;>
        simp [AttributeType.format, AttributeKind.format]

namespace Binding

/- The setter of an attribute is at the place of its entry. -/
theorem getElem?_attributeSetter
    {program : String}
    {stride : UInt32}
    {entries : List LayoutEntry}
    {rest : List Method}
    {place : Nat}
    {entry : LayoutEntry}
    (hEntry : entries[place]? = some entry) :
    (constructors program ++
        entries.map (configuring stride) ++ rest)[3 + place]? =
      some (configuring stride entry) := by
  have hBound : place < entries.length :=
    (List.getElem?_eq_some_iff.mp hEntry).1
  rw [List.append_assoc,
    List.getElem?_append_right (by simp [constructors]),
    List.getElem?_append_left (by simpa [constructors])]
  simp [constructors, hEntry]

/- The setters of the attributes are followed by the rest. -/
theorem getElem?_behind_attributes
    {program : String}
    {stride : UInt32}
    {entries : List LayoutEntry}
    {method : Method}
    {rest : List Method} :
    (constructors program ++
        entries.map (configuring stride) ++
        (method :: rest))[3 + entries.length]? =
      some method := by
  have hLength :
      (constructors program ++
          entries.map (configuring stride)).length =
        3 + entries.length := by
    simp [constructors]
    omega
  rw [← hLength, List.getElem?_append_right (Nat.le_refl _),
    Nat.sub_self]
  rfl

/- An attribute and an offset at one place make an entry. -/
theorem getElem?_place
    {attributes : List Attribute}
    {place : Nat}
    {declared : Attribute}
    {offset : UInt32}
    (hDeclared : attributes[place]? = some declared)
    (hOffset :
      (VertexLayout.ofAttributes attributes).offsets[place]? =
        some offset) :
    (VertexLayout.place 0 attributes)[place]? =
      some { declared, offset } := by
  have hZip :=
    VertexLayout.zipWith_place 0 attributes
  rw [← hZip, List.getElem?_zipWith, hDeclared]
  change
    ((VertexLayout.place 0 attributes).map
      LayoutEntry.offset)[place]? = some offset at hOffset
  rw [hOffset]

/- Only the aggregate setter calls other methods. -/
theorem filter_callsOwn_of_methodsOf
    {interface : Interface}
    {methods : List Method}
    (hNamed : interface.declarations.NamedByWords)
    (hMethods : methodsOf interface = .ok methods) :
    (methods.filter fun method => method.body.callsOwn) =
      if interface.attributes.isEmpty then
        []
      else
        [configuringAll interface.attributes] := by
  rcases parts_of_methodsOf hNamed hMethods with
    ⟨uniform, hUniform, hParts⟩
  have hConstructors :
      ((constructors interface.baseName).filter
        fun method => method.body.callsOwn) = [] :=
    rfl
  have hSingle :
      ∀ entries : List LayoutEntry,
        ∀ stride,
          ((entries.map (configuring stride)).filter
            fun method => method.body.callsOwn) = [] := by
    intro entries stride
    simp [configuring, Body.callsOwn]
  have hSetting :
      (uniform.filter fun method => method.body.callsOwn) =
        [] := by
    rw [List.filter_eq_nil_iff]
    intro method hMethod
    rcases exists_input_of_mapM_eq_ok hUniform hMethod with
      ⟨declared, _, hMade⟩
    cases hBody : method.body with
    | callEach called =>
        exact absurd hBody
          (body_of_uniformMethod hMade called)
    | _ => simp [Body.callsOwn]
  rw [hParts]
  simp only [List.filter_append, hConstructors, hSingle,
    hSetting, List.nil_append, List.append_nil]
  split
  · rfl
  · rfl

/- The methods that are made for an interface cover it. -/
theorem covers_of_methodsOf
    {interface : Interface}
    {binding : Binding}
    (hNamed : interface.declarations.NamedByWords)
    (hMethods :
      methodsOf interface = .ok binding.methods) :
    binding.Covers interface where
  names := names_of_methodsOf hNamed hMethods
  attributes := by
    intro layout
    constructor
    · simp [layout, VertexLayout.offsets,
        VertexLayout.ofAttributes]
    · intro place declared offset hDeclared hOffset
      rcases parts_of_methodsOf hNamed hMethods with
        ⟨uniform, _, hParts⟩
      have hEntry := getElem?_place hDeclared hOffset
      refine ⟨configuring layout.stride
        { declared, offset }, ?_, rfl, rfl⟩
      rw [hParts, List.append_assoc]
      exact getElem?_attributeSetter hEntry
  unmapped := fun declared _ =>
    declared.format_eq_unmapped_iff
  aggregate := filter_callsOwn_of_methodsOf hNamed hMethods
  aggregate_place := by
    intro hSome
    rcases parts_of_methodsOf hNamed hMethods with
      ⟨uniform, _, hParts⟩
    have hPlace :
        3 + interface.attributes.length =
          3 + (VertexLayout.ofAttributes
            interface.attributes).entries.length := by
      simp [VertexLayout.ofAttributes]
    rw [hParts, if_neg (by simpa using hSome),
      List.append_assoc, hPlace]
    exact getElem?_behind_attributes

end Binding

end ShaderBindings
