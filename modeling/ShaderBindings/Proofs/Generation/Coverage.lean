import ShaderBindings.Proofs.Binding.Coverage
import ShaderBindings.Proofs.Binding.Headings
import ShaderBindings.Proofs.Binding.Reading
import ShaderBindings.Proofs.Generation.Steps

/-
  The code of an interface is the code of a class that covers
  it: the functions in the text are the methods of every
  class and then the setters of the interface, and the class
  that is read back from the text has the calls that cover
  the interface. What a generation returns beside the code is
  the layout that the class configures the attributes with.

  Key theorems include:
    * `layout_of_generate`
    * `writeCode_covers`
-/

------------------------------------------------------------
-- Covering Code
------------------------------------------------------------

namespace ShaderBindings

/- Code that is written is the code of a binding. -/
theorem exists_binding_of_writeCode
    {names : BindingOptions}
    {interface : Interface}
    {source : String}
    (hSource : (writeCode names interface).result = .ok source) :
    ∃ binding,
      (Binding.ofInterface names interface).result =
          .ok binding ∧
        source = binding.render := by
  rcases Logged.result_bind_eq_ok_iff.mp hSource with
    ⟨binding, hBinding, hMade⟩
  cases hMade
  exact ⟨binding, hBinding, rfl⟩

/-
  A generation returns the code and the layout of the
  interface that it returns.
-/
theorem layout_of_generate
    {options : GenerationOptions}
    {baseName text : String}
    {generated : Generated}
    (hGenerated :
      (generate options baseName text).result =
        .ok generated) :
    let layout :=
      VertexLayout.ofAttributes generated.interface.attributes
    (writeCode options.names generated.interface).result =
        .ok generated.source ∧
      generated.stride = layout.stride ∧
      generated.offsets = layout.offsets := by
  rcases exists_interface_of_generate hGenerated with
    ⟨interface, _, hMade, _⟩
  rcases Logged.result_bind_eq_ok_iff.mp hMade with
    ⟨source, hSource, hReturned⟩
  cases hReturned
  exact ⟨hSource, rfl, rfl⟩

/-
  From the code that is written for an interface whose
  declarations are named by words, a class is read back that
  covers the interface, even when names are repeated or
  clash: its calls, with their arguments, are those that the
  text spells. The functions in the text are those of every
  class and then the setters, in order. Every generation for
  this interface returns this code, beside the stride and the
  offsets that its setters use.
-/
theorem writeCode_covers
    (names : BindingOptions)
    (interface : Interface)
    (source : String)
    (hNamed : interface.declarations.NamedByWords)
    (hSource :
      (writeCode names interface).result = .ok source) :
    (∃ binding,
        (Binding.ofInterface names interface).result =
            .ok binding ∧
          source = binding.render ∧
          Binding.ofCode? source = some binding ∧
          binding.Covers interface) ∧
      Code.functionNames source =
        ["new", "instance", "shader"] ++
          MethodName.methods interface.uniforms
            interface.attributes ∧
      ∀ strict baseName text generated,
        (generate { strict, names } baseName text).result =
            .ok generated →
          generated.interface = interface →
            let layout :=
              VertexLayout.ofAttributes interface.attributes
            generated.source = source ∧
              generated.stride = layout.stride ∧
              generated.offsets = layout.offsets := by
  rcases exists_binding_of_writeCode hSource with
    ⟨binding, hBinding, hText⟩
  have hCovers : binding.Covers interface :=
    Binding.covers_of_methodsOf hNamed
      (Binding.of_ofInterface hBinding).1
  have hRead : Binding.ofCode? source = some binding := by
    rw [hText]
    exact Binding.ofCode?_of_ofInterface hBinding
  refine ⟨⟨binding, hBinding, hText, hRead, hCovers⟩, ?_, ?_⟩
  · rw [hText, Binding.functionNames_render hBinding,
      hCovers.names]
  · rintro strict baseName text generated hGenerated rfl layout
    rcases layout_of_generate hGenerated with
      ⟨hWritten, hStride, hOffsets⟩
    have hSame : generated.source = source := by
      rw [hWritten] at hSource
      cases hSource
      rfl
    exact ⟨hSame, hStride, hOffsets⟩

/-
  The source of a crowd: a location, a uniform and the name
  of the aggregate setter are all taken twice.
-/
def crowdedSource : String :=
  "layout (location = 0) in vec3 aPos; " ++
    "layout (location = 0) in mat4 aFrame; " ++
    "uniform vec4 tint; uniform float tint[2]; " ++
    "uniform mat4 vertexAttributes;"

/- The interface of a crowd. -/
def crowdedInterface : Interface where
  className := "CrowdedShader"
  baseName := "crowded"
  uniforms := (Declarations.ofSource crowdedSource).uniforms
  attributes :=
    (Declarations.ofSource crowdedSource).attributes

/- Every setter of a crowd is written, taken names twice. -/
theorem writeCode_crowded_covers :
    crowdedInterface.declarations.NamedByWords ∧
      MethodName.methods crowdedInterface.uniforms
          crowdedInterface.attributes =
        ["set_a_pos_attribute", "set_a_frame_attribute",
          "set_vertex_attributes", "set_tint", "set_tint",
          "set_vertex_attributes"] ∧
      ∃ generated,
        (generate { strict := false, names := .standard }
              "crowded" crowdedSource).result =
            .ok generated ∧
          generated.interface = crowdedInterface ∧
          (writeCode .standard crowdedInterface).result =
            .ok generated.source ∧
          (∃ binding,
            (Binding.ofInterface .standard
                  crowdedInterface).result =
                .ok binding ∧
              generated.source = binding.render ∧
              Binding.ofCode? generated.source =
                some binding ∧
              binding.Covers crowdedInterface) ∧
          Code.functionNames generated.source =
            ["new", "instance", "shader"] ++
              MethodName.methods crowdedInterface.uniforms
                crowdedInterface.attributes ∧
          generated.stride =
            (VertexLayout.ofAttributes
              crowdedInterface.attributes).stride ∧
          generated.offsets =
            (VertexLayout.ofAttributes
              crowdedInterface.attributes).offsets := by
  have hNamed : crowdedInterface.declarations.NamedByWords :=
    Declarations.ofSource_namedByWords crowdedSource
  have hMethods :
      MethodName.methods crowdedInterface.uniforms
          crowdedInterface.attributes =
        ["set_a_pos_attribute", "set_a_frame_attribute",
          "set_vertex_attributes", "set_tint", "set_tint",
          "set_vertex_attributes"] := by
    decide +kernel
  have hInterface :
      (generate { strict := false, names := .standard }
          "crowded" crowdedSource).result.map
            Generated.interface =
        .ok crowdedInterface := by
    decide +kernel
  refine ⟨hNamed, hMethods, ?_⟩
  cases hGenerated :
      (generate { strict := false, names := .standard }
        "crowded" crowdedSource).result with
  | error error =>
      rw [hGenerated] at hInterface
      cases hInterface
  | ok generated =>
      rw [hGenerated] at hInterface
      injection hInterface with hInterface
      have hSource := (layout_of_generate hGenerated).1
      rw [hInterface] at hSource
      rcases writeCode_covers .standard crowdedInterface
          generated.source hNamed hSource with
        ⟨hBinding, hNames, hReturned⟩
      have hLayout :=
        (hReturned false "crowded" crowdedSource generated
          hGenerated hInterface).2
      exact ⟨generated, rfl, hInterface, hSource, hBinding,
        hNames, hLayout⟩

end ShaderBindings
