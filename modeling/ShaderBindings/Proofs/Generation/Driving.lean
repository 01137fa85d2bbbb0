import ShaderBindings.Proofs.Binding.Driving
import ShaderBindings.Proofs.Binding.Reading
import ShaderBindings.Proofs.Generation.Steps
import ShaderBindings.Proofs.Interface.Checks

/-
  What a shader receives through its generated binding. The
  declarations that a scan finds are named by words, so when
  their methods do not clash the class that is read back from
  the code that is generated for them drives the runtime.

  Key theorems include:
    * `exists_binding_of_generate`
    * `generate_drives_runtime`
-/

------------------------------------------------------------
-- Generated Bindings
------------------------------------------------------------

namespace ShaderBindings

/-
  What is generated for a source is the code of a binding of
  the declarations that are found in it.
-/
theorem exists_binding_of_generate
    {options : GenerationOptions}
    {baseName source : String}
    {generated : Generated}
    (hGenerated :
      (generate options baseName source).result =
        .ok generated) :
    generated.interface.baseName = baseName ∧
      generated.interface.declarations =
        Declarations.ofSource source ∧
      ∃ binding,
        (Binding.ofInterface options.names
              generated.interface).result =
            .ok binding ∧
          generated.source = binding.render := by
  rcases exists_interface_of_generate hGenerated with
    ⟨interface, hBuild, hMade, _⟩
  rcases Generated.of_ofInterface hMade with
    ⟨binding, hBinding, rfl, _⟩
  rcases Interface.eq_of_build hBuild with
    ⟨className, _, rfl⟩
  exact ⟨rfl, rfl, binding, hBinding, rfl⟩

/-
  From what is generated for a source whose methods do not
  clash a class is read back, each method with the calls that
  its body spells in the text. It drives the runtime, under
  the base name, for the declarations of the source.
-/
theorem generate_drives_runtime
    (options : GenerationOptions)
    (baseName source : String)
    (generated : Generated)
    (hGenerated :
      (generate options baseName source).result =
        .ok generated)
    (hClash :
      MethodClash.find? (Declarations.ofSource source).uniforms
          (Declarations.ofSource source).attributes =
        none) :
    generated.interface.baseName = baseName ∧
      generated.interface.declarations =
        Declarations.ofSource source ∧
      ∃ binding,
        (Binding.ofInterface options.names
              generated.interface).result =
            .ok binding ∧
          generated.source = binding.render ∧
          Binding.ofCode? generated.source = some binding ∧
          binding.Drives generated.interface := by
  rcases exists_binding_of_generate hGenerated with
    ⟨hName, hDeclared, binding, hBinding, hSource⟩
  have hRead :
      Binding.ofCode? generated.source = some binding := by
    rw [hSource]
    exact Binding.ofCode?_of_ofInterface hBinding
  refine ⟨hName, hDeclared, binding, hBinding, hSource,
    hRead, ?_⟩
  have hNamed :
      generated.interface.declarations.NamedByWords := by
    rw [hDeclared]
    exact Declarations.ofSource_namedByWords source
  have hMethods := (Binding.of_ofInterface hBinding).1
  rw [← hDeclared, MethodClash.find?_eq_none_iff] at hClash
  apply Binding.Binds.drives
  exact {
    named := hNamed
    methods := hMethods
    distinct :=
      Binding.nodup_methodNames hNamed hClash hMethods }

/- The source of a surface that several lights shine on. -/
def litSource : String :=
  "layout (location = 2) in vec3 aPos; " ++
    "layout (location = 0) in mat4 aFrame; " ++
    "uniform mat4 viewMatrix; uniform float gain[]; " ++
    "uniform PointLight lampList[4];"

/- A lit surface is bound, so its binding drives the runtime. -/
theorem generate_lit_drives_runtime :
    ∃ generated,
      (generate { strict := false, names := .standard } "lit"
            litSource).result =
          .ok generated ∧
        MethodClash.find?
            (Declarations.ofSource litSource).uniforms
            (Declarations.ofSource litSource).attributes =
          none ∧
        generated.interface.baseName = "lit" ∧
        generated.interface.declarations =
          Declarations.ofSource litSource ∧
        ∃ binding,
          (Binding.ofInterface .standard
                generated.interface).result =
              .ok binding ∧
            generated.source = binding.render ∧
            Binding.ofCode? generated.source =
              some binding ∧
            binding.Drives generated.interface := by
  have hClash :
      MethodClash.find?
          (Declarations.ofSource litSource).uniforms
          (Declarations.ofSource litSource).attributes =
        none := by
    decide +kernel
  have hSome :
      (generate { strict := false, names := .standard } "lit"
        litSource).result.isOk = true := by
    decide +kernel
  cases hGenerated :
      (generate { strict := false, names := .standard } "lit"
        litSource).result with
  | error error =>
      rw [hGenerated] at hSome
      cases hSome
  | ok generated =>
      exact ⟨generated, rfl, hClash,
        generate_drives_runtime
          { strict := false, names := .standard } "lit"
          litSource generated hGenerated hClash⟩

end ShaderBindings
