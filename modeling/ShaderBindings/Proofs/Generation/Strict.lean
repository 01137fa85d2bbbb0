import ShaderBindings.Proofs.Binding.Headings
import ShaderBindings.Proofs.Generation.Steps
import ShaderBindings.Proofs.Interface.Checks

/-
  What strict mode promises. A strict generation that ends
  well has found nothing to reject, so whatever is told apart
  in the generated code has different names, the vertices are
  packed without gaps, and the same generation without strict
  mode has nothing to warn about.

  Key definitions include:
    * `Generated.entries`
    * `Generated.Faultless`

  Key theorems include:
    * `Generated.faultless_of_unambiguous`
    * `generate_of_strict`
    * `generate_strict_guarantees`
-/

------------------------------------------------------------
-- Faultless Bindings
------------------------------------------------------------

namespace ShaderBindings

namespace Generated

/- The attributes beside their offsets. -/
def entries (generated : Generated) : List LayoutEntry :=
  List.zipWith LayoutEntry.mk generated.interface.attributes
    generated.offsets

/-
  What is generated without any compromise:
    * the code is that of a binding whose methods, those of
      every class included, all have different names, and
      these are the names of the functions in the code,
    * uniforms and attributes have different names, and
      attributes have different locations,
    * the attributes have known types and increasing offsets,
      one each, and the bytes that they take, at least one
      each, are the bytes of a vertex, none of them twice.
-/
structure Faultless
    (names : BindingOptions)
    (generated : Generated) : Prop where
  methods :
    ∃ binding,
      (Binding.ofInterface names generated.interface).result =
          .ok binding ∧
        generated.source = binding.render ∧
        binding.methodNames =
          ["new", "instance", "shader"] ++
            MethodName.methods generated.interface.uniforms
              generated.interface.attributes ∧
        binding.methodNames.Nodup
  functions :
    Code.functionNames generated.source =
      ["new", "instance", "shader"] ++
        MethodName.methods generated.interface.uniforms
          generated.interface.attributes
  nodup_functions :
    (Code.functionNames generated.source).Nodup
  uniformNames :
    (generated.interface.uniforms.map Uniform.name).Nodup
  attributeNames :
    (generated.interface.attributes.map Attribute.name).Nodup
  locations :
    (generated.interface.attributes.map
      Attribute.location).Nodup
  mapped :
    ∀ declared ∈ generated.interface.attributes,
      declared.type.isMapped
  length_offsets :
    generated.offsets.length =
      generated.interface.attributes.length
  increasing : generated.offsets.Pairwise (· < ·)
  nonempty :
    ∀ entry ∈ generated.entries, entry.bytes.Nonempty
  disjoint :
    generated.entries.Pairwise fun entry next =>
      Disjoint entry.bytes next.bytes
  covering :
    ∀ byte, byte < generated.stride.toNat ↔
      ∃ entry ∈ generated.entries, byte ∈ entry.bytes

/-
  Unambiguous declarations that are named by words and whose
  sizes fit are bound without any compromise.
-/
theorem faultless_of_unambiguous
    {names : BindingOptions}
    {interface : Interface}
    {generated : Generated}
    (hNamed : interface.declarations.NamedByWords)
    (hUnambiguous : interface.declarations.Unambiguous)
    (hFits :
      VertexLayout.totalSize interface.attributes < 2 ^ 32)
    (hGenerated :
      (ofInterface names interface).result = .ok generated) :
    generated.Faultless names := by
  rcases of_ofInterface hGenerated with
    ⟨binding, hBinding, rfl, _⟩
  have hMethods := (Binding.of_ofInterface hBinding).1
  have hZip :
      List.zipWith LayoutEntry.mk interface.attributes
          ((VertexLayout.place 0 interface.attributes).map
            LayoutEntry.offset) =
        VertexLayout.place 0 interface.attributes :=
    VertexLayout.zipWith_place 0 interface.attributes
  have hMapped :
      ∀ entry ∈ VertexLayout.place 0 interface.attributes,
        entry.declared.type.isMapped := by
    intro entry hEntry
    exact hUnambiguous.mapped entry.declared
      (VertexLayout.declared_mem_of_mem_place hEntry)
  have hFromStart :
      (0 : UInt32).toNat +
          VertexLayout.totalSize interface.attributes <
        2 ^ 32 := by
    simpa using hFits
  have hTiles := VertexLayout.place_tiles hFromStart
  have hNames := Binding.names_of_methodsOf hNamed hMethods
  have hNodup :=
    Binding.nodup_methodNames hNamed hUnambiguous.methods
      hMethods
  have hFunctions := Binding.functionNames_render hBinding
  exact {
    methods := ⟨binding, hBinding, rfl, hNames, hNodup⟩
    functions := hFunctions.trans hNames
    nodup_functions := hFunctions ▸ hNodup
    uniformNames := hUnambiguous.uniformNames
    attributeNames :=
      MethodName.nodup_attributeNames hUnambiguous.methods
    locations := hUnambiguous.locations
    mapped := hUnambiguous.mapped
    length_offsets := by simp
    increasing := hTiles.pairwise_offset hMapped
    nonempty := by
      intro entry hEntry
      rw [entries, hZip] at hEntry
      exact LayoutEntry.bytes_nonempty (hMapped entry hEntry)
    disjoint := by
      rw [entries, hZip]
      exact hTiles.pairwise_disjoint
    covering := by
      intro byte
      rw [entries, hZip, hTiles.mem_iff]
      simp }

end Generated

end ShaderBindings

------------------------------------------------------------
-- Strict Mode
------------------------------------------------------------

namespace ShaderBindings

/-
  A strict generation that ends well is the same generation
  without strict mode, event by event, and all that it logs
  is what it announces.
-/
theorem generate_of_strict
    {names : BindingOptions}
    {baseName source : String}
    {generated : Generated}
    (hGenerated :
      (generate { strict := true, names } baseName
        source).result = .ok generated) :
    generate { strict := false, names } baseName source =
        generate { strict := true, names } baseName source ∧
      (generate { strict := true, names } baseName
          source).events =
        (Declarations.ofSource source).announcement
          baseName := by
  rcases exists_interface_of_generate hGenerated with
    ⟨interface, hBuild, _, hEvents⟩
  rcases Interface.unambiguous_of_build hBuild with
    ⟨hUnambiguous, className, hName⟩
  have hDone (strict : Bool) :=
    Interface.build_of_unambiguous strict hName hUnambiguous
  constructor
  · rw [generate_eq, generate_eq]
    simp only [hDone]
  · have hClash :=
      (MethodClash.find?_eq_none_iff _ _).mpr
        hUnambiguous.methods
    rw [hDone] at hBuild hEvents
    cases hBuild
    rw [hEvents, Binding.clashEvents, hClash]
    simp

/-
  What strict mode accepts from a source of less than 2 ^ 32
  bytes is bound without any compromise. Without strict mode
  the same is generated, and nothing is warned about.
-/
theorem generate_strict_guarantees
    (names : BindingOptions)
    (baseName source : String)
    (generated : Generated)
    (hSize : source.utf8ByteSize < 2 ^ 32)
    (hGenerated :
      (generate { strict := true, names } baseName
        source).result = .ok generated) :
    generated.Faultless names ∧
      (generate { strict := false, names } baseName
          source).result = .ok generated ∧
      ∀ event ∈
        (generate { strict := false, names } baseName
          source).events, event.level ≠ .warn := by
  rcases generate_of_strict hGenerated with ⟨hSame, hEvents⟩
  rw [hSame, hEvents]
  refine ⟨?_, hGenerated, ?_⟩
  · rcases exists_interface_of_generate hGenerated with
      ⟨interface, hBuild, hMade, _⟩
    rcases Interface.unambiguous_of_build hBuild with
      ⟨hUnambiguous, className, hName⟩
    rw [Interface.build_of_unambiguous true hName
      hUnambiguous] at hBuild
    cases hBuild
    apply Generated.faultless_of_unambiguous ?_ ?_ ?_ hMade
    · exact Declarations.ofSource_namedByWords source
    · exact hUnambiguous
    · exact Nat.lt_of_le_of_lt
        (Declarations.totalSize_le_utf8ByteSize source) hSize
  · intro event hEvent
    exact Declarations.level_announcement hEvent

/- The source of a textured surface. -/
def texturedSource : String :=
  "layout (location = 0) in vec3 aPos; " ++
    "layout (location = 1) in vec2 aUv; " ++
    "uniform mat4 model; uniform Light lights[4];"

/- A textured surface is accepted, in vertices of 20 bytes. -/
theorem generate_textured_guarantees :
    texturedSource.utf8ByteSize < 2 ^ 32 ∧
      ∃ generated,
        (generate { strict := true, names := .standard }
              "textured" texturedSource).result =
            .ok generated ∧
          generated.offsets = [0, 12] ∧
          generated.stride = 20 ∧
          generated.Faultless .standard ∧
          (generate { strict := false, names := .standard }
              "textured" texturedSource).result =
            .ok generated ∧
          ∀ event ∈
            (generate { strict := false, names := .standard }
              "textured" texturedSource).events,
            event.level ≠ .warn := by
  have hSize : texturedSource.utf8ByteSize < 2 ^ 32 := by
    decide +kernel
  have hLayout :
      (generate { strict := true, names := .standard }
          "textured" texturedSource).result.map
            (fun generated =>
              (generated.offsets, generated.stride)) =
        .ok ([0, 12], 20) := by
    decide +kernel
  cases hGenerated :
      (generate { strict := true, names := .standard }
        "textured" texturedSource).result with
  | error error =>
      rw [hGenerated] at hLayout
      cases hLayout
  | ok generated =>
      rw [hGenerated] at hLayout
      injection hLayout with hLayout
      injection hLayout with hOffsets hStride
      exact ⟨hSize, generated, rfl, hOffsets, hStride,
        generate_strict_guarantees .standard "textured"
          texturedSource generated hSize hGenerated⟩

end ShaderBindings
