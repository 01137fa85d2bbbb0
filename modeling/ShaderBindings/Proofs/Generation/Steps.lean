import ShaderBindings.Generation
import ShaderBindings.Proofs.Binding.Methods

/-
  The steps of a generation: it announces what it finds in
  the source, builds an interface, and makes the layout and
  the code of that interface. What is logged is the log of
  these steps.

  Key definitions include:
    * `Declarations.announcement`
    * `Generated.ofInterface`

  Key theorems include:
    * `generate_eq`
    * `Generated.of_ofInterface`
    * `exists_interface_of_generate`
-/

------------------------------------------------------------
-- Steps of a Generation
------------------------------------------------------------

namespace ShaderBindings

namespace Declarations

/-
  What is logged before anything is checked: one event for
  every uniform that is found, one for every attribute, their
  numbers, and whether there are neither.
-/
def announcement
    (found : Declarations)
    (baseName : String) : List Event :=
  found.uniforms.map Event.uniformFound ++
    found.attributes.map Event.attributeFound ++
    [.scanned found.uniforms.length
      found.attributes.length] ++
    if found.uniforms.isEmpty && found.attributes.isEmpty then
      [.nothingDeclared baseName]
    else
      []

/- A scan logs all of it but that there is nothing. -/
theorem announcement_eq
    (found : Declarations)
    (baseName : String) :
    found.announcement baseName =
      found.events ++
        if found.isEmpty then
          [.nothingDeclared baseName]
        else
          [] :=
  rfl

end Declarations

/- What is generated from an interface. -/
def Generated.ofInterface
    (names : BindingOptions)
    (interface : Interface) :
    Logged GenerationError Generated := do
  let source ← writeCode names interface
  let layout := VertexLayout.ofAttributes interface.attributes
  return {
    interface
    stride := layout.stride
    offsets := layout.offsets
    fileName := interface.className ++ ".rs"
    source }

/-
  A generation announces what it finds, builds the interface,
  and writes its code. Only the second step may be strict.
-/
theorem generate_eq
    (options : GenerationOptions)
    (baseName source : String) :
    generate options baseName source = (do
      let found := Declarations.ofSource source
      Logged.noteAll (found.announcement baseName)
      let interface ←
        Interface.build options.strict baseName found.uniforms
          found.attributes
      Generated.ofInterface options.names interface) := by
  unfold generate
  simp only [Declarations.announcement_eq]
  by_cases hEmpty :
      (Declarations.ofSource source).isEmpty = true
  · simp only [if_pos hEmpty, Logged.noteAll_append,
      bind_assoc]
    rfl
  · simp only [if_neg hEmpty, List.append_nil]
    rfl

/- Nothing that is announced is a warning. -/
theorem Declarations.level_announcement
    {found : Declarations}
    {baseName : String}
    {event : Event}
    (hEvent : event ∈ found.announcement baseName) :
    event.level ≠ .warn := by
  unfold announcement at hEvent
  simp only [List.mem_append, List.mem_map,
    List.mem_singleton] at hEvent
  rcases hEvent with
    ((⟨_, _, rfl⟩ | ⟨_, _, rfl⟩) | rfl) | hNothing
  · simp [Event.level]
  · simp [Event.level]
  · simp [Event.level]
  · split at hNothing
    · rw [List.mem_singleton.mp hNothing]
      simp [Event.level]
    · cases hNothing

/-
  What is generated from an interface is its layout and the
  code of its binding.
-/
theorem Generated.of_ofInterface
    {names : BindingOptions}
    {interface : Interface}
    {generated : Generated}
    (hGenerated :
      (ofInterface names interface).result = .ok generated) :
    ∃ binding,
      (Binding.ofInterface names interface).result =
          .ok binding ∧
        generated = {
          interface
          stride :=
            VertexLayout.extent 0 interface.attributes
          offsets :=
            (VertexLayout.place 0 interface.attributes).map
              LayoutEntry.offset
          fileName := interface.className ++ ".rs"
          source := binding.render } ∧
        (ofInterface names interface).events =
          Binding.clashEvents interface := by
  unfold ofInterface writeCode at hGenerated ⊢
  rw [bind_assoc] at hGenerated ⊢
  rcases Logged.result_bind_eq_ok_iff.mp hGenerated with
    ⟨binding, hBinding, hMade⟩
  rw [Logged.events_bind hBinding,
    (Binding.of_ofInterface hBinding).2]
  cases hMade
  exact ⟨binding, hBinding, rfl, List.append_nil _⟩

/-
  What is generated for a shader is generated from the
  interface that is built. Its log is what is announced, then
  what building logs, and then a clash, if there is one.
-/
theorem exists_interface_of_generate
    {options : GenerationOptions}
    {baseName source : String}
    {generated : Generated}
    (hGenerated :
      (generate options baseName source).result =
        .ok generated) :
    ∃ interface,
      (Interface.build options.strict baseName
            (Declarations.ofSource source).uniforms
            (Declarations.ofSource source).attributes).result =
          .ok interface ∧
        (Generated.ofInterface options.names interface).result =
          .ok generated ∧
        (generate options baseName source).events =
          (Declarations.ofSource source).announcement baseName ++
            ((Interface.build options.strict baseName
                (Declarations.ofSource source).uniforms
                (Declarations.ofSource
                  source).attributes).events ++
              Binding.clashEvents interface) := by
  rw [generate_eq] at hGenerated ⊢
  rcases Logged.result_bind_eq_ok_iff.mp hGenerated with
    ⟨_, hAnnounced, hAfter⟩
  rcases Logged.result_bind_eq_ok_iff.mp hAfter with
    ⟨interface, hBuild, hMade⟩
  rcases Generated.of_ofInterface hMade with ⟨_, _, _, hEvents⟩
  refine ⟨interface, hBuild, hMade, ?_⟩
  rw [Logged.events_bind hAnnounced, Logged.events_bind hBuild,
    hEvents, Logged.events_noteAll]

end ShaderBindings
