import ShaderBindings.Proofs.Code.PlainWord
import ShaderBindings.Proofs.Generation.Steps
import ShaderBindings.Proofs.Interface.FirstWarning

/-
  Which sources are not bound. In a source of ASCII every
  name is a plain word, so its setters are identifiers, and
  so is the name of the class for a simple base name. All
  that can go wrong without strict mode is that a uniform has
  a type that is none on the host, and the first such uniform
  decides the error.

  Key definitions include:
    * `Uniform.hostWord`
    * `Uniform.isHosted`
    * `Declarations.NamedPlainly`
    * `DecidedByTypes`

  Key theorems include:
    * `Declarations.ofSource_namedPlainly`
    * `Binding.exists_methodsOf`
    * `Binding.methodsOf_eq_error`
    * `exists_make_of_generate`
    * `generate_decided_by_types`
-/

------------------------------------------------------------
-- Names in ASCII
------------------------------------------------------------

namespace ShaderBindings

open Code
open Form

/- Declarations whose names and types are plain words. -/
structure Declarations.NamedPlainly
    (found : Declarations) : Prop where
  types :
    ∀ declared ∈ found.uniforms, IsPlain declared.typeToken
  uniforms :
    ∀ declared ∈ found.uniforms, IsPlain declared.name
  attributes :
    ∀ declared ∈ found.attributes, IsPlain declared.name

/- A word that stands in a text of ASCII is plain. -/
theorem isPlain_of_word
    {text : List Char}
    (hAscii : ∀ c ∈ text, c.toNat < 128)
    (word : Word)
    (hWord : ∀ c ∈ word.chars, c ∈ text) :
    IsPlain word.text where
  nonempty := by
    rw [Token.text, String.toList_ofList]
    exact word.chars_ne_nil
  plain := by
    intro c hMember
    rw [Token.text, String.toList_ofList] at hMember
    exact isPlainChar_of_isWordChar
      (hAscii c (hWord c hMember)) (word.forall_mem c hMember)

/- The declarations in a source of ASCII are named plainly. -/
theorem Declarations.ofSource_namedPlainly
    {source : String}
    (hAscii : ∀ c ∈ source.toList, c.toNat < 128) :
    (ofSource source).NamedPlainly where
  types := by
    intro declared hFound
    rcases exists_uniformSpelling hFound with
      ⟨spelling, hSpelled, rfl⟩
    apply isPlain_of_word hAscii spelling.typeToken
    intro c hMember
    apply hSpelled.subset
    simp [Uniform.Spelling.chars, hMember]
  uniforms := by
    intro declared hFound
    rcases exists_uniformSpelling hFound with
      ⟨spelling, hSpelled, rfl⟩
    apply isPlain_of_word hAscii spelling.name
    intro c hMember
    apply hSpelled.subset
    simp [Uniform.Spelling.chars, hMember]
  attributes := by
    intro declared hFound
    rcases exists_attributeSpelling hFound with
      ⟨spelling, hSpelled, rfl⟩
    apply isPlain_of_word hAscii spelling.name
    intro c hMember
    apply hSpelled.subset
    simp [Attribute.Spelling.chars, hMember]

end ShaderBindings

------------------------------------------------------------
-- Types on the Host
------------------------------------------------------------

namespace ShaderBindings

open Code

namespace Uniform

/- The word for the type of the values on the host. -/
def hostWord (declared : Uniform) : String :=
  (UniformType.ofToken declared.typeToken).hostType

/- The word for the type is that of a type on the host. -/
def isHosted (declared : Uniform) : Bool :=
  (HostType.ofString? declared.hostWord).isSome

end Uniform

namespace UniformType

/- What is known to the runtime has a type on the host. -/
theorem isSome_hostType_of_known (kind : UniformKind) :
    (HostType.ofString?
      (UniformType.known kind).hostType).isSome = true := by
  cases kind <;> decide +kernel

/- A setter of the runtime is named after a plain word. -/
theorem isPlain_accessor
    {token : String}
    (hToken : IsPlain token) :
    IsPlain (ofToken token).accessor := by
  have hKnown (kind : UniformKind) :
      IsPlain kind.accessor := by
    cases kind <;> decide
  unfold ofToken
  split
  · exact hKnown _
  · exact hToken

end UniformType

/-
  Which uniforms with a plain type have one on the host: those
  that the runtime knows, and those with a word that is a type
  and does not start with a digit.
-/
theorem Uniform.isHosted_iff
    {declared : Uniform}
    (hType : IsPlain declared.typeToken) :
    declared.isHosted = true ↔
      (UniformKind.ofToken? declared.typeToken).isSome = true ∨
        (startsWithDigit declared.typeToken = false ∧
          HostType.isTypeWord declared.typeToken = true) := by
  unfold isHosted hostWord UniformType.ofToken
  cases UniformKind.ofToken? declared.typeToken with
  | some kind =>
      exact iff_of_true
        (UniformType.isSome_hostType_of_known kind)
        (Or.inl rfl)
  | none =>
      rw [UniformType.hostType, HostType.isSome_of_plain hType]
      simp

end ShaderBindings

------------------------------------------------------------
-- Methods of Plain Names
------------------------------------------------------------

namespace ShaderBindings

open Code

namespace Binding

variable {interface : Interface}

/- What is read as an identifier is one of a binding. -/
theorem ident_eq_ok
    {text : String}
    {name : Ident}
    (hName : Ident.ofString? text = some name) :
    ident text = .ok name := by
  rw [ident, hName]

/- The setter of an attribute with a plain name is made. -/
theorem exists_attributeMethod
    (stride : UInt32)
    {entry : LayoutEntry}
    (hName : IsPlain entry.declared.name) :
    ∃ method, attributeMethod stride entry = .ok method := by
  have hIdent :=
    ident_eq_ok
      (MethodName.ident_attributeSetter hName.plain)
  rw [attributeMethod, hIdent]
  exact ⟨_, rfl⟩

/- The setter of all attributes is made. -/
theorem exists_aggregateMethod
    {entries : List LayoutEntry}
    (hNames :
      ∀ entry ∈ entries, IsPlain entry.declared.name) :
    ∃ methods, aggregateMethod entries = .ok methods := by
  unfold aggregateMethod
  split
  · exact ⟨[], rfl⟩
  · have hStep :
        ∀ entry ∈ entries,
          ∃ name,
            ident
                (MethodName.attributeSetter
                  entry.declared.name) =
              .ok name := by
      intro entry hEntry
      exact
        ⟨_, ident_eq_ok
          (MethodName.ident_attributeSetter
            (hNames entry hEntry).plain)⟩
    have hAggregate :
        Ident.ofString? MethodName.aggregateSetter =
          some ⟨MethodName.aggregateSetter⟩ := by
      decide +kernel
    rcases exists_mapM_eq_ok hStep with ⟨called, hCalled⟩
    rw [hCalled, ident_eq_ok hAggregate]
    exact ⟨_, rfl⟩

/-
  The setter of a uniform is made when its type is one on the
  host, and is otherwise rejected for its type.
-/
theorem uniformMethod_cases
    {declared : Uniform}
    (hType : IsPlain declared.typeToken)
    (hName : IsPlain declared.name) :
    (declared.isHosted = true →
        ∃ method, uniformMethod declared = .ok method) ∧
      (declared.isHosted = false →
        uniformMethod declared =
          .error (.invalidIdent declared.hostWord)) := by
  have hMethod :=
    ident_eq_ok (MethodName.ident_uniformSetter hName.plain)
  have hSetter :=
    ident_eq_ok
      (MethodName.ident_uniformSetter
        (UniformType.isPlain_accessor hType).plain)
  rw [uniformMethod, hMethod, hSetter]
  unfold Uniform.isHosted Uniform.hostWord hostType
  cases HostType.ofString?
      (UniformType.ofToken declared.typeToken).hostType with
  | none =>
      constructor
      · intro hHosted
        cases hHosted
      · intro _
        rfl
  | some host =>
      constructor
      · intro _
        exact ⟨_, rfl⟩
      · intro hHosted
        cases hHosted

/-
  All methods of an interface but those of its uniforms are
  made, so that the uniforms decide about the rest.
-/
theorem exists_methodsOf_eq
    (hNames :
      ∀ declared ∈ interface.attributes,
        IsPlain declared.name) :
    ∃ others,
      methodsOf interface = do
        let uniform ←
          interface.uniforms.mapM uniformMethod
        return others ++ uniform := by
  have hEntries :
      ∀ entry ∈
          (VertexLayout.ofAttributes
            interface.attributes).entries,
        IsPlain entry.declared.name := by
    intro entry hEntry
    exact hNames entry.declared
      (VertexLayout.declared_mem_of_mem_place hEntry)
  rcases exists_mapM_eq_ok fun entry hEntry =>
      exists_attributeMethod
        (VertexLayout.ofAttributes interface.attributes).stride
        (hEntries entry hEntry) with ⟨single, hSingle⟩
  rcases exists_aggregateMethod hEntries with
    ⟨aggregate, hAggregate⟩
  refine
    ⟨constructors interface.baseName ++ single ++ aggregate,
      ?_⟩
  unfold methodsOf
  dsimp only
  rw [hSingle, hAggregate]
  rfl

/- The methods are made when every type is one on the host. -/
theorem exists_methodsOf
    (hPlain : interface.declarations.NamedPlainly)
    (hHosted :
      ∀ declared ∈ interface.uniforms,
        declared.isHosted = true) :
    ∃ methods, methodsOf interface = .ok methods := by
  rcases exists_methodsOf_eq hPlain.attributes with
    ⟨others, hMethods⟩
  have hStep :
      ∀ declared ∈ interface.uniforms,
        ∃ method, uniformMethod declared = .ok method := by
    intro declared hDeclared
    exact
      (uniformMethod_cases (hPlain.types declared hDeclared)
        (hPlain.uniforms declared hDeclared)).1
          (hHosted declared hDeclared)
  rcases exists_mapM_eq_ok hStep with ⟨uniform, hUniform⟩
  rw [hMethods, hUniform]
  exact ⟨_, rfl⟩

/- The first type that is none on the host is rejected. -/
theorem methodsOf_eq_error
    {first : Uniform}
    (hPlain : interface.declarations.NamedPlainly)
    (hFirst :
      interface.uniforms.find?
          (fun declared => !declared.isHosted) =
        some first) :
    methodsOf interface =
      .error (.invalidIdent first.hostWord) := by
  rcases exists_methodsOf_eq hPlain.attributes with
    ⟨others, hMethods⟩
  have hUniform :
      interface.uniforms.mapM uniformMethod =
        .error (.invalidIdent first.hostWord) := by
    refine
      mapM_eq_error_of_find?
        (fun declared =>
          GenerationError.invalidIdent declared.hostWord)
        ?_ ?_ hFirst
    · intro declared hDeclared
      exact
        (uniformMethod_cases
          (hPlain.types declared hDeclared)
          (hPlain.uniforms declared hDeclared)).1
    · intro declared hDeclared
      exact
        (uniformMethod_cases
          (hPlain.types declared hDeclared)
          (hPlain.uniforms declared hDeclared)).2
  rw [hMethods, hUniform]
  rfl

end Binding

end ShaderBindings

------------------------------------------------------------
-- Results of a Generation
------------------------------------------------------------

namespace ShaderBindings

open Code

/- The methods of a class are all that can go wrong with it. -/
theorem Binding.exists_make_of_ofInterface
    {interface : Interface}
    (hClass :
      Ident.ofString? interface.className =
        some ⟨interface.className⟩)
    (hType :
      HostType.isTypeWord interface.className = true) :
    ∃ make : List Method → Binding,
      (ofInterface .standard interface).result =
        (methodsOf interface).map make := by
  have hModule :
      ident BindingOptions.standard.module =
        .ok ⟨"shaders"⟩ := by
    decide +kernel
  let runtime : RuntimePath := {
    rooted := false
    segments := ["glint_lib"]
    generic := false }
  have hRuntime :
      runtimePath BindingOptions.standard.runtime =
        .ok runtime := by
    decide +kernel
  let make (methods : List Method) : Binding := {
    module := ⟨"shaders"⟩
    runtime := runtime
    className := ⟨interface.className⟩
    methods := methods }
  have hImportable : runtime.isImportable = true := by
    decide +kernel
  have hWritable (methods : List Method) :
      isWritable (make methods) = true := by
    rw [isWritable, Bool.and_eq_true]
    exact ⟨hImportable, hType⟩
  refine ⟨make, ?_⟩
  unfold ofInterface
  rw [hModule, hRuntime, ident_eq_ok hClass]
  simp only [Logged.ofExcept_ok, Logged.done_bind,
    Logged.result_bind, Logged.result_noteAll,
    Logged.result_ofExcept]
  cases methodsOf interface with
  | error error => rfl
  | ok methods =>
      change
        (if isWritable (make methods) = true then
            Logged.done (make methods)
          else
            Logged.fail _).result = _
      rw [if_pos (hWritable methods)]
      rfl

/-
  What is generated without strict mode, under the standard
  names and a simple base name, is made of the methods.
-/
theorem exists_make_of_generate
    {baseName : String}
    (hBase : IsSimpleName baseName)
    (source : String) :
    ∃ interface : Interface,
      interface.declarations = Declarations.ofSource source ∧
        ∃ make : List Method → Generated,
          (generate { strict := false, names := .standard }
              baseName source).result =
            (Binding.methodsOf interface).map make := by
  rcases exists_className
      (mt String.toList_eq_nil_iff.mpr hBase.plain.nonempty)
    with ⟨className, hName⟩
  rcases ident_className hBase hName with ⟨hClass, hType⟩
  let interface : Interface := {
    className
    baseName
    uniforms := (Declarations.ofSource source).uniforms
    attributes := (Declarations.ofSource source).attributes }
  have hBinding :
      ∃ make : List Method → Binding,
        (Binding.ofInterface .standard interface).result =
          (Binding.methodsOf interface).map make :=
    Binding.exists_make_of_ofInterface hClass hType
  rcases hBinding with ⟨make, hMake⟩
  have hCode :
      (Generated.ofInterface .standard interface).result =
        (Binding.methodsOf interface).map fun methods => {
          interface
          stride :=
            (VertexLayout.ofAttributes
              interface.attributes).stride
          offsets :=
            (VertexLayout.ofAttributes
              interface.attributes).offsets
          fileName := interface.className ++ ".rs"
          source := (make methods).render } := by
    unfold Generated.ofInterface writeCode
    rw [Logged.result_bind, Logged.result_bind, hMake]
    cases Binding.methodsOf interface with
    | error error => rfl
    | ok methods => rfl
  refine ⟨interface, rfl, _, Eq.trans ?_ hCode⟩
  rw [generate_eq]
  simp only [Logged.result_bind, Logged.result_noteAll,
    Interface.build_permissive hName]
  rfl

/-
  What decides how a generation ends without strict mode,
  under the standard names:
    * it succeeds exactly when the type of every uniform is
      one on the host,
    * the only error is that of a word that is not, and the
      word is that of the first uniform with such a type,
    * the name of the class and the names of all setters, those
      of the runtime included, are identifiers as they are,
    * the types on the host are those that the runtime knows,
      and the words that are types and start with no digit.
-/
structure DecidedByTypes (baseName source : String) : Prop where
  succeeds_iff :
    (∃ generated,
      (generate { strict := false, names := .standard }
          baseName source).result = .ok generated) ↔
      ∀ declared ∈ (Declarations.ofSource source).uniforms,
        declared.isHosted = true
  fails_iff :
    ∀ error,
      (generate { strict := false, names := .standard }
          baseName source).result = .error error ↔
        ∃ declared,
          (Declarations.ofSource source).uniforms.find?
              (fun declared => !declared.isHosted) =
            some declared ∧
            error = .invalidIdent declared.hostWord
  className :
    ∃ className,
      className? baseName = .ok className ∧
        Ident.ofString? className = some ⟨className⟩
  setters :
    ∀ setter ∈
        MethodName.setters
          (Declarations.ofSource source).uniforms
          (Declarations.ofSource source).attributes,
      Ident.ofString? setter.1 = some ⟨setter.1⟩
  accessors :
    ∀ declared ∈ (Declarations.ofSource source).uniforms,
      let setter :=
        MethodName.uniformSetter
          (UniformType.ofToken declared.typeToken).accessor
      Ident.ofString? setter = some ⟨setter⟩
  hosted_iff :
    ∀ declared ∈ (Declarations.ofSource source).uniforms,
      declared.isHosted = true ↔
        (UniformKind.ofToken?
            declared.typeToken).isSome = true ∨
          (startsWithDigit declared.typeToken = false ∧
            HostType.isTypeWord declared.typeToken = true)

/- All setters of plainly named declarations are identifiers. -/
theorem Declarations.NamedPlainly.ident_of_setters
    {found : Declarations}
    (hPlain : found.NamedPlainly) :
    ∀ setter ∈
        MethodName.setters found.uniforms found.attributes,
      Ident.ofString? setter.1 = some ⟨setter.1⟩ := by
  intro setter hSetter
  rcases List.mem_append.mp hSetter with hFirst | hUniform
  · rcases List.mem_append.mp hFirst with
      hAttribute | hAggregate
    · rcases List.mem_map.mp hAttribute with
        ⟨declared, hDeclared, rfl⟩
      exact MethodName.ident_attributeSetter
        (hPlain.attributes declared hDeclared).plain
    · split at hAggregate
      · cases hAggregate
      · rw [List.mem_singleton.mp hAggregate]
        decide +kernel
  · rcases List.mem_map.mp hUniform with
      ⟨declared, hDeclared, rfl⟩
    exact MethodName.ident_uniformSetter
      (hPlain.uniforms declared hDeclared).plain

/-
  Either every type is one on the host and something is
  generated, or there is a first uniform that is rejected.
-/
theorem generate_ends
    {baseName source : String}
    (hBase : IsSimpleName baseName)
    (hPlain : (Declarations.ofSource source).NamedPlainly) :
    (∃ generated,
      (∀ declared ∈ (Declarations.ofSource source).uniforms,
        declared.isHosted = true) ∧
        (generate { strict := false, names := .standard }
            baseName source).result = .ok generated) ∨
      ∃ declared,
        (Declarations.ofSource source).uniforms.find?
            (fun declared => !declared.isHosted) =
          some declared ∧
          (generate { strict := false, names := .standard }
              baseName source).result =
            .error (.invalidIdent declared.hostWord) := by
  rcases exists_make_of_generate hBase source with
    ⟨interface, hDeclared, make, hResult⟩
  have hUniforms :
      interface.uniforms =
        (Declarations.ofSource source).uniforms := by
    rw [← hDeclared]
    rfl
  rw [← hDeclared] at hPlain
  rw [hResult, ← hUniforms]
  cases hFind :
      interface.uniforms.find?
        fun declared => !declared.isHosted with
  | none =>
      have hHosted :
          ∀ declared ∈ interface.uniforms,
            declared.isHosted = true := by
        simpa using List.find?_eq_none.mp hFind
      rcases Binding.exists_methodsOf hPlain hHosted with
        ⟨methods, hMethods⟩
      rw [hMethods]
      exact Or.inl ⟨_, hHosted, rfl⟩
  | some first =>
      rw [Binding.methodsOf_eq_error hPlain hFind]
      exact Or.inr ⟨first, rfl, rfl⟩

/-
  For a source of ASCII and a simple base name, the types of
  the uniforms decide how a generation ends.
-/
theorem generate_decided_by_types
    (baseName source : String)
    (hBase : IsSimpleName baseName)
    (hAscii : ∀ c ∈ source.toList, c.toNat < 128) :
    DecidedByTypes baseName source := by
  have hPlain := Declarations.ofSource_namedPlainly hAscii
  have hEnds := generate_ends hBase hPlain
  -- a uniform that is rejected first is not of a host type
  have hRejected :
      ∀ {declared},
        (Declarations.ofSource source).uniforms.find?
            (fun declared => !declared.isHosted) =
          some declared →
          ¬ ∀ other ∈ (Declarations.ofSource source).uniforms,
            other.isHosted = true := by
    intro declared hFind hHosted
    have hFirst := List.find?_some hFind
    rw [hHosted declared (List.mem_of_find?_eq_some hFind)]
      at hFirst
    cases hFirst
  exact {
    succeeds_iff := by
      constructor
      · rintro ⟨generated, hOk⟩
        rcases hEnds with
          ⟨_, hHosted, _⟩ | ⟨declared, _, hError⟩
        · exact hHosted
        · rw [hOk] at hError
          cases hError
      · intro hHosted
        rcases hEnds with
          ⟨generated, _, hOk⟩ | ⟨declared, hFind, _⟩
        · exact ⟨generated, hOk⟩
        · exact absurd hHosted (hRejected hFind)
    fails_iff := by
      intro error
      constructor
      · intro hError
        rcases hEnds with
          ⟨_, _, hOk⟩ | ⟨declared, hFind, hFirst⟩
        · rw [hOk] at hError
          cases hError
        · rw [hFirst] at hError
          cases hError
          exact ⟨declared, hFind, rfl⟩
      · rintro ⟨declared, hFind, rfl⟩
        rcases hEnds with
          ⟨_, hHosted, _⟩ | ⟨first, hFirst, hError⟩
        · exact absurd hHosted (hRejected hFind)
        · rw [hFind] at hFirst
          cases hFirst
          exact hError
    className := by
      rcases exists_className
          (mt String.toList_eq_nil_iff.mpr
            hBase.plain.nonempty) with ⟨className, hName⟩
      exact
        ⟨className, hName, (ident_className hBase hName).1⟩
    setters := hPlain.ident_of_setters
    accessors := by
      intro declared hDeclared
      exact MethodName.ident_uniformSetter
        (UniformType.isPlain_accessor
          (hPlain.types declared hDeclared)).plain
    hosted_iff := by
      intro declared hDeclared
      exact Uniform.isHosted_iff
        (hPlain.types declared hDeclared) }

/-
  A source with a keyword for a name, a name in digits and a
  trait list for a type is decided by its types.
-/
theorem generate_decided_by_types_mist :
    IsSimpleName "mist" ∧
      (∀ c ∈
          ("uniform Fog fn; uniform 2d 3d; uniform dyn x;"
            ).toList,
        c.toNat < 128) ∧
      DecidedByTypes "mist"
        "uniform Fog fn; uniform 2d 3d; uniform dyn x;" := by
  have hBase : IsSimpleName "mist" := by
    decide
  have hAscii :
      ∀ c ∈
          ("uniform Fog fn; uniform 2d 3d; uniform dyn x;"
            ).toList,
        c.toNat < 128 := by
    simp
  exact
    ⟨hBase, hAscii,
      generate_decided_by_types "mist"
        "uniform Fog fn; uniform 2d 3d; uniform dyn x;" hBase
        hAscii⟩

end ShaderBindings
