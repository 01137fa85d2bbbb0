import ShaderBindings.Proofs.Lookup
import ShaderBindings.Proofs.MethodName.Clash

/-
  Which clash is found, and which names can clash. The search
  finds the first setter whose method occurred before, beside
  the only earlier setter of that method. Setters clash within
  the uniforms, within the attributes, and where a uniform is
  named like the setter of an attribute or like the one of all
  attributes together.

  Key definitions include:
    * `MethodName.KeepsApart`
    * `MethodClash.IsEarliest`

  Key theorems include:
    * `MethodName.nodup_methods_iff`
    * `MethodClash.exists_split_of_firstRepeat?`
    * `MethodClash.exists_isEarliest`
    * `MethodClash.find?_earliest`
-/

------------------------------------------------------------
-- Equal Names of Setters
------------------------------------------------------------

namespace ShaderBindings

namespace MethodName

variable {name other : String}

/- The setter of an attribute is that of a longer uniform. -/
theorem attributeSetter_eq_uniformSetter_iff :
    attributeSetter name = uniformSetter other ↔
      snakeCase other = snakeCase name ++ "_attribute" := by
  unfold attributeSetter uniformSetter
  rw [String.append_assoc, String.append_right_inj, eq_comm]

/- So is the setter of all attributes together. -/
theorem aggregateSetter_eq_uniformSetter_iff :
    aggregateSetter = uniformSetter name ↔
      snakeCase name = "vertex_attributes" := by
  have hSetter :
      aggregateSetter = "set_" ++ "vertex_attributes" := rfl
  unfold uniformSetter
  rw [hSetter, String.append_right_inj, eq_comm]

/- One attribute is not all of them: the last letters differ. -/
theorem attributeSetter_ne_aggregateSetter (name : String) :
    attributeSetter name ≠ aggregateSetter := by
  intro hSame
  have hLast :
      (attributeSetter name).toList.getLast? = some 'e' := by
    rw [attributeSetter, String.toList_append,
      List.getLast?_append]
    rfl
  rw [hSame] at hLast
  revert hLast
  decide

/- Setters of uniforms are apart when their words are. -/
theorem nodup_uniformSetters_iff
    {uniforms : List Uniform} :
    (uniforms.map fun found =>
        uniformSetter found.name).Nodup ↔
      (uniforms.map fun found =>
        snakeCase found.name).Nodup := by
  have hInjective :
      Function.Injective fun words => "set_" ++ words := by
    intro words others hSame
    exact (String.append_right_inj "set_").mp hSame
  have hSetters :
      (uniforms.map fun found => uniformSetter found.name) =
        (uniforms.map fun found =>
          snakeCase found.name).map ("set_" ++ ·) := by
    rw [List.map_map]
    rfl
  rw [hSetters, List.nodup_map_iff hInjective]

/- Setters of attributes are apart when their words are. -/
theorem nodup_attributeSetters_iff
    {attributes : List Attribute} :
    (attributes.map fun found =>
        attributeSetter found.name).Nodup ↔
      (attributes.map fun found =>
        snakeCase found.name).Nodup := by
  have hInjective :
      Function.Injective fun words =>
        "set_" ++ words ++ "_attribute" := by
    intro words others hSame
    apply (String.append_right_inj "set_").mp
    exact (String.append_left_inj "_attribute").mp hSame
  have hSetters :
      (attributes.map fun found =>
          attributeSetter found.name) =
        (attributes.map fun found =>
          snakeCase found.name).map
            ("set_" ++ · ++ "_attribute") := by
    rw [List.map_map]
    rfl
  rw [hSetters, List.nodup_map_iff hInjective]

end MethodName

end ShaderBindings

------------------------------------------------------------
-- Names Apart
------------------------------------------------------------

namespace ShaderBindings

namespace MethodName

/-
  Names whose setters are kept apart, as words in lower case:
  no two uniforms and no two attributes are the same, and no
  uniform is the same as an attribute with a suffix, or, when
  there are attributes, as all of them together.
-/
structure KeepsApart
    (uniforms : List Uniform)
    (attributes : List Attribute) : Prop where
  uniformWords :
    (uniforms.map fun found => snakeCase found.name).Nodup
  attributeWords :
    (attributes.map fun found => snakeCase found.name).Nodup
  across :
    ∀ uniform ∈ uniforms, ∀ found ∈ attributes,
      snakeCase uniform.name ≠
        snakeCase found.name ++ "_attribute"
  aggregate :
    attributes = [] ∨
      ∀ uniform ∈ uniforms,
        snakeCase uniform.name ≠ "vertex_attributes"

/- No two setters share a name when the names are apart. -/
theorem nodup_methods_iff
    (uniforms : List Uniform)
    (attributes : List Attribute) :
    (methods uniforms attributes).Nodup ↔
      KeepsApart uniforms attributes := by
  rw [methods_eq, List.append_assoc, List.nodup_append,
    List.nodup_append, nodup_attributeSetters_iff,
    nodup_uniformSetters_iff]
  constructor
  · rintro ⟨hAttributes, ⟨_, hUniforms, hAggregate⟩, hAcross⟩
    exact {
      uniformWords := hUniforms
      attributeWords := hAttributes
      across := by
        intro uniform hUniform found hFound hSame
        apply hAcross (attributeSetter found.name)
          (List.mem_map.mpr ⟨found, hFound, rfl⟩)
          (uniformSetter uniform.name)
        · apply List.mem_append_right
          exact List.mem_map.mpr ⟨uniform, hUniform, rfl⟩
        · exact attributeSetter_eq_uniformSetter_iff.mpr hSame
      aggregate := by
        by_cases hNone : attributes = []
        · exact Or.inl hNone
        · refine Or.inr ?_
          intro uniform hUniform hSame
          rw [if_neg (by simpa using hNone)] at hAggregate
          apply hAggregate aggregateSetter (by simp)
            (uniformSetter uniform.name)
          · exact List.mem_map.mpr ⟨uniform, hUniform, rfl⟩
          · exact
              aggregateSetter_eq_uniformSetter_iff.mpr hSame }
  · intro hApart
    refine
      ⟨hApart.attributeWords, ⟨?_, hApart.uniformWords, ?_⟩,
        ?_⟩
    · split <;> simp
    · rintro method hAggregate _ hSetter rfl
      rcases List.mem_map.mp hSetter with
        ⟨uniform, hUniform, rfl⟩
      rcases hApart.aggregate with rfl | hOther
      · cases hAggregate
      · split at hAggregate
        · cases hAggregate
        · apply hOther uniform hUniform
          exact aggregateSetter_eq_uniformSetter_iff.mp
            (List.mem_singleton.mp hAggregate).symm
    · rintro method hMethod _ hBehind rfl
      rcases List.mem_map.mp hMethod with ⟨found, hFound, rfl⟩
      rcases List.mem_append.mp hBehind with
        hAggregate | hSetter
      · split at hAggregate
        · cases hAggregate
        · exact attributeSetter_ne_aggregateSetter found.name
            (List.mem_singleton.mp hAggregate)
      · rcases List.mem_map.mp hSetter with
          ⟨uniform, hUniform, hSame⟩
        apply hApart.across uniform hUniform found hFound
        exact attributeSetter_eq_uniformSetter_iff.mp
          hSame.symm

end MethodName

end ShaderBindings

------------------------------------------------------------
-- The Earliest Clash
------------------------------------------------------------

namespace ShaderBindings

namespace MethodClash

/-
  The clash that setters have at two indices. The setter at
  the second index has the method of the one at the first,
  and no other earlier setter has it. In front of the second
  index no setter has the method of an earlier one.
-/
structure IsEarliest
    (setters : List (String × String))
    (clash : MethodClash)
    (first second : Nat) : Prop where
  first_lt : first < second
  getElem?_first :
    setters[first]? = some (clash.method, clash.first)
  getElem?_second :
    setters[second]? = some (clash.method, clash.second)
  alone :
    ∀ index, index < second →
      (setters.map Prod.fst)[index]? = some clash.method →
        index = first
  earliest :
    ∀ earlier index, earlier < index → index < second →
      (setters.map Prod.fst)[earlier]? ≠
        (setters.map Prod.fst)[index]?

variable {taken rest setters : List (String × String)}
variable {clash : MethodClash}

/-
  What the search finds, behind setters that are taken. The
  setters in front of the second one of a clash have methods
  of their own, and its first one is among them.
-/
theorem exists_split_of_firstRepeat?
    (hTaken : (taken.map Prod.fst).Nodup)
    (hFound : firstRepeat? taken.reverse rest = some clash) :
    ∃ front after,
      rest = front ++ (clash.method, clash.second) :: after ∧
        ((taken ++ front).map Prod.fst).Nodup ∧
        (clash.method, clash.first) ∈ taken ++ front := by
  induction rest generalizing taken with
  | nil => cases hFound
  | cons setter rest ih =>
      rcases setter with ⟨method, source⟩
      rw [firstRepeat?] at hFound
      cases hLookup : taken.reverse.lookup method with
      | some first =>
          rw [hLookup] at hFound
          cases hFound
          have hReverse :
              (taken.reverse.map Prod.fst).Nodup := by
            rwa [List.map_reverse, List.nodup_reverse]
          have hMember :=
            (lookup_eq_some_iff_mem hReverse).mp hLookup
          rw [List.mem_reverse] at hMember
          refine ⟨[], rest, rfl, ?_, ?_⟩
          · rwa [List.append_nil]
          · rwa [List.append_nil]
      | none =>
          rw [hLookup] at hFound
          have hNew : method ∉ taken.map Prod.fst := by
            have hAbsent :=
              lookup_eq_none_iff_notMem.mp hLookup
            rwa [List.map_reverse, List.mem_reverse]
              at hAbsent
          have hLonger :
              ((taken ++ [(method, source)]).map
                Prod.fst).Nodup := by
            rw [List.map_append, List.map_singleton,
              ← List.concat_eq_append]
            exact hTaken.concat hNew
          have hReversed :
              (taken ++ [(method, source)]).reverse =
                (method, source) :: taken.reverse := by
            simp
          rw [← hReversed] at hFound
          rcases ih hLonger hFound with
            ⟨front, after, rfl, hNodup, hFirst⟩
          rw [List.append_assoc] at hNodup hFirst
          exact
            ⟨(method, source) :: front, after, rfl, hNodup,
              hFirst⟩

/- What the search finds is the earliest clash. -/
theorem exists_isEarliest
    (hFound : firstRepeat? [] setters = some clash) :
    ∃ first second, clash.IsEarliest setters first second := by
  have hNone :
      (([] : List (String × String)).map Prod.fst).Nodup :=
    List.nodup_nil
  rcases exists_split_of_firstRepeat? hNone hFound with
    ⟨front, after, rfl, hNodup, hFirst⟩
  rw [List.nil_append] at hNodup hFirst
  rcases List.mem_iff_getElem?.mp hFirst with ⟨first, hAt⟩
  have hLt : first < front.length :=
    (List.getElem?_eq_some_iff.mp hAt).1
  have hFront :
      ∀ index, index < front.length →
        ((front ++ (clash.method, clash.second) :: after).map
            Prod.fst)[index]? =
          (front.map Prod.fst)[index]? := by
    intro index hIndex
    rw [List.map_append, List.getElem?_append_left]
    rwa [List.length_map]
  have hMethod :
      (front.map Prod.fst)[first]? = some clash.method := by
    rw [List.getElem?_map, hAt]
    rfl
  exact ⟨first, front.length, {
    first_lt := hLt
    getElem?_first := by
      rw [List.getElem?_append_left hLt, hAt]
    getElem?_second := by simp
    alone := by
      intro index hIndex hSame
      rw [hFront index hIndex, ← hMethod] at hSame
      exact (List.getElem?_inj (by simpa using hIndex)
        hNodup).mp hSame
    earliest := by
      intro earlier index hEarlier hIndex
      rw [hFront earlier (Nat.lt_trans hEarlier hIndex),
        hFront index hIndex]
      exact List.nodup_iff_getElem?_ne_getElem?.mp hNodup
        earlier index hEarlier (by simpa using hIndex) }⟩

namespace IsEarliest

variable {other : MethodClash}
variable {first second first' second' : Nat}

/- The methods at the two indices are the one of the clash. -/
theorem getElem?_methods
    (hClash : clash.IsEarliest setters first second) :
    (setters.map Prod.fst)[first]? = some clash.method ∧
      (setters.map Prod.fst)[second]? =
        some clash.method := by
  rw [List.getElem?_map, List.getElem?_map,
    hClash.getElem?_first, hClash.getElem?_second]
  exact ⟨rfl, rfl⟩

/- An earliest clash ends no later than any other clash. -/
theorem second_le
    (hClash : clash.IsEarliest setters first second)
    (hOther : other.IsEarliest setters first' second') :
    second ≤ second' := by
  by_contra hLater
  apply hClash.earliest first' second' hOther.first_lt
    (Nat.lt_of_not_le hLater)
  rw [hOther.getElem?_methods.1, hOther.getElem?_methods.2]

/- Setters that clash have a method twice. -/
theorem not_nodup
    (hClash : clash.IsEarliest setters first second) :
    ¬ (setters.map Prod.fst).Nodup := by
  intro hNodup
  have hSecond :=
    (List.getElem?_eq_some_iff.mp hClash.getElem?_second).1
  apply List.nodup_iff_getElem?_ne_getElem?.mp hNodup first
    second hClash.first_lt (by simpa using hSecond)
  rw [hClash.getElem?_methods.1, hClash.getElem?_methods.2]

/- There is only one earliest clash. -/
theorem unique
    (hClash : clash.IsEarliest setters first second)
    (hOther : other.IsEarliest setters first' second') :
    clash = other := by
  have hIndex : second = second' :=
    Nat.le_antisymm (hClash.second_le hOther)
      (hOther.second_le hClash)
  subst hIndex
  have hSecond := hClash.getElem?_second
  rw [hOther.getElem?_second, Option.some.injEq,
    Prod.mk.injEq] at hSecond
  have hSame : first' = first := by
    apply hClash.alone first' hOther.first_lt
    rw [hOther.getElem?_methods.1, hSecond.1]
  have hFirst := hClash.getElem?_first
  rw [← hSame, hOther.getElem?_first, Option.some.injEq,
    Prod.mk.injEq] at hFirst
  cases clash
  cases other
  rw [mk.injEq]
  exact ⟨hSecond.1.symm, hFirst.2.symm, hSecond.2.symm⟩

end IsEarliest

/-
  The search for a clash finds none exactly when the names
  are apart. What it finds otherwise is the earliest clash,
  which is the only one of this kind. The setter of an
  attribute is never the aggregate setter.
-/
theorem find?_earliest
    (uniforms : List Uniform)
    (attributes : List Attribute) :
    (find? uniforms attributes = none ↔
        MethodName.KeepsApart uniforms attributes) ∧
      (∀ name,
        MethodName.attributeSetter name ≠
          MethodName.aggregateSetter) ∧
      ∀ clash,
        find? uniforms attributes = some clash ↔
          ∃ first second,
            clash.IsEarliest
              (MethodName.setters uniforms attributes) first
              second := by
  refine
    ⟨?_, MethodName.attributeSetter_ne_aggregateSetter, ?_⟩
  · rw [find?_eq_none_iff]
    exact MethodName.nodup_methods_iff uniforms attributes
  · intro clash
    constructor
    · exact exists_isEarliest
    · rintro ⟨first, second, hClash⟩
      cases hFound : find? uniforms attributes with
      | none =>
          rw [find?_eq_none_iff] at hFound
          exact absurd hFound hClash.not_nodup
      | some found =>
          rcases exists_isEarliest hFound with
            ⟨first', second', hFirst⟩
          rw [hFirst.unique hClash]

/- The clash that starts last is found, as it ends first. -/
example :
    find?
        [ { typeToken := "vec3"
            name := "lightPos"
            isArray := false },
          { typeToken := "vec3"
            name := "light_pos"
            isArray := false },
          { typeToken := "float"
            name := "uvAttribute"
            isArray := false } ]
        [ { location := 0
            typeToken := "vec2"
            name := "uv" } ] =
      some {
        method := "set_light_pos"
        first := "lightPos"
        second := "light_pos" } := by
  decide +kernel

end MethodClash

end ShaderBindings
