import Mathlib.Data.String.Basic
import ShaderBindings.Proofs.Declaration.Search
import ShaderBindings.Proofs.Declaration.Spelling
import ShaderBindings.Proofs.VertexLayout.Packing

/-
  What can be said of every declaration that a scan finds.
  Each of them is spelled somewhere in the text, so its names
  are words, and it takes up more of the text than the data
  of a vertex attribute takes of a vertex. The vertices of a
  shader are therefore never larger than its source.

  Key definitions include:
    * `Declarations.NamedByWords`

  Key theorems include:
    * `DeclarationForm.Seekable.exists_read?_of_mem`
    * `DeclarationForm.Seekable.sum_scan_le`
    * `Declarations.exists_uniformSpelling`
    * `Declarations.exists_attributeSpelling`
    * `Declarations.ofSource_namedByWords`
    * `Declarations.totalSize_le_utf8ByteSize`
-/

------------------------------------------------------------
-- Successes of a Scan
------------------------------------------------------------

namespace ShaderBindings

namespace DeclarationForm

variable {α : Type}
variable {form : DeclarationForm α}

/-
  Everything that a search finds was read somewhere in the
  text, if what is left of a text after reading is its end.
-/
theorem exists_read?_of_mem_search
    (hBehind :
      ∀ {text rest : List Char} {found : α},
        form.read? text = some (found, rest) →
          rest <:+ text)
    {text : List Char}
    {found : α}
    (hFound : found ∈ form.search text) :
    ∃ start rest,
      start <:+ text ∧
        form.read? start = some (found, rest) := by
  fun_induction search form text with
  | case1 => cases hFound
  | case2 c text declaration rest hRead _ ih =>
      rcases List.mem_cons.mp hFound with hHead | hTail
      · exact
          ⟨c :: text, rest, List.suffix_rfl, hHead ▸ hRead⟩
      · rcases ih hTail with ⟨start, after, hStart, hThere⟩
        exact
          ⟨start, after, hStart.trans (hBehind hRead), hThere⟩
  | case3 c text hRead ih =>
      rcases ih hFound with ⟨start, rest, hStart, hThere⟩
      exact
        ⟨start, rest,
          hStart.trans (List.suffix_cons c text), hThere⟩

/-
  Declarations that never weigh more than the text that they
  are read from do not weigh more than the text together.
-/
theorem sum_search_le
    (weight : α → Nat)
    (hWeight :
      ∀ {text rest : List Char} {found : α},
        form.read? text = some (found, rest) →
          weight found + rest.length ≤ text.length)
    (text : List Char) :
    ((form.search text).map weight).sum ≤ text.length := by
  fun_induction search form text with
  | case1 => exact Nat.le_refl 0
  | case2 c text declaration rest hRead _ ih =>
      have hDeclaration := hWeight hRead
      rw [List.map_cons, List.sum_cons]
      omega
  | case3 c text hRead ih =>
      rw [List.length_cons]
      omega

namespace Seekable

theorem exists_read?_of_mem
    (hSeekable : form.Seekable)
    (hBehind :
      ∀ {text rest : List Char} {found : α},
        form.read? text = some (found, rest) →
          rest <:+ text)
    {text : List Char}
    {found : α}
    (hFound : found ∈ form.scan text) :
    ∃ start rest,
      start <:+ text ∧
        form.read? start = some (found, rest) := by
  rw [hSeekable.scan_eq_search] at hFound
  exact exists_read?_of_mem_search hBehind hFound

theorem sum_scan_le
    (hSeekable : form.Seekable)
    (weight : α → Nat)
    (hWeight :
      ∀ {text rest : List Char} {found : α},
        form.read? text = some (found, rest) →
          weight found + rest.length ≤ text.length)
    (text : List Char) :
    ((form.scan text).map weight).sum ≤ text.length := by
  rw [hSeekable.scan_eq_search]
  exact sum_search_le weight hWeight text

end Seekable

end DeclarationForm

end ShaderBindings

------------------------------------------------------------
-- Spelled Declarations
------------------------------------------------------------

namespace ShaderBindings

/- What is left after reading a uniform is the end of a text. -/
theorem Uniform.behind_read?
    {text rest : List Char}
    {found : Uniform}
    (hRead : form.read? text = some (found, rest)) :
    rest <:+ text := by
  rcases exists_spelling_of_read? hRead with
    ⟨spelling, hText, _⟩
  exact ⟨spelling.chars, hText.symm⟩

/- So is what is left after reading an attribute. -/
theorem Attribute.behind_read?
    {text rest : List Char}
    {found : Attribute}
    (hRead : form.read? text = some (found, rest)) :
    rest <:+ text := by
  rcases exists_spelling_of_read? hRead with
    ⟨spelling, hText, _⟩
  exact ⟨spelling.chars, hText.symm⟩

/- A start of the end of a text is a part of the text. -/
theorem infix_of_suffix_append
    {text spelled rest : List Char}
    (hEnd : spelled ++ rest <:+ text) :
    spelled <:+: text :=
  (List.prefix_append spelled rest).isInfix.trans hEnd.isInfix

namespace Declarations

/- Every uniform of a shader is spelled in its source. -/
theorem exists_uniformSpelling
    {source : String}
    {found : Uniform}
    (hFound : found ∈ (ofSource source).uniforms) :
    ∃ spelling : Uniform.Spelling,
      spelling.chars <:+: source.toList ∧
        found = spelling.declared := by
  rcases Uniform.form_seekable.exists_read?_of_mem
      Uniform.behind_read? hFound with
    ⟨start, rest, hStart, hRead⟩
  rcases Uniform.exists_spelling_of_read? hRead with
    ⟨spelling, rfl, hDeclared⟩
  exact ⟨spelling, infix_of_suffix_append hStart, hDeclared⟩

/- Every attribute of a shader is spelled in its source. -/
theorem exists_attributeSpelling
    {source : String}
    {found : Attribute}
    (hFound : found ∈ (ofSource source).attributes) :
    ∃ spelling : Attribute.Spelling,
      spelling.chars <:+: source.toList ∧
        found = spelling.declared := by
  rcases Attribute.form_seekable.exists_read?_of_mem
      Attribute.behind_read? hFound with
    ⟨start, rest, hStart, hRead⟩
  rcases Attribute.exists_spelling_of_read? hRead with
    ⟨spelling, rfl, hDeclared⟩
  exact ⟨spelling, infix_of_suffix_append hStart, hDeclared⟩

/- Declarations whose names are words. -/
structure NamedByWords (found : Declarations) : Prop where
  uniforms :
    ∀ declared ∈ found.uniforms, Form.IsWord declared.name
  attributes :
    ∀ declared ∈ found.attributes, Form.IsWord declared.name

/- The declarations of a shader are named by words. -/
theorem ofSource_namedByWords (source : String) :
    (ofSource source).NamedByWords where
  uniforms := by
    intro declared hFound
    rcases exists_uniformSpelling hFound with
      ⟨spelling, _, rfl⟩
    exact ⟨spelling.name, rfl⟩
  attributes := by
    intro declared hFound
    rcases exists_attributeSpelling hFound with
      ⟨spelling, _, rfl⟩
    exact ⟨spelling.name, rfl⟩

end Declarations

end ShaderBindings

------------------------------------------------------------
-- Sizes in the Source
------------------------------------------------------------

namespace ShaderBindings

/- The fixed parts of an attribute alone are 20 characters. -/
theorem Attribute.Spelling.length_chars
    (spelling : Attribute.Spelling) :
    20 ≤ spelling.chars.length := by
  have hKeyword : keyword.length = 6 := rfl
  simp only [chars, List.length_flatten, List.map_cons,
    List.map_nil, List.sum_cons, List.sum_nil,
    List.length_cons, List.length_nil]
  omega

/- An attribute is written with more characters than bytes. -/
theorem Attribute.byteSize_add_length_le
    {text rest : List Char}
    {found : Attribute}
    (hRead : form.read? text = some (found, rest)) :
    found.type.byteSize.toNat + rest.length ≤ text.length := by
  rcases exists_spelling_of_read? hRead with
    ⟨spelling, hText, _⟩
  have hSize := AttributeType.byteSize_le found.type
  have hChars := spelling.length_chars
  rw [hText, List.length_append]
  omega

/- Every character takes at least one byte. -/
theorem length_le_utf8ByteSize (text : String) :
    text.toList.length ≤ text.utf8ByteSize := by
  have hSize : text.utf8ByteSize = String.utf8Len text.toList := by
    rw [← String.utf8ByteSize_ofList, String.ofList_toList]
  rw [hSize]
  induction text.toList with
  | nil => exact Nat.le_refl 0
  | cons c rest ih =>
      have hChar := c.utf8Size_pos
      rw [List.length_cons, String.utf8Len_cons]
      omega

namespace Declarations

/- The attributes of a shader fit into its source. -/
theorem totalSize_le_utf8ByteSize (source : String) :
    VertexLayout.totalSize (ofSource source).attributes ≤
      source.utf8ByteSize := by
  calc
    VertexLayout.totalSize (ofSource source).attributes ≤
        source.toList.length :=
          Attribute.form_seekable.sum_scan_le
            (fun found => found.type.byteSize.toNat)
            Attribute.byteSize_add_length_le source.toList
    _ ≤ source.utf8ByteSize := length_le_utf8ByteSize source

end Declarations

end ShaderBindings
