import ShaderBindings.Declaration.Form

/-
  Finding declarations in the text of a shader. The text is
  not parsed: declarations in comments or in disabled
  sections are found as well, and whatever does not read as
  a declaration is skipped.

  A scan jumps to the next occurrence of the keyword, reads
  there, and after a failure goes on behind the keyword.

  Key definitions include:
    * `DeclarationForm`
    * `DeclarationForm.seek`
    * `DeclarationForm.scan`
    * `Declarations.ofChars`
    * `Declarations.ofSource`
-/

------------------------------------------------------------
-- Forms of Declaration
------------------------------------------------------------

namespace ShaderBindings

/-
  A form of declaration: the keyword it starts with, and a
  reader that consumes some text when it succeeds.
-/
structure DeclarationForm (α : Type) where
  keyword : List Char
  read? : List Char → Option (α × List Char)
  keyword_ne_nil : keyword ≠ []
  read?_length :
    ∀ {text rest : List Char} {found : α},
      read? text = some (found, rest) →
        rest.length < text.length

/- The form of uniforms. -/
def Uniform.form : DeclarationForm Uniform where
  keyword := Uniform.keyword
  read? := Uniform.read?
  keyword_ne_nil := by simp [Uniform.keyword]
  read?_length := Uniform.read?_length

/- The form of vertex attributes. -/
def Attribute.form : DeclarationForm Attribute where
  keyword := Attribute.keyword
  read? := Attribute.read?
  keyword_ne_nil := by simp [Attribute.keyword]
  read?_length := Attribute.read?_length

end ShaderBindings

------------------------------------------------------------
-- Scanning for One Form
------------------------------------------------------------

namespace ShaderBindings

namespace DeclarationForm

variable {α : Type}

/- The text from the next occurrence of the keyword on. -/
def seek
    (keyword : List Char) :
    List Char → List Char
| [] => []
| c :: text =>
    if keyword.isPrefixOf (c :: text) then
      c :: text
    else
      seek keyword text

/- Seeking never lengthens the text. -/
theorem seek_length
    (keyword text : List Char) :
    (seek keyword text).length ≤ text.length := by
  induction text with
  | nil => simp [seek]
  | cons c text ih =>
      unfold seek
      split
      · exact Nat.le_refl _
      · exact Nat.le_succ_of_le ih

/- Every declaration of the form, in source order. -/
def scan
    (form : DeclarationForm α)
    (text : List Char) : List α :=
  match hSeek : seek form.keyword text with
  | [] => []
  | c :: found =>
      have hSought : found.length < text.length := by
        have hSeekLength := seek_length form.keyword text
        rwa [hSeek] at hSeekLength
      match hRead : form.read? (c :: found) with
      | some (declaration, rest) =>
          have hRest : rest.length < text.length :=
            Nat.lt_of_le_of_lt
              (Nat.le_of_lt_succ (form.read?_length hRead))
              hSought
          declaration :: form.scan rest
      | none =>
          have hKeyword : 0 < form.keyword.length :=
            List.length_pos_iff.mpr form.keyword_ne_nil
          form.scan ((c :: found).drop form.keyword.length)
termination_by text.length
decreasing_by
  · exact hRest
  · simp only [List.length_drop, List.length_cons]
    omega

end DeclarationForm

end ShaderBindings

------------------------------------------------------------
-- Scanning a Shader
------------------------------------------------------------

namespace ShaderBindings

namespace Declarations

/- The declarations in the characters of a shader. -/
def ofChars (text : List Char) : Declarations where
  uniforms := Uniform.form.scan text
  attributes := Attribute.form.scan text

/- The declarations in the text of a shader. -/
def ofSource (source : String) : Declarations :=
  ofChars source.toList

end Declarations

end ShaderBindings
