import ShaderBindings.Proofs.Path.Ending

/-
  The parts of a file name behind the path of a directory. A
  name is the last piece of the path that it ends, so that
  its stem and its extension are those of the path. With
  another extension the path is that of the stem and this
  extension in the same directory, unless the stem is a dot,
  when the dots that are left lead up.

  Key theorems include:
    * `Path.endsIn_join`
    * `Path.fileName_join`
    * `Path.withExtension_join`
    * `Path.withExtension_join_dot`
-/

------------------------------------------------------------
-- Names at the End
------------------------------------------------------------

namespace ShaderBindings

namespace Path

variable {name : String}

/- A name behind a path is its last piece, without a trail. -/
theorem endsIn_join
    (hName : IsPlainName name)
    (path : Path) :
    (path.join ⟨name⟩).EndsIn path.opening name.toList [] where
  isOpen := isOpen_opening path
  isName := hName.isName
  isTrail := .nil
  chars_eq := by rw [chars_join hName, List.append_nil]

/- A joined path is what a name can follow, and the name. -/
theorem join_eq_ofChars
    (hName : IsPlainName name)
    (path : Path) :
    path.join ⟨name⟩ =
      ofChars (path.opening ++ name.toList) := by
  rw [← chars_join hName, ofChars_chars]

theorem IsPlainName.toList_ne_dots
    (hName : IsPlainName name) :
    name.toList ≠ ['.', '.'] := by
  intro hAbove
  exact hName.not_above (String.toList_injective hAbove)

/- A name behind a path is that of its file. -/
theorem fileName_join
    (hName : IsPlainName name)
    (path : Path) :
    (path.join ⟨name⟩).fileName? = some name.toList :=
  (endsIn_join hName path).fileName hName.toList_ne_dots

end Path

end ShaderBindings

------------------------------------------------------------
-- Stems and Extensions
------------------------------------------------------------

namespace ShaderBindings

namespace Path

variable {stem extension other : List Char}
variable {name : String}

theorem stem_join
    (hName : IsPlainName name)
    (path : Path) :
    (path.join ⟨name⟩).stem? =
      some (partName name.toList).1 := by
  rw [stem?, fileName_join hName]
  rfl

theorem extension_join
    (hName : IsPlainName name)
    (path : Path) :
    (path.join ⟨name⟩).extension? =
      (partName name.toList).2 := by
  rw [extension?, fileName_join hName]
  rfl

/- No part at the start of a plain name holds a slash. -/
theorem IsPlainName.slash_not_mem_of_append
    {rest : List Char}
    (hName : IsPlainName name)
    (hParts : name.toList = stem ++ rest) :
    '/' ∉ stem := by
  intro hSlash
  apply hName.unslashed
  rw [hParts]
  exact List.mem_append_left _ hSlash

/-
  A file with another extension is in the same directory
  under the same stem, unless the stem is a dot.
-/
theorem withExtension_join
    (hName : IsPlainName name)
    (hParts : name.toList = stem ++ '.' :: extension)
    (hStem : stem ≠ [])
    (hExtension : '.' ∉ extension)
    (hDot : stem ≠ ['.'])
    (path : Path) :
    (path.join ⟨name⟩).withExtension other =
      ofChars (path.opening ++ (stem ++ '.' :: other)) := by
  have hEnds := endsIn_join hName path
  have hAbove := hName.toList_ne_dots
  rw [hParts] at hEnds hAbove
  have hKept : stem ++ ['.'] ≠ ['.'] ++ ['.'] := by
    intro hDots
    exact hDot (List.append_singleton_inj.mp hDots).1
  rw [hEnds.withExtension hStem hExtension hAbove hKept,
    List.append_assoc]

/- The dots that are left when the stem is a dot lead up. -/
theorem withExtension_join_dot
    (hName : IsPlainName name)
    (hParts : name.toList = '.' :: '.' :: extension)
    (hExtension : '.' ∉ extension)
    (path : Path) :
    (path.join ⟨name⟩).withExtension other =
      ofChars (path.opening ++ ['.', '.']) := by
  have hEnds := endsIn_join hName path
  have hAbove := hName.toList_ne_dots
  rw [hParts] at hEnds hAbove
  apply hEnds.withExtension_dots _ hExtension
  rintro rfl
  exact hAbove rfl

end Path

end ShaderBindings
