import ShaderBindings.Interface
import ShaderBindings.Proofs.MethodName.Solid

/-
  Words of ASCII. A word of letters, digits and underscores
  is an identifier character by character, so it is read as
  it is written unless it starts with a digit. Names of
  setters and of classes are never reserved, whatever word
  they are made from.

  Key definitions include:
    * `isPlainChar`
    * `IsPlain`
    * `startsWithDigit`
    * `IsSimpleName`

  Key theorems include:
    * `soleWord?_of_plain`
    * `HostType.isSome_of_plain`
    * `MethodName.ident_of_setter`
    * `MethodName.ident_uniformSetter`
    * `ident_className`
-/

------------------------------------------------------------
-- Plain Characters
------------------------------------------------------------

namespace ShaderBindings

namespace Code

open Text

/- A letter or a digit of ASCII, or an underscore. -/
def isPlainChar (c : Char) : Bool :=
  c.isAlphanum || c == '_'

/- Plain characters are characters of ASCII. -/
theorem toNat_lt_of_isPlainChar
    {c : Char}
    (hPlain : isPlainChar c = true) :
    c.toNat < 128 := by
  rcases Bool.or_eq_true_iff.mp hPlain with
    hAlphanum | hScore
  · rcases Bool.or_eq_true_iff.mp hAlphanum with
      hAlpha | hDigit
    · rcases Bool.or_eq_true_iff.mp hAlpha with
        hUpper | hLower
      · have hLast : c.toNat ≤ 90 :=
          (of_decide_eq_true hUpper).2
        omega
      · have hLast : c.toNat ≤ 122 :=
          of_decide_eq_true
            (Bool.and_eq_true_iff.mp hLower).2
        omega
    · have hLast : c.toNat ≤ 57 :=
        of_decide_eq_true (Bool.and_eq_true_iff.mp hDigit).2
      omega
  · rw [beq_iff_eq.mp hScore]
    decide

/- The plain characters are those of words in ASCII. -/
theorem isPlainChar_of_isWordChar
    {c : Char}
    (hSmall : c.toNat < 128)
    (hWord : isWordChar c = true) :
    isPlainChar c = true := by
  rw [isWordChar, isAlphanumeric, if_pos hSmall] at hWord
  exact hWord

theorem isWordChar_of_isPlainChar
    {c : Char}
    (hPlain : isPlainChar c = true) :
    isWordChar c = true := by
  rw [isWordChar, isAlphanumeric,
    if_pos (toNat_lt_of_isPlainChar hPlain)]
  exact hPlain

/- A plain character may continue an identifier. -/
theorem isIdentifierContinue_of_isPlainChar
    {c : Char}
    (hPlain : isPlainChar c = true) :
    isIdentifierContinue c = true := by
  rw [isIdentifierContinue,
    if_pos (toNat_lt_of_isPlainChar hPlain)]
  exact hPlain

/- A plain character starts an identifier unless it is a digit. -/
theorem isIdentifierStart_of_isPlainChar
    {c : Char}
    (hPlain : isPlainChar c = true) :
    isIdentifierStart c = !c.isDigit := by
  have hSmall := toNat_lt_of_isPlainChar hPlain
  revert hPlain
  exact of_ascii hSmall (by decide)

/- Plain characters stay plain in both letter cases. -/
theorem isPlainChar_toLower
    {c : Char}
    (hPlain : isPlainChar c = true) :
    isPlainChar c.toLower = true := by
  have hSmall := toNat_lt_of_isPlainChar hPlain
  revert hPlain
  exact of_ascii hSmall (by decide)

theorem isPlainChar_toUpper
    {c : Char}
    (hPlain : isPlainChar c = true) :
    isPlainChar c.toUpper = true ∧
      c.toUpper.isDigit = c.isDigit := by
  have hSmall := toNat_lt_of_isPlainChar hPlain
  revert hPlain
  exact of_ascii hSmall (by decide)

end Code

end ShaderBindings

------------------------------------------------------------
-- Plain Words
------------------------------------------------------------

namespace ShaderBindings

namespace Code

/- A word of plain characters, which may start with a digit. -/
structure IsPlain (text : String) : Prop where
  nonempty : text.toList ≠ []
  plain : ∀ c ∈ text.toList, isPlainChar c = true

instance (text : String) : Decidable (IsPlain text) :=
  decidable_of_iff
    (text.toList ≠ [] ∧ text.toList.all isPlainChar = true)
    ⟨fun ⟨hFilled, hAll⟩ =>
        ⟨hFilled, List.all_eq_true.mp hAll⟩,
      fun ⟨hFilled, hAll⟩ =>
        ⟨hFilled, List.all_eq_true.mpr hAll⟩⟩

/- The text starts with a decimal digit. -/
def startsWithDigit (text : String) : Bool :=
  text.toList.head?.any Char.isDigit

variable {text : String}

theorem IsPlain.isSolid
    (hPlain : IsPlain text) :
    ∀ c ∈ text.toList, isSolid c = true := by
  intro c hMember
  exact isSolid_of_isWordChar
    (isWordChar_of_isPlainChar (hPlain.plain c hMember))

/- A plain word is read to its end, unless a digit starts it. -/
theorem wordToken?_of_plain
    {c : Char}
    {rest : List Char}
    (hPlain : ∀ d ∈ c :: rest, isPlainChar d = true) :
    wordToken? (c :: rest) =
      if c.isDigit then
        none
      else
        some (String.ofList (c :: rest), []) := by
  have hRest :
      ∀ d ∈ rest, Text.isIdentifierContinue d = true := by
    intro d hMember
    exact isIdentifierContinue_of_isPlainChar
      (hPlain d (List.mem_cons_of_mem c hMember))
  have hStart :=
    isIdentifierStart_of_isPlainChar
      (hPlain c List.mem_cons_self)
  have hWord :
      plainWord? (c :: rest) =
        if c.isDigit then none else some (c :: rest, []) := by
    rw [plainWord?, hStart,
      List.takeWhile_eq_self_iff.mpr hRest,
      List.dropWhile_eq_nil_iff.mpr hRest]
    cases c.isDigit with
    | true => rfl
    | false => rfl
  unfold wordToken?
  split
  · -- no plain character marks a word as raw
    rename_i marked hRaw
    have hMark := hPlain '#' (by rw [hRaw]; simp)
    exact absurd hMark (by decide)
  · rw [hWord]
    cases c.isDigit with
    | true => rfl
    | false => rfl

/- The one word of a plain text is the text itself. -/
theorem soleWord?_of_plain
    (hPlain : IsPlain text) :
    soleWord? text =
      if startsWithDigit text then none else some text := by
  have hSkip := skipTrivia_of_solid hPlain.isSolid
  have hEnd : skipTrivia [] = [] :=
    skipTrivia_of_solid (by simp)
  unfold soleWord? startsWithDigit
  cases hChars : text.toList with
  | nil => exact absurd hChars hPlain.nonempty
  | cons c rest =>
      have hToken := hPlain.plain
      have hMark : c ≠ byteOrderMark :=
        ne_byteOrderMark_of_isSolid
          (hPlain.isSolid c (by simp [hChars]))
      have hText : String.ofList (c :: rest) = text := by
        rw [← hChars, String.ofList_toList]
      rw [hChars] at hSkip hToken
      simp only [if_neg hMark, hSkip,
        wordToken?_of_plain hToken, List.head?_cons,
        Option.any_some]
      by_cases hDigit : c.isDigit = true
      · simp [hDigit]
      · simp [hDigit, hEnd, hText]

/- A plain word is an identifier unless it is reserved. -/
theorem Ident.ofString?_of_plain
    (hPlain : IsPlain text)
    (hDigit : startsWithDigit text = false)
    (hFree : isReserved text = false) :
    Ident.ofString? text = some ⟨text⟩ := by
  rw [Ident.ofString?, soleWord?_of_plain hPlain, hDigit]
  simp [hFree]

/- Which plain words are types of the host. -/
theorem HostType.isSome_of_plain
    (hPlain : IsPlain text) :
    (HostType.ofString? text).isSome =
      (!startsWithDigit text && isTypeWord text) := by
  rw [HostType.ofString?, soleWord?_of_plain hPlain]
  cases startsWithDigit text with
  | true => rfl
  | false =>
      cases hType : isTypeWord text with
      | true => simp [hType]
      | false => simp [hType]

end Code

end ShaderBindings

------------------------------------------------------------
-- Names of Setters
------------------------------------------------------------

namespace ShaderBindings

open Code

namespace MethodName

/- Plain characters are plain in lower-case words. -/
theorem isPlainChar_of_mem_snakeFrom
    {previous : Option Char}
    {text : List Char}
    (hPlain : ∀ c ∈ text, isPlainChar c = true)
    {d : Char}
    (hMember : d ∈ snakeFrom previous text) :
    isPlainChar d = true := by
  induction text generalizing previous with
  | nil => cases hMember
  | cons c rest ih =>
      have hFirst : isPlainChar c = true := hPlain c (by simp)
      have hRest : ∀ e ∈ rest, isPlainChar e = true := by
        intro e hTail
        exact hPlain e (List.mem_cons_of_mem c hTail)
      have hLowered : Text.lowered c = [c.toLower] := by
        rw [Text.lowered,
          if_pos (toNat_lt_of_isPlainChar hFirst)]
      rw [snakeFrom, hLowered] at hMember
      split at hMember
      · rcases List.mem_append.mp hMember with hWord | hTail
        · rcases List.mem_append.mp hWord with hScore | hLower
          · split at hScore
            · rw [List.mem_singleton.mp hScore]
              decide
            · cases hScore
          · rw [List.mem_singleton.mp hLower]
            exact isPlainChar_toLower hFirst
        · exact ih hRest hTail
      · rcases List.mem_cons.mp hMember with hHead | hTail
        · rw [hHead]
          exact hFirst
        · exact ih hRest hTail

/- A plain word that starts like a setter is an identifier. -/
theorem ident_of_setter
    {method : String}
    {rest : List Char}
    (hChars : method.toList = 's' :: 'e' :: 't' :: '_' :: rest)
    (hPlain : ∀ c ∈ rest, isPlainChar c = true) :
    Ident.ofString? method = some ⟨method⟩ := by
  apply Ident.ofString?_of_plain
  · constructor
    · simp [hChars]
    · have hStart :
          ∀ c ∈ ['s', 'e', 't', '_'],
            isPlainChar c = true :=
        List.all_eq_true.mp (by decide)
      rw [hChars]
      change ∀ c ∈ ['s', 'e', 't', '_'] ++ rest, _
      exact List.forall_mem_append.mpr ⟨hStart, hPlain⟩
  · rw [startsWithDigit, hChars]
    rfl
  · have hReserved :
        ∀ word ∈ reservedWords,
          word.toList.take 4 ≠ ['s', 'e', 't', '_'] := by
      decide
    rw [isReserved, Bool.eq_false_iff, ne_eq,
      List.contains_iff_mem]
    intro hMember
    apply hReserved method hMember
    rw [hChars]
    rfl

/- The setter of a uniform with a plain name is an identifier. -/
theorem ident_uniformSetter
    {name : String}
    (hPlain : ∀ c ∈ name.toList, isPlainChar c = true) :
    Ident.ofString? (uniformSetter name) =
      some ⟨uniformSetter name⟩ := by
  have hChars :
      (uniformSetter name).toList =
        's' :: 'e' :: 't' :: '_' ::
          snakeFrom none name.toList := by
    simp [uniformSetter, snakeCase]
  apply ident_of_setter hChars
  intro c hMember
  exact isPlainChar_of_mem_snakeFrom hPlain hMember

/- So is that of an attribute. -/
theorem ident_attributeSetter
    {name : String}
    (hPlain : ∀ c ∈ name.toList, isPlainChar c = true) :
    Ident.ofString? (attributeSetter name) =
      some ⟨attributeSetter name⟩ := by
  have hChars :
      (attributeSetter name).toList =
        's' :: 'e' :: 't' :: '_' ::
          (snakeFrom none name.toList ++
            "_attribute".toList) := by
    simp [attributeSetter, snakeCase]
  have hEnd :
      ∀ c ∈ "_attribute".toList, isPlainChar c = true :=
    List.all_eq_true.mp (by decide)
  apply ident_of_setter hChars
  rw [List.forall_mem_append]
  exact
    ⟨fun c hMember =>
      isPlainChar_of_mem_snakeFrom hPlain hMember, hEnd⟩

end MethodName

end ShaderBindings

------------------------------------------------------------
-- Names of Classes
------------------------------------------------------------

namespace ShaderBindings

open Code

/-
  A name of ASCII letters, digits and underscores that does
  not start with a digit.
-/
structure IsSimpleName (name : String) : Prop where
  plain : IsPlain name
  start : startsWithDigit name = false

instance (name : String) : Decidable (IsSimpleName name) :=
  decidable_of_iff
    (IsPlain name ∧ startsWithDigit name = false)
    ⟨fun ⟨hPlain, hStart⟩ => ⟨hPlain, hStart⟩,
      fun ⟨hPlain, hStart⟩ => ⟨hPlain, hStart⟩⟩

/- What is named after a class is not reserved, and a type. -/
theorem isTypeWord_of_class
    {className : String}
    (hEnd : "Shader".toList <:+ className.toList) :
    isReserved className = false ∧
      HostType.isTypeWord className = true := by
  have hOutside
      {words : List String}
      (hNone :
        ∀ word ∈ words, ¬ "Shader".toList <:+ word.toList) :
      words.contains className = false := by
    rw [Bool.eq_false_iff, ne_eq, List.contains_iff_mem]
    exact fun hMember => hNone className hMember hEnd
  have hReserved : isReserved className = false :=
    hOutside (by decide)
  have hComplete :
      HostType.incompleteTypes.contains className = false :=
    hOutside (by decide)
  refine ⟨hReserved, ?_⟩
  rw [HostType.isTypeWord, hReserved, hComplete]
  rfl

/- The class for a simple base name is named by a simple name. -/
theorem isSimpleName_class
    {baseName className : String}
    (hBase : IsSimpleName baseName)
    (hClass : className? baseName = .ok className) :
    IsSimpleName className ∧
      "Shader".toList <:+ className.toList := by
  have hPlain := hBase.plain.plain
  have hStart := hBase.start
  unfold className? at hClass
  split at hClass
  · cases hClass
  · rename_i first rest hChars
    cases hClass
    rw [hChars] at hPlain
    rw [startsWithDigit, hChars] at hStart
    rcases List.forall_mem_cons.mp hPlain with
      ⟨hFirst, hRest⟩
    have hRaised := isPlainChar_toUpper hFirst
    have hName :
        (String.ofList (Text.raised first ++ rest) ++
            "Shader").toList =
          first.toUpper :: (rest ++ "Shader".toList) := by
      rw [Text.raised,
        if_pos (toNat_lt_of_isPlainChar hFirst)]
      simp
    have hShader :
        ∀ c ∈ "Shader".toList, isPlainChar c = true :=
      List.all_eq_true.mp (by decide)
    refine ⟨⟨⟨?_, ?_⟩, ?_⟩, ?_⟩
    · rw [hName]
      exact List.cons_ne_nil _ _
    · rw [hName, List.forall_mem_cons, List.forall_mem_append]
      exact ⟨hRaised.1, hRest, hShader⟩
    · rw [startsWithDigit, hName]
      simpa [hRaised.2] using hStart
    · rw [hName, ← List.cons_append]
      exact List.suffix_append _ _

/-
  The name of the class for a simple base name can stand as
  an identifier, and in front of the body of a class.
-/
theorem ident_className
    {baseName className : String}
    (hBase : IsSimpleName baseName)
    (hClass : className? baseName = .ok className) :
    Ident.ofString? className = some ⟨className⟩ ∧
      HostType.isTypeWord className = true := by
  rcases isSimpleName_class hBase hClass with
    ⟨hSimple, hEnd⟩
  rcases isTypeWord_of_class hEnd with ⟨hFree, hType⟩
  exact
    ⟨Ident.ofString?_of_plain hSimple.plain hSimple.start
        hFree,
      hType⟩

end ShaderBindings
