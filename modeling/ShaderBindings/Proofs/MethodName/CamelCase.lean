import ShaderBindings.Proofs.MethodName.Separators

/-
  The words of camel-case names. A name is made of words,
  which start with a capital and a small letter, and of
  acronyms, which are capitals with digits behind them. Its
  lower-case words are just these segments, so that two names
  have one setter when their segments agree up to letter case.

  Key definitions include:
    * `Segment`
    * `Segment.MayFollow`
    * `CamelName`
    * `CamelName.words`

  Key theorems include:
    * `Segment.snakeFrom_text`
    * `Segment.snakeFrom_flatMap_text`
    * `CamelName.snakeCase_text`
    * `CamelName.splitOn_snakeCase`
    * `CamelName.snakeCase_recovers_words`
-/

------------------------------------------------------------
-- Letters and Digits
------------------------------------------------------------

namespace ShaderBindings

namespace MethodName

open Text

/- A capital letter, which is not a numeral. -/
def IsCapital (c : Char) : Prop :=
  isUpper c = true ∧ isNumeric c = false

/- A small letter. -/
def IsSmall (c : Char) : Prop :=
  isLower c = true

/- A number that is no letter. -/
def IsFigure (c : Char) : Prop :=
  isNumeric c = true ∧ isUpper c = false ∧ isLower c = false

instance (c : Char) : Decidable (IsCapital c) :=
  inferInstanceAs (Decidable (_ ∧ _))

instance (c : Char) : Decidable (IsSmall c) :=
  inferInstanceAs (Decidable (_ = _))

instance (c : Char) : Decidable (IsFigure c) :=
  inferInstanceAs (Decidable (_ ∧ _))

/- In ASCII these are the letters and the decimal digits. -/
example
    {c : Char}
    (hSmall : c.toNat < 128) :
    (IsCapital c ↔ 'A' ≤ c ∧ c ≤ 'Z') ∧
      (IsSmall c ↔ 'a' ≤ c ∧ c ≤ 'z') ∧
      (IsFigure c ↔ '0' ≤ c ∧ c ≤ '9') :=
  of_ascii hSmall (by decide)

end MethodName

end ShaderBindings

------------------------------------------------------------
-- Segments
------------------------------------------------------------

namespace ShaderBindings

open MethodName

/-
  A segment of a camel-case name. A word starts with a capital
  and a small letter, and goes on with small letters and
  digits. An opening word has no capital, and needs no second
  letter. An acronym is made of capitals with digits at its
  end.
-/
inductive Segment where
| word
    (capital small : Char) (rest : List Char)
    (isCapital : IsCapital capital)
    (isSmall : IsSmall small)
    (isRest : ∀ c ∈ rest, IsSmall c ∨ IsFigure c)
| opening
    (small : Char) (rest : List Char)
    (isSmall : IsSmall small)
    (isRest : ∀ c ∈ rest, IsSmall c ∨ IsFigure c)
| acronym
    (capital : Char) (capitals figures : List Char)
    (isCapital : IsCapital capital)
    (areCapitals : ∀ c ∈ capitals, IsCapital c)
    (areFigures : ∀ c ∈ figures, IsFigure c)

namespace Segment

/- The characters of a segment. -/
def text : Segment → List Char
| .word capital small rest _ _ _ => capital :: small :: rest
| .opening small rest _ _ => small :: rest
| .acronym capital capitals figures _ _ _ =>
    capital :: (capitals ++ figures)

/- A segment in lower case. -/
def lowerCased (segment : Segment) : String :=
  String.ofList (lowerCase segment.text)

/- The segment is an acronym. -/
def isAcronym : Segment → Bool
| .word .. => false
| .opening .. => false
| .acronym .. => true

/-
  A segment can stand right behind another one. An opening
  word stands behind none, and no acronym behind an acronym.
-/
def MayFollow (before : Segment) : Segment → Prop
| .word .. => True
| .opening .. => False
| .acronym .. => before.isAcronym = false

instance (before : Segment) : DecidablePred before.MayFollow
| .word .. => inferInstanceAs (Decidable True)
| .opening .. => inferInstanceAs (Decidable False)
| .acronym .. => inferInstanceAs (Decidable (_ = false))

end Segment

end ShaderBindings

------------------------------------------------------------
-- Words of a Segment
------------------------------------------------------------

namespace ShaderBindings

namespace MethodName

open Text

variable {c d : Char}
variable {text : List Char}

theorem IsSmall.isUpper_eq_false
    (hSmall : IsSmall c) :
    isUpper c = false := by
  rw [Bool.eq_false_iff]
  intro hUpper
  have hOther := isLower_eq_false_of_isUpper hUpper
  rw [IsSmall, hOther] at hSmall
  cases hSmall

/- A text without upper case is in lower case already. -/
theorem lowerCase_of_not_upper
    (hLower : ∀ c ∈ text, isUpper c = false) :
    lowerCase text = text := by
  induction text with
  | nil => rfl
  | cons c rest ih =>
      have hRest : lowerCase rest = rest :=
        ih fun d hMember =>
          hLower d (List.mem_cons_of_mem c hMember)
      have hFirst :=
        lowerForm_of_not_upper (hLower c List.mem_cons_self)
      rw [lowerCase, List.flatMap_cons, hFirst]
      exact congrArg (c :: ·) hRest

/- Neither small letters nor digits are upper case. -/
theorem isUpper_of_isRest
    (hRest : ∀ c ∈ text, IsSmall c ∨ IsFigure c) :
    ∀ c ∈ text, isUpper c = false := by
  intro c hMember
  rcases hRest c hMember with hSmall | hFigure
  · exact hSmall.isUpper_eq_false
  · exact hFigure.2.1

/- Behind a capital, a word starts in front of lower case. -/
theorem startsWord_of_isCapital
    (hCapital : IsCapital c)
    (next : Option Char) :
    startsWord (some c) next = next.any isLower := by
  rw [startsWord, isLower_eq_false_of_isUpper hCapital.1,
    hCapital.2, hCapital.1]
  rfl

/- Capitals and digits behind a capital are no new words. -/
theorem snakeFrom_capitals
    {capitals figures : List Char}
    (hFirst : IsCapital c)
    (hCapitals : ∀ d ∈ capitals, IsCapital d)
    (hFigures : ∀ d ∈ figures, IsFigure d) :
    snakeFrom (some c) (capitals ++ figures) =
      lowerCase (capitals ++ figures) := by
  induction capitals generalizing c with
  | nil =>
      have hLower : ∀ d ∈ figures, isUpper d = false :=
        fun d hMember => (hFigures d hMember).2.1
      rw [List.nil_append, snakeFrom_of_not_upper hLower,
        lowerCase_of_not_upper hLower]
  | cons d others ih =>
      have hSecond := hCapitals d List.mem_cons_self
      have hOthers : ∀ e ∈ others, IsCapital e :=
        fun e hMember =>
          hCapitals e (List.mem_cons_of_mem d hMember)
      have hNext :
          (others ++ figures).head?.any isLower = false := by
        rw [Option.any_eq_false]
        intro e hHead
        rcases List.mem_append.mp (List.mem_of_head? hHead) with
          hCapital | hFigure
        · exact isLower_eq_false_of_isUpper
            (hOthers e hCapital).1
        · exact (hFigures e hFigure).2.2
      have hWhole :
          isParted (some c) (d :: (others ++ figures)) ≠
            true := by
        rw [isParted, startsWord_of_isCapital hFirst, hNext]
        simp
      rw [List.cons_append, snakeFrom_cons, separator,
        if_neg hWhole, ih hSecond hOthers]
      rfl

end MethodName

namespace Segment

open MethodName
open Text

/- No word starts within a segment. -/
theorem snakeFrom_text
    (previous : Option Char)
    (segment : Segment) :
    snakeFrom previous segment.text =
      separator previous segment.text ++
        lowerCase segment.text := by
  cases segment with
  | word capital small rest isCapital isSmall isRest =>
      have hLower : ∀ c ∈ small :: rest, isUpper c = false := by
        apply isUpper_of_isRest
        simpa [isSmall] using isRest
      rw [text, snakeFrom_cons, snakeFrom_of_not_upper hLower,
        lowerCase, List.flatMap_cons]
      congr 2
      exact (lowerCase_of_not_upper hLower).symm
  | opening small rest isSmall isRest =>
      have hLower : ∀ c ∈ small :: rest, isUpper c = false := by
        apply isUpper_of_isRest
        simpa [isSmall] using isRest
      rw [text, snakeFrom_of_not_upper hLower,
        lowerCase_of_not_upper hLower]
      simp [separator, isParted, isSmall.isUpper_eq_false]
  | acronym capital capitals figures isCapital areCapitals
      areFigures =>
      rw [text, snakeFrom_cons,
        snakeFrom_capitals isCapital areCapitals areFigures]
      rfl

theorem text_ne_nil (segment : Segment) :
    segment.text ≠ [] := by
  cases segment <;> simp [text]

/- Every word ends in a small letter or a digit. -/
theorem isLower_or_isNumeric_of_getLast?
    {c : Char}
    {segment : Segment}
    (hAcronym : segment.isAcronym = false)
    (hLast : segment.text.getLast? = some c) :
    isLower c = true ∨ isNumeric c = true := by
  have hRest : IsSmall c ∨ IsFigure c := by
    cases segment with
    | word capital small rest isCapital isSmall isRest =>
        rw [text, List.getLast?_cons_cons] at hLast
        rcases List.mem_cons.mp (List.mem_of_getLast? hLast)
          with rfl | hMember
        · exact Or.inl isSmall
        · exact isRest c hMember
    | opening small rest isSmall isRest =>
        rcases List.mem_cons.mp (List.mem_of_getLast? hLast)
          with rfl | hMember
        · exact Or.inl isSmall
        · exact isRest c hMember
    | acronym => cases hAcronym
  rcases hRest with hSmall | hFigure
  · exact Or.inl hSmall
  · exact Or.inr hFigure.1

/- Every character of a segment is a letter or a digit. -/
theorem kind_of_mem_text
    {c : Char}
    {segment : Segment}
    (hMember : c ∈ segment.text) :
    isLower c = true ∨ isNumeric c = true ∨
      isUpper c = true := by
  have hKinds :
      IsCapital c ∨ IsSmall c ∨ IsFigure c := by
    cases segment with
    | word capital small rest isCapital isSmall isRest =>
        simp only [text, List.mem_cons] at hMember
        rcases hMember with rfl | rfl | hRest
        · exact Or.inl isCapital
        · exact Or.inr (Or.inl isSmall)
        · exact Or.inr (isRest c hRest)
    | opening small rest isSmall isRest =>
        rcases List.mem_cons.mp hMember with rfl | hRest
        · exact Or.inr (Or.inl isSmall)
        · exact Or.inr (isRest c hRest)
    | acronym capital capitals figures isCapital areCapitals
        areFigures =>
        simp only [text, List.mem_cons,
          List.mem_append] at hMember
        rcases hMember with rfl | hCapital | hFigure
        · exact Or.inl isCapital
        · exact Or.inl (areCapitals c hCapital)
        · exact Or.inr (Or.inr (areFigures c hFigure))
  rcases hKinds with hCapital | hSmall | hFigure
  · exact Or.inr (Or.inr hCapital.1)
  · exact Or.inl hSmall
  · exact Or.inr (Or.inl hFigure.1)

/- A word starts at a segment behind another one. -/
theorem isParted_text
    {before after : Segment}
    {c : Char}
    (hFollow : before.MayFollow after)
    (hLast : before.text.getLast? = some c) :
    isParted (some c) after.text = true := by
  cases after with
  | word capital small rest isCapital isSmall isRest =>
      have hSmall : isLower small = true := isSmall
      rw [text, isParted, isCapital.1, startsWord]
      rcases kind_of_mem_text (List.mem_of_getLast? hLast) with
        hKind | hKind | hKind
      · simp [hKind]
      · simp [hKind]
      · simp [hKind, hSmall]
  | opening small rest isSmall isRest => cases hFollow
  | acronym capital capitals figures isCapital areCapitals
      areFigures =>
      rw [text, isParted, isCapital.1, startsWord]
      rcases isLower_or_isNumeric_of_getLast? hFollow hLast with
        hLower | hNumeric
      · simp [hLower]
      · simp [hNumeric]

/- A segment behind another one starts with a capital. -/
theorem head?_any_isLower
    {before after : Segment}
    (hFollow : before.MayFollow after)
    (rest : List Char) :
    (after.text ++ rest).head?.any isLower = false := by
  cases after with
  | word capital small rest isCapital =>
      exact isLower_eq_false_of_isUpper isCapital.1
  | opening => cases hFollow
  | acronym capital capitals figures isCapital =>
      exact isLower_eq_false_of_isUpper isCapital.1

/-
  Segments that follow each other are turned into words one
  by one, with an underscore between two of them.
-/
theorem snakeFrom_flatMap_text
    (previous : Option Char)
    (segment : Segment)
    (rest : List Segment)
    (hOrdered : (segment :: rest).IsChain MayFollow) :
    snakeFrom previous ((segment :: rest).flatMap text) =
      separator previous segment.text ++
        ['_'].intercalate
          ((segment :: rest).map fun each =>
            lowerCase each.text) := by
  induction rest generalizing previous segment with
  | nil =>
      rw [List.map_singleton, List.intercalate_singleton,
        List.flatMap_singleton, snakeFrom_text]
  | cons next others ih =>
      rw [List.isChain_cons_cons] at hOrdered
      rcases hOrdered with ⟨hFollow, hOthers⟩
      have hNext :
          ((next :: others).flatMap text).head?.any isLower =
            false :=
        head?_any_isLower hFollow _
      cases hLast : segment.text.getLast? with
      | none =>
          exact absurd (List.getLast?_eq_none_iff.mp hLast)
            segment.text_ne_nil
      | some c =>
          have hParted := isParted_text hFollow hLast
          rw [List.flatMap_cons, snakeFrom_append hNext, hLast,
            Option.some_or, ih (some c) next hOthers,
            snakeFrom_text, separator.eq_def (some c),
            if_pos hParted, List.map_cons, List.map_cons,
            List.map_cons, List.intercalate_cons_cons]
          simp only [List.append_assoc]

/- No segment holds an underscore, nor does its lower case. -/
theorem underscore_not_mem_lowerCase (segment : Segment) :
    '_' ∉ lowerCase segment.text := by
  intro hScore
  rcases List.mem_flatMap.mp hScore with ⟨c, hMember, hForm⟩
  have hSame := eq_underscore_of_mem_lowerForm hForm
  subst hSame
  simpa using kind_of_mem_text hMember

end Segment

end ShaderBindings

------------------------------------------------------------
-- Camel-Case Names
------------------------------------------------------------

namespace ShaderBindings

open MethodName

/-
  A camel-case name: segments one behind the other, each of
  which may follow the one before it.
-/
structure CamelName where
  segments : List Segment
  nonempty : segments ≠ []
  ordered : segments.IsChain Segment.MayFollow

namespace CamelName

/- The name as it is written. -/
def text (name : CamelName) : String :=
  String.ofList (name.segments.flatMap Segment.text)

/- The segments of the name in lower case. -/
def words (name : CamelName) : List String :=
  name.segments.map Segment.lowerCased

variable {name other : CamelName}

theorem toList_words (name : CamelName) :
    name.words.map String.toList =
      name.segments.map fun segment =>
        lowerCase segment.text := by
  rw [words, List.map_map]
  apply List.map_congr_left
  intro segment _
  exact String.toList_ofList

/- Lower-case words are the segments joined by underscores. -/
theorem snakeCase_text (name : CamelName) :
    snakeCase name.text = "_".intercalate name.words := by
  rw [text]
  apply snakeCase_ofList_eq
  rw [String.toList_intercalate, toList_words]
  rcases name with ⟨segments, hNonempty, hOrdered⟩
  cases segments with
  | nil => exact absurd rfl hNonempty
  | cons segment rest =>
      rw [Segment.snakeFrom_flatMap_text none segment rest
        hOrdered, separator_none]
      rfl

/- The words can be read off the name in lower-case words. -/
theorem splitOn_snakeCase (name : CamelName) :
    (snakeCase name.text).toList.splitOn '_' =
      name.words.map String.toList := by
  rw [snakeCase_text, String.toList_intercalate]
  apply List.splitOn_intercalate
  · intro word hWord
    rw [toList_words] at hWord
    rcases List.mem_map.mp hWord with ⟨segment, _, rfl⟩
    exact segment.underscore_not_mem_lowerCase
  · simpa [words] using name.nonempty

/- Names with the same lower-case words have the same words. -/
theorem snakeCase_text_eq_iff :
    snakeCase name.text = snakeCase other.text ↔
      name.words = other.words := by
  constructor
  · intro hSame
    have hWords :
        name.words.map String.toList =
          other.words.map String.toList := by
      rw [← splitOn_snakeCase, ← splitOn_snakeCase, hSame]
    exact
      List.map_injective_iff.mpr
        (fun _ _ hWord => String.toList_injective hWord) hWords
  · intro hWords
    rw [snakeCase_text, snakeCase_text, hWords]

/-
  The lower-case words of a camel-case name are its segments
  in lower case, and two such names have one setter when
  their segments agree up to letter case.
-/
theorem snakeCase_recovers_words (name other : CamelName) :
    snakeCase name.text = "_".intercalate name.words ∧
      (uniformSetter name.text = uniformSetter other.text ↔
        name.words = other.words) ∧
      (attributeSetter name.text = attributeSetter other.text ↔
        name.words = other.words) := by
  refine ⟨name.snakeCase_text, ?_, ?_⟩
  · rw [← snakeCase_text_eq_iff, uniformSetter, uniformSetter,
      String.append_right_inj]
  · rw [← snakeCase_text_eq_iff, attributeSetter,
      attributeSetter, String.append_left_inj,
      String.append_right_inj]

/- Both names are the words `u`, `mvp2` and `matrix`. -/
example :
    uniformSetter "uMVP2Matrix" = "set_u_mvp2_matrix" ∧
      uniformSetter "UMvp2Matrix" = "set_u_mvp2_matrix" := by
  decide +kernel

end CamelName

end ShaderBindings
