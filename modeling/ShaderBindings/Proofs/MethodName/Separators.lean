import Mathlib.Data.List.Chain
import ShaderBindings.MethodName
import ShaderBindings.Proofs.Text.LetterCase

/-
  The underscores of lower-case words. A name in lower-case
  words is the name in lower case, cut into parts that are
  joined by single underscores. No cut is next to another
  underscore, so the underscores at the ends of the words and
  the doubled ones are those of the name.

  Key definitions include:
    * `MethodName.lowerCase`
    * `MethodName.isParted`
    * `MethodName.IsSeparated`
    * `MethodName.OnlySeparates`

  Key theorems include:
    * `MethodName.snakeFrom_cons`
    * `MethodName.snakeFrom_append`
    * `MethodName.exists_isSeparated`
    * `MethodName.exists_split_of_snakeFrom`
    * `MethodName.snakeCase_only_separates`
-/

------------------------------------------------------------
-- One Character after the Other
------------------------------------------------------------

namespace ShaderBindings

namespace MethodName

open Text

/- A character, in lower case if it is upper case. -/
def lowerForm (c : Char) : List Char :=
  if isUpper c then lowered c else [c]

/- A text with all its upper-case characters in lower case. -/
def lowerCase (text : List Char) : List Char :=
  text.flatMap lowerForm

/- A text behind a character starts a new word. -/
def isParted
    (previous : Option Char) : List Char → Bool
| [] => false
| c :: rest => isUpper c && startsWord previous rest.head?

/- What is put between a character and the text behind it. -/
def separator
    (previous : Option Char)
    (text : List Char) : List Char :=
  if isParted previous text then ['_'] else []

variable {previous : Option Char}
variable {c : Char}
variable {text first rest : List Char}

theorem lowerForm_of_not_upper
    (hLower : isUpper c = false) :
    lowerForm c = [c] := by
  simp [lowerForm, hLower]

theorem lowerForm_ne_nil (c : Char) : lowerForm c ≠ [] := by
  unfold lowerForm
  split
  · exact lowered_ne_nil c
  · simp

/- Lower case makes no underscore. -/
theorem eq_underscore_of_mem_lowerForm
    (hScore : '_' ∈ lowerForm c) :
    c = '_' := by
  by_contra hOther
  unfold lowerForm at hScore
  split at hScore
  · exact underscore_not_mem_lowered hOther hScore
  · exact hOther (List.mem_singleton.mp hScore).symm

theorem lowerForm_underscore : lowerForm '_' = ['_'] :=
  lowerForm_of_not_upper isUpper_underscore

/- Nothing is put in front of a name. -/
theorem separator_none (text : List Char) :
    separator none text = [] := by
  cases text with
  | nil => rfl
  | cons c rest => simp [separator, isParted, startsWord]

/- The letters of ASCII have the lower case of ASCII. -/
theorem lowerForm_of_ascii
    (hSmall : c.toNat < 128) :
    lowerForm c = [c.toLower] := by
  exact of_ascii hSmall (by decide)

/- Each character comes with the separator in front of it. -/
theorem snakeFrom_cons
    (previous : Option Char)
    (c : Char)
    (rest : List Char) :
    snakeFrom previous (c :: rest) =
      separator previous (c :: rest) ++
        (lowerForm c ++ snakeFrom (some c) rest) := by
  rw [snakeFrom, separator, isParted, lowerForm]
  by_cases hUpper : isUpper c = true
  · simp [hUpper]
  · simp [hUpper]

theorem snakeFrom_eq_nil_iff :
    snakeFrom previous text = [] ↔ text = [] := by
  cases text with
  | nil => simp [snakeFrom]
  | cons c rest =>
      rw [snakeFrom_cons]
      simp [lowerForm_ne_nil]

/- A text without upper case stays as it is. -/
theorem snakeFrom_of_not_upper
    (hLower : ∀ c ∈ text, isUpper c = false) :
    snakeFrom previous text = text := by
  induction text generalizing previous with
  | nil => rfl
  | cons c rest ih =>
      have hFirst := hLower c List.mem_cons_self
      have hRest : snakeFrom (some c) rest = rest :=
        ih fun d hMember =>
          hLower d (List.mem_cons_of_mem c hMember)
      rw [snakeFrom_cons, hRest,
        lowerForm_of_not_upper hFirst]
      simp [separator, isParted, hFirst]

/- Whether a word starts hangs on lower case behind it only. -/
theorem startsWord_congr
    {next other : Option Char}
    (hSame : next.any isLower = other.any isLower) :
    startsWord previous next = startsWord previous other := by
  cases previous with
  | none => rfl
  | some p => rw [startsWord, startsWord, hSame]

/- A text that starts without lower case decides nothing. -/
theorem separator_append
    (hNext : rest.head?.any isLower = false)
    (c : Char)
    (first : List Char) :
    separator previous (c :: (first ++ rest)) =
      separator previous (c :: first) := by
  have hSame :
      startsWord previous (first ++ rest).head? =
        startsWord previous first.head? := by
    apply startsWord_congr
    cases first with
    | nil => rw [List.nil_append, hNext]; rfl
    | cons d others => rfl
  rw [separator, separator, isParted, isParted, hSame]

/- The last character of a text, or the one in front of it. -/
theorem getLast?_cons_or
    (c : Char)
    (text : List Char)
    (previous : Option Char) :
    (c :: text).getLast?.or previous =
      text.getLast?.or (some c) := by
  rw [List.getLast?_cons]
  cases text.getLast? with
  | none => rfl
  | some d => rfl

/-
  Two texts are turned into words one after the other, if the
  second one does not start with lower case.
-/
theorem snakeFrom_append
    (hNext : rest.head?.any isLower = false)
    (previous : Option Char)
    (first : List Char) :
    snakeFrom previous (first ++ rest) =
      snakeFrom previous first ++
        snakeFrom (first.getLast?.or previous) rest := by
  induction first generalizing previous with
  | nil => rfl
  | cons c others ih =>
      rw [List.cons_append, snakeFrom_cons, snakeFrom_cons,
        separator_append hNext, ih, getLast?_cons_or]
      simp only [List.append_assoc]

end MethodName

end ShaderBindings

------------------------------------------------------------
-- Parts
------------------------------------------------------------

namespace ShaderBindings

namespace MethodName

open Text

/- A cut between two parts that touches no underscore. -/
def IsSeam (part next : List Char) : Prop :=
  part.getLast? ≠ some '_' ∧ next.head? ≠ some '_'

/-
  A text cut into parts that are not empty, and the same text
  with one underscore in every cut, which is neither next to
  another underscore nor at an end.
-/
structure IsSeparated
    (text separated : List Char)
    (parts : List (List Char)) : Prop where
  flatten_eq : parts.flatten = text
  intercalate_eq : ['_'].intercalate parts = separated
  nonempty : ∀ part ∈ parts, part ≠ []
  seams : parts.IsChain IsSeam

variable {previous : Option Char}
variable {c p : Char}
variable {text rest part : List Char}
variable {parts : List (List Char)}

/- No word starts at an underscore, nor right behind one. -/
theorem ne_underscore_of_isParted
    (hParted : isParted (some p) (c :: rest) = true) :
    p ≠ '_' ∧ c ≠ '_' := by
  rw [isParted, Bool.and_eq_true] at hParted
  constructor
  · rintro rfl
    simp [startsWord] at hParted
  · rintro rfl
    simp at hParted

theorem isSeam_of_isParted
    (hParted : isParted (some p) (c :: rest) = true)
    (hHead : part.head? = (lowerForm c).head?) :
    IsSeam (lowerForm p) part := by
  rcases ne_underscore_of_isParted hParted with
    ⟨hLeft, hRight⟩
  constructor
  · intro hLast
    exact hLeft
      (eq_underscore_of_mem_lowerForm
        (List.mem_of_getLast? hLast))
  · rw [hHead]
    intro hFirst
    exact hRight
      (eq_underscore_of_mem_lowerForm
        (List.mem_of_head? hFirst))

/-
  A text in front of a separated one belongs to its first
  part.
-/
theorem IsSeparated.append_text
    {separated : List Char}
    (hParts : IsSeparated text separated (part :: parts))
    (before : List Char) :
    IsSeparated (before ++ text) (before ++ separated)
      ((before ++ part) :: parts) where
  flatten_eq := by
    rw [← hParts.flatten_eq, List.flatten_cons,
      List.flatten_cons, List.append_assoc]
  intercalate_eq := by
    rw [← hParts.intercalate_eq]
    cases parts with
    | nil =>
        rw [List.intercalate_singleton,
          List.intercalate_singleton]
    | cons next others =>
        rw [List.intercalate_cons_cons,
          List.intercalate_cons_cons]
        simp only [List.append_assoc]
  nonempty := by
    have hPart := hParts.nonempty part List.mem_cons_self
    have hOthers : ∀ other ∈ parts, other ≠ [] :=
      fun other hMember =>
        hParts.nonempty other
          (List.mem_cons_of_mem part hMember)
    simpa [hPart] using hOthers
  seams := by
    have hPart := hParts.nonempty part List.mem_cons_self
    have hSeams := hParts.seams
    cases parts with
    | nil => exact List.IsChain.singleton _
    | cons next others =>
        rw [List.isChain_cons_cons] at hSeams ⊢
        refine ⟨⟨?_, hSeams.1.2⟩, hSeams.2⟩
        rw [List.getLast?_append_of_ne_nil _ hPart]
        exact hSeams.1.1

/-
  A text that is not empty becomes parts that are joined by
  underscores, behind the separator in front of all of them.
  The first part starts like the lower-case text.
-/
theorem exists_isSeparated
    (previous : Option Char)
    (c : Char)
    (rest : List Char) :
    ∃ part parts separated,
      snakeFrom previous (c :: rest) =
          separator previous (c :: rest) ++ separated ∧
        IsSeparated (lowerCase (c :: rest)) separated
          (part :: parts) ∧
        part.head? = (lowerForm c).head? := by
  induction rest generalizing previous c with
  | nil =>
      refine ⟨lowerForm c, [], lowerForm c, ?_, ?_, rfl⟩
      · rw [snakeFrom_cons, snakeFrom, List.append_nil]
      · exact {
          flatten_eq := by simp [lowerCase]
          intercalate_eq := List.intercalate_singleton
          nonempty := by simp [lowerForm_ne_nil]
          seams := List.IsChain.singleton _ }
  | cons d others ih =>
      rcases ih (some c) d with
        ⟨part, parts, separated, hWords, hParts, hHead⟩
      have hPart : part ≠ [] :=
        hParts.nonempty part List.mem_cons_self
      by_cases hParted : isParted (some c) (d :: others) = true
      · refine
          ⟨lowerForm c, part :: parts,
            lowerForm c ++ ['_'] ++ separated, ?_, ?_, rfl⟩
        · rw [snakeFrom_cons, hWords,
            separator.eq_def (some c), if_pos hParted]
          simp only [List.append_assoc]
        · exact {
            flatten_eq := by
              rw [List.flatten_cons, hParts.flatten_eq]
              rfl
            intercalate_eq := by
              rw [List.intercalate_cons_cons,
                hParts.intercalate_eq]
            nonempty := by
              simpa [lowerForm_ne_nil] using hParts.nonempty
            seams :=
              List.IsChain.cons_cons
                (isSeam_of_isParted hParted hHead)
                hParts.seams }
      · refine
          ⟨lowerForm c ++ part, parts,
            lowerForm c ++ separated, ?_, ?_, ?_⟩
        · rw [snakeFrom_cons, hWords,
            separator.eq_def (some c), if_neg hParted,
            List.nil_append]
        · exact hParts.append_text (lowerForm c)
        · exact
            List.head?_append_of_ne_nil _ (lowerForm_ne_nil c)

end MethodName

end ShaderBindings

------------------------------------------------------------
-- Underscores of the Name
------------------------------------------------------------

namespace ShaderBindings

namespace MethodName

open Text

variable {previous : Option Char}
variable {c d : Char}
variable {text before behind first rest tail : List Char}

/-
  An underscore in a character and what follows it is the
  character itself, or it stands behind the character.
-/
theorem lowerForm_append_cases
    (hWords : lowerForm c ++ tail = before ++ '_' :: behind) :
    (c = '_' ∧ before = [] ∧ behind = tail) ∨
      ∃ more,
        before = lowerForm c ++ more ∧
          tail = more ++ '_' :: behind := by
  rcases List.append_eq_append_iff.mp hWords with
    hBehind | ⟨more, hForm, hTail⟩
  · exact Or.inr hBehind
  · cases more with
    | nil =>
        right
        refine ⟨[], ?_, hTail.symm⟩
        rw [hForm, List.append_nil, List.append_nil]
    | cons d others =>
        cases hTail
        have hScore : c = '_' := by
          apply eq_underscore_of_mem_lowerForm
          rw [hForm]
          simp
        subst hScore
        rw [lowerForm_underscore] at hForm
        cases before with
        | nil =>
            cases hForm
            exact Or.inl ⟨rfl, rfl, rfl⟩
        | cons e es => simp at hForm

/- The same for a separator and what follows it. -/
theorem separator_append_cases
    (hWords :
      separator previous text ++ tail =
        before ++ '_' :: behind) :
    (isParted previous text = true ∧ before = [] ∧
        behind = tail) ∨
      ∃ more,
        before = separator previous text ++ more ∧
          tail = more ++ '_' :: behind := by
  unfold separator at hWords ⊢
  by_cases hParted : isParted previous text = true
  · rw [if_pos hParted] at hWords ⊢
    cases before with
    | nil =>
        cases hWords
        exact Or.inl ⟨hParted, rfl, rfl⟩
    | cons e es =>
        cases hWords
        exact Or.inr ⟨es, rfl, rfl⟩
  · rw [if_neg hParted] at hWords ⊢
    exact Or.inr ⟨before, rfl, hWords⟩

/- A character is turned into words in front of a cut. -/
theorem snakeFrom_cons_cut
    (hCut : isLower d = false)
    (c : Char)
    (first rest : List Char) :
    separator previous (c :: (first ++ d :: rest)) ++
        (lowerForm c ++ snakeFrom (some c) first) =
      snakeFrom previous (c :: first) := by
  have hNext : (d :: rest).head?.any isLower = false := by
    simpa using hCut
  rw [separator_append hNext, snakeFrom_cons]

/-
  Where an underscore stands in lower-case words. Either it
  is one of the text, and what stands around it are the words
  around it in the text, or a word starts right behind it.
-/
theorem exists_split_of_snakeFrom
    (hWords :
      snakeFrom previous text = before ++ '_' :: behind) :
    (∃ first rest,
      text = first ++ '_' :: rest ∧
        before = snakeFrom previous first ∧
        behind = snakeFrom (some '_') rest) ∨
      ∃ first c rest,
        text = first ++ c :: rest ∧
          isParted (first.getLast?.or previous) (c :: rest) =
            true ∧
          before = snakeFrom previous first ∧
          behind = lowerForm c ++ snakeFrom (some c) rest := by
  induction text generalizing previous before with
  | nil => simp [snakeFrom] at hWords
  | cons c rest ih =>
      rw [snakeFrom_cons] at hWords
      rcases separator_append_cases hWords with
        ⟨hParted, rfl, rfl⟩ | ⟨within, rfl, hWithin⟩
      · exact Or.inr ⟨[], c, rest, rfl, hParted, rfl, rfl⟩
      rcases lowerForm_append_cases hWithin with
        ⟨rfl, rfl, rfl⟩ | ⟨more, rfl, hMore⟩
      · refine Or.inl ⟨[], rest, rfl, ?_, rfl⟩
        simp [separator, isParted, snakeFrom]
      rcases ih hMore with
        ⟨first, others, rfl, rfl, rfl⟩ |
        ⟨first, d, others, rfl, hParted, rfl, rfl⟩
      · refine Or.inl ⟨c :: first, others, rfl, ?_, rfl⟩
        exact snakeFrom_cons_cut isLower_underscore c first
          others
      · have hUpper : isUpper d = true := by
          rw [isParted, Bool.and_eq_true] at hParted
          exact hParted.1
        refine
          Or.inr ⟨c :: first, d, others, rfl, ?_, ?_, rfl⟩
        · rw [getLast?_cons_or]
          exact hParted
        · exact snakeFrom_cons_cut
            (isLower_eq_false_of_isUpper hUpper) c first others

/- Words behind an underscore are those of a new text. -/
theorem snakeFrom_underscore (text : List Char) :
    snakeFrom (some '_') text = snakeFrom none text := by
  cases text with
  | nil => rfl
  | cons c rest =>
      have hWhole : isParted (some '_') (c :: rest) ≠ true := by
        intro hParted
        exact (ne_underscore_of_isParted hParted).1 rfl
      rw [snakeFrom_cons, snakeFrom_cons, separator_none,
        separator, if_neg hWhole]

/- Underscores stay, with the words around them. -/
theorem snakeFrom_append_underscore
    (previous : Option Char)
    (first rest : List Char) :
    snakeFrom previous (first ++ '_' :: rest) =
      snakeFrom previous first ++ '_' :: snakeFrom none rest := by
  have hNext : ('_' :: rest).head?.any isLower = false := by
    simp
  rw [snakeFrom_append hNext, snakeFrom_cons,
    lowerForm_underscore, snakeFrom_underscore]
  simp [separator, isParted]

/- Words start with an underscore where the text does. -/
theorem snakeFrom_eq_underscore_cons_iff :
    snakeFrom none text = '_' :: behind ↔
      ∃ rest,
        text = '_' :: rest ∧ snakeFrom none rest = behind := by
  constructor
  · intro hWords
    have hScore :
        snakeFrom none text = [] ++ '_' :: behind :=
      hWords
    rcases exists_split_of_snakeFrom hScore with
      ⟨first, rest, rfl, hFirst, rfl⟩ |
      ⟨first, c, rest, rfl, hParted, hFirst, _⟩
    · rw [snakeFrom_eq_nil_iff.mp hFirst.symm]
      exact ⟨rest, rfl, (snakeFrom_underscore rest).symm⟩
    · rw [snakeFrom_eq_nil_iff.mp hFirst.symm] at hParted
      simp [isParted, startsWord] at hParted
  · rintro ⟨rest, rfl, rfl⟩
    exact snakeFrom_append_underscore none [] rest

/- Words end with an underscore where the text does. -/
theorem snakeFrom_eq_append_underscore_iff :
    snakeFrom none text = before ++ ['_'] ↔
      ∃ first,
        text = first ++ ['_'] ∧
          snakeFrom none first = before := by
  constructor
  · intro hWords
    rcases exists_split_of_snakeFrom hWords with
      ⟨first, rest, rfl, rfl, hRest⟩ |
      ⟨_, c, _, _, _, _, hBehind⟩
    · rw [snakeFrom_eq_nil_iff.mp hRest.symm]
      exact ⟨first, rfl, rfl⟩
    · simp [lowerForm_ne_nil] at hBehind
  · rintro ⟨first, rfl, rfl⟩
    exact snakeFrom_append_underscore none first []

/- Words hold two underscores in a row where the text does. -/
theorem snakeFrom_eq_append_underscores_iff :
    snakeFrom none text = before ++ '_' :: '_' :: behind ↔
      ∃ first rest,
        text = first ++ '_' :: '_' :: rest ∧
          snakeFrom none first = before ∧
          snakeFrom none rest = behind := by
  constructor
  · intro hWords
    rcases exists_split_of_snakeFrom hWords with
      ⟨first, rest, rfl, rfl, hRest⟩ |
      ⟨first, c, rest, _, hParted, _, hBehind⟩
    · rw [snakeFrom_underscore] at hRest
      rcases snakeFrom_eq_underscore_cons_iff.mp hRest.symm with
        ⟨others, rfl, rfl⟩
      exact ⟨first, others, rfl, rfl, rfl⟩
    · exfalso
      have hHead := congrArg List.head? hBehind
      rw [List.head?_append_of_ne_nil _ (lowerForm_ne_nil c)]
        at hHead
      have hScore : c = '_' :=
        eq_underscore_of_mem_lowerForm
          (List.mem_of_head? hHead.symm)
      subst hScore
      simp [isParted] at hParted
  · rintro ⟨first, rest, rfl, rfl, rfl⟩
    rw [snakeFrom_append_underscore]
    congr 2
    exact snakeFrom_append_underscore none [] rest

end MethodName

end ShaderBindings

------------------------------------------------------------
-- Names in Lower-Case Words
------------------------------------------------------------

namespace ShaderBindings

namespace MethodName

open Text

variable {previous : Option Char}
variable {text : List Char}

/- The words of a text of ASCII hold no upper case. -/
theorem isUpper_of_mem_snakeFrom
    (hSmall : ∀ c ∈ text, c.toNat < 128)
    {d : Char}
    (hMember : d ∈ snakeFrom previous text) :
    isUpper d = false := by
  induction text generalizing previous with
  | nil => cases hMember
  | cons c rest ih =>
      rw [snakeFrom_cons, List.mem_append,
        List.mem_append] at hMember
      rcases hMember with hScore | hForm | hRest
      · unfold separator at hScore
        split at hScore
        · rw [List.mem_singleton.mp hScore]
          exact isUpper_underscore
        · cases hScore
      · have hFirst := hSmall c List.mem_cons_self
        rw [lowerForm_of_ascii hFirst,
          List.mem_singleton] at hForm
        subst hForm
        exact isUpper_toLower hFirst
      · exact ih
          (fun e hTail =>
            hSmall e (List.mem_cons_of_mem c hTail)) hRest

/- The words of a name, character by character. -/
theorem snakeCase_eq_iff
    {name words : String} :
    snakeCase name = words ↔
      snakeFrom none name.toList = words.toList := by
  rw [← String.toList_inj, snakeCase, String.toList_ofList]

theorem snakeCase_ofList_eq
    {words : String}
    (hWords : snakeFrom none text = words.toList) :
    snakeCase (String.ofList text) = words := by
  rw [snakeCase_eq_iff, String.toList_ofList]
  exact hWords

/-
  What lower-case words are for a name:
    * the name in lower case, cut into parts, with a single
      underscore in every cut, next to no other underscore
      and at no end,
    * they start with an underscore, end with one and hold
      two in a row just where the name does, around which
      the name is turned into words piece by piece,
    * a name of ASCII has no upper case left and stays as it
      is when it is turned into words once more.
-/
structure OnlySeparates (name : String) : Prop where
  separated :
    ∃ parts,
      IsSeparated (lowerCase name.toList)
        (snakeCase name).toList parts
  leading :
    ∀ behind,
      snakeCase name = "_" ++ behind ↔
        ∃ rest, name = "_" ++ rest ∧ snakeCase rest = behind
  trailing :
    ∀ before,
      snakeCase name = before ++ "_" ↔
        ∃ first,
          name = first ++ "_" ∧ snakeCase first = before
  doubled :
    ∀ before behind,
      snakeCase name = before ++ "__" ++ behind ↔
        ∃ first rest,
          name = first ++ "__" ++ rest ∧
            snakeCase first = before ∧
            snakeCase rest = behind
  ascii :
    (∀ c ∈ name.toList, c.toNat < 128) →
      (∀ c ∈ (snakeCase name).toList, isUpper c = false) ∧
        snakeCase (snakeCase name) = snakeCase name

/- Lower-case words only put separators into a name. -/
theorem snakeCase_only_separates (name : String) :
    OnlySeparates name where
  separated := by
    unfold snakeCase
    rw [String.toList_ofList]
    cases name.toList with
    | nil =>
        exact ⟨[], {
          flatten_eq := rfl
          intercalate_eq := List.intercalate_nil
          nonempty := by simp
          seams := List.IsChain.nil }⟩
    | cons c rest =>
        rcases exists_isSeparated none c rest with
          ⟨part, parts, separated, hWords, hParts, _⟩
        refine ⟨part :: parts, ?_⟩
        rw [hWords, separator_none]
        exact hParts
  leading := by
    intro behind
    rw [snakeCase_eq_iff, String.toList_append]
    constructor
    · intro hWords
      rcases snakeFrom_eq_underscore_cons_iff.mp hWords with
        ⟨rest, hName, hRest⟩
      refine
        ⟨String.ofList rest, ?_, snakeCase_ofList_eq hRest⟩
      apply String.toList_injective
      simp [hName]
    · rintro ⟨rest, rfl, rfl⟩
      apply snakeFrom_eq_underscore_cons_iff.mpr
      exact
        ⟨rest.toList, String.toList_append,
          snakeCase_eq_iff.mp rfl⟩
  trailing := by
    intro before
    rw [snakeCase_eq_iff, String.toList_append]
    constructor
    · intro hWords
      rcases snakeFrom_eq_append_underscore_iff.mp hWords with
        ⟨first, hName, hFirst⟩
      refine
        ⟨String.ofList first, ?_, snakeCase_ofList_eq hFirst⟩
      apply String.toList_injective
      simp [hName]
    · rintro ⟨first, rfl, rfl⟩
      apply snakeFrom_eq_append_underscore_iff.mpr
      exact
        ⟨first.toList, String.toList_append,
          snakeCase_eq_iff.mp rfl⟩
  doubled := by
    intro before behind
    rw [snakeCase_eq_iff, String.toList_append,
      String.toList_append, List.append_assoc]
    constructor
    · intro hWords
      rcases snakeFrom_eq_append_underscores_iff.mp hWords with
        ⟨first, rest, hName, hFirst, hRest⟩
      refine
        ⟨String.ofList first, String.ofList rest, ?_,
          snakeCase_ofList_eq hFirst,
          snakeCase_ofList_eq hRest⟩
      apply String.toList_injective
      simp [hName]
    · rintro ⟨first, rest, rfl, rfl, rfl⟩
      apply snakeFrom_eq_append_underscores_iff.mpr
      refine
        ⟨first.toList, rest.toList, ?_, snakeCase_eq_iff.mp rfl,
          snakeCase_eq_iff.mp rfl⟩
      rw [String.toList_append, String.toList_append,
        List.append_assoc]
      rfl
  ascii := by
    intro hSmall
    have hLower :
        ∀ c ∈ (snakeCase name).toList, isUpper c = false := by
      intro c hMember
      rw [snakeCase, String.toList_ofList] at hMember
      exact isUpper_of_mem_snakeFrom hSmall hMember
    refine ⟨hLower, ?_⟩
    rw [snakeCase, snakeFrom_of_not_upper hLower,
      String.ofList_toList]

/- A run of capitals and a digit between kept underscores. -/
example :
    snakeCase "__uMVPMatrix2D_" = "__u_mvp_matrix2_d_" := by
  decide +kernel

end MethodName

end ShaderBindings
