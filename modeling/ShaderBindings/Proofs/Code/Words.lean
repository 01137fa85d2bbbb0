import Mathlib.Data.List.TakeWhile
import ShaderBindings.Code.RuntimePath
import ShaderBindings.Proofs.Text.Classes

/-
  The characters of words. However a word is read from a
  text, it holds no blank, no end of a line and none of the
  marks that stand alone in code. Identifiers, types and the
  segments of paths are such words.

  Key definitions include:
    * `isOfWord`
    * `IsWhole`
    * `IsUnparted`

  Key theorems include:
    * `isWhole_of_ident`
    * `isWhole_of_hostType`
    * `RuntimePath.isWhole_of_segment`
-/

------------------------------------------------------------
-- Words
------------------------------------------------------------

namespace ShaderBindings

namespace Code

open Text

/-
  Characters that words have: letters and digits, underscores,
  the hash of a word that is marked as raw, and all that is
  not ASCII.
-/
def wordSpans : Spans := [
  (0x23, 0x23), (0x30, 0x39), (0x41, 0x5A), (0x5F, 0x5F),
  (0x61, 0x7A), (0x80, 0x10FFFF)]

/- A character that a word may have. -/
def isOfWord (c : Char) : Bool :=
  wordSpans.contains c

/- A text is one word of code. -/
structure IsWhole (text : String) : Prop where
  nonempty : text ≠ ""
  chars : ∀ c ∈ text.toList, isOfWord c = true

/- Whether a text is one word can be read off. -/
theorem isWhole_of_all
    {text : String}
    (hNonempty : text ≠ "")
    (hAll : text.toList.all isOfWord = true) :
    IsWhole text where
  nonempty := hNonempty
  chars := fun c hMember => List.all_eq_true.mp hAll c hMember

/- Whether a class is one of words is decided by ASCII. -/
theorem isOfWord_of_class
    {property : Char → Bool}
    {c : Char}
    (hAscii :
      ∀ code : Fin 128,
        property (Char.ofNat code) = true →
          isOfWord (Char.ofNat code) = true)
    (hProperty : property c = true) :
    isOfWord c = true := by
  by_cases hSmall : c.toNat < 128
  · exact of_ascii hSmall hAscii hProperty
  · have hBound : c.toNat ≤ 0x10FFFF := by
      rcases c.valid with hLow | hHigh
      · exact Nat.le_of_lt (Nat.lt_trans hLow (by decide))
      · exact Nat.le_of_lt_succ hHigh.2
    simp [isOfWord, wordSpans, Spans.contains, hBound,
      Nat.le_of_not_lt hSmall]

theorem isOfWord_of_start
    {c : Char}
    (hStart : isIdentifierStart c = true) :
    isOfWord c = true :=
  isOfWord_of_class (by decide) hStart

theorem isOfWord_of_continue
    {c : Char}
    (hContinue : isIdentifierContinue c = true) :
    isOfWord c = true :=
  isOfWord_of_class (by decide) hContinue

/- A plain word starts with a character of words, too. -/
theorem isOfWord_of_plainWord?
    {text word rest : List Char}
    (hWord : plainWord? text = some (word, rest)) :
    word ≠ [] ∧ ∀ c ∈ word, isOfWord c = true := by
  unfold plainWord? at hWord
  split at hWord
  · cases hWord
  · split at hWord
    · rename_i hStart
      cases hWord
      refine ⟨List.cons_ne_nil _ _, ?_⟩
      intro c hMember
      rcases List.mem_cons.mp hMember with rfl | hRest
      · exact isOfWord_of_start hStart
      · exact isOfWord_of_continue
          (List.mem_takeWhile_imp hRest)
    · cases hWord

/- Characters of words make up a word. -/
theorem isWhole_ofList
    {word : List Char}
    (hNonempty : word ≠ [])
    (hChars : ∀ c ∈ word, isOfWord c = true) :
    IsWhole (String.ofList word) where
  nonempty := by
    intro hEmpty
    have hNil := congrArg String.toList hEmpty
    rw [String.toList_ofList] at hNil
    exact hNonempty hNil
  chars := by
    rw [String.toList_ofList]
    exact hChars

/- A word that is read is whole, marked as raw or not. -/
theorem isWhole_of_wordToken?
    {text rest : List Char}
    {word : String}
    (hWord : wordToken? text = some (word, rest)) :
    IsWhole word := by
  unfold wordToken? at hWord
  split at hWord
  · split at hWord
    · rename_i plain after hPlain
      split at hWord
      · cases hWord
      · cases hWord
        have hRest := isOfWord_of_plainWord? hPlain
        apply isWhole_ofList (List.cons_ne_nil _ _)
        intro c hMember
        rcases List.mem_cons.mp hMember with rfl | hMarked
        · decide
        · rcases List.mem_cons.mp hMarked with rfl | hPlainChar
          · decide
          · exact hRest.2 c hPlainChar
    · cases hWord
  · split at hWord
    · rename_i plain after hPlain
      cases hWord
      have hChars := isOfWord_of_plainWord? hPlain
      exact isWhole_ofList hChars.1 hChars.2
    · cases hWord

theorem isWhole_of_soleWord?
    {text word : String}
    (hWord : soleWord? text = some word) :
    IsWhole word := by
  unfold soleWord? at hWord
  dsimp only at hWord
  split at hWord
  · rename_i found rest hFound
    split at hWord
    · cases hWord
      exact isWhole_of_wordToken? hFound
    · cases hWord
  · cases hWord

/- Identifiers are whole. -/
theorem isWhole_of_ident
    {text : String}
    {name : Ident}
    (hName : Ident.ofString? text = some name) :
    IsWhole name.text := by
  unfold Ident.ofString? at hName
  split at hName
  · rename_i word hWord
    split at hName
    · cases hName
    · cases hName
      exact isWhole_of_soleWord? hWord
  · cases hName

/- Types of the host are whole. -/
theorem isWhole_of_hostType
    {text : String}
    {type : HostType}
    (hType : HostType.ofString? text = some type) :
    IsWhole type.text := by
  unfold HostType.ofString? at hType
  split at hType
  · rename_i word hWord
    split at hType
    · cases hType
      exact isWhole_of_soleWord? hWord
    · cases hType
  · cases hType

end Code

end ShaderBindings

------------------------------------------------------------
-- Unparted Texts
------------------------------------------------------------

namespace ShaderBindings

namespace Code

/- Characters that part the words of a heading. -/
def partingChars : List Char :=
  [' ', '\n', '(']

/- A text holds none of the characters that part words. -/
def IsUnparted (text : String) : Prop :=
  ∀ c ∈ text.toList, c ∉ partingChars

/- Whether a text is unparted can be read off. -/
theorem isUnparted_of_all
    {text : String}
    (hAll :
      (text.toList.all fun c => !partingChars.contains c) =
        true) :
    IsUnparted text := by
  intro c hMember
  simpa using List.all_eq_true.mp hAll c hMember

/- A word is unparted. -/
theorem IsWhole.unparted
    {text : String}
    (hWhole : IsWhole text) :
    IsUnparted text := by
  have hBreaks :
      partingChars.all (fun c => !isOfWord c) = true := by
    decide
  intro c hMember hParting
  have hNone := List.all_eq_true.mp hBreaks c hParting
  simp [hWhole.chars c hMember] at hNone

end Code

end ShaderBindings

------------------------------------------------------------
-- Segments of Paths
------------------------------------------------------------

namespace ShaderBindings

namespace Code

/- All words among tokens are whole. -/
def AllWhole (tokens : List Token) : Prop :=
  ∀ word, Token.word word ∈ tokens → IsWhole word

namespace AllWhole

theorem tail
    {token : Token}
    {rest : List Token}
    (hAll : AllWhole (token :: rest)) :
    AllWhole rest :=
  fun word hWord => hAll word (List.mem_cons_of_mem token hWord)

theorem append
    {tokens others : List Token}
    (hTokens : AllWhole tokens)
    (hOthers : AllWhole others) :
    AllWhole (tokens ++ others) := by
  intro word hWord
  rcases List.mem_append.mp hWord with hHere | hThere
  · exact hTokens word hHere
  · exact hOthers word hThere

end AllWhole

/- A token that is read is no word, or a whole one. -/
theorem allWhole_of_read?
    {text rest : List Char}
    {token : Token}
    (hToken : Token.read? text = some (token, rest)) :
    AllWhole [token] := by
  intro word hWord
  rw [List.mem_singleton] at hWord
  subst hWord
  unfold Token.read? at hToken
  split at hToken
  · cases hToken
  · split at hToken
    · cases hToken
    · split at hToken
      · cases hToken
      · split at hToken
        · rename_i found hMark
          cases hToken
          unfold Token.readMark? at hMark
          split at hMark
          · cases hMark
          · split at hMark
            · cases hMark
            · split at hMark
              · split at hMark
                · cases hMark
                · cases hMark
              · cases hMark
        · unfold Token.readWord? at hToken
          split at hToken
          · cases hToken
          · split at hToken
            · rename_i name after hName
              cases hToken
              exact isWhole_of_wordToken? hName
            · cases hToken

/- The tokens of a documentation comment hold one word. -/
theorem allWhole_ofDocumentation
    (comment : Documentation) :
    AllWhole (Token.ofDocumentation comment) := by
  intro word hWord
  have hDoc : word = "doc" := by
    unfold Token.ofDocumentation at hWord
    cases hInner : comment.inner with
    | false => simpa [hInner] using hWord
    | true => simpa [hInner] using hWord
  subst hDoc
  exact isWhole_of_all (by decide) rfl

theorem allWhole_of_readWithin?
    {fuel : Nat}
    {text : List Char}
    {tokens : List Token}
    (hTokens : Token.readWithin? fuel text = some tokens) :
    AllWhole tokens := by
  induction fuel generalizing text tokens with
  | zero =>
      unfold Token.readWithin? at hTokens
      split at hTokens
      · cases hTokens
        simp [AllWhole]
      · cases hTokens
  | succ fuel ih =>
      unfold Token.readWithin? at hTokens
      dsimp only at hTokens
      split at hTokens
      · cases hTokens
        simp [AllWhole]
      · split at hTokens
        · rename_i comment rest _
          rcases Option.map_eq_some_iff.mp hTokens with
            ⟨others, hOthers, rfl⟩
          exact (allWhole_ofDocumentation comment).append
            (ih hOthers)
        · split at hTokens
          · rename_i token rest hToken
            rcases Option.map_eq_some_iff.mp hTokens with
              ⟨others, hOthers, rfl⟩
            exact (allWhole_of_read? hToken).append
              (ih hOthers)
          · cases hTokens

theorem allWhole_of_readAll?
    {text : String}
    {tokens : List Token}
    (hTokens : Token.readAll? text = some tokens) :
    AllWhole tokens := by
  unfold Token.readAll? at hTokens
  dsimp only at hTokens
  split at hTokens
  · rename_i found hFound
    split at hTokens
    · cases hTokens
      exact allWhole_of_readWithin? hFound
    · cases hTokens
  · cases hTokens

/- A symbol takes tokens from the front. -/
theorem AllWhole.symbol
    {chars : List Char}
    {tokens rest : List Token}
    (hAll : AllWhole tokens)
    (hSymbol : Recognizer.symbol chars tokens = some rest) :
    AllWhole rest := by
  fun_induction Recognizer.symbol chars tokens with
  | case1 tokens =>
      cases hSymbol
      exact hAll
  | case2 =>
      cases hSymbol
      exact hAll.tail
  | case3 => cases hSymbol
  | case4 _ _ _ _ ih => exact ih hAll.tail hSymbol
  | case5 => cases hSymbol
  | case6 => cases hSymbol

namespace RuntimePath

/- A segment without arguments is its word alone. -/
theorem of_segment?
    {tokens rest : List Token}
    {word : String}
    (hSegment :
      segment? tokens = some ((word, false), rest)) :
    tokens = .word word :: rest := by
  unfold segment? at hSegment
  split at hSegment
  · split at hSegment
    · cases hSegment
      rfl
    · split at hSegment
      · cases hSegment
      · split at hSegment
        · rename_i generic after hArguments
          cases hSegment
          unfold genericArguments? at hArguments
          dsimp only at hArguments
          split at hArguments
          · rcases Option.map_eq_some_iff.mp hArguments with
              ⟨_, _, hNever⟩
            cases hNever
          · cases hArguments
            rfl
        · cases hSegment
  · cases hSegment

/- Segments of a path without arguments are whole. -/
theorem isWhole_of_segmentsWithin?
    {fuel : Nat}
    {tokens : List Token}
    {segments : List (String × Bool)}
    (hAll : AllWhole tokens)
    (hSegments :
      segmentsWithin? fuel tokens = some segments)
    (hPlain : segments.any Prod.snd = false) :
    ∀ segment ∈ segments, IsWhole segment.1 := by
  induction fuel generalizing tokens segments with
  | zero => cases hSegments
  | succ fuel ih =>
      unfold segmentsWithin? at hSegments
      split at hSegments
      · cases hSegments
      · rename_i segment hSegment
        cases hSegments
        rcases segment with ⟨word, generic⟩
        have hGeneric : generic = false := by
          simpa using hPlain
        subst hGeneric
        have hTokens := of_segment? hSegment
        intro other hOther
        rw [List.mem_singleton.mp hOther]
        apply hAll
        rw [hTokens]
        exact List.mem_cons_self
      · rename_i segment rest _ hSegment
        split at hSegments
        · rename_i after hSymbol
          rcases Option.map_eq_some_iff.mp hSegments with
            ⟨others, hOthers, rfl⟩
          rcases segment with ⟨word, generic⟩
          simp only [List.any_cons, Bool.or_eq_false_iff]
            at hPlain
          rcases hPlain with ⟨rfl, hOthersPlain⟩
          have hTokens := of_segment? hSegment
          rw [hTokens] at hAll
          intro other hOther
          rcases List.mem_cons.mp hOther with rfl | hThere
          · exact hAll word List.mem_cons_self
          · exact ih (hAll.tail.symbol hSymbol) hOthers
              hOthersPlain other hThere
        · cases hSegments

/- Whether tokens start at the root, and what is behind it. -/
def afterRoot (tokens : List Token) : Bool × List Token :=
  match Recognizer.symbol [':', ':'] tokens with
  | some rest => (true, rest)
  | none => (false, tokens)

/- The root of a path takes tokens from the front. -/
theorem allWhole_afterRoot
    {tokens : List Token}
    (hAll : AllWhole tokens) :
    AllWhole (afterRoot tokens).2 := by
  unfold afterRoot
  split
  · rename_i rest hSymbol
    exact hAll.symbol hSymbol
  · exact hAll

/- A path is made of the segments behind its root. -/
theorem exists_segments_of_ofString?
    {text : String}
    {path : RuntimePath}
    (hPath : ofString? text = some path) :
    ∃ tokens segments,
      Token.readAll? text = some tokens ∧
        segmentsWithin? (afterRoot tokens).2.length
            (afterRoot tokens).2 = some segments ∧
        path = {
          rooted := (afterRoot tokens).1
          segments := segments.map Prod.fst
          generic := segments.any Prod.snd } := by
  unfold ofString? at hPath
  split at hPath
  · cases hPath
  · rename_i tokens hTokens
    refine ⟨tokens, ?_⟩
    unfold afterRoot
    cases hRoot : Recognizer.symbol [':', ':'] tokens
    all_goals
      rw [hRoot] at hPath
      dsimp only at hPath ⊢
      split at hPath
      · cases hPath
      · rename_i segments hSegments
        cases hPath
        exact ⟨segments, hTokens, hSegments, rfl⟩

/- The segments of a path to import from are whole. -/
theorem isWhole_of_segment
    {text : String}
    {path : RuntimePath}
    (hPath : ofString? text = some path)
    (hImportable : path.isImportable = true) :
    ∀ segment ∈ path.segments, IsWhole segment := by
  rcases exists_segments_of_ofString? hPath with
    ⟨tokens, segments, hTokens, hSegments, rfl⟩
  simp only [isImportable, Bool.and_eq_true,
    Bool.not_eq_true'] at hImportable
  have hBody :=
    allWhole_afterRoot (allWhole_of_readAll? hTokens)
  intro segment hSegment
  rcases List.mem_map.mp hSegment with ⟨pair, hPair, rfl⟩
  exact isWhole_of_segmentsWithin? hBody hSegments
    hImportable.1 pair hPair

/- A path has a segment. -/
theorem segmentsWithin?_ne_nil
    {fuel : Nat}
    {tokens : List Token} :
    segmentsWithin? fuel tokens ≠ some [] := by
  intro hSegments
  cases fuel with
  | zero => cases hSegments
  | succ fuel =>
      unfold segmentsWithin? at hSegments
      split at hSegments
      · cases hSegments
      · cases hSegments
      · split at hSegments
        · rcases Option.map_eq_some_iff.mp hSegments with
            ⟨_, _, hNever⟩
          cases hNever
        · cases hSegments

/- A path to import from has segments without arguments. -/
theorem plain_of_isImportable
    {text : String}
    {path : RuntimePath}
    (hPath : ofString? text = some path)
    (hImportable : path.isImportable = true) :
    path.segments ≠ [] ∧ path.generic = false := by
  rcases exists_segments_of_ofString? hPath with
    ⟨tokens, segments, _, hSegments, rfl⟩
  simp only [isImportable, Bool.and_eq_true,
    Bool.not_eq_true'] at hImportable
  refine ⟨?_, hImportable.1⟩
  intro hNone
  rw [List.map_eq_nil_iff.mp hNone] at hSegments
  exact segmentsWithin?_ne_nil hSegments

end RuntimePath

end Code

end ShaderBindings
