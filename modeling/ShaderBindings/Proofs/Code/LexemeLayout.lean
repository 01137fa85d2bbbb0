import ShaderBindings.Proofs.Code.Layout
import ShaderBindings.Proofs.Code.Lexemes

/-
  The lexemes of documents. A document may be broken over
  lines in many ways, but only between lexemes, and a comma
  that it gets for that stands in front of a closing bracket.
  So what is read of a document does not depend on the page.

  Key definitions include:
    * `Lexed`
    * `Document.Reads`
    * `Line.Reads`

  Key theorems include:
    * `Document.Reads.append`
    * `Document.Reads.fixed`
    * `Document.Reads.word`
    * `Document.Reads.literal`
    * `Line.Reads.flatMap`
    * `Line.Reads.block`
-/

------------------------------------------------------------
-- Between Lexemes
------------------------------------------------------------

namespace ShaderBindings

namespace Code

/-
  What is known of code that has been read, beside lexemes
  that it has.
-/
abbrev Lexed :=
  List Lexeme → Lexing → Prop

/- The lexemes are complete, and nothing is pending. -/
def Complete : Lexed :=
  fun known lexing => lexing = ⟨known, .nothing⟩

/- The lexemes are complete once a last word is. -/
def Ended : Lexed :=
  fun known lexing =>
    Complete known lexing ∨
      ∃ front chars,
        known = front ++ [.word chars] ∧
          lexing = ⟨front, .word chars⟩

/- The lexemes are complete once a last comma is. -/
def Ready : Lexed :=
  fun known lexing =>
    Complete known lexing ∨
      ∃ front,
        known = front ++ [.mark ','] ∧
          lexing = ⟨front, .comma⟩

/- A closing bracket is due, with or without a comma. -/
def Due : Lexed :=
  fun known lexing =>
    Ended known lexing ∨ lexing = ⟨known, .comma⟩

/- What is known does not change with a space. -/
def Lexed.IsCalm (lexed : Lexed) : Prop :=
  ∀ known lexing c,
    isSpace c = true →
      lexed known lexing → lexed known (lexing.step c)

/- A character is read as the first one of its lexeme. -/
def Lexed.Admits (lexed : Lexed) (c : Char) : Prop :=
  ∀ known lexing,
    lexed known lexing →
      lexing.step c = Lexing.first known c

/- Lexemes in front of what is read are known as well. -/
def Lexed.IsRelative (lexed : Lexed) : Prop :=
  ∀ before known lexing,
    lexed known lexing →
      lexed (before ++ known) (lexing.behind before)

namespace Lexing

theorem first_space
    {c : Char}
    (done : List Lexeme)
    (hSpace : isSpace c = true) :
    first done c = ⟨done, .nothing⟩ :=
  if_pos hSpace

/- A space ends a word. -/
theorem complete_step_of_ended
    {known : List Lexeme}
    {lexing : Lexing}
    {c : Char}
    (hSpace : isSpace c = true)
    (hEnded : Ended known lexing) :
    Complete known (lexing.step c) := by
  rcases hEnded with rfl | ⟨front, chars, rfl, rfl⟩
  · exact first_space known hSpace
  · have hOther : isOfWord c = false := by
      rw [← Bool.not_eq_true]
      intro hOfWord
      rw [not_isSpace_of_isOfWord hOfWord] at hSpace
      cases hSpace
    simp only [step, hOther]
    exact first_space _ hSpace

end Lexing

namespace Complete

theorem isCalm : Lexed.IsCalm Complete :=
  fun _ _ _ hSpace hComplete =>
    Lexing.complete_step_of_ended hSpace (Or.inl hComplete)

theorem admits (c : Char) : Lexed.Admits Complete c := by
  rintro known lexing rfl
  rfl

theorem isRelative : Lexed.IsRelative Complete := by
  rintro before known lexing rfl
  rfl

end Complete

namespace Ended

theorem isCalm : Lexed.IsCalm Ended :=
  fun _ _ _ hSpace hEnded =>
    Or.inl (Lexing.complete_step_of_ended hSpace hEnded)

/- What is no character of a word ends a word. -/
theorem admits
    {c : Char}
    (hOther : isOfWord c = false) :
    Lexed.Admits Ended c := by
  rintro known lexing (rfl | ⟨front, chars, rfl, rfl⟩)
  · rfl
  · simp [Lexing.step, hOther]

theorem isRelative : Lexed.IsRelative Ended := by
  rintro before known lexing (rfl | ⟨front, chars, rfl, rfl⟩)
  · exact Or.inl rfl
  · exact Or.inr ⟨before ++ front, chars, by simp, rfl⟩

end Ended

namespace Ready

theorem isCalm : Lexed.IsCalm Ready := by
  rintro known lexing c hSpace (hComplete | ⟨front, rfl, rfl⟩)
  · exact Or.inl (Complete.isCalm known lexing c hSpace hComplete)
  · exact Or.inr ⟨front, rfl, if_pos hSpace⟩

/- A comma stays in front of what closes nothing. -/
theorem admits
    {c : Char}
    (hSpace : isSpace c = false)
    (hCloses : closes c = false) :
    Lexed.Admits Ready c := by
  rintro known lexing (rfl | ⟨front, rfl, rfl⟩)
  · rfl
  · simp [Lexing.step, hSpace, hCloses]

theorem isRelative : Lexed.IsRelative Ready := by
  rintro before known lexing (rfl | ⟨front, rfl, rfl⟩)
  · exact Or.inl rfl
  · exact Or.inr ⟨before ++ front, by simp, rfl⟩

end Ready

namespace Due

theorem isCalm : Lexed.IsCalm Due := by
  rintro known lexing c hSpace (hEnded | rfl)
  · exact Or.inl (Ended.isCalm known lexing c hSpace hEnded)
  · exact Or.inr (if_pos hSpace)

/- A comma is left out in front of what closes. -/
theorem admits
    {c : Char}
    (hOther : isOfWord c = false)
    (hSpace : isSpace c = false)
    (hCloses : closes c = true) :
    Lexed.Admits Due c := by
  rintro known lexing (hEnded | rfl)
  · exact Ended.admits hOther known lexing hEnded
  · simp [Lexing.step, hSpace, hCloses]

theorem isRelative : Lexed.IsRelative Due := by
  rintro before known lexing (hEnded | rfl)
  · exact Or.inl (Ended.isRelative before known lexing hEnded)
  · exact Or.inr rfl

end Due

namespace Lexed.IsCalm

variable {lexed : Lexed}

/- What is known does not change with a row of spaces. -/
theorem read
    (hCalm : lexed.IsCalm)
    {known : List Lexeme}
    {lexing : Lexing}
    {spaces : List Char}
    (hSpaces : ∀ c ∈ spaces, isSpace c = true)
    (hLexed : lexed known lexing) :
    lexed known (lexing.read spaces) := by
  induction spaces generalizing lexing with
  | nil => exact hLexed
  | cons c rest ih =>
      rcases List.forall_mem_cons.mp hSpaces with
        ⟨hSpace, hRest⟩
      rw [Lexing.read_cons]
      apply ih hRest
      exact hCalm known lexing c hSpace hLexed

theorem blanks
    (hCalm : lexed.IsCalm)
    {known : List Lexeme}
    {lexing : Lexing}
    (column : Int)
    (hLexed : lexed known lexing) :
    lexed known (lexing.read (Page.blanks column).toList) := by
  apply hCalm.read ?_ hLexed
  intro c hMember
  rw [Page.blanks, String.toList_ofList] at hMember
  rw [List.eq_of_mem_replicate hMember]
  rfl

end Lexed.IsCalm

end Code

end ShaderBindings

------------------------------------------------------------
-- Documents
------------------------------------------------------------

namespace ShaderBindings

namespace Code

namespace Document

/-
  Wherever a document is laid out, and whatever has been read
  in front of it, these lexemes are read of it.
-/
def Reads
    (before after : Lexed)
    (added : List Lexeme)
    (document : Document) : Prop :=
  ∀ start : Lexing,
    document.Leads
      (fun known text => before known (start.read text))
      (fun known text =>
        after (known ++ added) (start.read text))

namespace Reads

variable {before between after : Lexed}
variable {added more : List Lexeme}
variable {first second body : Document}

/- One document is read behind another. -/
theorem append
    (hFirst : first.Reads before between added)
    (hSecond : second.Reads between after more) :
    (first ++ second).Reads before after (added ++ more) := by
  intro start
  refine Leads.append (hFirst start) ?_
  intro known page rest broken column written hBetween
  rw [← List.append_assoc]
  exact hSecond start (known ++ added) page rest broken column
    written hBetween

/- A box is read like what it holds. -/
theorem box
    (steps : Int)
    (limit : Option Nat)
    (hBody : body.Reads before after added) :
    (Document.box steps limit body).Reads before after
      added :=
  fun start => (hBody start).box

/- Less may be asked for, and more may be given. -/
theorem imp
    {before' after' : Lexed}
    (hBefore :
      ∀ known lexing,
        before' known lexing → before known lexing)
    (hAfter :
      ∀ known lexing, after known lexing → after' known lexing)
    (hBody : body.Reads before after added) :
    body.Reads before' after' added :=
  fun start known page rest broken column written hText =>
    hAfter _ _
      (hBody start known page rest broken column written
        (hBefore _ _ hText))

theorem to_ended
    (hBody : body.Reads before Complete added) :
    body.Reads before Ended added :=
  hBody.imp (fun _ _ => id) fun _ _ => Or.inl

theorem of_ended
    (hBody : body.Reads Ended after added) :
    body.Reads Complete after added :=
  hBody.imp (fun _ _ => Or.inl) fun _ _ => id

theorem of_ready
    (hBody : body.Reads Ready after added) :
    body.Reads Complete after added :=
  hBody.imp (fun _ _ => Or.inl) fun _ _ => id

/- A text is read behind the text in front of it. -/
theorem text
    {content : String}
    (hContent :
      ∀ known lexing,
        before known lexing →
          after (known ++ added)
            (lexing.read content.toList)) :
    (Document.text content).Reads before after added := by
  intro start
  apply Leads.text
  intro known written hBefore
  rw [Lexing.read_append]
  exact hContent known _ hBefore

/- A text in two pieces is read piece by piece. -/
theorem text_append
    {start rest : String}
    (hStart : (Document.text start).Reads before between added)
    (hRest : (Document.text rest).Reads between after more) :
    (Document.text (start ++ rest)).Reads before after
      (added ++ more) := by
  intro lexing known page after' broken column written hBefore
  have hFirst :=
    hStart lexing known page after' broken column written
      hBefore
  have hSecond :=
    hRest lexing (known ++ added) page after' broken column _
      hFirst
  rw [← List.append_assoc]
  simpa [layout, Written.put, String.append_assoc] using hSecond

/- Nothing is read of an empty text. -/
theorem text_empty :
    (Document.text "").Reads before before [] :=
  text fun known _ hBefore =>
    (List.append_nil known).symm ▸ hBefore

/-
  A text whose first character is admitted is read as it is
  read on its own.
-/
theorem text_of_admits
    {content : String}
    {c : Char}
    {rest : List Char}
    (hContent : content.toList = c :: rest)
    (hAdmits : Lexed.Admits before c)
    (hRelative : Lexed.IsRelative after)
    (hAfter :
      after added (Lexing.start.read content.toList)) :
    (Document.text content).Reads before after added := by
  apply text
  intro known lexing hBefore
  have hFirst :
      lexing.step c = (Lexing.start.step c).behind known := by
    have hBehind := Lexing.first_behind known [] c
    rw [List.append_nil] at hBehind
    rw [hAdmits known lexing hBefore, hBehind]
    rfl
  have hRead :
      lexing.read content.toList =
        (Lexing.start.read content.toList).behind known := by
    rw [hContent, Lexing.read_cons, Lexing.read_cons, hFirst,
      Lexing.read_behind]
  rw [hRead]
  exact hRelative known added _ hAfter

/- A fixed text is read as its lexemes. -/
theorem fixed
    {content : String}
    {c : Char}
    {rest : List Char}
    (hContent : content.toList = c :: rest)
    (hAdmits : Lexed.Admits before c)
    (hClosed :
      (Lexing.start.read content.toList).pending = .nothing) :
    (Document.text content).Reads before Complete
      (lexemes content) := by
  apply text_of_admits hContent hAdmits Complete.isRelative
  unfold Complete lexemes Lexing.finish
  generalize Lexing.start.read content.toList = lexing
    at hClosed ⊢
  rcases lexing with ⟨done, pending⟩
  cases hClosed
  rfl

/- A fixed text that ends with a word is read as well. -/
theorem fixed_word
    {content : String}
    {c : Char}
    {rest chars : List Char}
    (hContent : content.toList = c :: rest)
    (hAdmits : Lexed.Admits before c)
    (hPending :
      (Lexing.start.read content.toList).pending =
        .word chars) :
    (Document.text content).Reads before Ended
      (lexemes content) := by
  apply text_of_admits hContent hAdmits Ended.isRelative
  unfold lexemes Lexing.finish
  generalize Lexing.start.read content.toList = lexing
    at hPending ⊢
  rcases lexing with ⟨done, pending⟩
  cases hPending
  exact Or.inr ⟨done, chars, rfl, rfl⟩

/- A word is read behind a comma, too. -/
theorem word
    {content : String}
    (hWhole : IsWhole content) :
    (Document.text content).Reads Ready Ended
      [.word content.toList] := by
  have hRead := Lexing.read_word hWhole
  have hChars := hWhole.chars
  cases hContent : content.toList with
  | nil =>
      exact absurd hContent (by simpa using hWhole.nonempty)
  | cons c rest =>
      rw [hContent] at hChars
      have hOfWord := hChars c List.mem_cons_self
      have hCloses : closes c = false := by
        rw [← Bool.not_eq_true]
        intro hClosing
        simp [closes] at hClosing
        rcases hClosing with rfl | rfl | rfl | rfl
        all_goals exact absurd hOfWord (by decide)
      have hAdmits : Lexed.Admits Ready c :=
        Ready.admits
          (Lexing.not_isSpace_of_isOfWord hOfWord) hCloses
      apply text_of_admits hContent hAdmits Ended.isRelative
      rw [hRead, hContent]
      exact Or.inr ⟨[], c :: rest, rfl, rfl⟩

/- A literal is read behind a comma, too. -/
theorem literal (content : String) :
    (Document.text (Text.literal content)).Reads Ready Complete
      [.literal content.toList] := by
  have hQuoted :
      (Text.literal content).toList =
        '\x22' ::
          (Text.literalChars content.toList ++ ['\x22']) := by
    rw [Text.literal, Text.enquote, String.toList_ofList]
  apply text_of_admits hQuoted (Ready.admits rfl rfl)
    Complete.isRelative
  rw [Lexing.read_literal]
  rfl

/- Nothing is read of a seam. -/
theorem seam :
    Document.seam.Reads before before [] := by
  intro start known page rest broken column written hBefore
  rw [List.append_nil]
  exact hBefore

/- A break is read like the comma that it starts with. -/
theorem read_breakTo
    (start : Lexing)
    (page : Page)
    (column : Int)
    (comma : Bool)
    (written : Written) :
    start.read
        (page.breakTo column comma written).output.toList =
      (((start.read written.output.toList).read
          (if comma then [','] else [])).read ['\n']).read
        (Page.blanks column).toList := by
  cases comma with
  | false =>
      simp [Page.breakTo, Lexing.read]
  | true =>
      simp [Page.breakTo, Lexing.read]

/- Nothing is read of a gap without a comma. -/
theorem gap
    {kind : Gap}
    (hComma : kind.comma = false)
    (hCalm : Lexed.IsCalm before) :
    (Document.gap kind).Reads before before [] := by
  intro start known page rest broken column written hBefore
  rw [List.append_nil]
  unfold layout
  split
  · rw [read_breakTo, hComma]
    apply hCalm.blanks
    exact hCalm _ _ '\n' rfl hBefore
  · split
    · simp only [Written.put, String.toList_append,
        Lexing.read_append]
      exact hCalm _ _ ' ' rfl hBefore
    · exact hBefore

/- Behind a gap with a comma a closing bracket is due. -/
theorem gap_comma
    {kind : Gap}
    (hComma : kind.comma = true) :
    (Document.gap kind).Reads Ended Due [] := by
  intro start known page rest broken column written hEnded
  rw [List.append_nil]
  unfold layout
  split
  · rw [read_breakTo, hComma]
    apply Due.isCalm.blanks
    apply Due.isCalm _ _ '\n' rfl
    exact Or.inr (Ended.admits rfl _ _ hEnded)
  · split
    · simp only [Written.put, String.toList_append,
        Lexing.read_append]
      exact Or.inl (Ended.isCalm _ _ ' ' rfl hEnded)
    · exact Or.inl hEnded

end Reads

end Document

end Code

end ShaderBindings

------------------------------------------------------------
-- Lines
------------------------------------------------------------

namespace ShaderBindings

namespace Code

namespace Line

/-
  However deep lines stand and however they are broken, these
  lexemes are read of them.
-/
def Reads
    (before after : Lexed)
    (added : List Lexeme)
    (lines : List Line) : Prop :=
  ∀ page deeper known lexing,
    before known lexing →
      after (known ++ added)
        (lexing.read
          (renderAll page
            (lines.map fun line =>
              { line with
                depth := line.depth + deeper })).toList)

namespace Reads

variable {before between after : Lexed}
variable {added more : List Lexeme}
variable {content : Document}
variable {lines others : List Line}

theorem nil : Reads before before [] [] := by
  intro page deeper known lexing hBefore
  rw [List.append_nil]
  exact hBefore

theorem append
    (hLines : Reads before between added lines)
    (hOthers : Reads between after more others) :
    Reads before after (added ++ more) (lines ++ others) := by
  intro page deeper known lexing hBefore
  have hFirst := hLines page deeper known lexing hBefore
  have hSecond :=
    hOthers page deeper (known ++ added) _ hFirst
  rw [← List.append_assoc]
  simpa [renderAll, String.join_append, Lexing.read_append]
    using hSecond

/- The lines of some items are read item by item. -/
theorem flatMap
    {α : Type}
    {items : List α}
    {spell : α → List Lexeme}
    {write : α → List Line}
    (hItems :
      ∀ item ∈ items,
        Reads before before (spell item) (write item)) :
    Reads before before (items.flatMap spell)
      (items.flatMap write) := by
  induction items with
  | nil => exact nil
  | cons item rest ih =>
      rcases List.forall_mem_cons.mp hItems with
        ⟨hItem, hRest⟩
      exact hItem.append (ih hRest)

/- Lines that stand deeper are read alike. -/
theorem indent
    (hLines : Reads before after added lines) :
    Reads before after added (Line.indent lines) := by
  intro page deeper known lexing hBefore
  have hDeeper :=
    hLines page (deeper + 1) known lexing hBefore
  simp only [Line.indent, List.map_map]
  convert hDeeper using 6
  simp [Nat.add_comm, Nat.add_left_comm]

/- The end of a line is a space behind its content. -/
theorem line
    (depth : Nat)
    (hContent : content.Reads before between added)
    (hCalm : Lexed.IsCalm before)
    (hEnd :
      ∀ known lexing,
        between known lexing →
          after known (lexing.step '\n')) :
    Reads before after added [⟨depth, content⟩] := by
  intro page deeper known lexing hBefore
  let column : Int := (depth + deeper : Nat) * page.step
  have hLine :=
    hContent lexing known page 0 true column
      { output := Page.blanks column
        room := page.roomFrom column }
      (hCalm.blanks column hBefore)
  have hEnded := hEnd _ _ hLine
  rw [List.map_singleton, renderAll_cons, render]
  simp only [String.toList_append, Lexing.read_append]
  exact hEnded

/- A line ends the word that it ends with. -/
theorem ended
    (depth : Nat)
    (hContent : content.Reads Complete Ended added) :
    Reads Complete Complete added [⟨depth, content⟩] :=
  line depth hContent Complete.isCalm fun _ _ hEnded =>
    Lexing.complete_step_of_ended rfl hEnded

/- A bracket is still due when a line ends in front of it. -/
theorem due
    (depth : Nat)
    (hContent : content.Reads Complete Due added) :
    Reads Complete Due added [⟨depth, content⟩] :=
  line depth hContent Complete.isCalm fun known lexing hDue =>
    Due.isCalm known lexing '\n' rfl hDue

/- Lines may be read where a bracket is due behind them. -/
theorem to_due
    (hLines : Reads before Complete added lines) :
    Reads before Due added lines :=
  fun page deeper known lexing hBefore =>
    Or.inl (Or.inl (hLines page deeper known lexing hBefore))

/- A block is read as its heading and its lines in braces. -/
theorem block
    {heading : Document}
    (hHeading : heading.Reads Complete Ended added)
    (hLines : Reads Complete Due more lines) :
    Reads Complete Complete
      (added ++ lexemes "\x7b" ++ more ++ lexemes "\x7d")
      (Line.block heading lines) := by
  have hOpen :
      (Document.text " \x7b").Reads Ended Complete
        (lexemes "\x7b") :=
    Document.Reads.fixed rfl (Ended.admits rfl) rfl
  have hClose :
      (Document.text "\x7d").Reads Due Complete
        (lexemes "\x7d") :=
    Document.Reads.fixed rfl (Due.admits rfl rfl rfl) rfl
  have hFirst :
      Reads Complete Complete (added ++ lexemes "\x7b")
        [⟨0, heading ++ .text " \x7b"⟩] :=
    ended 0 (hHeading.append hOpen).to_ended
  have hLast :
      Reads Due Complete (lexemes "\x7d")
        [Line.ofText "\x7d"] :=
    line 0 hClose Due.isCalm fun _ _ hComplete =>
      Complete.isCalm _ _ '\n' rfl hComplete
  exact (hFirst.append hLines.indent).append hLast

end Reads

end Line

end Code

end ShaderBindings
