import ShaderBindings.Proofs.Code.Layout

/-
  Code without its blanks and line ends. How a document is
  broken over lines decides little more than where these are,
  so what a document writes can be told without knowing the
  page: its texts, and a comma at a gap that may have one.

  Key definitions include:
    * `condensed`
    * `Document.Prints`
    * `Document.Around`

  Key theorems include:
    * `Document.Prints.append`
    * `Document.Prints.gap`
    * `Line.condensed_render`
    * `Line.condensed_sublines`
-/

------------------------------------------------------------
-- Condensed Code
------------------------------------------------------------

namespace ShaderBindings

namespace Code

/- The characters of code, blanks and line ends left out. -/
def condensed (code : String) : List Char :=
  code.toList.filter fun c => c != ' ' && c != '\n'

@[simp] theorem condensed_append
    (first second : String) :
    condensed (first ++ second) =
      condensed first ++ condensed second := by
  rw [condensed, String.toList_append, List.filter_append]
  rfl

/- Without blanks and line ends nothing is left out. -/
theorem condensed_eq_toList
    {text : String}
    (hBlank : ' ' ∉ text.toList)
    (hLine : '\n' ∉ text.toList) :
    condensed text = text.toList := by
  apply List.filter_eq_self.mpr
  intro c hMember
  have hNoBlank : c ≠ ' ' :=
    fun hSame => hBlank (hSame ▸ hMember)
  have hNoLine : c ≠ '\n' :=
    fun hSame => hLine (hSame ▸ hMember)
  simp [hNoBlank, hNoLine]

@[simp] theorem condensed_blanks (column : Int) :
    condensed (Page.blanks column) = [] := by
  simp [condensed, Page.blanks]

@[simp] theorem condensed_blank : condensed " " = [] :=
  rfl

@[simp] theorem condensed_lineEnd : condensed "\n" = [] :=
  rfl

end Code

end ShaderBindings

------------------------------------------------------------
-- Documents
------------------------------------------------------------

namespace ShaderBindings

namespace Code

namespace Document

/-
  Wherever a document is laid out and however it is broken,
  what it adds to the text, without blanks and line ends, is
  one of some texts.
-/
def Prints
    (document : Document)
    (allowed : List Char → Prop) : Prop :=
  ∀ page after broken column written,
    ∃ added,
      allowed added ∧
        condensed
            (document.layout page after broken column
              written).output =
          condensed written.output ++ added

/- Two texts around a comma, which may be left out. -/
def Around
    (front back : List Char) : List Char → Prop :=
  fun added =>
    ∃ comma ∈ ["", ","],
      added = front ++ comma.toList ++ back

namespace Prints

variable {first second body : Document}
variable {allowed others both : List Char → Prop}

/- Documents print one behind the other. -/
theorem append
    (hFirst : first.Prints allowed)
    (hSecond : second.Prints others)
    (hBoth :
      ∀ {added more : List Char},
        allowed added → others more → both (added ++ more)) :
    (first ++ second).Prints both := by
  intro page after broken column written
  rcases hFirst page (second.lead after) broken column
      written with
    ⟨added, hAdded, hOutput⟩
  rcases hSecond page after broken column _ with
    ⟨more, hMore, hThen⟩
  refine ⟨added ++ more, hBoth hAdded hMore, ?_⟩
  rw [← List.append_assoc, ← hOutput]
  exact hThen

/- A box prints what it holds. -/
theorem box
    {steps : Int}
    {limit : Option Nat}
    (hBody : body.Prints allowed) :
    (Document.box steps limit body).Prints allowed := by
  intro page after broken column written
  unfold layout
  dsimp only
  split
  · exact hBody page after true _ written
  · exact hBody page after false column written

theorem empty :
    Document.empty.Prints (· = []) :=
  fun _ _ _ _ _ => ⟨[], rfl, (List.append_nil _).symm⟩

theorem text
    {content : String}
    {chars : List Char}
    (hChars : condensed content = chars) :
    (Document.text content).Prints (· = chars) :=
  fun _ _ _ _ written =>
    ⟨chars, rfl,
      hChars ▸ condensed_append written.output content⟩

/- A gap prints nothing, or the comma that it may have. -/
theorem gap (kind : Gap) :
    (Document.gap kind).Prints fun added =>
      added = [] ∨ kind.comma = true ∧ added = [','] := by
  intro page after broken column written
  unfold layout
  split
  · simp only [Page.breakTo, condensed_append,
      condensed_lineEnd, condensed_blanks, List.append_nil]
    cases kind.comma with
    | false => exact ⟨[], Or.inl rfl, rfl⟩
    | true => exact ⟨[','], Or.inr ⟨rfl, rfl⟩, rfl⟩
  · refine ⟨[], Or.inl rfl, ?_⟩
    split
    · simp [Written.put]
    · simp

/- A gap without a comma prints nothing. -/
theorem gap_silent
    {kind : Gap}
    (hComma : kind.comma = false) :
    (Document.gap kind).Prints (· = []) := by
  intro page after broken column written
  rcases gap kind page after broken column written with
    ⟨added, rfl | ⟨hSome, _⟩, hOutput⟩
  · exact ⟨[], rfl, hOutput⟩
  · rw [hComma] at hSome
    cases hSome

variable {front back text : List Char}

/- Documents that print one text each print both texts. -/
theorem exactly_append
    (hFirst : first.Prints (· = front))
    (hSecond : second.Prints (· = back)) :
    (first ++ second).Prints (· = front ++ back) := by
  apply hFirst.append hSecond
  rintro _ _ rfl rfl
  rfl

/- A text in front of two texts around a comma. -/
theorem append_around
    (hFirst : first.Prints (· = text))
    (hSecond : second.Prints (Around front back)) :
    (first ++ second).Prints
      (Around (text ++ front) back) := by
  apply hFirst.append hSecond
  rintro _ _ rfl ⟨comma, hComma, rfl⟩
  exact ⟨comma, hComma, by simp⟩

/- A text behind two texts around a comma. -/
theorem around_append
    (hFirst : first.Prints (Around front back))
    (hSecond : second.Prints (· = text)) :
    (first ++ second).Prints
      (Around front (back ++ text)) := by
  apply hFirst.append hSecond
  rintro _ _ ⟨comma, hComma, rfl⟩ rfl
  exact ⟨comma, hComma, by simp⟩

/- A gap with a comma stands between two texts. -/
theorem gap_around (kind : Gap) :
    (Document.gap kind).Prints (Around [] []) := by
  intro page after broken column written
  rcases gap kind page after broken column written with
    ⟨added, rfl | ⟨_, rfl⟩, hOutput⟩
  · exact ⟨[], ⟨"", by simp, rfl⟩, hOutput⟩
  · exact ⟨[','], ⟨",", by simp, rfl⟩, hOutput⟩

end Prints

end Document

end Code

end ShaderBindings

------------------------------------------------------------
-- Lines
------------------------------------------------------------

namespace ShaderBindings

namespace Code

namespace Line

/- A line prints what its content prints. -/
theorem condensed_render
    {content : Document}
    {allowed : List Char → Prop}
    (hContent : content.Prints allowed)
    (depth : Nat)
    (page : Page) :
    allowed (condensed (render page ⟨depth, content⟩)) := by
  let column : Int := depth * page.step
  rcases hContent page 0 true column
      { output := Page.blanks column
        room := page.roomFrom column } with
    ⟨added, hAdded, hOutput⟩
  rw [condensed_blanks, List.nil_append] at hOutput
  rw [render, condensed_append, condensed_lineEnd,
    List.append_nil]
  exact hOutput ▸ hAdded

theorem condensed_renderAll
    (page : Page)
    (lines : List Line) :
    condensed (renderAll page lines) =
      lines.flatMap fun line =>
        condensed (line.render page) := by
  induction lines with
  | nil => rfl
  | cons line rest ih =>
      rw [renderAll_cons, condensed_append, ih,
        List.flatMap_cons]

/- Lines in a row are written in a row. -/
theorem condensed_sublines
    {part whole : List Line}
    (hPart : part <:+: whole)
    (page : Page) :
    condensed (renderAll page part) <:+:
      condensed (renderAll page whole) := by
  rcases hPart with ⟨before, behind, rfl⟩
  simp only [condensed_renderAll, List.flatMap_append]
  exact List.infix_append _ _ _

end Line

end Code

end ShaderBindings
