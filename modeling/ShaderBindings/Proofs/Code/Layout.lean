import ShaderBindings.Proofs.Code.Headings

/-
  What laying out documents does to the headings of a text. A
  break is only taken where a line is settled or open, and it
  leads to an open line. So a document that settles every
  line it ends adds no heading, broken or not.

  Key definitions include:
    * `Document.Leads`
    * `Line.Head`

  Key theorems include:
    * `Document.Leads.append`
    * `Document.Leads.gap`
    * `Line.Head.append`
    * `Line.Head.block`
-/

------------------------------------------------------------
-- Documents
------------------------------------------------------------

namespace ShaderBindings

namespace Code

/-
  How a text stands to what is known of it, such as the names
  in its headings.
-/
abbrev Standing (α : Type) :=
  α → List Char → Prop

namespace Document

/-
  Wherever a document is laid out, it leads from one standing
  of the text to another.
-/
def Leads
    {α : Type}
    (before after : Standing α)
    (document : Document) : Prop :=
  ∀ known page rest broken column written,
    before known written.output.toList →
      after known
        (document.layout page rest broken column
          written).output.toList

namespace Leads

section Standings

variable {α : Type}
variable {before between after : Standing α}
variable {first second body : Document}

/- One document is laid out behind another. -/
theorem append
    (hFirst : first.Leads before between)
    (hSecond : second.Leads between after) :
    (first ++ second).Leads before after :=
  fun known page rest broken column written hBefore =>
    hSecond known page rest broken column _
      (hFirst known page (second.lead rest) broken column
        written hBefore)

/- A box is laid out like what it holds. -/
theorem box
    {steps : Int}
    {limit : Option Nat}
    (hBody : body.Leads before after) :
    (Document.box steps limit body).Leads before after := by
  intro known page rest broken column written hBefore
  unfold layout
  dsimp only
  split
  · exact hBody known page rest true _ written hBefore
  · exact hBody known page rest false column written hBefore

theorem empty :
    Document.empty.Leads before before :=
  fun _ _ _ _ _ _ hBefore => hBefore

theorem seam :
    Document.seam.Leads before before :=
  fun _ _ _ _ _ _ hBefore => hBefore

theorem text
    {content : String}
    (hContent :
      ∀ known text,
        before known text →
          after known (text ++ content.toList)) :
    (Document.text content).Leads before after := by
  intro known page rest broken column written hBefore
  simp only [layout, Written.put, String.toList_append]
  exact hContent known _ hBefore

end Standings

section Headings

variable {before after : Standing (List (List Char))}
variable {body : Document}

/- A settled line may go on with any text. -/
theorem text_settled
    {content : String}
    (hLine : '\n' ∉ content.toList) :
    (Document.text content).Leads Settled Settled :=
  text fun _ _ hSettled => hSettled.append hLine

/- A mark settles an open line. -/
theorem text_settling
    {content : String}
    (hContent : Settles content.toList) :
    (Document.text content).Leads Open Settled :=
  text fun _ _ hOpen => hOpen.settled hContent

/- A fixed text with a mark settles an open line. -/
theorem fixed
    {content : String}
    (hContent : isSettling content.toList = true) :
    (Document.text content).Leads Open Settled :=
  text_settling (settles_of_isSettling hContent)

/- A word keeps a line open. -/
theorem text_word
    {content : String}
    (hLine : '\n' ∉ content.toList)
    (hWord : ' ' ∉ content.toList) :
    (Document.text content).Leads Open Open :=
  text fun _ _ hOpen => hOpen.append hLine hWord

/- What may follow an open line may follow a settled one. -/
theorem of_open
    (hBody : body.Leads Open after) :
    body.Leads Settled after :=
  fun names page rest broken column written hSettled =>
    hBody names page rest broken column written hSettled.open

/- A settled line is open as well. -/
theorem to_open
    (hBody : body.Leads before Settled) :
    body.Leads before Open :=
  fun names page rest broken column written hBefore =>
    (hBody names page rest broken column written
      hBefore).open

/- A broken gap ends an open line and opens another one. -/
theorem breakTo_open
    {names : List (List Char)}
    {page : Page}
    {column : Int}
    {comma : Bool}
    {written : Written}
    (hOpen : Open names written.output.toList) :
    Open names
      (page.breakTo column comma written).output.toList := by
  have hEnded :
      headings
          (written.output.toList ++
            (if comma then "," else "").toList) = names := by
    cases comma with
    | false => simpa using hOpen.headings_eq
    | true => exact (hOpen [','] (by simp) (by simp)).1
  have hNew :=
    Open.newline hEnded (Open.blanks column.toNat)
  simp only [Page.breakTo, Page.blanks, String.toList_append,
    String.toList_ofList]
  simpa using hNew

/- A gap opens a line, or leaves a blank on a settled one. -/
theorem gap {kind : Gap} :
    (Document.gap kind).Leads Settled Open := by
  intro names page rest broken column written hSettled
  unfold layout
  split
  · exact breakTo_open hSettled.open
  · split
    · simp only [Written.put, String.toList_append]
      exact (hSettled.append (by decide)).open
    · exact hSettled.open

/- A gap that is no blank keeps a line open. -/
theorem gap_open
    {kind : Gap}
    (hBlank : kind.blank = false) :
    (Document.gap kind).Leads Open Open := by
  intro names page rest broken column written hOpen
  unfold layout
  rw [hBlank]
  split
  · exact breakTo_open hOpen
  · exact hOpen

end Headings

end Leads

end Document

end Code

end ShaderBindings

------------------------------------------------------------
-- Lines
------------------------------------------------------------

namespace ShaderBindings

namespace Code

namespace Line

/-
  Lines have headings with these names, however deep they
  stand and however they are broken.
-/
def Head
    (names : List (List Char))
    (lines : List Line) : Prop :=
  ∀ page deeper,
    headings
        (renderAll page
          (lines.map fun line =>
            { line with
              depth := line.depth + deeper })).toList =
      names

/- Only blanks are written, and these headings are due. -/
def Fresh
    (due : List (List Char)) : Standing (List (List Char)) :=
  fun names text =>
    names = due ∧ ∃ count, text = List.replicate count ' '

/- A line that only holds blanks may start with anything. -/
theorem leads_of_fresh
    {after : Standing (List (List Char))}
    {body : Document}
    (hBody : body.Leads Open after) :
    body.Leads (Fresh []) after := by
  rintro names page rest broken column written ⟨rfl, hBlanks⟩
  rcases hBlanks with ⟨count, hBlanks⟩
  apply hBody
  rw [hBlanks]
  exact Open.blanks count

/- Every line is written with its end. -/
theorem renderAll_cons
    (page : Page)
    (line : Line)
    (rest : List Line) :
    renderAll page (line :: rest) =
      line.render page ++ renderAll page rest := by
  simp [renderAll, String.join_cons]

/- Headings of lines are those of each line. -/
theorem headings_renderAll
    (page : Page)
    (lines : List Line) :
    headings (renderAll page lines).toList =
      lines.flatMap fun line =>
        headings (line.render page).toList := by
  induction lines with
  | nil => rfl
  | cons line rest ih =>
      rw [renderAll_cons, List.flatMap_cons, ← ih]
      simp only [render, String.toList_append]
      change
        headings (_ ++ ['\n'] ++ _) = headings (_ ++ ['\n']) ++ _
      rw [List.append_assoc, List.singleton_append,
        headings_append_newline, headings_append_newline]
      rw [show headings [] = [] from rfl, List.append_nil]

namespace Head

variable {names names' : List (List Char)}
variable {lines others : List Line}

theorem nil : Head [] [] :=
  fun _ _ => rfl

/- Lines that stand where they are have their headings. -/
theorem headings_eq
    (hLines : Head names lines)
    (page : Page) :
    headings (renderAll page lines).toList = names := by
  have hHere := hLines page 0
  simpa using hHere

theorem append
    (hLines : Head names lines)
    (hOthers : Head names' others) :
    Head (names ++ names') (lines ++ others) := by
  intro page deeper
  rw [← hLines page deeper, ← hOthers page deeper]
  simp only [headings_renderAll, List.map_append,
    List.flatMap_append]

/- Lines that stand deeper have the same headings. -/
theorem indent
    (hLines : Head names lines) :
    Head names (Line.indent lines) := by
  intro page deeper
  rw [← hLines page (deeper + 1)]
  simp only [Line.indent, List.map_map]
  congr 3
  apply List.map_congr_left
  intro line _
  simp [Nat.add_comm, Nat.add_left_comm]

/- A line starts with blanks, and its end keeps its heading. -/
theorem line
    {start : Line}
    (hContent : start.content.Leads (Fresh names) Open) :
    Head names [start] := by
  intro page deeper
  let column : Int := (start.depth + deeper : Nat) * page.step
  have hFresh :
      Fresh names names (Page.blanks column).toList := by
    refine ⟨rfl, column.toNat, ?_⟩
    rw [Page.blanks, String.toList_ofList]
  have hOpen :=
    hContent names page 0 true column
      { output := Page.blanks column
        room := page.roomFrom column } hFresh
  rw [headings_renderAll, List.map_singleton,
    List.flatMap_singleton, render]
  simp only [String.toList_append]
  change headings (_ ++ '\n' :: []) = _
  rw [headings_append_newline, hOpen.headings_eq]
  exact List.append_nil names

/- A line that starts with no heading has none. -/
theorem silent
    {start : Line}
    (hContent : start.content.Leads Open Open) :
    Head [] [start] :=
  line (leads_of_fresh hContent)

/- A line that settles what it is written on has none. -/
theorem settled
    {start : Line}
    (hContent : start.content.Leads Open Settled) :
    Head [] [start] :=
  silent (Document.Leads.to_open hContent)

/- A line of text with a mark has none. -/
theorem ofText
    {content : String}
    (hContent : Settles content.toList) :
    Head [] [ofText content] :=
  settled (Document.Leads.text_settling hContent)

/- A block has the headings of its first line and its body. -/
theorem block
    {heading : Document}
    (hHeading : heading.Leads (Fresh names) Settled)
    (hLines : Head names' lines) :
    Head (names ++ names') (Line.block heading lines) := by
  have hFirst :
      Head names [⟨0, heading ++ .text " \x7b"⟩] := by
    apply line
    apply Document.Leads.to_open
    exact hHeading.append
      (Document.Leads.text_settled (by decide))
  have hLast : Head [] [Line.ofText "\x7d"] :=
    ofText (settles_of_isSettling rfl)
  have hBlock := (hFirst.append hLines.indent).append hLast
  rwa [List.append_nil] at hBlock

end Head

end Line

end Code

end ShaderBindings
