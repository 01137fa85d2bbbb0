/-
  Laying out lines of code within a page. A document is text
  with gaps at which it may be broken over several lines. A
  box is broken at all of its own gaps or at none: it is
  broken when it does not fit, together with the text after
  it up to the next gap, into the rest of the line, or when
  it is wider than its own limit.

  Widths are counted in bytes of UTF-8.

  Key definitions include:
    * `Page`
    * `Gap`
    * `Document`
    * `Document.width`
    * `Document.lead`
    * `Document.layout`
    * `Line`
    * `Line.render`
-/

------------------------------------------------------------
-- Documents
------------------------------------------------------------

namespace ShaderBindings

namespace Code

/-
  The measures of a page: the last usable column, the width
  that every line has at least, and the step of indentation.
-/
structure Page where
  margin : Nat
  least : Nat
  step : Nat
deriving DecidableEq, Repr

/-
  A place to break at. Unbroken it is a blank or nothing.
  Broken it may end its line with a comma, and the next line
  may stand one step further out.
-/
structure Gap where
  blank : Bool
  comma : Bool
  outdent : Bool
deriving DecidableEq, Repr

/-
  A document. A seam is a gap that is never broken. A box
  moves the lines broken inside it by steps of indentation,
  and may have a limit to its width.
-/
inductive Document where
| empty
| text (content : String)
| seam
| gap (kind : Gap)
| append (first second : Document)
| box (steps : Int) (limit : Option Nat) (body : Document)
deriving Repr

namespace Document

instance : Append Document where
  append := Document.append

/- Documents one after the other. -/
def concat : List Document → Document
| [] => .empty
| document :: rest => document ++ concat rest

/- The width of a document that is not broken. -/
def width : Document → Nat
| .empty => 0
| .text content => content.utf8ByteSize
| .seam => 0
| .gap kind => if kind.blank then 1 else 0
| .append first second => first.width + second.width
| .box _ _ body => body.width

/-
  The distance from the start of a document to the next gap
  outside its boxes, given the distance behind its end.
-/
def lead : Document → Nat → Nat
| .empty, after => after
| .text content, after => content.utf8ByteSize + after
| .seam, _ => 0
| .gap _, _ => 0
| .append first second, after => first.lead (second.lead after)
| .box _ _ body, after => body.width + after

end Document

end Code

end ShaderBindings

------------------------------------------------------------
-- Layout
------------------------------------------------------------

namespace ShaderBindings

namespace Code

/- What is written, and the room left on the last line. -/
structure Written where
  output : String
  room : Int
deriving DecidableEq, Repr

namespace Written

/- Write text on the current line. -/
def put
    (written : Written)
    (content : String) : Written where
  output := written.output ++ content
  room := written.room - content.utf8ByteSize

end Written

namespace Page

/- Blanks up to a column. -/
def blanks (column : Int) : String :=
  String.ofList (List.replicate column.toNat ' ')

/- The room on a line that starts at a column. -/
def roomFrom
    (page : Page)
    (column : Int) : Int :=
  max (page.margin - column) page.least

/- Go to a new line that starts at a column. -/
def breakTo
    (page : Page)
    (column : Int)
    (comma : Bool)
    (written : Written) : Written where
  output :=
    written.output ++ (if comma then "," else "") ++ "\n" ++
      blanks column
  room := page.roomFrom column

end Page

namespace Document

/-
  Lay a document out behind what is written. The enclosing
  box is broken or not, its lines start at `column`, and
  `after` is the distance behind the document to the next
  gap of that box.
-/
def layout
    (page : Page) :
    Document → (after : Nat) → (broken : Bool) →
      (column : Int) → Written → Written
| .empty, _, _, _, written => written
| .text content, _, _, _, written => written.put content
| .seam, _, _, _, written => written
| .gap kind, _, broken, column, written =>
    if broken then
      let start :=
        if kind.outdent then column - page.step else column
      page.breakTo start kind.comma written
    else if kind.blank then
      written.put " "
    else
      written
| .append first second, after, broken, column, written =>
    second.layout page after broken column
      (first.layout page (second.lead after) broken column
        written)
| .box steps limit body, after, _, column, written =>
    let tooWide :=
      written.room < body.width + after ||
        limit.any (· < body.width)
    if tooWide then
      body.layout page after true
        (column + steps * page.step) written
    else
      body.layout page after false column written

end Document

end Code

end ShaderBindings

------------------------------------------------------------
-- Lines
------------------------------------------------------------

namespace ShaderBindings

namespace Code

/-
  A line of code at a depth of nesting. Its content may
  still be broken over several lines.
-/
structure Line where
  depth : Nat
  content : Document
deriving Repr

namespace Line

/- A line of fixed text. -/
def ofText (content : String) : Line where
  depth := 0
  content := .text content

/- Lines one step deeper. -/
def indent (lines : List Line) : List Line :=
  lines.map fun line => { line with depth := line.depth + 1 }

/- A heading, and lines in braces below it. -/
def block
    (heading : Document)
    (body : List Line) : List Line :=
  [⟨0, heading ++ .text " \x7b"⟩] ++ indent body ++
    [ofText "\x7d"]

/- The text of one line, with its end. -/
def render
    (page : Page)
    (line : Line) : String :=
  let column : Int := line.depth * page.step
  let start : Written :=
    { output := Page.blanks column
      room := page.roomFrom column }
  (line.content.layout page 0 true column start).output ++
    "\n"

/- The text of lines. -/
def renderAll
    (page : Page)
    (lines : List Line) : String :=
  String.join (lines.map (render page))

end Line

end Code

end ShaderBindings
