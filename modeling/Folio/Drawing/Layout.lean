import Folio.Drawing.Composition

namespace Folio.Drawing

/-- Lengths are whole numbers of nanometres. -/
def millimetre : Nat := 1000000

/-- The size of type is given in points. -/
def point : Nat := 352778

def pageWidth : Nat := 210 * millimetre

def pageHeight : Nat := 297 * millimetre

def margin : Nat := 20 * millimetre

def contentWidth : Nat := pageWidth - 2 * margin

def contentHeight : Nat := pageHeight - 2 * margin

/-- Every line takes the same height, whatever the size of its text. -/
def lineHeight : Nat := 15 * point

/-- The height a line needs to be drawn. -/
def textHeight : Nat := 12 * point

/-- The space between a cell's frame and its text. -/
def cellPadding : Nat := millimetre

/-- The paddings of a cell alone are wider than one of so many columns, so that no text fits
between them, not even one without width. -/
def narrow (columns : Nat) : Bool :=
  contentWidth < 2 * cellPadding * columns

/-- Where a line begins, from the left. -/
inductive Across where
  | left
  | centre
  /-- In a cell of a row with so many columns. -/
  | cell (index columns : Nat)
deriving DecidableEq, Repr

/-- The distance from the left edge of the page, as a fraction. -/
def Across.fraction : Across → Nat × Nat
  | left => (margin, 1)
  | centre => (2 * margin + contentWidth, 2)
  | cell index columns => ((margin + cellPadding) * columns + index * contentWidth, columns)

/-- A line of text on a page. -/
structure Section where
  across : Across
  /-- The distance of the text from the lower edge of the page. -/
  up : Nat
  runs : List Run
deriving DecidableEq, Repr

/-- A page: its text in drawing order, and the number of strokes of frames. -/
structure Page where
  sections : List Section
  strokes : Nat
deriving DecidableEq, Repr

/-- The pages set so far and the height left on the last of them. -/
structure Flow where
  full : List Page
  page : Page
  left : Nat

namespace Flow

def start : Flow := ⟨[], ⟨[], 0⟩, contentHeight⟩

def pages (f : Flow) : List Page :=
  f.full ++ [f.page]

/-- Goes on at the top of a new page. -/
def turn (f : Flow) : Flow :=
  ⟨f.full ++ [f.page], ⟨[], 0⟩, contentHeight⟩

/-- Goes on where there is any height left. -/
def goOn (f : Flow) : Flow :=
  if f.left = 0 then f.turn else f

/-- Draws text below the cursor, so far down, and leaves the cursor where it is. -/
def draw (f : Flow) (across : Across) (down : Nat) (runs : List Run) : Flow :=
  { f with
    page.sections := f.page.sections ++
      [⟨across, margin + f.left - down - textHeight, visible runs⟩] }

def stroke (f : Flow) (n : Nat) : Flow :=
  { f with page.strokes := f.page.strokes + n }

/-- Moves the cursor down, but not below the margin. -/
def advance (f : Flow) (height : Nat) : Flow :=
  { f with left := f.left - height }

def line (f : Flow) (l : Line) : Flow :=
  let f := if f.left < textHeight then f.turn else f
  (f.draw (if l.centred then .centre else .left) 0 l.runs).advance lineHeight

/-- Draws the cells of a row side by side. -/
def cells (f : Flow) (columns : Nat) (row : List Run) : Flow :=
  row.zipIdx.foldl (fun f (run, index) => f.draw (.cell index columns) cellPadding [run]) f

/-- A row that does not fit leaves the upper part of its frame behind and starts again on the next
page, where the frame has no top. -/
def textRow (f : Flow) (columns : Nat) (cells : List Run) : Flow :=
  let f :=
    if f.left < cellPadding + textHeight then
      ((f.stroke (3 * cells.length)).turn).stroke (3 * cells.length)
    else f.stroke (4 * cells.length)
  (f.cells columns cells).advance (lineHeight + 2 * cellPadding)

/-- Cells without room for text are no higher than their padding. Such a row never starts again: it
is drawn where the cursor is, even if that is below the margin. -/
def frameRow (f : Flow) (cells : List Run) : Flow :=
  (f.stroke (4 * cells.length)).advance (2 * cellPadding)

def row (f : Flow) (columns : Nat) (cells : List Run) : Flow :=
  if narrow columns then f.frameRow cells else f.textRow columns cells

def element (f : Flow) : Element → Flow
  | .gap lines => f.goOn.advance (lines * lineHeight)
  | .line l => f.line l
  | .grid g => g.rows.foldl (fun f cells => f.row g.columns cells) f.goOn

end Flow

/-- Sets the elements in their order; there is at least one page. -/
def paginate (elements : List Element) : List Page :=
  (elements.foldl Flow.element .start).pages

/-- What the file of a report shows. -/
structure Rendition where
  title : String
  pages : List Page
deriving DecidableEq, Repr

def renditionOf (document : List Primitive) : Except RowError Rendition :=
  match compose document with
  | .error e => .error e
  | .ok elements => .ok ⟨titleOf document, paginate elements⟩

end Folio.Drawing
