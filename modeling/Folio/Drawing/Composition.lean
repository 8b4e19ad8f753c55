import Folio.Document.Primitive
import Folio.Drawing.Style

namespace Folio.Drawing

structure Line where
  runs : List Run
  centred : Bool := false
deriving DecidableEq, Repr

/-- A framed table of equal columns. -/
structure Grid where
  columns : Nat
  rows : List (List Run)
deriving DecidableEq, Repr

inductive Element where
  /-- Empty space of so many lines. -/
  | gap (lines : Nat)
  | line (line : Line)
  | grid (grid : Grid)
deriving DecidableEq, Repr

/-- A row with another number of cells than the grid has columns. -/
structure RowError where
  columns : Nat
  cells : Nat
deriving DecidableEq, Repr

def RowError.message (e : RowError) : String :=
  s!"Expected {e.columns} columns in table row, received {e.cells}"

def Grid.push (g : Grid) (cells : List Run) : Except RowError Grid :=
  if cells.length = g.columns then .ok { g with rows := g.rows ++ [cells] }
  else .error ⟨g.columns, cells.length⟩

/-- The widest row decides on the columns where there are no headers. -/
def columnCount (headers : List String) (rows : List (List String)) : Nat :=
  if headers.isEmpty then (rows.map List.length).foldl max 0 else headers.length

/-- A row cut to a width, or filled up to it with empty cells. -/
def fitRow (columns : Nat) (cells : List String) : List String :=
  (List.range columns).map fun i => cells.getD i ""

/-- The number of columns of a table and its body cells. -/
def tableGrid (headers : List String) (rows : List (List String)) : Nat × List (List String) :=
  let columns := columnCount headers rows
  (columns, rows.map (fitRow columns))

def bodyStyle : Style := {}

def boldStyle : Style := { bold := true }

def titleStyle : Style := { bold := true, size := 20, color := some accent }

def totalStyle : Style := { bold := true, size := 14 }

def footerStyle : Style := { size := 9, color := some muted }

/-- A table with its header row, if it has headers. There is nothing to draw without columns. -/
def tableElements (headers : List String) (rows : List (List String)) :
    Except RowError (List Element) := do
  let (columns, body) := tableGrid headers rows
  if columns = 0 then return []
  let grid : Grid := ⟨columns, []⟩
  let grid ←
    if headers.isEmpty then pure grid else grid.push (headers.map fun text => ⟨text, boldStyle⟩)
  let grid ← body.foldlM (fun g cells => g.push (cells.map fun text => ⟨text, bodyStyle⟩)) grid
  return [.gap 1, .grid grid, .gap 1]

/-- The elements of one primitive, the space before a first footer line aside. -/
def primitiveElements : Primitive → Except RowError (List Element)
  | .title text => .ok [.line { runs := [⟨text, titleStyle⟩], centred := true }, .gap 1]
  | .labelValue label value =>
    .ok [.line { runs := [⟨label, boldStyle⟩, ⟨" " ++ value, bodyStyle⟩] }]
  | .table headers rows => tableElements headers rows
  | .total text => .ok [.line { runs := [⟨"Total: " ++ text, totalStyle⟩] }]
  | .footer text => .ok [.line { runs := [⟨text, footerStyle⟩], centred := true }]

/-- Composes the primitives in their order; the first footer line keeps a distance from the rest. -/
def composeFrom (footerStarted : Bool) : List Primitive → Except RowError (List Element)
  | [] => .ok []
  | .footer text :: rest => do
    let elements ← primitiveElements (.footer text)
    let above := if footerStarted then [] else [Element.gap 2]
    return above ++ elements ++ (← composeFrom true rest)
  | p :: rest => do
    let elements ← primitiveElements p
    return elements ++ (← composeFrom footerStarted rest)

def compose (document : List Primitive) : Except RowError (List Element) :=
  composeFrom false document

/-- The text of the first title. -/
def titleOf (document : List Primitive) : String :=
  (document.findSome? fun p => match p with | .title text => some text | _ => none).getD "Report"

end Folio.Drawing
