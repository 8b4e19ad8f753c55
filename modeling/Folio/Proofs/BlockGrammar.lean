import Folio.Proofs.Elements

namespace Folio.Markup

/-- Things with white space before, between and behind them. -/
structure Spaced (β : Type) where
  lead : Gap
  items : List (β × Gap)

namespace Spaced

variable {β : Type}

def values (s : Spaced β) : List β :=
  s.items.map Prod.fst

def written (f : β → List Char) (s : Spaced β) : List Char :=
  s.lead.text ++ s.items.flatMap fun (b, g) => f b ++ g.text

end Spaced

namespace Line

/-- The text with its markup characters as entities. -/
def written (l : Line) : List Char :=
  Text.escape l.text.toList

def seen (l : Line) : String :=
  Text.trimmed l.text

end Line

inductive Cell where
  | header (a : Attributes) (text : Line)
  | data (a : Attributes) (text : Line)

namespace Cell

def written : Cell → List Char
  | header a text => element "th".toList a text.written
  | data a text => element "td".toList a text.written

def header? : Cell → Option Line
  | header _ text => some text
  | data _ _ => none

def data? : Cell → Option Line
  | header _ _ => none
  | data _ text => some text

end Cell

structure TableRow where
  attributes : Attributes
  cells : Spaced Cell

namespace TableRow

def written (r : TableRow) : List Char :=
  element "tr".toList r.attributes (r.cells.written Cell.written)

def headers (r : TableRow) : List Line :=
  r.cells.values.filterMap Cell.header?

def data (r : TableRow) : List Line :=
  r.cells.values.filterMap Cell.data?

end TableRow

structure Paragraph where
  attributes : Attributes
  text : Line

def Paragraph.written (p : Paragraph) : List Char :=
  element "p".toList p.attributes p.text.written

def Attributes.none : Attributes :=
  ⟨[], by simp, List.not_mem_nil, List.not_mem_nil⟩

theorem spaced_footerClass :
    ∀ c ∈ " class=\"footer\"".toList.head?, Text.isBlank c = true := by
  intro c hc
  have hspace : " class=\"footer\"".toList.head? = some ' ' := by decide
  rw [hspace] at hc
  cases hc
  decide

def Attributes.footerClass : Attributes :=
  ⟨" class=\"footer\"".toList, spaced_footerClass, by decide, by decide⟩

/-- The inside of a paragraph with a strong label. -/
def labelled (label value : List Char) : List Char :=
  element "strong".toList .none label ++ ' ' :: value

inductive Block where
  | title (a : Attributes) (text : Line)
  | row (a : Attributes) (label value : Line)
  | table (a : Attributes) (rows : Spaced TableRow)
  | footer (paragraphs : Spaced Paragraph)

namespace Block

def written : Block → List Char
  | title a text => element "h1".toList a text.written
  | row a label value => element "p".toList a (labelled label.written value.written)
  | table a rows => element "table".toList a (rows.written TableRow.written)
  | footer paragraphs =>
    element "div".toList .footerClass (paragraphs.written Paragraph.written)

def title? : Block → Option String
  | title _ text => some text.seen
  | _ => none

def row? : Block → Option (String × String)
  | row _ label value => some (label.seen, value.seen)
  | _ => none

/-- All header texts in their order, and the data texts of each row that has any. -/
def table? : Block → Option (List String × List (List String))
  | table _ rows =>
    some ((rows.values.flatMap TableRow.headers).map Line.seen,
      (rows.values.map fun r => r.data.map Line.seen).filter fun cells => !cells.isEmpty)
  | _ => none

def total? : Block → Option String
  | row _ label value => if label.text = "Total:" then some value.seen else none
  | _ => none

def footer? : Block → Option (List String)
  | footer paragraphs => some (paragraphs.values.map fun p => p.text.seen)
  | _ => none

end Block

abbrev Document := Spaced Block

namespace Document

/-- The text of a document. -/
def text (d : Document) : String :=
  String.ofList (d.written Block.written)

/-- The first title, all labelled rows, the first table, the first total, and the lines of the first
footer. -/
def primitives (d : Document) : List Primitive :=
  ((d.values.findSome? Block.title?).map Primitive.title).toList
    ++ (d.values.filterMap Block.row?).map (fun (label, value) => .labelValue label value)
    ++ ((d.values.findSome? Block.table?).map fun (headers, rows) =>
        Primitive.table headers rows).toList
    ++ ((d.values.findSome? Block.total?).map Primitive.total).toList
    ++ ((d.values.findSome? Block.footer?).getD []).map .footer

end Document

end Folio.Markup
