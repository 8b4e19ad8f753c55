import Folio.Regex.Fault
import Folio.Text.Numeral
import Folio.Text.Search

namespace Folio.Regex

/-- A place in a pattern by its line and its column, both from one. -/
structure Position where
  line : Nat
  column : Nat
deriving DecidableEq, Repr

namespace Position

def next (p : Position) (c : Char) : Position :=
  if c == '\n' then ⟨p.line + 1, 1⟩ else ⟨p.line, p.column + 1⟩

/-- The place behind a text. -/
def behind (text : List Char) : Position :=
  text.foldl next ⟨1, 1⟩

end Position

/-- A stretch by the positions of its ends. -/
structure Stretch where
  start : Position
  stop : Position

namespace Stretch

def ofSpan (pattern : List Char) (s : Span) : Stretch :=
  ⟨.behind (pattern.take s.start), .behind (pattern.take s.stop)⟩

def isOneLine (s : Stretch) : Bool :=
  s.start.line == s.stop.line

def comesBefore (s t : Stretch) : Bool :=
  s.start.line < t.start.line || s.start.line == t.start.line && s.start.column ≤ t.start.column

/-- The marks under a line for one stretch in it, behind the marks for the stretches before. -/
def mark (marks : List Char) (s : Stretch) : List Char :=
  marks ++ List.replicate (s.start.column - 1 - marks.length) ' '
    ++ List.replicate (max 1 (s.stop.column - s.start.column)) '^'

def describe (s : Stretch) : String :=
  s!"on line {s.start.line} (column {s.start.column}) " ++
    s!"through line {s.stop.line} (column {s.stop.column - 1})"

end Stretch

/-- The lines of a text, without the carriage returns in front of their ends. -/
def linesOf (text : List Char) : List (List Char) :=
  let lines := Text.cutAt '\n' text
  let ended := lines.dropLast.map fun line =>
    if line.getLast? == some '\r' then line.dropLast else line
  match lines.getLast? with
  | none | some [] => ended
  | some last => ended ++ [last]

namespace Fault

/-- The stretches at fault, from the first to the last. -/
def stretches (pattern : List Char) (f : Fault) : List Stretch :=
  ((f.span :: f.first.toList).map (.ofSpan pattern)).mergeSort Stretch.comesBefore

/-- The pattern with a margin before each line, and the marks under the lines that have any. -/
def marked (pattern : List Char) (f : Fault) : List String :=
  let lines := linesOf pattern
  let count := lines.length + if pattern.getLast? == some '\n' then 1 else 0
  let width := if count > 1 then (Text.digits count).length else 0
  let single := (f.stretches pattern).filter Stretch.isOneLine
  lines.zipIdx.flatMap fun (line, i) =>
    let margin :=
      if width == 0 then "    "
      else
        let number := Text.digits (i + 1)
        String.ofList (List.replicate (width - number.length) ' ' ++ number) ++ ": "
    let here := single.filter (·.start.line == i + 1)
    let blank := String.ofList (margin.toList.map fun _ => ' ')
    (margin ++ String.ofList line) ::
      if here.isEmpty then [] else [blank ++ String.ofList (here.foldl Stretch.mark [])]

/-- The text, of several lines, that tells about a fault in a pattern. -/
def report (pattern : String) (f : Fault) : String :=
  let cs := pattern.toList
  let first := "regex parse error:"
  let last := "error: " ++ f.cause.message
  let divider := String.ofList (List.replicate 79 '~')
  let long := (f.stretches cs).filter (!·.isOneLine)
  let lines :=
    if cs.contains '\n' then
      first :: divider :: f.marked cs ++ divider :: long.map Stretch.describe ++ [last]
    else first :: f.marked cs ++ [last]
  "\n".intercalate lines

end Fault

end Folio.Regex
