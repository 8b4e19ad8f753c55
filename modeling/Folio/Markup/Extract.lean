import Folio.Document.Primitive
import Folio.Markup.Pattern
import Folio.Text.Entity

namespace Folio.Markup
open Pattern

def onLine (c : Char) : Bool := c != '\n'

def anywhere (_ : Char) : Bool := true

/-- An element whose content lies on one line. -/
def lineElement (name : List Char) : Pattern (List Char) :=
  andThen (opener name) (contentTo onLine (['<', '/'] ++ name ++ ['>']))

/-- An element whose content may run over many lines. -/
def blockElement (name : List Char) : Pattern (List Char) :=
  andThen (opener name) (contentTo anywhere (['<', '/'] ++ name ++ ['>']))

def heading : Pattern (List Char) := lineElement "h1".toList

def paragraph : Pattern (List Char) := lineElement "p".toList

def tableBlock : Pattern (List Char) := blockElement "table".toList

def headerCell : Pattern (List Char) := lineElement "th".toList

def tableRow : Pattern (List Char) := blockElement "tr".toList

def dataCell : Pattern (List Char) := lineElement "td".toList

/-- White space, then text on one line up to the end of the paragraph. -/
def restOfParagraph : Pattern (List Char) :=
  andThen blanks (contentTo onLine "</p>".toList)

/-- A paragraph that begins with a strong label. The label ends at the first closing tag behind
which the paragraph can be completed. -/
def labelledParagraph : Pattern (List Char × List Char) :=
  andThen (opener "p".toList) <| andThen (literal "<strong>".toList) <|
    upTo onLine (andThen (literal "</strong>".toList) restOfParagraph)

def totalLine : Pattern (List Char) :=
  andThen (literal "<strong>Total:</strong>".toList) restOfParagraph

def footerOpener : Pattern Unit :=
  andThen (literal "<div".toList) <| andThen blanks₁ <| andThen (literal "class".toList) <|
    andThen blanks <| andThen (literal "=".toList) <| andThen blanks <|
      andThen (literal "\"footer\"".toList) toTagEnd

def footerBlock : Pattern (List Char) :=
  andThen footerOpener (contentTo anywhere "</div>".toList)

/-- What a reader sees of a piece of markup text. -/
def plainText (raw : List Char) : String :=
  String.ofList (Text.trim (Text.Entity.decode raw))

def titleOf (cs : List Char) : Option String :=
  (firstMatch heading cs).map fun (raw, _) => plainText raw

def labelledRows (cs : List Char) : List (String × String) :=
  (allMatches labelledParagraph cs).map fun (label, value) => (plainText label, plainText value)

/-- The header texts, and the cells of each row that has any. -/
def tableContents (cs : List Char) : List String × List (List String) :=
  ((allMatches headerCell cs).map plainText,
   ((allMatches tableRow cs).map fun row => (allMatches dataCell row).map plainText).filter
     fun cells => !cells.isEmpty)

def tableOf (cs : List Char) : Option (List String × List (List String)) :=
  (firstMatch tableBlock cs).map fun (raw, _) => tableContents raw

def totalOf (cs : List Char) : Option String :=
  (firstMatch totalLine cs).map fun (raw, _) => plainText raw

def footerLines (cs : List Char) : List String :=
  match firstMatch footerBlock cs with
  | some (raw, _) => (allMatches paragraph raw).map plainText
  | none => []

/-- The document in a text, in the order title, labelled rows, table, total, footer. -/
def extractFrom (cs : List Char) : List Primitive :=
  ((titleOf cs).map Primitive.title).toList
    ++ (labelledRows cs).map (fun (label, value) => .labelValue label value)
    ++ ((tableOf cs).map fun (headers, rows) => .table headers rows).toList
    ++ ((totalOf cs).map Primitive.total).toList
    ++ (footerLines cs).map .footer

def extract (markup : String) : List Primitive :=
  extractFrom markup.toList

end Folio.Markup
