import Folio.Drawing.Layout
import Folio.Json.Writer

namespace Folio.Drawing
open Json

/-- A millimetre in millionths of a point, as positions in a file are reckoned. -/
def pointsPerMillimetre : Nat := 2834646

/-- A fraction of nanometres in hundredths of a point, rounded. -/
def hundredths (numerator denominator : Nat) : Nat :=
  let unit := 10000000000 * denominator
  (2 * numerator * pointsPerMillimetre + unit) / (2 * unit)

def writeNat (n : Nat) : List Char :=
  writeInt n

def Color.toJson (c : Color) : List Char :=
  writeArray ([c.red, c.green, c.blue].map fun channel => writeNat (Color.hundredths channel))

def Run.toJson (r : Run) : List Char :=
  writeObject [("text", writeString r.text), ("bold", writeBool r.style.bold),
    ("size", writeNat r.style.size), ("color", writeOption Color.toJson r.style.color)]

def Section.toJson (s : Section) : List Char :=
  let (numerator, denominator) := s.across.fraction
  writeObject [("x", writeNat (hundredths numerator denominator)),
    ("y", writeNat (hundredths s.up 1)),
    ("runs", writeArray (s.runs.map Run.toJson))]

def Page.toJson (p : Page) : List Char :=
  writeObject [("sections", writeArray (p.sections.map Section.toJson)),
    ("lines", writeNat p.strokes)]

def Rendition.toJson (r : Rendition) : List Char :=
  writeObject [("title", writeString r.title),
    ("media", writeArray ([0, 0, hundredths pageWidth 1, hundredths pageHeight 1].map writeNat)),
    ("pages", writeArray (r.pages.map Page.toJson))]

end Folio.Drawing
