import Folio.Text.Blank
import Folio.Text.Numeral
import Folio.Time.DateTime

namespace Folio.DateTime
open Text

def writtenYear (year : Int) : List Char :=
  if 0 ≤ year ∧ year ≤ 9999 then padded 4 year.toNat
  else if year < 0 then '-' :: padded 4 year.natAbs
  else '+' :: padded 4 year.toNat

/-- The fewest of three, six or nine digits that lose nothing; none for a whole second. -/
def writtenFraction (nano : Nat) : List Char :=
  if nano = 0 then []
  else if nano % 1000000 = 0 then '.' :: padded 3 (nano / 1000000)
  else if nano % 1000 = 0 then '.' :: padded 6 (nano / 1000)
  else '.' :: padded 9 nano

def write (t : DateTime) : List Char :=
  writtenYear t.year ++ '-' :: padded 2 t.month ++ '-' :: padded 2 t.day
    ++ 'T' :: padded 2 t.hour ++ ':' :: padded 2 t.minute ++ ':' :: padded 2 t.writtenSecond
    ++ writtenFraction t.fraction

/-- The compact form `20240131_143000` of the moment, to the second. -/
def stamp (t : DateTime) : List Char :=
  writtenYear t.year ++ padded 2 t.month ++ padded 2 t.day
    ++ '_' :: padded 2 t.hour ++ padded 2 t.minute ++ padded 2 t.writtenSecond

/-- Between one and `limit` digits. -/
def readDigits (limit : Nat) (cs : List Char) : Option (List Char × List Char) :=
  match (cs.takeWhile Char.isDigit).take limit with
  | [] => none
  | d :: ds => some (d :: ds, cs.drop (ds.length + 1))

/-- White space, then a number of at most `limit` digits. -/
def readPart (limit : Nat) (cs : List Char) : Option (Nat × List Char) :=
  (readDigits limit (trimStart cs)).map fun (ds, rest) => (digitsValue ds, rest)

/-- A year without a sign has at most four digits. -/
def readYear (cs : List Char) : Option (Int × List Char) :=
  match trimStart cs with
  | '-' :: cs =>
    (readDigits cs.length cs).map fun (ds, rest) => (-(digitsValue ds : Int), rest)
  | '+' :: cs =>
    (readDigits cs.length cs).map fun (ds, rest) => ((digitsValue ds : Int), rest)
  | cs => (readDigits 4 cs).map fun (ds, rest) => ((digitsValue ds : Int), rest)

/-- White space, then this mark. -/
def readMark (mark : Char) (cs : List Char) : Option (List Char) :=
  match trimStart cs with
  | c :: rest => if c = mark then some rest else none
  | [] => none

/-- Nanoseconds: digits after the ninth are dropped. -/
def readFraction : List Char → Option (Nat × List Char)
  | '.' :: cs =>
    (readDigits 9 cs).map fun (ds, rest) =>
      (digitsValue ds * Nat.pow 10 (9 - ds.length), rest.dropWhile Char.isDigit)
  | cs => some (0, cs)

def read? (cs : List Char) : Option DateTime := do
  let (year, cs) ← readYear cs
  let cs ← readMark '-' cs
  let (month, cs) ← readPart 2 cs
  let cs ← readMark '-' cs
  let (day, cs) ← readPart 2 cs
  let cs ← readMark 'T' cs
  let (hour, cs) ← readPart 2 cs
  let cs ← readMark ':' cs
  let (minute, cs) ← readPart 2 cs
  let cs ← readMark ':' cs
  let (second, cs) ← readPart 2 cs
  let (nano, cs) ← readFraction cs
  guard (trimStart cs = [])
  if second = 60 then ofParts? year month day hour minute 59 (billion + nano)
  else ofParts? year month day hour minute second nano

end Folio.DateTime
