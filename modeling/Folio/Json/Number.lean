import Folio.Json.Reader
import Folio.Text.Numeral

namespace Folio.Json

/-- A number is whole if it has neither fraction nor exponent, is not a negative zero and fits in 64
bits. -/
inductive Number where
  | whole (n : Int)
  | fractional

def writeInt (n : Int) : List Char :=
  if n < 0 then '-' :: Text.digits n.natAbs else Text.digits n.toNat

/-- The nearest number of 53 binary digits; a tie goes to the even one. -/
def roundTo53 (n : Nat) : Nat :=
  let unit := Nat.pow 2 (n.log2 - 52)
  let q := n / unit
  let r := n % unit
  if unit < 2 * r ∨ (unit = 2 * r ∧ q % 2 = 1) then (q + 1) * unit else q * unit

/-- Whether `significand * 10 ^ exponent`, each factor rounded, is beyond the greatest double. -/
def overflows (significand : Nat) (exponent : Int) : Bool :=
  if exponent < 0 then false
  else if 308 < exponent then significand != 0
  else
    Nat.pow 2 1024 - Nat.pow 2 970
      ≤ roundTo53 significand * roundTo53 (Nat.pow 10 exponent.toNat)

def maxSignificand : Nat := 18446744073709551615

/-- Appends digits to a significand as long as it fits, and tells how many are left over. -/
def extendSignificand : Nat → List Char → Nat × Nat
  | n, [] => (n, 0)
  | n, d :: ds =>
    let next := n * 10 + (d.toNat - '0'.toNat)
    if next ≤ maxSignificand then extendSignificand next ds else (n, ds.length + 1)

/-- At least one digit. -/
def digitRun (cs : List Char) : Except Fault (List Char × List Char) :=
  match cs.takeWhile Char.isDigit, cs.dropWhile Char.isDigit with
  | [], [] => .error .truncated
  | [], _ :: _ => .error .malformed
  | ds, rest => .ok (ds, rest)

/-- Digits without a superfluous zero in front. -/
def integerDigits (cs : List Char) : Except Fault (List Char × List Char) := do
  let (ds, rest) ← digitRun cs
  match ds with
  | '0' :: _ :: _ => .error .malformed
  | _ => .ok (ds, rest)

def isExponentMark (c : Char) : Bool := c == 'e' || c == 'E'

/-- The exponent, if there is one, with its sign. -/
def exponentPart : List Char → Except Fault (Option Int × List Char)
  | [] => .ok (none, [])
  | c :: cs =>
    if isExponentMark c then
      match cs with
      | '+' :: cs => (digitRun cs).map fun (ds, rest) => (some (Text.digitsValue ds : Int), rest)
      | '-' :: cs => (digitRun cs).map fun (ds, rest) => (some (-(Text.digitsValue ds : Int)), rest)
      | cs => (digitRun cs).map fun (ds, rest) => (some (Text.digitsValue ds : Int), rest)
    else .ok (none, c :: cs)

/-- The digits behind a decimal point, if there is one. -/
def fractionPart : List Char → Except Fault (Option (List Char) × List Char)
  | '.' :: cs => (digitRun cs).map fun (ds, rest) => (some ds, rest)
  | cs => .ok (none, cs)

/-- A negative number as a whole number, if it is one. -/
def negativeWhole (n : Nat) : Number :=
  if n = 0 ∨ 9223372036854775808 < n then .fractional else .whole (-n)

/-- A number behind its sign. -/
def unsignedNumber (negative : Bool) : Reader Number := fun cs => do
  let (whole, cs) ← integerDigits cs
  let (significand, left) := extendSignificand 0 whole
  let (fraction, cs) ← fractionPart cs
  let (exponent, cs) ← exponentPart cs
  match left, fraction, exponent with
  | 0, none, none =>
    .ok (if negative then negativeWhole significand else .whole significand, cs)
  | _, _, _ =>
    let ds := fraction.getD []
    let (significand, unused) := extendSignificand significand ds
    let scale := (left : Int) - ((ds.length - unused : Nat) : Int) + exponent.getD 0
    if overflows significand scale then .error .malformed else .ok (.fractional, cs)

def number : Reader Number
  | '-' :: cs => unsignedNumber true cs
  | cs => unsignedNumber false cs

/-- Whatever is wrong here is a fault of form. -/
def formOnly : Except Fault α → Except Fault α
  | .ok a => .ok a
  | .error _ => .error .malformed

/-- A number that nobody wants: only its form is checked, and an early end is no excuse. -/
def skipNumber : Reader Unit := fun cs => do
  let cs := match cs with
    | '-' :: cs => cs
    | cs => cs
  let (_, cs) ← formOnly (integerDigits cs)
  let (_, cs) ← formOnly (fractionPart cs)
  let (_, cs) ← formOnly (exponentPart cs)
  return ((), cs)

end Folio.Json
