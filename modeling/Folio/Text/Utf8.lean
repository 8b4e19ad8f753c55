namespace Folio.Text

def replacement : Char := '\uFFFD'

/-- The number of bytes that follow a first byte and the bounds of the first of them. -/
def following (b : Nat) : Option (Nat × Nat × Nat) :=
  if 0xC2 ≤ b ∧ b ≤ 0xDF then some (1, 0x80, 0xBF)
  else if b = 0xE0 then some (2, 0xA0, 0xBF)
  else if b = 0xED then some (2, 0x80, 0x9F)
  else if 0xE1 ≤ b ∧ b ≤ 0xEF then some (2, 0x80, 0xBF)
  else if b = 0xF0 then some (3, 0x90, 0xBF)
  else if 0xF1 ≤ b ∧ b ≤ 0xF3 then some (3, 0x80, 0xBF)
  else if b = 0xF4 then some (3, 0x80, 0x8F)
  else none

/-- The bits of a first byte that belong to the character. -/
def leadingBits (b more : Nat) : Nat :=
  b % Nat.pow 2 (6 - more)

/-- A character that is being read: its bits so far, how many bytes are missing, and the bounds of
the next one. -/
structure Partial where
  bits : Nat
  missing : Nat
  low : Nat
  high : Nat

/-- The text of the bytes, given the character that has been begun. -/
def lossyFrom : Option Partial → List UInt8 → List Char
  | none, [] => []
  | some _, [] => [replacement]
  | pending, byte :: bytes =>
    let b := byte.toNat
    let fresh : List Char :=
      if b < 0x80 then Char.ofNat b :: lossyFrom none bytes
      else
        match following b with
        | some (more, low, high) => lossyFrom (some ⟨leadingBits b more, more, low, high⟩) bytes
        | none => replacement :: lossyFrom none bytes
    match pending with
    | none => fresh
    | some p =>
      if p.low ≤ b ∧ b ≤ p.high then
        let bits := p.bits * 64 + b % 64
        if p.missing = 1 then Char.ofNat bits :: lossyFrom none bytes
        else lossyFrom (some ⟨bits, p.missing - 1, 0x80, 0xBF⟩) bytes
      else replacement :: fresh

def lossyText (bytes : List UInt8) : String :=
  String.ofList (lossyFrom none bytes)

end Folio.Text
