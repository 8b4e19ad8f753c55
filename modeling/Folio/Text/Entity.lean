import Folio.Text.Entity.Names
import Folio.Text.Escape
import Folio.Text.Numeral

namespace Folio.Text.Entity

def named (name : List Char) : Option Char :=
  match name with
  | [] => none
  | c :: _ => ((tableOf c).lookup (String.ofList name)).map Char.ofNat

def digitValue (c : Char) : Option Nat :=
  if c.isDigit then some (c.toNat - '0'.toNat) else none

/-- A non-empty numeral, most significant digit first. -/
def numeral (base : Nat) (digit : Char → Option Nat) : List Char → Option Nat
  | [] => none
  | cs => cs.foldl (fun n c => do return (← n) * base + (← digit c)) (some 0)

/-- A reference by number may name any scalar value but a control character below the space;
tab, line feed, form feed and carriage return are allowed. -/
def numbered (n : Nat) : Option Char :=
  if n.isValidChar ∧ (0x20 ≤ n ∨ n = 0x09 ∨ n = 0x0A ∨ n = 0x0C ∨ n = 0x0D) then
    some (Char.ofNat n)
  else none

/-- What stands between the ampersand and the semicolon. -/
def resolve : List Char → Option Char
  | '#' :: 'x' :: digits => numeral 16 hexValue digits >>= numbered
  | '#' :: 'X' :: digits => numeral 16 hexValue digits >>= numbered
  | '#' :: digits => numeral 10 digitValue digits >>= numbered
  | name => named name

/-- The body of a possible reference: up to the next semicolon, without a further ampersand. -/
def body : List Char → Option (List Char)
  | [] => none
  | ';' :: _ => some []
  | '&' :: _ => none
  | c :: cs => (body cs).map (c :: ·)

/-- Decodes after `skip` characters that belong to a reference already decoded. -/
def decodeFrom : Nat → List Char → List Char
  | _, [] => []
  | skip + 1, _ :: cs => decodeFrom skip cs
  | 0, '&' :: cs =>
    match body cs with
    | none => '&' :: decodeFrom 0 cs
    | some b =>
      match resolve b with
      | some c => c :: decodeFrom (b.length + 1) cs
      | none => '&' :: decodeFrom 0 cs
  | 0, c :: cs => c :: decodeFrom 0 cs

def decode (cs : List Char) : List Char :=
  decodeFrom 0 cs

theorem resolve_amp : resolve ['a', 'm', 'p'] = some '&' := by
  decide +kernel

theorem resolve_lt : resolve ['l', 't'] = some '<' := by
  decide +kernel

theorem resolve_gt : resolve ['g', 't'] = some '>' := by
  decide +kernel

theorem decodeFrom_cons {c : Char} (hc : c ≠ '&') (cs : List Char) :
    decodeFrom 0 (c :: cs) = c :: decodeFrom 0 cs := by
  rw [decodeFrom]
  exact hc

theorem decode_escapeChar (c : Char) (cs : List Char) :
    decode (escapeChar c ++ cs) = c :: decode cs := by
  simp only [decode]
  unfold escapeChar
  split
  · simp [decodeFrom, body, resolve_amp]
  · simp [decodeFrom, body, resolve_lt]
  · simp [decodeFrom, body, resolve_gt]
  · next h _ _ => exact decodeFrom_cons h cs

theorem decode_escape_append (as cs : List Char) :
    decode (escape as ++ cs) = as ++ decode cs := by
  induction as with
  | nil => rfl
  | cons a as ih => rw [escape_cons, List.append_assoc, decode_escapeChar, ih, List.cons_append]

theorem decode_escape (cs : List Char) : decode (escape cs) = cs := by
  simpa [decode, decodeFrom] using decode_escape_append cs []

end Folio.Text.Entity
