import Folio.Json.Number
import Folio.Json.Text

namespace Folio.Json
open Reader

def skipLetters (ws : List Char) : Reader Unit := do
  skip
  word ws

mutual

/-- Passes over one value. The bound is on the rounds, of which every two take a character. -/
def skipWithin : Nat → Reader Unit
  | 0 => fail .truncated
  | fuel + 1 => do
    match ← peek with
    | 'n' => skipLetters "ull".toList
    | 't' => skipLetters "rue".toList
    | 'f' => skipLetters "alse".toList
    | '"' => do skip; skipStringTail
    | '[' => do
      skip
      if (← peek) = ']' then skip else skipElementsWithin fuel
    | '\x7b' => do
      skip
      if (← peek) = '\x7d' then skip else skipMembersWithin fuel
    | c => if c = '-' ∨ c.isDigit then skipNumber else fail .malformed

def skipElementsWithin : Nat → Reader Unit
  | 0 => fail .truncated
  | fuel + 1 => do
    skipWithin fuel
    match ← peek with
    | ']' => skip
    | ',' => do skip; skipElementsWithin fuel
    | _ => fail .malformed

def skipMembersWithin : Nat → Reader Unit
  | 0 => fail .truncated
  | fuel + 1 => do
    mark '"'
    skipStringTail
    mark ':'
    skipWithin fuel
    match ← peek with
    | '\x7d' => skip
    | ',' => do skip; skipMembersWithin fuel
    | _ => fail .malformed

end

def skipValue : Reader Unit :=
  fun cs => skipWithin (2 * cs.length + 2) cs

end Folio.Json
