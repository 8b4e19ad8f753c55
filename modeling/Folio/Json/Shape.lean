import Folio.Json.Skip

namespace Folio.Json
open Reader

/-- A value of another kind than the one wanted. A scalar is read to its end, so that a fault of
form in it comes first. -/
def otherKind : Reader α := do
  match ← peek with
  | 'n' => do skipLetters "ull".toList; fail .mismatch
  | 't' => do skipLetters "rue".toList; fail .mismatch
  | 'f' => do skipLetters "alse".toList; fail .mismatch
  | '"' => do
    skip
    let _ ← stringTail
    fail .mismatch
  | '[' => fail .mismatch
  | '\x7b' => fail .mismatch
  | c =>
    if c = '-' ∨ c.isDigit then do
      let _ ← number
      fail .mismatch
    else fail .malformed

def string : Reader String := do
  if (← peek) = '"' then
    skip
    return String.ofList (← stringTail)
  else otherKind

def bool : Reader Bool := do
  match ← peek with
  | 't' => do skipLetters "rue".toList; return true
  | 'f' => do skipLetters "alse".toList; return false
  | _ => otherKind

/-- A whole number between two bounds. -/
def intBetween (low high : Int) : Reader Int := do
  let c ← peek
  if c = '-' ∨ c.isDigit then
    match ← number with
    | .whole n => if low ≤ n ∧ n ≤ high then return n else fail .mismatch
    | .fractional => fail .mismatch
  else otherKind

def int64 : Reader Int := intBetween (-9223372036854775808) 9223372036854775807

def int32 : Reader Int := intBetween (-2147483648) 2147483647

def null : Reader Unit := do
  if (← peek) = 'n' then skipLetters "ull".toList else otherKind

def optional (r : Reader α) : Reader (Option α) := do
  if (← peek) = 'n' then
    skipLetters "ull".toList
    return none
  else return some (← r)

/-- A text of which another value is made. -/
def parsed (read? : List Char → Option α) : Reader α := do
  match read? (← string).toList with
  | some a => return a
  | none => fail .mismatch

/-- The elements of an array behind its first bracket, which is not empty. -/
def elementsWithin (r : Reader α) : Nat → Reader (List α)
  | 0 => fail .truncated
  | fuel + 1 => do
    let a ← r
    match ← peek with
    | ']' => do skip; return [a]
    | ',' => do
      skip
      if (← peek) = ']' then fail .malformed
      else return a :: (← elementsWithin r fuel)
    | _ => fail .malformed

def list (r : Reader α) : Reader (List α) := do
  if (← peek) = '[' then
    skip
    if (← peek) = ']' then
      skip
      return []
    else fun cs => elementsWithin r cs.length cs
  else otherKind

/-- A named member of a record: reading its value gives the change that stores it. -/
structure Member (α : Type) where
  key : String
  read : Reader (α → α)
  required : Bool

/-- A record: its members in order, and the record before any member has been read. -/
structure Shape (α : Type) where
  start : α
  members : List (Member α)
  /-- Whether an array may end before the last member. -/
  openEnded : Bool

namespace Shape

def complete (s : Shape α) (seen : List String) : Bool :=
  s.members.all fun m => !m.required || m.key ∈ seen

/-- The members of an object from a key on. A key that has been read already is a mismatch. -/
def membersWithin (s : Shape α) : Nat → List String → α → Reader α
  | 0, _, _ => fail .truncated
  | fuel + 1, seen, a => do
    mark '"'
    let key := String.ofList (← stringTail)
    let a ←
      match s.members.find? (·.key == key) with
      | some m => do
        if key ∈ seen then fail .mismatch
        else do
          mark ':'
          let store ← m.read
          pure (store a)
      | none => do
        mark ':'
        skipValue
        pure a
    match ← peek with
    | '\x7d' => if s.complete (key :: seen) then do skip; return a else fail .mismatch
    | ',' => do
      skip
      s.membersWithin fuel (key :: seen) a
    | _ => fail .malformed

def object (s : Shape α) : Reader α := do
  skip
  if (← peek) = '\x7d' then
    if s.complete [] then
      skip
      return s.start
    else fail .mismatch
  else fun cs => s.membersWithin cs.length [] s.start cs

/-- The members still to come in an array; `first` tells that no element has been read yet. -/
def elements (s : Shape α) : List (Member α) → Bool → α → Reader α
  | [], _, a => do
    mark ']'
    return a
  | m :: ms, first, a => do
    match ← peek with
    | ']' => if s.openEnded then do skip; return a else fail .mismatch
    | c =>
      if first then do
        let store ← m.read
        s.elements ms false (store a)
      else if c = ',' then do
        skip
        if (← peek) = ']' then fail .malformed
        else do
          let store ← m.read
          s.elements ms false (store a)
      else fail .malformed

def array (s : Shape α) : Reader α := do
  skip
  s.elements s.members true s.start

/-- A record in either form. -/
def read (s : Shape α) : Reader α := do
  match ← peek with
  | '\x7b' => s.object
  | '[' => s.array
  | _ => otherKind

end Shape

/-- A member with its reader and the way to store what was read. -/
def member (key : String) (r : Reader β) (store : β → α → α) : Member α :=
  ⟨key, store <$> r, true⟩

/-- A member that may be absent; it then keeps its value from the start. -/
def optionalMember (key : String) (r : Reader β) (store : β → α → α) : Member α :=
  ⟨key, store <$> r, false⟩

/-- A tagged value: its tag is the only key of an object. A tag alone, as a string, stands for a
variant without content, if there is one. -/
structure Variants (α : Type) where
  alone : String → Option α
  tagged : String → Option (Reader α)

def Variants.read (v : Variants α) : Reader α := do
  match ← peek with
  | '"' => do
    match v.alone (← string) with
    | some a => return a
    | none => fail .mismatch
  | '\x7b' => do
    skip
    match v.tagged (← string) with
    | none => fail .mismatch
    | some content => do
      mark ':'
      let a ← content
      mark '\x7d'
      return a
  | _ => fail .malformed

end Folio.Json
