import Folio.Json.Fault

namespace Folio.Json

abbrev Reader (α : Type) := StateT (List Char) (Except Fault) α

namespace Reader

def fail (fault : Fault) : Reader α :=
  fun _ => .error fault

def isSpace (c : Char) : Bool :=
  c == ' ' || c == '\n' || c == '\t' || c == '\r'

def spaces : Reader Unit :=
  fun cs => .ok ((), cs.dropWhile isSpace)

/-- The next character after white space, which stays where it is. -/
def peek : Reader Char :=
  fun cs =>
    match cs.dropWhile isSpace with
    | [] => .error .truncated
    | c :: rest => .ok (c, c :: rest)

/-- Takes the character that has been peeked at. -/
def skip : Reader Unit :=
  fun cs => .ok ((), cs.tail)

/-- White space, then this mark and no other. -/
def mark (c : Char) : Reader Unit := do
  if (← peek) = c then skip else fail .malformed

/-- Exactly these characters. -/
def word : List Char → Reader Unit
  | [] => pure ()
  | w :: ws => fun cs =>
    match cs with
    | [] => .error .truncated
    | c :: rest => if c = w then word ws rest else .error .malformed

end Reader

/-- Reads a whole text: the value may be followed by white space only. -/
def readAll (r : Reader α) (text : List Char) : Except Fault α := do
  let (a, rest) ← r text
  if rest.all Reader.isSpace then return a else .error .malformed

end Folio.Json
