import Folio.Regex.Bracket
import Folio.Regex.Group

namespace Folio.Regex

/-- A pattern or a group whose end has not been read. -/
structure Level where
  /-- The parenthesis that opened the group. -/
  opening : Option Span
  start : Nat
  /-- The alternatives that are complete. -/
  choices : List Tree
  /-- Where the present alternative begins. -/
  first : Nat
  parts : List Tree

namespace Level

def begin (opening : Option Span) (place : Nat) : Level :=
  ⟨opening, place, [], place, []⟩

def add (l : Level) (part : Tree) : Level :=
  { l with parts := l.parts ++ [part] }

/-- The alternatives, if the present one ends here. -/
def closedChoices (l : Level) (place : Nat) : List Tree :=
  l.choices ++ [.ofParts ⟨l.first, place⟩ l.parts]

def tree (l : Level) (place : Nat) : Tree :=
  .ofChoices ⟨l.start, place⟩ (l.closedChoices place)

end Level

namespace Reader

/-- A decimal number with white space around it. The fault is left to be told about later. -/
def number : Reader (Except Fault Nat) := do
  let _ ← takeRun Text.isBlank
  let start ← place
  let digits ← takeSteps Char.isDigit
  let span ← spanFrom start
  let _ ← takeSteps Text.isBlank
  let n := Text.digitsValue (digits.map (·.2))
  if digits.isEmpty then return .error ⟨.countEmpty, span, none⟩
  else if n < 4294967296 then return .ok n
  else return .error ⟨.number, span, none⟩

/-- The least and the most times between braces. An opening brace without a closing one is told
about before a number that cannot be read. -/
def countRange (start : Nat) : Reader (Nat × Option Nat) := do
  step
  needNext .countUnclosed (← spanFrom start)
  let least ← number
  needNext .countUnclosed (← spanFrom start)
  if (← next?) == some ',' then
    step
    needNext .countUnclosed (← spanFrom start)
    if (← next?) == some '}' then return (← least, none)
    else
      let least ← least
      let most ← number
      return (least, some (← most))
  else
    let n ← least
    return (n, some n)

/-- A sign that asks for the shortest repetition; whether a pattern occurs does not depend on it. -/
def lazySign : Reader Unit := do
  if (← next?) == some '?' then skip

/-- The last part, if it is one that can be repeated, and the level without it. -/
def lastPart (l : Level) : Reader (Tree × Level) := do
  match l.parts.getLast? with
  | none | some .empty | some (.flags _) => fail .repetition (← here)
  | some part => return (part, { l with parts := l.parts.dropLast })

def repeated (l : Level) (part : Tree) (least : Nat) (most : Option Nat) : Reader Level := do
  let start := part.start?.getD 0
  return l.add (.rep (← spanFrom start) least most part)

def signRepetition (l : Level) (least : Nat) (most : Option Nat) : Reader Level := do
  let (part, l) ← lastPart l
  skip
  lazySign
  repeated l part least most

def countRepetition (l : Level) : Reader Level := do
  let (part, l) ← lastPart l
  let start ← place
  let (least, most) ← countRange start
  if (← next?) != some '}' then fail .countUnclosed (← spanFrom start)
  step
  lazySign
  if most.any (· < least) then fail .countRange (← spanFrom start)
  repeated l part least most

/-- A part that is neither a group nor a class between brackets. -/
def primitive : Reader Tree := do
  let span ← nextSpan
  match ← next? with
  | some '\\' =>
    let (span, leaf) ← escape
    return .leaf span leaf
  | some '.' => do skip; return .leaf span .dot
  | some '^' => do skip; return .leaf span (.anchor .lineStart)
  | some '$' => do skip; return .leaf span (.anchor .lineEnd)
  | some c => do skip; return .leaf span (.literal ⟨c, false, span⟩)
  | none => return .empty

def setVerbose (verbose : Bool) : Reader Unit :=
  modify fun k => { k with verbose }

/-- What is left of a level. A group sets again what it found when it ends. -/
def levelFrom : Nat → Level → Reader Tree
  | 0, l => return l.tree (← place)
  | fuel + 1, l => do
    skipBlank
    match ← next?, l.opening with
    | none, none => return l.tree (← place)
    | none, some opening => fail .groupUnclosed opening
    | some ')', none => fail .groupUnopened (← nextSpan)
    | some ')', some _ =>
      let t := l.tree (← place)
      skip
      return t
    | some '(', _ =>
      let verbose := (← get).verbose
      match ← openGroup with
      | .flags fs =>
        setVerbose ((fs.lookup .verbose).getD verbose)
        levelFrom fuel (l.add (.flags fs))
      | .group opening fs =>
        setVerbose ((fs.lookup .verbose).getD verbose)
        let t ← levelFrom fuel (.begin (some opening) (← place))
        setVerbose verbose
        levelFrom fuel (l.add (.group (← spanFrom opening.start) fs t))
    | some '|', _ =>
      let choices := l.closedChoices (← place)
      skip
      levelFrom fuel { l with choices, first := ← place, parts := [] }
    | some '[', _ => levelFrom fuel (l.add (.bracket (← bracket)))
    | some '?', _ => levelFrom fuel (← signRepetition l 0 (some 1))
    | some '*', _ => levelFrom fuel (← signRepetition l 0 none)
    | some '+', _ => levelFrom fuel (← signRepetition l 1 none)
    | some '{', _ => levelFrom fuel (← countRepetition l)
    | some _, _ => levelFrom fuel (l.add (← primitive))

end Reader

/-- A pattern as a tree, or the first fault in it. Only a pattern without another fault is too
deep. -/
def Tree.read (pattern : List Char) : Except Fault Tree := do
  let start : Cursor := ⟨pattern.length, pattern, false, []⟩
  let (t, _) ← (Reader.levelFrom (pattern.length + 1) (.begin none 0)).run start
  match t.tooDeep? nestingLimit with
  | some span => .error ⟨.nesting, span, none⟩
  | none => .ok t

end Folio.Regex
