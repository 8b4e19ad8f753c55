import Folio.Regex.Tree
import Folio.Text.Blank

namespace Folio.Regex

structure Cursor where
  /-- The length of the whole pattern. -/
  length : Nat
  rest : List Char
  /-- Whether white space and comments are passed over. -/
  verbose : Bool
  /-- The names of the groups so far. -/
  names : List (List Char × Span)

abbrev Reader := StateT Cursor (Except Fault)

/-- The text from the first character that is neither white space nor in a comment. A comment begins
with a number sign and ends with the line. -/
def significant (inComment : Bool) : List Char → List Char
  | [] => []
  | c :: cs =>
    if inComment then significant (c != '\n') cs
    else if Text.isBlank c then significant false cs
    else if c == '#' then significant true cs
    else c :: cs

namespace Reader

def fail (cause : Cause) (span : Span) : Reader α :=
  throw ⟨cause, span, none⟩

def place : Reader Nat :=
  return (← get).length - (← get).rest.length

def spanFrom (start : Nat) : Reader Span :=
  return ⟨start, ← place⟩

/-- The empty stretch at the present place. -/
def here : Reader Span := do
  spanFrom (← place)

def next? : Reader (Option Char) :=
  return (← get).rest.head?

/-- The stretch of the next character. -/
def nextSpan : Reader Span :=
  return ⟨← place, (← place) + 1⟩

def skip : Reader Unit :=
  modify fun k => { k with rest := k.rest.tail }

def skipBlank : Reader Unit :=
  modify fun k => if k.verbose then { k with rest := significant false k.rest } else k

/-- Goes over the next character and what is passed over behind it. -/
def step : Reader Unit := do
  skip
  skipBlank

/-- Fails unless there is a next character. -/
def needNext (cause : Cause) (span : Span) : Reader Unit := do
  if (← next?).isNone then fail cause span

/-- Goes over a word if it comes next. -/
def takeWord (word : String) : Reader Bool := do
  let rest := (← get).rest
  if word.toList.isPrefixOf rest then
    modify fun k => { k with rest := rest.drop word.length }
    return true
  else return false

/-- Goes over the first of several words that comes next, if one does. -/
def takeAny : List String → Reader Bool
  | [] => return false
  | word :: words => do
    if ← takeWord word then return true else takeAny words

/-- The longest run of characters that `p` allows, each with its place. -/
def takeRun (p : Char → Bool) : Reader (List (Nat × Char)) := do
  let start ← place
  let run := (← get).rest.takeWhile p
  modify fun k => { k with rest := k.rest.drop run.length }
  return (List.range' start run.length).zip run

def stepsWithin (p : Char → Bool) : Nat → Reader (List (Nat × Char))
  | 0 => return []
  | fuel + 1 => do
    match ← next? with
    | none => return []
    | some c =>
      if p c then
        let n ← place
        step
        return (n, c) :: (← stepsWithin p fuel)
      else return []

/-- The same, going over what is passed over between the characters. -/
def takeSteps (p : Char → Bool) : Reader (List (Nat × Char)) := do
  stepsWithin p (← get).rest.length

end Reader

end Folio.Regex
