import Folio.Regex.Escape

namespace Folio.Regex

/-- The classes that are named between brackets and colons. -/
def posixSet? : String → Option CharSet
  | "alnum" => some (.ofRanges [('0', '9'), ('A', 'Z'), ('a', 'z')])
  | "alpha" => some (.ofRanges [('A', 'Z'), ('a', 'z')])
  | "ascii" => some (.range '\x00' '\x7f')
  | "blank" => some (.ofRanges [('\t', '\t'), (' ', ' ')])
  | "cntrl" => some (.ofRanges [('\x00', '\x1f'), ('\x7f', '\x7f')])
  | "digit" => some (.range '0' '9')
  | "graph" => some (.range '!' '~')
  | "lower" => some (.range 'a' 'z')
  | "print" => some (.range ' ' '~')
  | "punct" => some (.ofRanges [('!', '/'), (':', '@'), ('[', '`'), ('\x7b', '~')])
  | "space" => some (.ofRanges [('\t', '\r'), (' ', ' ')])
  | "upper" => some (.range 'A' 'Z')
  | "word" => some (.ofRanges [('0', '9'), ('A', 'Z'), ('_', '_'), ('a', 'z')])
  | "xdigit" => some (.ofRanges [('0', '9'), ('A', 'F'), ('a', 'f')])
  | _ => none

/-- A class named between brackets and colons, whether it is negated, and the text behind it. -/
def posix? : List Char → Option (Bool × CharSet × List Char)
  | '[' :: ':' :: cs =>
    let negated := cs.head? == some '^'
    let cs := if negated then cs.tail else cs
    let name := cs.takeWhile (· != ':')
    match cs.drop name.length with
    | ':' :: ']' :: rest => (posixSet? (String.ofList name)).map fun s => (negated, s, rest)
    | _ => none
  | _ => none

def classOperator? : List Char → Option ClassOperator
  | '&' :: '&' :: _ => some .inter
  | '-' :: '-' :: _ => some .diff
  | '~' :: '~' :: _ => some .symmDiff
  | _ => none

/-- A class whose closing bracket has not been read. -/
structure OpenBracket where
  /-- The opening bracket and what belongs to it. -/
  opening : Span
  negated : Bool
  /-- An operator that waits for its right side. -/
  pending : Option (ClassTree × ClassOperator)
  /-- Where the list of items begins. -/
  start : Nat
  items : List ClassTree

namespace OpenBracket

def add (b : OpenBracket) (item : ClassTree) : OpenBracket :=
  { b with items := b.items ++ [item] }

def body (b : OpenBracket) : ClassTree :=
  let right := ClassTree.ofItems b.start b.items
  match b.pending with
  | none => right
  | some (left, op) => .binary op left right

/-- Takes all that has been read as the left side of an operator. -/
def operate (b : OpenBracket) (op : ClassOperator) (place : Nat) : OpenBracket :=
  { b with pending := some (b.body, op), start := place, items := [] }

end OpenBracket

namespace Reader

/-- The opening bracket, with the characters that stand for themselves only behind it: hyphens, and
a closing bracket in the first place. -/
def openBracket : Reader OpenBracket := do
  let start ← place
  step
  needNext .classUnclosed (← spanFrom start)
  let negated := (← next?) == some '^'
  if negated then step
  needNext .classUnclosed (← spanFrom start)
  let first ← place
  let literal (n : Nat) (c : Char) : ClassTree :=
    .leaf ⟨n, n + 1⟩ (.literal ⟨c, false, ⟨n, n + 1⟩⟩)
  let hyphens ← takeSteps (· == '-')
  needNext .classUnclosed ⟨start, start⟩
  if hyphens.isEmpty && (← next?) == some ']' then
    step
    needNext .classUnclosed (← spanFrom start)
    return ⟨← spanFrom start, negated, none, first, [literal first ']']⟩
  else return ⟨← spanFrom start, negated, none, first, hyphens.map fun (n, c) => literal n c⟩

/-- A character or an escape. -/
def classLeaf : Reader (Span × Leaf) := do
  match ← next? with
  | some '\\' => escape
  | some c =>
    let span ← nextSpan
    skip
    return (span, .literal ⟨c, false, span⟩)
  | none => fail .classUnclosed (← here)

def singleItem (span : Span) (leaf : Leaf) : Reader ClassTree :=
  match leaf with
  | .anchor _ | .dot => fail .classEscape span
  | leaf => return .leaf span leaf

def rangeEnd (span : Span) (leaf : Leaf) : Reader Literal :=
  match leaf with
  | .literal l => return l
  | _ => fail .classRangeEnd span

/-- The character behind the next one, going over what is passed over. The sign that begins a
comment is gone over alone. -/
def secondSignificant? : Reader (Option Char) := do
  let k ← get
  if k.verbose then
    match k.rest.tail.dropWhile Text.isBlank with
    | '#' :: cs => return (cs.dropWhile Text.isBlank).head?
    | cs => return cs.head?
  else return k.rest.tail.head?

/-- One item or a stretch between two. A hyphen in front of the closing bracket or of another hyphen
makes no stretch. -/
def classItem (opening : Span) : Reader ClassTree := do
  let (span, leaf) ← classLeaf
  skipBlank
  needNext .classUnclosed opening
  let second ← secondSignificant?
  if (← next?) != some '-' || second == some ']' || second == some '-' then singleItem span leaf
  else
    step
    needNext .classUnclosed opening
    let (lastSpan, lastLeaf) ← classLeaf
    let first ← rangeEnd span leaf
    let last ← rangeEnd lastSpan lastLeaf
    if last.char < first.char then fail .classRange ⟨span.start, lastSpan.stop⟩
    return .range first last

def bracketFrom : Nat → OpenBracket → Reader ClassTree
  | 0, b => fail .classUnclosed b.opening
  | fuel + 1, b => do
    skipBlank
    let rest := (← get).rest
    match posix? rest, classOperator? rest, rest.head? with
    | some (negated, set, rest), _, _ =>
      let start ← place
      modify fun k => { k with rest }
      bracketFrom fuel (b.add (.posix (← spanFrom start) negated set))
    | none, some op, _ =>
      skip
      skip
      bracketFrom fuel (b.operate op (← place))
    | none, none, some '[' =>
      let inner ← bracketFrom fuel (← openBracket)
      bracketFrom fuel (b.add inner)
    | none, none, some ']' =>
      skip
      return .bracket (← spanFrom b.opening.start) b.negated b.body
    | none, none, some _ =>
      let item ← classItem b.opening
      bracketFrom fuel (b.add item)
    | none, none, none => fail .classUnclosed b.opening

/-- A class from its opening bracket on. -/
def bracket : Reader ClassTree := do
  let length := (← get).rest.length
  bracketFrom length (← openBracket)

end Reader

end Folio.Regex
