import Folio.Regex.Reader
import Folio.Text.Numeral

namespace Folio.Regex.Reader

def charOfHex? (digits : List Char) : Option Char :=
  let n := digits.foldl (fun n d => 16 * n + (Text.hexValue d).getD 0) 0
  if n.isValidChar then some (Char.ofNat n) else none

def isHexDigit (c : Char) : Bool :=
  (Text.hexValue c).isSome

/-- A fixed number of hexadecimal digits. -/
def hexDigits : Nat → Reader (List Char)
  | 0 => return []
  | n + 1 => do
    match ← next? with
    | none => fail .escapeEnd (← here)
    | some c =>
      if !isHexDigit c then fail .hexDigit (← nextSpan)
      step
      return c :: (← hexDigits n)

/-- A character by its code, in as many digits as there have to be or between braces. -/
def hexLiteral (start count : Nat) : Reader Literal := do
  step
  needNext .escapeEnd (← here)
  let first ← place
  if (← next?) == some '{' then
    step
    let digits ← takeSteps isHexDigit
    needNext .escapeEnd (← spanFrom first)
    if (← next?) != some '}' then fail .hexDigit (← nextSpan)
    let stop ← place
    step
    if digits.isEmpty then fail .hexEmpty (← spanFrom first)
    match charOfHex? (digits.map (·.2)) with
    | some c => return ⟨c, false, ← spanFrom start⟩
    | none => fail .hexValue ⟨first + 1, stop⟩
  else
    let digits ← hexDigits count
    match charOfHex? digits with
    | some c => return ⟨c, count == 2, ← spanFrom start⟩
    | none => fail .hexValue (← spanFrom first)

/-- The two parts of a text around the first occurrence of a word. -/
def splitAround? (word : List Char) : List Char → Option (List Char × List Char)
  | [] => none
  | c :: cs =>
    if word.isPrefixOf (c :: cs) then some ([], (c :: cs).drop word.length)
    else (splitAround? word cs).map fun (left, right) => (c :: left, right)

/-- What is asked for between braces; an unequal sign negates the class. -/
def propertyQuery (text : List Char) : Bool × PropertyQuery :=
  match splitAround? ['!', '='] text, splitAround? [':'] text, splitAround? ['='] text with
  | some (p, v), _, _ => (true, .value p v)
  | none, some (p, v), _ => (false, .value p v)
  | none, none, some (p, v) => (false, .value p v)
  | none, none, none => (false, .name text)

def propertyClass (negated : Bool) : Reader Leaf := do
  step
  match ← next? with
  | none => fail .escapeEnd (← here)
  | some '{' =>
    step
    let text ← takeSteps (· != '}')
    needNext .escapeEnd (← here)
    skip
    let (unequal, query) := propertyQuery (text.map (·.2))
    return .property (negated != unequal) query
  | some '\\' => fail .property (← nextSpan)
  | some c =>
    step
    return .property negated (.name [c])

def edgeNamed? : String → Option WordEdge
  | "start" => some .start
  | "end" => some .stop
  | "start-half" => some .startHalf
  | "end-half" => some .stopHalf
  | _ => none

/-- The name of a word edge between braces. Braces that do not begin like a name are left to be read
as a count. -/
def namedEdge? (start : Nat) : Reader (Option WordEdge) := do
  let isEdgeChar (c : Char) : Bool := c.isAlpha || c == '-'
  let before ← get
  let brace ← place
  step
  needNext .wordEdgeOrCountEnd (← spanFrom start)
  if (← next?).any isEdgeChar then
    let first ← place
    let name ← takeSteps isEdgeChar
    if (← next?) != some '}' then fail .wordEdgeUnclosed (← spanFrom brace)
    let stop ← place
    skip
    match edgeNamed? (String.ofList (name.map (·.2))) with
    | some edge => return some edge
    | none => fail .wordEdge ⟨first, stop⟩
  else
    set before
    return none

/-- A character that a single letter stands for, or that stands for itself when escaped. -/
def escapedChar? (c : Char) : Option Char :=
  match c with
  | 'a' => some '\x07'
  | 'f' => some '\x0c'
  | 't' => some '\t'
  | 'n' => some '\n'
  | 'r' => some '\r'
  | 'v' => some '\x0b'
  | c => if c.toNat < 0x80 && !c.isAlphanum && c != '<' && c != '>' then some c else none

def escapedLeaf? : Char → Option Leaf
  | 'd' => some (.shorthand false .digit)
  | 's' => some (.shorthand false .space)
  | 'w' => some (.shorthand false .word)
  | 'D' => some (.shorthand true .digit)
  | 'S' => some (.shorthand true .space)
  | 'W' => some (.shorthand true .word)
  | 'A' => some (.anchor .textStart)
  | 'z' => some (.anchor .textEnd)
  | 'B' => some (.anchor (.word .noBoundary))
  | '<' => some (.anchor (.word .start))
  | '>' => some (.anchor (.word .stop))
  | _ => none

/-- What an escape stands for, and its stretch. -/
def escape : Reader (Span × Leaf) := do
  let start ← place
  skip
  let hex (count : Nat) : Reader (Span × Leaf) := do
    let l ← hexLiteral start count
    return (l.span, .literal l)
  match ← next? with
  | none => fail .escapeEnd (← spanFrom start)
  | some 'x' => hex 2
  | some 'u' => hex 4
  | some 'U' => hex 8
  | some 'p' =>
    let leaf ← propertyClass false
    return (← spanFrom start, leaf)
  | some 'P' =>
    let leaf ← propertyClass true
    return (← spanFrom start, leaf)
  | some 'b' =>
    skip
    let edge ← if (← next?) == some '{' then namedEdge? start else pure none
    return (← spanFrom start, .anchor (.word (edge.getD .boundary)))
  | some c =>
    skip
    let span ← spanFrom start
    if c.isDigit then fail .backreference span
    match escapedLeaf? c, escapedChar? c with
    | some leaf, _ => return (span, leaf)
    | none, some d => return (span, .literal ⟨d, false, span⟩)
    | none, none => fail .escape span

end Folio.Regex.Reader
