import Folio.Regex.Tree

namespace Folio.Regex

/-- How the parts of a pattern are understood. -/
structure Modes where
  caseless : Bool
  multiLine : Bool
  dotAll : Bool
  unicode : Bool
  /-- Whether a carriage return ends a line as well. -/
  returns : Bool
deriving DecidableEq, Repr

namespace Modes

def usual : Modes where
  caseless := false
  multiLine := false
  dotAll := false
  unicode := true
  returns := false

def set (m : Modes) : Flag × Bool → Modes
  | (.caseless, b) => { m with caseless := b }
  | (.multiLine, b) => { m with multiLine := b }
  | (.dotAll, b) => { m with dotAll := b }
  | (.unicode, b) => { m with unicode := b }
  | (.returns, b) => { m with returns := b }
  | (.lazy, _) | (.verbose, _) => m

def setAll (m : Modes) (fs : Flags) : Modes :=
  fs.foldl set m

/-- The set closed under change of case where case does not count. -/
def fold (m : Modes) (s : CharSet) : CharSet :=
  if m.caseless then (if m.unicode then .anyCase s else .anyAsciiCase s) else s

def wordCharacters (m : Modes) : CharSet :=
  if m.unicode then .named .wordCharacter
  else .ofRanges [('0', '9'), ('A', 'Z'), ('_', '_'), ('a', 'z')]

def shorthand (m : Modes) : Shorthand → CharSet
  | .digit => if m.unicode then .named .digit else .range '0' '9'
  | .space => if m.unicode then .named .space else .ofRanges [('\t', '\r'), (' ', ' ')]
  | .word => m.wordCharacters

/-- The characters that a dot does not stand for. -/
def lineEnds (m : Modes) : CharSet :=
  if m.dotAll then .nothing
  else if m.returns then .ofRanges [('\n', '\n'), ('\r', '\r')]
  else .single '\n'

def look (m : Modes) : Anchor → Look
  | .textStart => .textStart
  | .textEnd => .textEnd
  | .lineStart =>
    if m.multiLine then (if m.returns then .returnLineStart else .lineStart) else .textStart
  | .lineEnd => if m.multiLine then (if m.returns then .returnLineEnd else .lineEnd) else .textEnd
  | .word edge => .word edge m.wordCharacters

/-- The complement. A complement among bytes has parts of characters in it. -/
def negate (m : Modes) (span : Span) (negated : Bool) (s : CharSet) : Except Fault CharSet :=
  if !negated then .ok s
  else if m.unicode then .ok (.compl s)
  else .error ⟨.notText, span, none⟩

def literal (m : Modes) (l : Literal) : Except Fault CharSet :=
  if !m.unicode && l.isByte && l.char.toNat ≥ 0x80 then .error ⟨.notText, l.span, none⟩
  else .ok (.single l.char)

/-- A literal as an item of a class, where among bytes only those of ASCII have a place. -/
def classLiteral (m : Modes) (l : Literal) : Except Fault CharSet := do
  let s ← m.literal l
  if !m.unicode && l.char.toNat ≥ 0x80 then .error ⟨.notUnicode, l.span, none⟩ else .ok s

def property (m : Modes) (span : Span) (q : PropertyQuery) : Except Fault CharSet :=
  let found := match q with
    | .name name => Unicode.Class.named name
    | .value property value => Unicode.Class.withValue property value
  if !m.unicode then .error ⟨.notUnicode, span, none⟩
  else
    match found with
    | .ok k => .ok (.named k)
    | .error .unknownProperty => .error ⟨.propertyName, span, none⟩
    | .error .unknownValue => .error ⟨.propertyValue, span, none⟩

end Modes

namespace CharSet

def combine : ClassOperator → CharSet → CharSet → CharSet
  | .inter => inter
  | .diff => diff
  | .symmDiff => symmDiff

/-- The set of a part that is the same in a class and alone. A dot and the edges are no sets. -/
def ofLeaf (m : Modes) (span : Span) : Leaf → Except Fault CharSet
  | .literal l => m.classLiteral l
  | .shorthand negated s => m.negate span negated (m.shorthand s)
  | .property negated q => do m.negate span negated (m.fold (← m.property span q))
  | .dot | .anchor _ => .ok nothing

mutual

def ofClass (m : Modes) : ClassTree → Except Fault CharSet
  | .nothing _ => .ok nothing
  | .leaf span l => ofLeaf m span l
  | .range first last => do
    let _ ← m.classLiteral first
    let _ ← m.classLiteral last
    return range first.char last.char
  | .posix span negated s => m.negate span negated (m.fold s)
  | .bracket span negated body => do m.negate span negated (m.fold (← ofClass m body))
  | .union items => ofItems m items
  | .binary op left right => do
    let s ← ofClass m left
    let t ← ofClass m right
    return combine op (m.fold s) (m.fold t)

def ofItems (m : Modes) : List ClassTree → Except Fault CharSet
  | [] => .ok nothing
  | item :: items => do
    let s ← ofClass m item
    return union s (← ofItems m items)

end

end CharSet

namespace Expr

def ofLeaf (m : Modes) (span : Span) : Leaf → Except Fault Expr
  | .literal l => do return chars (m.fold (← m.literal l))
  | .dot => do return chars (← m.negate span true m.lineEnds)
  | .anchor a => .ok (look (m.look a))
  | leaf => chars <$> CharSet.ofLeaf m span leaf

mutual

/-- The expression of a part, and how the parts behind it are understood. -/
def ofTree (m : Modes) : Tree → Except Fault (Expr × Modes)
  | .empty => .ok (empty, m)
  | .flags fs => .ok (empty, m.setAll fs)
  | .leaf span l => do return (← ofLeaf m span l, m)
  | .bracket c => do return (chars (← CharSet.ofClass m c), m)
  | .rep _ least most t => do
    let (e, m) ← ofTree m t
    return (rep e least most, m)
  | .group _ fs t => do
    let (e, _) ← ofTree (m.setAll fs) t
    return (e, m)
  | .seq _ ts => ofParts m ts
  | .alt _ ts => ofChoices m ts

def ofParts (m : Modes) : List Tree → Except Fault (Expr × Modes)
  | [] => .ok (empty, m)
  | t :: ts => do
    let (e, m) ← ofTree m t
    let (f, m) ← ofParts m ts
    return (e.followedBy f, m)

def ofChoices (m : Modes) : List Tree → Except Fault (Expr × Modes)
  | [] => .ok (chars .nothing, m)
  | t :: ts => do
    let (e, m) ← ofTree m t
    let (f, m) ← ofChoices m ts
    return (alt e f, m)

end

end Expr

end Folio.Regex
