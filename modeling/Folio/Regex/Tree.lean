import Folio.Regex.Expr
import Folio.Regex.Fault

namespace Folio.Regex

/-- A single character, written as itself or escaped. -/
structure Literal where
  char : Char
  /-- Written by two hexadecimal digits, which stand for a byte where characters are bytes. -/
  isByte : Bool
  span : Span
deriving DecidableEq, Repr

inductive Shorthand where
  | digit
  | space
  | word
deriving DecidableEq, Repr

/-- How a class is named behind an escaped `p`. -/
inductive PropertyQuery where
  | name (name : List Char)
  | value (property value : List Char)
deriving DecidableEq, Repr

inductive Anchor where
  | lineStart
  | lineEnd
  | textStart
  | textEnd
  | word (edge : WordEdge)
deriving DecidableEq, Repr

/-- The parts that do not contain others. -/
inductive Leaf where
  | literal (l : Literal)
  | dot
  | anchor (a : Anchor)
  | shorthand (negated : Bool) (s : Shorthand)
  | property (negated : Bool) (q : PropertyQuery)
deriving DecidableEq, Repr

inductive ClassOperator where
  | inter
  | diff
  | symmDiff
deriving DecidableEq, Repr

/-- What stands between brackets. -/
inductive ClassTree where
  | nothing (place : Nat)
  | leaf (span : Span) (l : Leaf)
  | range (first last : Literal)
  | posix (span : Span) (negated : Bool) (set : CharSet)
  | bracket (span : Span) (negated : Bool) (body : ClassTree)
  | union (items : List ClassTree)
  | binary (op : ClassOperator) (left right : ClassTree)

inductive Flag where
  | caseless
  | multiLine
  | dotAll
  | lazy
  | unicode
  | returns
  | verbose
deriving DecidableEq, Repr

/-- Flags with what each is set to. -/
abbrev Flags := List (Flag × Bool)

inductive Tree where
  | empty
  | flags (fs : Flags)
  | leaf (span : Span) (l : Leaf)
  | bracket (c : ClassTree)
  | rep (span : Span) (least : Nat) (most : Option Nat) (t : Tree)
  | group (span : Span) (fs : Flags) (t : Tree)
  | seq (span : Span) (ts : List Tree)
  | alt (span : Span) (ts : List Tree)

/-- Goes on with one level less, or stops at a part for which no level is left. -/
def deeper (room : Nat) (span : Span) (inside : Nat → Option Span) : Option Span :=
  match room with
  | 0 => some span
  | room + 1 => inside room

namespace ClassTree

def ofItems (place : Nat) : List ClassTree → ClassTree
  | [] => nothing place
  | [item] => item
  | items => union items

mutual

def span : ClassTree → Span
  | nothing place => ⟨place, place⟩
  | leaf span _ => span
  | range first last => ⟨first.span.start, last.span.stop⟩
  | posix span _ _ => span
  | bracket span _ _ => span
  | union items => spanOfAll items
  | binary _ left right => ⟨left.span.start, right.span.stop⟩

def spanOfAll : List ClassTree → Span
  | [] => ⟨0, 0⟩
  | [item] => item.span
  | item :: items => ⟨item.span.start, (spanOfAll items).stop⟩

end

mutual

/-- The first part that stands more than `room` levels deep. -/
def tooDeep? (room : Nat) : ClassTree → Option Span
  | nothing _ => none
  | leaf _ _ => none
  | range _ _ => none
  | posix _ _ _ => none
  | bracket span _ body => deeper room span fun room => body.tooDeep? room
  | union items => deeper room (spanOfAll items) fun room => anyTooDeep? room items
  | binary _ left right =>
    deeper room ⟨left.span.start, right.span.stop⟩ fun room =>
      left.tooDeep? room <|> right.tooDeep? room

def anyTooDeep? (room : Nat) : List ClassTree → Option Span
  | [] => none
  | item :: items => item.tooDeep? room <|> anyTooDeep? room items

end

end ClassTree

namespace Tree

def ofParts (span : Span) : List Tree → Tree
  | [] => empty
  | [part] => part
  | parts => seq span parts

def ofChoices (span : Span) : List Tree → Tree
  | [choice] => choice
  | choices => alt span choices

/-- Where a part begins. -/
def start? : Tree → Option Nat
  | empty | flags _ => none
  | bracket c => some c.span.start
  | leaf span _ | rep span _ _ _ | group span _ _ | seq span _ | alt span _ => some span.start

mutual

/-- The first part that stands more than `room` levels deep. -/
def tooDeep? (room : Nat) : Tree → Option Span
  | empty => none
  | flags _ => none
  | leaf _ _ => none
  | bracket c => c.tooDeep? room
  | rep span _ _ t => deeper room span fun room => t.tooDeep? room
  | group span _ t => deeper room span fun room => t.tooDeep? room
  | seq span ts => deeper room span fun room => anyTooDeep? room ts
  | alt span ts => deeper room span fun room => anyTooDeep? room ts

def anyTooDeep? (room : Nat) : List Tree → Option Span
  | [] => none
  | t :: ts => t.tooDeep? room <|> anyTooDeep? room ts

end

end Tree

end Folio.Regex
