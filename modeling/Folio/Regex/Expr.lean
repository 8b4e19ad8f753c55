import Folio.Regex.CharSet

namespace Folio.Regex

/-- A place in a text, by the characters on its two sides. -/
structure Place where
  before : Option Char
  after : Option Char
deriving DecidableEq, Repr

/-- What a place can be to the words of a text. -/
inductive WordEdge where
  | boundary
  | noBoundary
  | start
  | stop
  /-- No word in front. -/
  | startHalf
  /-- No word behind. -/
  | stopHalf
deriving DecidableEq, Repr

/-- What an expression can ask of a place. -/
inductive Look where
  | textStart
  | textEnd
  | lineStart
  | lineEnd
  /-- Lines that end in a carriage return, a line feed, or both in this order. -/
  | returnLineStart
  | returnLineEnd
  | word (edge : WordEdge) (isWord : CharSet)
deriving DecidableEq, Repr

namespace WordEdge

/-- The edge between what may be a word in front and what may be one behind. -/
def holds (before after : Bool) : WordEdge → Bool
  | boundary => before != after
  | noBoundary => before == after
  | start => !before && after
  | stop => before && !after
  | startHalf => !before
  | stopHalf => !after

end WordEdge

def Look.holds (p : Place) : Look → Bool
  | textStart => p.before == none
  | textEnd => p.after == none
  | lineStart => p.before == none || p.before == some '\n'
  | lineEnd => p.after == none || p.after == some '\n'
  | returnLineStart =>
    p.before == none || p.before == some '\n' || p.before == some '\r' && p.after != some '\n'
  | returnLineEnd =>
    p.after == none || p.after == some '\r' || p.after == some '\n' && p.before != some '\r'
  | word edge isWord => edge.holds (p.before.any isWord.has) (p.after.any isWord.has)

inductive Expr where
  | empty
  | look (l : Look)
  | chars (s : CharSet)
  | seq (e f : Expr)
  | alt (e f : Expr)
  /-- As often as `least` times or more, but not more often than `most`. -/
  | rep (e : Expr) (least : Nat) (most : Option Nat)
deriving DecidableEq, Repr

namespace Expr

/-- One expression behind another, without a trace of an empty one. -/
def followedBy : Expr → Expr → Expr
  | empty, f => f
  | e, empty => e
  | e, f => seq e f

/-- Whether the expression is found at a place without reading a character. -/
def holds (p : Place) : Expr → Bool
  | empty => true
  | look l => l.holds p
  | chars _ => false
  | seq e f => e.holds p && f.holds p
  | alt e f => e.holds p || f.holds p
  | rep e least _ => least == 0 || e.holds p

@[simp] theorem holds_followedBy {p : Place} {e f : Expr} :
    (followedBy e f).holds p = (e.holds p && f.holds p) := by
  cases e <;> cases f <;> simp [followedBy, holds]

/-- What may be left of the expression behind a character, which stands behind the place. A
repetition that need not read anything may take as many of its turns here as it likes. -/
def after (p : Place) (c : Char) : Expr → List Expr
  | empty => []
  | look _ => []
  | chars s => if s.has c then [empty] else []
  | seq e f =>
    (e.after p c).map (followedBy · f) ++ if e.holds p then f.after p c else []
  | alt e f => e.after p c ++ f.after p c
  | rep e least most =>
    if most == some 0 then []
    else
      let rest := rep e (if e.holds p then 0 else least - 1) (most.map (· - 1))
      (e.after p c).map (followedBy · rest)

/-- Whether `start`, begun anywhere, or one of the expressions begun before is found in a text. -/
def foundFrom (start : Expr) (begun : List Expr) (before : Option Char) : List Char → Bool
  | [] => (start :: begun).any (holds ⟨before, none⟩)
  | c :: cs =>
    let p : Place := ⟨before, some c⟩
    (start :: begun).any (holds p)
      || foundFrom start ((start :: begun).flatMap (after p c)).eraseDups (some c) cs

/-- Whether the expression occurs in a text. -/
def occursIn (e : Expr) (text : List Char) : Bool :=
  foundFrom e [] none text

end Expr

end Folio.Regex
