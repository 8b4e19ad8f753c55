import Folio.Text.Blank

namespace Folio.Markup

abbrev Pattern (α : Type) := List Char → Option (α × List Char)

namespace Pattern

def literal (word : List Char) : Pattern Unit :=
  fun cs => if word.isPrefixOf cs then some ((), cs.drop word.length) else none

/-- As much white space as there is. -/
def blanks : Pattern Unit :=
  fun cs => some ((), cs.dropWhile Text.isBlank)

/-- At least one white space character, then as much as there is. -/
def blanks₁ : Pattern Unit
  | c :: cs => if Text.isBlank c then some ((), cs.dropWhile Text.isBlank) else none
  | [] => none

/-- Everything up to and including the next closing angle bracket. -/
def toTagEnd : Pattern Unit
  | [] => none
  | c :: cs => if c = '>' then some ((), cs) else toTagEnd cs

def andThen (p : Pattern α) (q : Pattern β) : Pattern β :=
  fun cs => (p cs).bind fun (_, rest) => q rest

/-- The shortest run of allowed characters behind which `stop` matches. -/
def upTo (allowed : Char → Bool) (stop : Pattern α) : Pattern (List Char × α)
  | [] => (stop []).map fun (a, rest) => (([], a), rest)
  | c :: cs =>
    match stop (c :: cs) with
    | some (a, rest) => some (([], a), rest)
    | none =>
      if allowed c then (upTo allowed stop cs).map fun ((run, a), rest) => ((c :: run, a), rest)
      else none

/-- The text up to a closing word, which is not part of it. -/
def contentTo (allowed : Char → Bool) (close : List Char) : Pattern (List Char) :=
  fun cs => (upTo allowed (literal close) cs).map fun ((run, _), rest) => (run, rest)

/-- The opening tag `name`, with or without attributes. -/
def opener (name : List Char) : Pattern Unit :=
  andThen (literal ('<' :: name)) fun
    | c :: cs => if c = '>' then some ((), cs) else if Text.isBlank c then toTagEnd cs else none
    | [] => none

end Pattern

/-- The leftmost match and the text behind it. -/
def firstMatch (p : Pattern α) : Pattern α
  | [] => p []
  | c :: cs =>
    match p (c :: cs) with
    | some found => some found
    | none => firstMatch p cs

/-- The matches from left to right after `skip` characters that an earlier match has taken. -/
def matchesFrom (p : Pattern α) : Nat → List Char → List α
  | _, [] => []
  | skip + 1, _ :: cs => matchesFrom p skip cs
  | 0, c :: cs =>
    match p (c :: cs) with
    | some (a, rest) => a :: matchesFrom p (cs.length - rest.length) cs
    | none => matchesFrom p 0 cs

/-- All matches from left to right, none overlapping another. -/
def allMatches (p : Pattern α) (cs : List Char) : List α :=
  matchesFrom p 0 cs

end Folio.Markup
