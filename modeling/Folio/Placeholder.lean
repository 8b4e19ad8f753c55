import Folio.Markup.Pattern

namespace Folio.Placeholder
open Markup

/-- A text cut at its placeholders. -/
inductive Piece where
  | char (c : Char)
  | hole (raw : List Char)
deriving DecidableEq

def isOpen (c : Char) : Bool := c != '}'

/-- A placeholder at the head of the text: its name as written. -/
def pattern : Pattern (List Char)
  | '{' :: '{' :: cs =>
    match cs.takeWhile isOpen, cs.dropWhile isOpen with
    | c :: raw, '}' :: '}' :: rest => some (c :: raw, rest)
    | _, _ => none
  | _ => none

/-- The pieces behind `skip` characters that belong to a placeholder already cut out. -/
def piecesFrom : Nat → List Char → List Piece
  | _, [] => []
  | skip + 1, _ :: cs => piecesFrom skip cs
  | 0, c :: cs =>
    match pattern (c :: cs) with
    | some (raw, rest) => .hole raw :: piecesFrom (cs.length - rest.length) cs
    | none => .char c :: piecesFrom 0 cs

/-- Cuts a text from left to right, each placeholder at the leftmost place where one stands. -/
def pieces (cs : List Char) : List Piece :=
  piecesFrom 0 cs

def Piece.name? : Piece → Option String
  | .char _ => none
  | .hole raw => some (String.ofList (Text.trim raw))

/-- The names in order of appearance, repetitions included. -/
def occurrences (markup : String) : List String :=
  (pieces markup.toList).filterMap Piece.name?

/-- Keeps the first of equal elements, leaving out those already seen. -/
def distinctFrom [DecidableEq α] (seen : List α) : List α → List α
  | [] => []
  | a :: as => if a ∈ seen then distinctFrom seen as else a :: distinctFrom (a :: seen) as

def distinct [DecidableEq α] (as : List α) : List α :=
  distinctFrom [] as

/-- The distinct names in order of first appearance. -/
def names (markup : String) : List String :=
  distinct (occurrences markup)

end Folio.Placeholder
