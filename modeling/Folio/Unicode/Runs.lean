namespace Folio.Unicode

/-- The first and the last code point of each stretch of a set, in ascending order. -/
abbrev Ranges := List (Nat × Nat)

/-- The start of each stretch, in ascending order, with the value that holds up to the next one. -/
abbrev Runs (α : Type) := List (Nat × α)

def Ranges.has (n : Nat) : Ranges → Bool
  | [] => false
  | (first, last) :: rest => first ≤ n && (n ≤ last || has n rest)

/-- The value at a code point; `before` holds in front of the first start. -/
def Runs.value (n : Nat) (before : α) : Runs α → α
  | [] => before
  | (start, a) :: rest => if n < start then before else value n a rest

end Folio.Unicode
