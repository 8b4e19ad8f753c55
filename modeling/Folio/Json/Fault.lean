namespace Folio.Json

inductive Fault where
  /-- The text is no JSON. -/
  | malformed
  /-- The text is JSON so far, but not of the kind that is wanted. -/
  | mismatch
  /-- The text ends early. -/
  | truncated
deriving DecidableEq, Repr

end Folio.Json
