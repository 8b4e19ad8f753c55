import Folio.Regex.Meaning
import Folio.Regex.Pattern

namespace Folio

structure Regex where
  expr : Regex.Expr
deriving DecidableEq, Repr

namespace Regex

/-- A fault in how the pattern is written comes before one in what it means. -/
def ofPattern (pattern : String) : Except Fault Regex := do
  let t ← Tree.read pattern.toList
  let (expr, _) ← Expr.ofTree .usual t
  return ⟨expr⟩

def occursIn (r : Regex) (text : String) : Bool :=
  r.expr.occursIn text.toList

end Regex

end Folio
