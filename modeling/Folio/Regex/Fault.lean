namespace Folio.Regex

/-- A stretch of a pattern, by the numbers of characters in front of its two ends. -/
structure Span where
  start : Nat
  stop : Nat
deriving DecidableEq, Repr

inductive Cause where
  | classEscape
  | classRange
  | classRangeEnd
  | classUnclosed
  | number
  | hexEmpty
  | hexValue
  | hexDigit
  | escapeEnd
  | escape
  | flagNegationLast
  | flagTwice
  | flagNegationTwice
  | flagEnd
  | flag
  | groupNameTwice
  | groupNameEmpty
  | groupName
  | groupNameEnd
  | groupUnclosed
  | groupUnopened
  | nesting
  | countRange
  | countEmpty
  | countUnclosed
  | repetition
  | wordEdgeUnclosed
  | wordEdge
  | wordEdgeOrCountEnd
  | property
  | backreference
  | lookAround
  | notUnicode
  | notText
  | propertyName
  | propertyValue
deriving DecidableEq, Repr

structure Fault where
  cause : Cause
  span : Span
  /-- What came first, if something must not come twice. -/
  first : Option Span
deriving DecidableEq, Repr

/-- How many groups, repetitions, alternatives and classes may stand inside one another. -/
def nestingLimit : Nat := 250

def Cause.message : Cause → String
  | classEscape => "invalid escape sequence found in character class"
  | classRange => "invalid character class range, the start must be <= the end"
  | classRangeEnd => "invalid range boundary, must be a literal"
  | classUnclosed => "unclosed character class"
  | number => "decimal literal invalid"
  | hexEmpty => "hexadecimal literal empty"
  | hexValue => "hexadecimal literal is not a Unicode scalar value"
  | hexDigit => "invalid hexadecimal digit"
  | escapeEnd => "incomplete escape sequence, reached end of pattern prematurely"
  | escape => "unrecognized escape sequence"
  | flagNegationLast => "dangling flag negation operator"
  | flagTwice => "duplicate flag"
  | flagNegationTwice => "flag negation operator repeated"
  | flagEnd => "expected flag but got end of regex"
  | flag => "unrecognized flag"
  | groupNameTwice => "duplicate capture group name"
  | groupNameEmpty => "empty capture group name"
  | groupName => "invalid capture group character"
  | groupNameEnd => "unclosed capture group name"
  | groupUnclosed => "unclosed group"
  | groupUnopened => "unopened group"
  | nesting => s!"exceed the maximum number of nested parentheses/brackets ({nestingLimit})"
  | countRange => "invalid repetition count range, the start must be <= the end"
  | countEmpty => "repetition quantifier expects a valid decimal"
  | countUnclosed => "unclosed counted repetition"
  | repetition => "repetition operator missing expression"
  | wordEdgeUnclosed =>
    "special word boundary assertion is either unclosed or contains an invalid character"
  | wordEdge =>
    "unrecognized special word boundary assertion, " ++
      "valid choices are: start, end, start-half or end-half"
  | wordEdgeOrCountEnd =>
    "found either the beginning of a special word boundary or a bounded repetition " ++
      "on a \\b with an opening brace, but no closing brace"
  | property => "invalid Unicode character class"
  | backreference => "backreferences are not supported"
  | lookAround => "look-around, including look-ahead and look-behind, is not supported"
  | notUnicode => "Unicode not allowed here"
  | notText => "pattern can match invalid UTF-8"
  | propertyName => "Unicode property not found"
  | propertyValue => "Unicode property value not found"

end Folio.Regex
