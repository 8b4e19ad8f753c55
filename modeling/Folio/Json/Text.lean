import Folio.Json.Reader
import Folio.Text.Numeral

namespace Folio.Json

def hexDigit (n : Nat) : Char :=
  if n < 10 then Char.ofNat ('0'.toNat + n) else Char.ofNat ('a'.toNat + (n - 10))

def writeChar (c : Char) : List Char :=
  if c = '"' then ['\\', '"']
  else if c = '\\' then ['\\', '\\']
  else if c = '\x08' then ['\\', 'b']
  else if c = '\t' then ['\\', 't']
  else if c = '\n' then ['\\', 'n']
  else if c = '\x0c' then ['\\', 'f']
  else if c = '\r' then ['\\', 'r']
  else if c.toNat < 0x20 then
    ['\\', 'u', '0', '0', hexDigit (c.toNat / 16), hexDigit (c.toNat % 16)]
  else [c]

def writeString (s : String) : List Char :=
  '"' :: s.toList.flatMap writeChar ++ ['"']

/-- Four hexadecimal digits. The text ends early only if fewer than four bytes are left. -/
def hexQuad (cs : List Char) : Except Fault (Nat × List Char) :=
  if (String.ofList (cs.take 4)).utf8ByteSize < 4 then .error .truncated
  else
    match cs with
    | a :: b :: c :: d :: rest =>
      match Text.hexValue a, Text.hexValue b, Text.hexValue c, Text.hexValue d with
      | some a, some b, some c, some d => .ok (((a * 16 + b) * 16 + c) * 16 + d, rest)
      | _, _, _, _ => .error .malformed
    | _ => .error .malformed

/-- What a backslash may stand before: a character with a short escape, or a UTF-16 unit. -/
inductive Escape where
  | char (c : Char)
  | unit (n : Nat)

def readEscape : List Char → Except Fault (Escape × List Char)
  | [] => .error .truncated
  | '"' :: rest => .ok (.char '"', rest)
  | '\\' :: rest => .ok (.char '\\', rest)
  | '/' :: rest => .ok (.char '/', rest)
  | 'b' :: rest => .ok (.char '\x08', rest)
  | 'f' :: rest => .ok (.char '\x0c', rest)
  | 'n' :: rest => .ok (.char '\n', rest)
  | 'r' :: rest => .ok (.char '\r', rest)
  | 't' :: rest => .ok (.char '\t', rest)
  | 'u' :: rest => (hexQuad rest).map fun (n, rest) => (.unit n, rest)
  | _ => .error .malformed

def isHighSurrogate (n : Nat) : Bool := 0xD800 ≤ n && n ≤ 0xDBFF

def isLowSurrogate (n : Nat) : Bool := 0xDC00 ≤ n && n ≤ 0xDFFF

/-- The low half of a surrogate pair, as an escaped unit. -/
def lowHalf : List Char → Except Fault (Nat × List Char)
  | [] => .error .truncated
  | ['\\'] => .error .truncated
  | '\\' :: 'u' :: rest => do
    let (n, rest) ← hexQuad rest
    if isLowSurrogate n then .ok (n, rest) else .error .malformed
  | _ => .error .malformed

/-- The character behind a backslash. -/
def escapedChar (cs : List Char) : Except Fault (Char × List Char) := do
  match ← readEscape cs with
  | (.char c, rest) => .ok (c, rest)
  | (.unit n, rest) =>
    if isLowSurrogate n then .error .malformed
    else if isHighSurrogate n then do
      let (low, rest) ← lowHalf rest
      .ok (Char.ofNat ((n - 0xD800) * 0x400 + (low - 0xDC00) + 0x10000), rest)
    else .ok (Char.ofNat n, rest)

/-- The rest of a string behind its opening quote; every round takes at least one character. -/
def stringWithin : Nat → List Char → Except Fault (List Char × List Char)
  | 0, _ => .error .truncated
  | _ + 1, [] => .error .truncated
  | _ + 1, '"' :: rest => .ok ([], rest)
  | fuel + 1, '\\' :: rest => do
    let (c, rest) ← escapedChar rest
    let (s, rest) ← stringWithin fuel rest
    .ok (c :: s, rest)
  | fuel + 1, c :: rest =>
    if c.toNat < 0x20 then .error .malformed
    else do
      let (s, rest) ← stringWithin fuel rest
      .ok (c :: s, rest)

def stringTail : Reader (List Char) :=
  fun cs => stringWithin cs.length cs

/-- The rest of a string that nobody wants: its escapes are only checked for their form. -/
def skipStringWithin : Nat → List Char → Except Fault (List Char)
  | 0, _ => .error .truncated
  | _ + 1, [] => .error .truncated
  | _ + 1, '"' :: rest => .ok rest
  | fuel + 1, '\\' :: rest => do
    let (_, rest) ← readEscape rest
    skipStringWithin fuel rest
  | fuel + 1, c :: rest =>
    if c.toNat < 0x20 then .error .malformed else skipStringWithin fuel rest

def skipStringTail : Reader Unit :=
  fun cs => (skipStringWithin cs.length cs).map fun rest => ((), rest)

end Folio.Json
