import Folio.Regex.Reader

namespace Folio.Regex

/-- What an opening parenthesis begins. -/
inductive Opening where
  | group (span : Span) (fs : Flags)
  /-- Flags for the rest of the group around them. -/
  | flags (fs : Flags)

def flagNamed? : Char → Option Flag
  | 'i' => some .caseless
  | 'm' => some .multiLine
  | 's' => some .dotAll
  | 'U' => some .lazy
  | 'u' => some .unicode
  | 'R' => some .returns
  | 'x' => some .verbose
  | _ => none

/-- Flags as they are written, each with its place; `none` negates those behind it. -/
abbrev WrittenFlags := List (Option Flag × Nat)

/-- Reads flags behind those that were seen before. Nothing may come twice. -/
def writtenFlags (seen : WrittenFlags) : List (Nat × Char) → Except Fault WrittenFlags
  | [] => .ok seen
  | (n, c) :: rest =>
    let span : Span := ⟨n, n + 1⟩
    let known := if c == '-' then some none else (flagNamed? c).map some
    match known with
    | none => .error ⟨.flag, span, none⟩
    | some flag =>
      match seen.find? (·.1 == flag) with
      | some (_, first) =>
        let cause : Cause := if flag.isNone then .flagNegationTwice else .flagTwice
        .error ⟨cause, span, some ⟨first, first + 1⟩⟩
      | none => writtenFlags (seen ++ [(flag, n)]) rest

def WrittenFlags.settings (fs : WrittenFlags) : Flags :=
  let on := (fs.map (·.1)).takeWhile Option.isSome
  let off := (fs.map (·.1)).dropWhile Option.isSome
  on.filterMap (·.map fun f => (f, true)) ++ off.filterMap (·.map fun f => (f, false))

namespace Reader

/-- Flags up to a colon or a closing parenthesis, which comes next. -/
def flags : Reader Flags := do
  let written ← takeRun fun c => c != ':' && c != ')'
  let fs ← writtenFlags [] written
  needNext .flagEnd (← here)
  match fs.getLast? with
  | some (none, n) => fail .flagNegationLast ⟨n, n + 1⟩
  | _ => return fs.settings

def isNameStart (c : Char) : Bool :=
  c == '_' || Unicode.Property.isAlphabetic c.toNat

def isNameCharacter (c : Char) : Bool :=
  isNameStart c || Unicode.Property.isOf Unicode.Category.numbers c.toNat
    || ['.', '[', ']'].contains c

/-- The first character that no name has in its place. -/
def wrongInName? : List (Nat × Char) → Option (Nat × Char)
  | [] => none
  | (n, c) :: cs => if isNameStart c then cs.find? (!isNameCharacter ·.2) else some (n, c)

/-- The name of a group, up to a closing angle bracket. No two groups have one name. -/
def groupName : Reader Unit := do
  let start ← place
  let run ← takeRun (· != '>')
  if let some (n, _) := wrongInName? run then fail .groupName ⟨n, n + 1⟩
  needNext .groupNameEnd (← here)
  let span ← spanFrom start
  skip
  if run.isEmpty then fail .groupNameEmpty span
  let name := run.map (·.2)
  match (← get).names.lookup name with
  | some first => throw ⟨.groupNameTwice, span, some first⟩
  | none => modify fun k => { k with names := (name, span) :: k.names }

/-- Flags behind the question mark of a group. There have to be some if they are for the rest of the
group around them. -/
def flagGroup (opening inner : Span) : Reader Opening := do
  needNext .groupUnclosed opening
  let fs ← flags
  let closes := (← next?) == some ')'
  skip
  if closes then
    if fs.isEmpty then fail .repetition inner
    return .flags fs
  else return .group opening fs

/-- An opening parenthesis and what belongs to it. -/
def openGroup : Reader Opening := do
  let opening ← nextSpan
  step
  if ← takeAny ["?=", "?!", "?<=", "?<!"] then fail .lookAround (← spanFrom opening.start)
  let inner ← here
  if ← takeAny ["?P<", "?<"] then
    groupName
    return .group opening []
  else if ← takeWord "?" then flagGroup opening inner
  else return .group opening []

end Reader

end Folio.Regex
