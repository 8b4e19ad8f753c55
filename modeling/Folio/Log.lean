import Folio.Regex
import Folio.Regex.Report

namespace Folio

inductive Level where
  | error
  | warn
  | info
  | debug
deriving DecidableEq, Repr

namespace Level

/-- Greater for what is told about less often. -/
def rank : Level → Nat
  | error => 1
  | warn => 2
  | info => 3
  | debug => 4

def name : Level → String
  | error => "ERROR"
  | warn => "WARN"
  | info => "INFO"
  | debug => "DEBUG"

end Level

structure Event where
  level : Level
  target : String
  message : String
deriving DecidableEq, Repr

/-- The message as it is shown: its lines but the first are indented. -/
def Event.shownMessage (e : Event) : String :=
  String.ofList ("\n    ".toList.intercalate (Text.cutAt '\n' e.message.toList))

/-- The greatest rank that is shown, for the targets that begin with a name. -/
structure Limit where
  target : Option String
  rank : Nat
deriving DecidableEq, Repr

structure LogFilter where
  limits : List Limit
  /-- What has to occur in every message. -/
  pattern : Option Regex
deriving DecidableEq, Repr

namespace LogFilter

/-- The rank that a word stands for, in either case. -/
def rankNamed? (word : List Char) : Option Nat :=
  match String.ofList (word.map Char.toLower) with
  | "off" => some 0
  | "error" => some 1
  | "warn" => some 2
  | "info" => some 3
  | "debug" => some 4
  | "trace" => some 5
  | _ => none

def everything : Nat := 5

/-- One part of a filter: a level, a target, or a target with its level. A part that is none of
these is given back as it is reported. -/
def limit? (part : List Char) : Except String Limit :=
  match Text.cutAt '=' part with
  | [word] =>
    match rankNamed? word with
    | some rank => .ok ⟨none, rank⟩
    | none => .ok ⟨some (String.ofList word), everything⟩
  | [target, level] =>
    let level := Text.trim level
    if level.isEmpty then .ok ⟨some (String.ofList target), everything⟩
    else
      match rankNamed? level with
      | some rank => .ok ⟨some (String.ofList target), rank⟩
      | none => .error (String.ofList level)
  | _ => .error (String.ofList part)

/-- A later limit for the same target takes the place of the earlier one. -/
def addLimit (limits : List Limit) (l : Limit) : List Limit :=
  if limits.any (·.target == l.target) then
    limits.map fun old => if old.target == l.target then l else old
  else limits ++ [l]

def warning (text : String) : String :=
  s!"warning: {text}, ignoring it"

def invalidPart (text : String) : String :=
  s!"invalid logging spec '{text}'"

/-- Without any limit, errors are shown. -/
def withDefault (limits : List Limit) : List Limit :=
  if limits.isEmpty then [⟨none, Level.error.rank⟩] else limits

/-- The limits of a filter, and the parts that cannot be read. -/
def readLimits (text : List Char) : List Limit × List String :=
  let parts := ((Text.cutAt ',' text).map Text.trim).filter (!·.isEmpty)
  let read := parts.map limit?
  let good := read.filterMap fun r => match r with | .ok l => some l | .error _ => none
  let bad := read.filterMap fun r => match r with | .ok _ => none | .error text => some text
  (withDefault (good.foldl addLimit []), bad)

/-- The pattern behind the slash of a filter, or why it is none. -/
def readPattern : List (List Char) → Except String (Option Regex)
  | [] => .ok none
  | text :: _ =>
    let pattern := String.ofList text
    match Regex.ofPattern pattern with
    | .ok r => .ok (some r)
    | .error fault => .error s!"invalid regex filter - {fault.report pattern}"

/-- Reads a filter; what cannot be read is left out, each time with a warning. -/
def read (spec : String) : LogFilter × List String :=
  match Text.cutAt '/' spec.toList with
  | limits :: rest =>
    if rest.length ≥ 2 then
      (⟨withDefault [], none⟩, [warning (invalidPart spec ++ " (too many '/'s)")])
    else
      let (limits, bad) := readLimits limits
      let warnings := bad.map fun text => warning (invalidPart text)
      match readPattern rest with
      | .ok pattern => (⟨limits, pattern⟩, warnings)
      | .error text => (⟨limits, none⟩, warnings ++ [warning text])
  | [] => (⟨withDefault [], none⟩, [])

def nameLength (l : Limit) : Nat :=
  (l.target.map String.utf8ByteSize).getD 0

def applies (target : String) (l : Limit) : Bool :=
  (l.target.map fun name => name.toList.isPrefixOf target.toList).getD true

/-- The limit for a target: of those that apply the one with the longest name, among equals the
last. -/
def limitFor? (f : LogFilter) (target : String) : Option Limit :=
  ((f.limits.mergeSort fun a b => nameLength a ≤ nameLength b).reverse).find? (applies target)

def shows (f : LogFilter) (e : Event) : Bool :=
  (f.limitFor? e.target).any (fun l => e.level.rank ≤ l.rank)
    && f.pattern.all (·.occursIn e.message)

end LogFilter

end Folio
