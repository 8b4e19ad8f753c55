import Folio.Files
import Folio.Text.Percent

namespace Folio.Store

inductive Address where
  /-- A store that is made anew each time it is opened, and so never has tables. -/
  | fleeting
  /-- A file, which is made when it is missing unless it has to be there. -/
  | file (path : String) (mustExist : Bool)
  /-- A text that says nothing about any place. -/
  | invalid
deriving DecidableEq, Repr

namespace Address

def ofPath (path : String) (mustExist : Bool) : Address :=
  if path = "" ∨ path = ":memory:" then fleeting else file path mustExist

/-- A part of an address without its escapes; it ends before an escaped NUL. -/
def plainPart (part : List Char) : String :=
  let bytes := Text.unescape (fun _ => false) (String.ofList part).toUTF8.toList
  Text.lossyText (bytes.takeWhile (· != 0))

/-- An option and its value. -/
def optionOf (part : List Char) : String × String :=
  let name := part.takeWhile (· != '=')
  (plainPart name, plainPart (part.drop (name.length + 1)))

/-- The ways in which files can be locked, and the one that keeps everything in memory. -/
def systems : List String := ["unix", "unix-none", "unix-dotfile", "unix-excl", "memdb"]

/-- The values of an option, in their order. -/
def valuesOf (name : String) (options : List (String × String)) : List String :=
  (options.filter (·.1 = name)).map (·.2)

/-- How much a mode allows: to read, to write, and to make what is missing. -/
def modeRank? : String → Option Nat
  | "ro" => some 1
  | "rw" => some 2
  | "rwc" => some 3
  | _ => none

/-- No mode allows more than the one before it, except behind keeping everything in memory. -/
def areModes (limit : Nat) : List String → Bool
  | [] => true
  | "memory" :: modes => areModes 3 modes
  | mode :: modes =>
    match modeRank? mode with
    | some rank => rank ≤ limit && areModes rank modes
    | none => false

/-- The hosts that mean this one. -/
def hosts : List String := ["", "localhost"]

/-- The address without its scheme. -/
def ofResource (text : List Char) : Address :=
  let hasHost := ['/', '/'].isPrefixOf text
  let host := if hasHost then (text.drop 2).takeWhile (· != '/') else []
  let place := if hasHost then text.drop (2 + host.length) else text
  let place := place.takeWhile (· != '#')
  let path := place.takeWhile (· != '?')
  let parts := (Text.cutAt '&' (place.drop (path.length + 1))).map optionOf
  let options := parts.filter (·.1 ≠ "")
  let modes := valuesOf "mode" options
  let system := (valuesOf "vfs" options).getLast?
  if hosts.all (· ≠ String.ofList host) then invalid
  else if !areModes 3 modes then invalid
  else if !(valuesOf "cache" options).all ["shared", "private"].contains then invalid
  else if !system.all systems.contains then invalid
  else if system = some "memdb" then fleeting
  else
    match modes.getLast? with
    | some "memory" => fleeting
    | some "ro" =>
      -- What cannot be written has to be there already.
      match ofPath (plainPart path) true with
      | fleeting => invalid
      | kept => kept
    | some "rw" => ofPath (plainPart path) true
    | _ => ofPath (plainPart path) false

def ofText (text : String) : Address :=
  match text.toList with
  | 'f' :: 'i' :: 'l' :: 'e' :: ':' :: rest => ofResource rest
  | _ => ofPath text false

/-- The place that parts lead to when dots are taken out before anything is looked up. Each name
still has to be possible where it stands. -/
def collapse (d : Disk) : Location → List String → Option Location
  | l, [] => some l
  | l, part :: parts =>
    if part = "" ∨ part = "." then collapse d l parts
    else if part = ".." then collapse d l.dropLast parts
    else
      match d.walk [] (l ++ [part]) with
      | .ok _ | .error .notFound => collapse d (l ++ [part]) parts
      | .error _ => none

/-- The place of the file of a store. -/
def location? (d : Disk) (path : String) : Option Location :=
  if Disk.hasNul path then none else collapse d (d.origin path) (Disk.parts path)

end Address

end Folio.Store
