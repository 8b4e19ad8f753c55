import Folio.Data
import Folio.Text.Numeral
import Folio.Text.Search

namespace Folio

/-- The names that lead from the root of the tree to an entry. -/
abbrev Location := List String

abbrev Bytes := List UInt8

def bytesOf (s : String) : Bytes :=
  s.toUTF8.toList

inductive Entry where
  | file (bytes : Bytes)
  | directory
deriving DecidableEq

inductive FileError where
  | notFound
  | exists_
  | notADirectory
  | isADirectory
  | busy
  | nameTooLong
  | invalidName
  | invalidArgument
deriving DecidableEq, Repr

def FileError.message : FileError → String
  | notFound => "No such file or directory (os error 2)"
  | exists_ => "File exists (os error 17)"
  | notADirectory => "Not a directory (os error 20)"
  | isADirectory => "Is a directory (os error 21)"
  | busy => "Device or resource busy (os error 16)"
  | nameTooLong => "File name too long (os error 36)"
  | invalidName => "file name contained an unexpected NUL byte"
  | invalidArgument => "Invalid argument (os error 22)"

structure Disk where
  entries : List (Location × Entry)
  workingDirectory : Location

namespace Disk

def entry? (d : Disk) (l : Location) : Option Entry :=
  if l = [] then some .directory else d.entries.lookup l

def isDirectory (d : Disk) (l : Location) : Bool :=
  d.entry? l = some .directory

def put (d : Disk) (l : Location) (e : Entry) : Disk :=
  { d with entries := assign l e d.entries }

def erase (d : Disk) (l : Location) : Disk :=
  { d with entries := d.entries.filter (·.1 ≠ l) }

/-- Names of more than 255 bytes cannot exist. -/
def longestName : Nat := 255

def nameFits (name : String) : Bool :=
  name.utf8ByteSize ≤ longestName

/-- One step from a directory. -/
def step (d : Disk) (l : Location) (part : String) : Except FileError Location :=
  if !d.isDirectory l then .error .notADirectory
  else if part = "" ∨ part = "." then .ok l
  else if part = ".." then .ok l.dropLast
  else if !nameFits part then .error .nameTooLong
  else if (d.entry? (l ++ [part])).isSome then .ok (l ++ [part])
  else .error .notFound

def walk (d : Disk) : Location → List String → Except FileError Location
  | l, [] => .ok l
  | l, part :: parts => do d.walk (← d.step l part) parts

def parts (path : String) : List String :=
  (Text.cutAt '/' path.toList).map String.ofList

def origin (d : Disk) (path : String) : Location :=
  if path.startsWith "/" then [] else d.workingDirectory

def hasNul (path : String) : Bool :=
  path.toList.contains '\x00'

/-- Paths of more than 4095 bytes lead nowhere. -/
def longestPath : Nat := 4095

/-- Whether a path can lead anywhere at all. -/
def checkPath (path : String) : Except FileError Unit :=
  if hasNul path then .error .invalidName
  else if path = "" then .error .notFound
  else if path.utf8ByteSize > longestPath then .error .nameTooLong
  else .ok ()

/-- The entry a path leads to. -/
def resolve (d : Disk) (path : String) : Except FileError Location := do
  checkPath path
  d.walk (d.origin path) (parts path)

def exists? (d : Disk) (path : String) : Bool :=
  match d.resolve path with
  | .ok _ => true
  | .error _ => false

/-- The file at a path. -/
def read? (d : Disk) (path : String) : Option Bytes :=
  match d.resolve path with
  | .ok l =>
    match d.entry? l with
    | some (.file bytes) => some bytes
    | _ => none
  | .error _ => none

/-- The directory in which the last of some parts is named, and that name. Slashes at the end do not
count; slashes alone name the root. -/
def lastStep (d : Disk) (start : Location) (parts : List String) :
    Except FileError (Location × String) :=
  match parts.reverse.dropWhile (· = "") with
  | [] => .ok (start, ".")
  | name :: above => do
    let l ← d.walk start above.reverse
    if d.isDirectory l then .ok (l, name) else .error .notADirectory

/-- Makes a directory in one that is there. -/
def makeDirectory (d : Disk) (start : Location) (parts : List String) : Except FileError Disk := do
  let (l, name) ← d.lastStep start parts
  match d.step l name with
  | .ok _ => .error .exists_
  | .error .notFound => .ok (d.put (l ++ [name]) .directory)
  | .error e => .error e

/-- Makes a directory unless there is one already. -/
def ensureDirectory (d : Disk) (start : Location) (parts : List String) :
    Except FileError Unit × Disk :=
  match d.makeDirectory start parts with
  | .ok made => (.ok (), made)
  | .error e =>
    match d.walk start parts with
    | .ok l => (if d.isDirectory l then .ok () else .error e, d)
    | .error _ => (.error e, d)

/-- Makes a directory and those above it that are missing, given the names that lead to it from the
last to the first. A dot at the end of the parts is no directory of its own: it is looked for in one
that none of the names above it has made. -/
def makeWay (d : Disk) (start : Location) (parts : List String) :
    List String → Except FileError Unit × Disk
  | [] => (.ok (), d)
  | _ :: above =>
    match d.makeDirectory start parts with
    | .error .notFound =>
      match d.makeWay start above.reverse above with
      | (.ok (), made) => made.ensureDirectory start parts
      | failed => failed
    | _ => d.ensureDirectory start parts

/-- Path components that count: the empty ones and the single dots mean nothing. -/
def plainParts (path : String) : List String :=
  (parts path).filter fun p => p ≠ "" ∧ p ≠ "."

/-- Makes a directory and those above it that are missing. -/
def makeDirectories (d : Disk) (path : String) : Except FileError Unit × Disk :=
  if path = "" then (.ok (), d)
  else
    match checkPath path with
    | .ok () => d.makeWay (d.origin path) (parts path) (plainParts path).reverse
    | .error e => (.error e, d)

/-- The directory in which a path names its last component, and that component. -/
def parent (d : Disk) (path : String) : Except FileError (Location × String) := do
  checkPath path
  d.lastStep (d.origin path) (parts path)

/-- Whether a path can only lead to a directory. -/
def namesDirectory (path name : String) : Bool :=
  path.endsWith "/" || name = "." || name = ".."

/-- Writes a file in place. -/
def write (d : Disk) (bytes : Bytes) (path : String) : Except FileError Disk := do
  let (l, name) ← d.parent path
  if namesDirectory path name then .error .isADirectory
  else
    match d.step l name with
    | .ok target =>
      if d.isDirectory target then .error .isADirectory else .ok (d.put target (.file bytes))
    | .error .notFound => .ok (d.put (l ++ [name]) (.file bytes))
    | .error e => .error e

/-- Renames a file onto a path. A path that ends in a slash can only name a directory, and a file
does not become one. -/
def rename (d : Disk) (source : Location) (path : String) : Except FileError Disk := do
  let (l, name) ← match d.parent path with
    | .error .invalidName => .error .invalidArgument
    | found => found
  if name = "." ∨ name = ".." then .error .busy
  else
    match d.step l name, d.entry? source with
    | .error .nameTooLong, _ => .error .nameTooLong
    | target, some (.file bytes) =>
      if path.endsWith "/" then .error .notADirectory
      else if target.toOption.any d.isDirectory then .error .isADirectory
      else .ok ((d.erase source).put (l ++ [name]) (.file bytes))
    | _, _ => .error .notFound

def temporaryName (n : Nat) : String :=
  ".tmp" ++ String.ofList (Text.digits n)

/-- A name that is not taken in a directory. There are more candidates than entries. -/
def freshName (d : Disk) (l : Location) : String :=
  (((List.range (d.entries.length + 1)).map temporaryName).find? fun name =>
    (d.entry? (l ++ [name])).isNone).getD (temporaryName 0)

/-- The path of the directory of a path, a dot if there is nothing above it. -/
def directoryOf (path : String) : String :=
  let above := "/".intercalate ((plainParts path).dropLast)
  if path.startsWith "/" ∧ (plainParts path) ≠ [] then "/" ++ above
  else if above = "" then "." else above

end Disk

/-- Why a file could not be written: when making the temporary file, or when renaming it. -/
inductive WriteError where
  | temporary (error : FileError) (path : String)
  | rename (error : FileError)
deriving DecidableEq

def WriteError.message : WriteError → String
  | temporary e path => s!"{e.message} at path \"{path}\""
  | rename e => e.message

namespace Disk

/-- Writes through a temporary file in the same directory that is renamed into place, so that a
failed write leaves everything as it was. -/
def writeAtomically (d : Disk) (bytes : Bytes) (path : String) : Except WriteError Unit × Disk :=
  let directory := directoryOf path
  match d.resolve directory with
  | .error e => (.error (.temporary e (directory ++ "/.tmp")), d)
  | .ok l =>
    if d.isDirectory l then
      let temporary := l ++ [d.freshName l]
      let written := d.put temporary (.file bytes)
      match written.rename temporary path with
      | .ok renamed => (.ok (), renamed)
      | .error e => (.error (.rename e), written.erase temporary)
    else (.error (.temporary .notADirectory (directory ++ "/.tmp")), d)

/-- A tree with nothing but a working directory. -/
def inDirectory (l : Location) : Disk :=
  ⟨(List.range l.length).map fun n => (l.take (n + 1), .directory), l⟩

/-- Puts a directory at a plain path, with the directories above it. -/
def placeDirectory (d : Disk) (path : String) : Disk :=
  (d.makeDirectories path).2

/-- Puts a file at a plain path, with the directories above it. -/
def placeFile (d : Disk) (path : String) (bytes : Bytes) : Disk :=
  let d := d.placeDirectory (directoryOf path)
  match d.parent path with
  | .ok (l, name) => d.put (l ++ [name]) (.file bytes)
  | .error _ => d

/-- What lies below a location, each directory before its contents and the names in order. -/
def listing (d : Disk) (l : Location) : List (Location × Entry) :=
  let below := d.entries.filterMap fun (at_, e) =>
    if l.isPrefixOf at_ && at_ ≠ l then some (at_.drop l.length, e) else none
  below.mergeSort fun a b => !(b.1 < a.1)

/-- The names in a directory, in order. -/
def names (d : Disk) (l : Location) : List String :=
  (d.listing l).filterMap fun (at_, _) =>
    match at_ with
    | [name] => some name
    | _ => none

end Disk

end Folio
