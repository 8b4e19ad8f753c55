import Folio.Journal
import Folio.Settings
import Folio.Store.Address
import Folio.Store.Archive

namespace Folio.CommandLine

def mainTarget : String := "report_engine"

/-- Where a run takes place. -/
structure Place where
  settings : SettingsFile
  environment : Environment
  disk : Disk
  now : DateTime

/-- The events of a run, given the seconds that its generation took. -/
abbrev Events := String → List Event

/-- How a run ends: whether it succeeded, what it printed as errors before the log began, the
events of the log, and the files. -/
structure Ending where
  success : Bool
  notices : List String
  events : Events
  disk : Disk

/-- The store at an address. A file that is not there yet is made when the store is first
written. -/
def openStore (d : Disk) (address : String) : Store.Database :=
  match Store.Address.ofText address with
  | .fleeting => .blank
  | .invalid => .unreachable
  | .file path mustExist =>
    match Store.Address.location? d path with
    | none => .unreachable
    | some l =>
      match d.entry? l with
      | some (.file bytes) => .ofArchive (Text.lossyText bytes).toList
      | some .directory => .unreachable
      | none => if mustExist || !d.isDirectory l.dropLast then .unreachable else .blank

def keepStore (d : Disk) (address : String) (db : Store.Database) : Disk :=
  match Store.Address.ofText address with
  | .fleeting | .invalid => d
  | .file path _ =>
    match Store.Address.location? d path, db.archive with
    | some l, some text => d.put l (.file (bytesOf (String.ofList text)))
    | _, _ => d

/-- The store when it is opened once more. Its own file can be in the way of its address. -/
def reopenStore (d : Disk) (address : String) (db : Store.Database) : Store.Database :=
  match openStore d address with
  | .unreachable => .unreachable
  | _ => db

/-- The store once its tables are made. -/
def makeTables (address : String) (db : Store.Database) :
    Except Store.Fault Unit × Store.Database :=
  match db.makeTables address with
  | (.ok (), made) => (.ok (), if Store.Address.ofText address = .fleeting then .blank else made)
  | failed => failed

def engineOf (c : Settings) : Engine where
  policy := c.sanitize
  outputDirectory := c.outputDirectory
  backend := pageBackend ⟨c.fontsDirectory, c.fontFamily, c.fallbackFontFamily⟩

/-- The text that chooses what is logged. -/
def filterText (env : Environment) (c : Settings) : String :=
  (env.lookup "RUST_LOG").getD c.logFilter

def startupFailed (f : Store.Fault) : Event :=
  ⟨.error, mainTarget, s!"Startup failed: {f.message}"⟩

/-- The store as the settings want it, with the events of preparing it. -/
def prepareStore (c : Settings) (now : DateTime) (d : Disk) :
    Except Store.Fault Store.Database × List Event × Disk :=
  match makeTables c.databasePath (openStore d c.databasePath) with
  | (.error e, _) => (.error e, [], d)
  | (.ok (), db) =>
    let d := keepStore d c.databasePath db
    let db := reopenStore d c.databasePath db
    if c.seedSample then
      match db.seed now with
      | (.error e, db) => (.error e, [], keepStore d c.databasePath db)
      | (.ok installed, db) =>
        (.ok db, if installed then [Journal.sampleInstalled] else [], keepStore d c.databasePath db)
    else (.ok db, [], d)

/-- Generates one report. -/
def generate (p : Place) (c : Settings) (db : Store.Database) (d : Disk) (name : String) :
    Bool × Events × Disk :=
  let e := engineOf c
  let g := e.generate db d p.now name
  let last : Event :=
    match g.result with
    | .ok path => ⟨.info, mainTarget, s!"Report generated: {path}"⟩
    | .error error => ⟨.error, mainTarget, s!"Report generation failed: {error.message}"⟩
  (g.result.isOk,
   fun elapsed => ⟨.info, mainTarget, s!"Generating report: {name}"⟩
     :: Journal.generation e db d p.now elapsed name ++ [last],
   g.disk)

/-- Starting the service ends at once: there is no network here to listen on. -/
def serve (c : Settings) : List Event :=
  [⟨.info, mainTarget, s!"Server running at http://{c.host}:{c.port}"⟩,
   ⟨.error, mainTarget, "Server error: cannot listen at this address"⟩]

/-- One run with the settings loaded. -/
def runWith (p : Place) (c : Settings) (args : List String) : Bool × Events × Disk :=
  match prepareStore c p.now p.disk with
  | (.error e, events, d) => (false, fun _ => events ++ [startupFailed e], d)
  | (.ok db, events, d) =>
    match args with
    | name :: _ =>
      let (success, more, d) := generate p c db d name
      (success, fun elapsed => events ++ more elapsed, d)
    | [] => (false, fun _ => events ++ serve c, d)

def run (p : Place) (args : List String) : Ending :=
  match Settings.load p.settings p.environment with
  | .error e => ⟨false, [s!"Configuration error: {e.message}"], fun _ => [], p.disk⟩
  | .ok c =>
    let (filter, warnings) := LogFilter.read (filterText p.environment c)
    let (success, events, disk) := runWith p c args
    ⟨success, warnings, fun elapsed => (events elapsed).filter filter.shows, disk⟩

end Folio.CommandLine
