import Folio.CommandLine
import Std.Time.Zoned

open Folio

/-- The variables that a run looks at. -/
def environmentNames : List String :=
  ["REPORT_DATABASE", "REPORT_OUTPUT_DIR", "REPORT_FONTS_DIR", "REPORT_HOST", "REPORT_PORT",
   "RUST_LOG"]

def readEnvironment : IO Environment :=
  environmentNames.filterMapM fun name => return (← IO.getEnv name).map fun value => (name, value)

/-- What stands at a path, if anything does. -/
def entryAt (path : String) : IO (Option Entry) := do
  try
    let real ← IO.FS.realPath path
    if ← real.isDir then return some .directory
    return some (.file (← IO.FS.readBinFile real).toList)
  catch _ => return none

/-- Takes over what stands at a path and at the directories above it. -/
def survey (d : Disk) (path : String) : IO Disk := do
  let parts := Disk.parts path
  let mut d := d
  for n in List.range parts.length do
    let above := "/".intercalate (parts.take (n + 1))
    unless above.isEmpty do
      match ← entryAt above with
      | some .directory => d := d.placeDirectory above
      | some (.file bytes) => d := d.placeFile above bytes
      | none => pure ()
  return d

def fontPaths (c : Settings) : List String :=
  [c.fontFamily, c.fallbackFontFamily].flatMap fun family =>
    Drawing.fontStyles.map fun style =>
      Drawing.joinPath c.fontsDirectory (family ++ "-" ++ style ++ ".ttf")

def storePaths (c : Settings) : List String :=
  match Store.Address.ofText c.databasePath with
  | .file path _ => [path]
  | .fleeting | .invalid => []

/-- The files that a run with these settings may need. -/
def surveyAll (d : Disk) (c : Settings) : IO Disk :=
  (storePaths c ++ c.outputDirectory :: fontPaths c).foldlM survey d

def settingsFile : IO SettingsFile := do
  match ← entryAt Settings.fileName with
  | none => return .absent
  | some .directory => return .unreadable
  | some (.file bytes) => return .ofBytes ⟨bytes.toArray⟩

def dateTimeOf (t : Std.Time.PlainDateTime) : DateTime :=
  (DateTime.ofParts? t.year.toInt t.month.val.toNat t.day.val.toNat t.hour.val.toNat
    t.minute.val.toNat t.second.val.toNat t.nanosecond.val.toNat).getD default

def localTime : IO DateTime :=
  return dateTimeOf (← Std.Time.PlainDateTime.now)

/-- Puts a changed entry into effect; a file is written aside and then renamed. -/
def enact (before : Disk) (change : Location × Entry) : IO Unit := do
  let (l, entry) := change
  if before.entry? l ≠ some entry then
    let path := "/" ++ "/".intercalate l
    match entry with
    | .directory => IO.FS.createDirAll path
    | .file bytes =>
      IO.FS.writeBinFile (path ++ ".new") ⟨bytes.toArray⟩
      IO.FS.rename (path ++ ".new") path

/-- Seconds with one decimal. -/
def seconds (milliseconds : Nat) : String :=
  let tenths := (milliseconds + 50) / 100
  s!"{tenths / 10}.{tenths % 10}"

def showEvent (time : DateTime) (e : Event) : String :=
  let name := e.level.name.pushn ' ' (5 - e.level.name.length)
  s!"[{String.ofList time.truncated.write} {name} {e.target}] {e.shownMessage}"

def main (args : List String) : IO UInt32 := do
  let settings ← settingsFile
  let environment ← readEnvironment
  let workingDirectory := (Disk.plainParts (← IO.currentDir).toString)
  let disk := Disk.inDirectory workingDirectory
  let disk ←
    match Settings.load settings environment with
    | .ok c => surveyAll disk c
    | .error _ => pure disk
  let now ← localTime
  let began ← IO.monoMsNow
  let ending := CommandLine.run ⟨settings, environment, disk, now⟩ args
  ending.disk.entries.forM (enact disk)
  let elapsed := seconds ((← IO.monoMsNow) - began)
  ending.notices.forM IO.eprintln
  (ending.events elapsed).forM fun e => IO.eprintln (showEvent now e)
  return if ending.success then 0 else 1
