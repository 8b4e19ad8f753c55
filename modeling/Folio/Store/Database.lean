import Folio.Store.Sample
import Folio.Store.Tables

namespace Folio.Store

inductive Database where
  | unreachable
  /-- Within reach, but without tables. -/
  | blank
  | ready (tables : Tables)

/-- A failed operation and what it was about. -/
structure Fault where
  operation : String
  target : String
  detail : String
deriving DecidableEq

def Fault.message (f : Fault) : String :=
  s!"Data access failed during {f.operation} ({f.target}): {f.detail}"

namespace Database

def unreachableText : String := "unable to open database file"

def noTablesText : String := "no such table"

/-- The tables for an operation, or the fault of that operation. -/
def tables (db : Database) (operation target : String) : Except Fault Tables :=
  match db with
  | unreachable => .error ⟨operation, target, unreachableText⟩
  | blank => .error ⟨operation, target, noTablesText⟩
  | ready t => .ok t

/-- Makes the tables if there are none. -/
def makeTables (db : Database) (path : String) : Except Fault Unit × Database :=
  match db with
  | unreachable =>
    (.error ⟨"initialize_schema", path, s!"{unreachableText}: {path}"⟩, unreachable)
  | blank => (.ok (), ready {})
  | ready t => (.ok (), ready t)

def save (db : Database) (now : DateTime) (template : Template) : Except Fault Int × Database :=
  match db.tables "save_template" template.name with
  | .error e => (.error e, db)
  | .ok t =>
    let (id, t) := t.save now template
    (.ok id, ready t)

def insert (db : Database) (r : Record) : Except Fault Unit × Database :=
  match db.tables "insert_data_record" r.fieldName with
  | .error e => (.error e, db)
  | .ok t => (.ok (), ready (t.insert r))

/-- The first of the two queries of a template: its form. -/
def activeForm? (db : Database) (name : String) : Except Fault (Option Form) :=
  (db.tables "get_template_by_name" name).map (·.activeForm? name)

def fieldsOf (db : Database) (id : Int) : Except Fault (List Field) :=
  (db.tables "get_fields_for_template" s!"template id {id}").map (·.fieldsOf id)

/-- An active template: its form, then its fields. -/
def template? (db : Database) (name : String) : Except Fault (Option Template) := do
  match ← db.activeForm? name with
  | none => return none
  | some form => return some ⟨form, ← db.fieldsOf form.id⟩

def allRecords (db : Database) : Except Fault (List Record) :=
  (db.tables "get_all_data_records" "report_data").map Tables.allRecords

def fieldValue? (db : Database) (name : String) : Except Fault (Option String) :=
  (db.tables "get_field_value" name).map (·.fieldValue? name)

/-- Tells by its number whether a call fails for a reason of its own, such as a full disk. Such a
call changes nothing. -/
abbrev Outage := Nat → Bool

def noOutage : Outage := fun _ => false

def outageText : String := "disk I/O error"

/-- Inserts records one by one, the first with this call, up to the first that fails. -/
def insertAll (outage : Outage) (db : Database) : Nat → List Record → Except Fault Unit × Database
  | _, [] => (.ok (), db)
  | call, r :: rs =>
    if outage call then (.error ⟨"insert_data_record", r.fieldName, outageText⟩, db)
    else
      match db.insert r with
      | (.ok (), db) => insertAll outage db (call + 1) rs
      | (.error e, db) => (.error e, db)

/-- Whether a template of the sample's name is stored, active or not. -/
def hasSample (outage : Outage) (db : Database) : Except Fault Bool :=
  if outage 0 then .error ⟨"seed_sample", Sample.name, outageText⟩
  else (db.tables "seed_sample" Sample.name).map fun t => (t.formNamed? Sample.name).isSome

def saveSample (outage : Outage) (db : Database) (now : DateTime) : Except Fault Int × Database :=
  if outage 1 then (.error ⟨"save_template", Sample.name, outageText⟩, db)
  else db.save now (Sample.template now)

/-- Installs the sample unless a template of its name is stored, and tells whether it did. The
question comes first, then the template, then the records one by one; each is a call of its own. -/
def seedDuring (outage : Outage) (db : Database) (now : DateTime) : Except Fault Bool × Database :=
  match db.hasSample outage with
  | .error e => (.error e, db)
  | .ok true => (.ok false, db)
  | .ok false =>
    match db.saveSample outage now with
    | (.error e, db) => (.error e, db)
    | (.ok _, db) =>
      match db.insertAll outage 2 (Sample.records now) with
      | (.error e, db) => (.error e, db)
      | (.ok (), db) => (.ok true, db)

/-- Installs the sample while no call fails for a reason of its own. -/
def seed (db : Database) (now : DateTime) : Except Fault Bool × Database :=
  db.seedDuring noOutage now

end Database

end Folio.Store
