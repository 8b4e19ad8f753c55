import Folio.Data
import Folio.Template

namespace Folio.Store

structure Tables where
  /-- In the order of their numbers. -/
  forms : List Form := []
  /-- In the order of their numbers. -/
  fields : List Field := []
  /-- In the order in which they were inserted. -/
  records : List Record := []
  /-- The last number given to a form. A form that is saved again takes a number too, which it
  then does not use. -/
  lastForm : Nat := 0
  lastField : Nat := 0

namespace Tables

/-- Numbers the fields of a template from a number on and stamps them with its id. -/
def numbered (templateId : Int) : Nat → List Field → List Field
  | _, [] => []
  | n, f :: fs => { f with id := (n : Int) + 1, templateId } :: numbered templateId (n + 1) fs

def formNamed? (t : Tables) (name : String) : Option Form :=
  t.forms.find? (·.name == name)

/-- The contents of a stored form after a template of its name has been saved over it. -/
def overwrite (now : DateTime) (template : Template) (old : Form) : Form :=
  { old with
    css := template.css
    header := template.header
    body := template.body
    footer := template.footer
    active := template.active
    version := template.version
    updatedAt := some now.truncated }

/-- Saves a template over the one of its name or as a new one, its fields included. Tells its id. -/
def save (t : Tables) (now : DateTime) (template : Template) : Int × Tables :=
  let next := t.lastForm + 1
  let (id, forms) : Int × List Form :=
    match t.formNamed? template.name with
    | some old =>
      (old.id, t.forms.map fun f =>
        if f.name == template.name then overwrite now template f else f)
    | none => (next, t.forms ++ [{ template.toForm with id := next }])
  (id, { t with
    forms
    fields := t.fields.filter (·.templateId ≠ id) ++ numbered id t.lastField template.fields
    lastForm := next
    lastField := t.lastField + template.fields.length })

def insert (t : Tables) (r : Record) : Tables :=
  { t with records := t.records ++ [r] }

/-- The form of that name, if it is active. -/
def activeForm? (t : Tables) (name : String) : Option Form :=
  t.forms.find? fun f => f.name == name && f.active

/-- The fields of a template in display order, and in the order of their numbers within it. -/
def fieldsOf (t : Tables) (templateId : Int) : List Field :=
  (t.fields.filter (·.templateId == templateId)).mergeSort fun a b =>
    a.displayOrder ≤ b.displayOrder

/-- An active template with its fields. -/
def template? (t : Tables) (name : String) : Option Template :=
  (t.activeForm? name).map fun form => ⟨form, t.fieldsOf form.id⟩

/-- All records in the order of their names, those of one name as they were inserted. -/
def allRecords (t : Tables) : List Record :=
  t.records.mergeSort fun a b => !(b.fieldName < a.fieldName)

def recordsOf (t : Tables) (name : String) : List Record :=
  t.records.filter (·.fieldName == name)

/-- The current value of one field. -/
def fieldValue? (t : Tables) (name : String) : Option String :=
  (resolve (t.recordsOf name)).get? name

end Tables

end Folio.Store
