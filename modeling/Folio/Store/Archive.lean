import Folio.Exchange
import Folio.Store.Database

namespace Folio.Store
open Json

namespace Tables

def toJson (t : Tables) : List Char :=
  writeObject [("forms", writeArray (t.forms.map fun f => Template.toJson ⟨f, []⟩)),
    ("fields", writeArray (t.fields.map Field.toJson)),
    ("records", writeArray (t.records.map Record.toJson)),
    ("last_form", writeInt t.lastForm), ("last_field", writeInt t.lastField)]

def shape : Shape Tables where
  start := {}
  members := [
    member "forms" (list Template.shape.read) fun ts a =>
      { a with forms := ts.map Template.toForm },
    member "fields" (list Field.shape.read) fun fs a => { a with fields := fs },
    member "records" (list Record.shape.read) fun rs a => { a with records := rs },
    member "last_form" int64 fun n a => { a with lastForm := n.toNat },
    member "last_field" int64 fun n a => { a with lastField := n.toNat }]
  openEnded := false

end Tables

namespace Database

/-- The contents of the file of a database. -/
def archive : Database → Option (List Char)
  | unreachable => none
  | blank => some []
  | ready t => some t.toJson

def ofArchive (text : List Char) : Database :=
  if text.isEmpty then blank
  else
    match readAll Tables.shape.read text with
    | .ok t => ready t
    | .error _ => unreachable

end Database

end Folio.Store
