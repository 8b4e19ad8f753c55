import Folio.Time.DateTime

namespace Folio

structure Record where
  fieldName : String
  value : Option String
  createdAt : DateTime
deriving DecidableEq

/-- The current value of each field. -/
structure DataSet where
  entries : List (String × String)

namespace DataSet

def get? (d : DataSet) (name : String) : Option String :=
  d.entries.lookup name

def contains (d : DataSet) (name : String) : Bool :=
  (d.get? name).isSome

def size (d : DataSet) : Nat :=
  d.entries.length

def isEmpty (d : DataSet) : Bool :=
  d.entries.isEmpty

end DataSet

/-- Sets the entry of a key, in its place if there is one and at the end otherwise. -/
def assign [BEq κ] (key : κ) (value : ν) : List (κ × ν) → List (κ × ν)
  | [] => [(key, value)]
  | (k, v) :: rest => if key == k then (k, value) :: rest else (k, v) :: assign key value rest

theorem lookup_assign_self [BEq κ] [LawfulBEq κ] (key : κ) (value : ν) (l : List (κ × ν)) :
    (assign key value l).lookup key = some value := by
  induction l with
  | nil => simp [assign]
  | cons e rest ih =>
    obtain ⟨k, v⟩ := e
    simp only [assign]
    split
    · next h => simp [List.lookup_cons, h]
    · next h => simp [List.lookup_cons, h, ih]

theorem lookup_assign_ne [BEq κ] [LawfulBEq κ] {key other : κ} (hne : other ≠ key) (value : ν)
    (l : List (κ × ν)) : (assign key value l).lookup other = l.lookup other := by
  induction l with
  | nil => simp [assign, List.lookup_cons, beq_false_of_ne hne]
  | cons e rest ih =>
    obtain ⟨k, v⟩ := e
    simp only [assign]
    split
    · next h =>
      obtain rfl := eq_of_beq h
      simp [List.lookup_cons, beq_false_of_ne hne]
    · simp only [List.lookup_cons, ih]

/-- The data set of a list of pairs; of two pairs with one name the later counts. -/
def DataSet.ofList (pairs : List (String × String)) : DataSet :=
  ⟨pairs.foldl (fun entries (name, value) => assign name value entries) []⟩

/-- The record of each field that is authoritative so far. -/
abbrev Latest := List (String × Record)

/-- Takes a record into account: it counts if it is later than the one before it. -/
def Latest.note (latest : Latest) (r : Record) : Latest :=
  match latest.lookup r.fieldName with
  | none => assign r.fieldName r latest
  | some seen => if seen.createdAt < r.createdAt then assign r.fieldName r latest else latest

def latestRecords (records : List Record) : Latest :=
  records.foldl Latest.note []

/-- One value per field; a missing value is the empty text. -/
def resolve (records : List Record) : DataSet :=
  ⟨(latestRecords records).map fun (name, r) => (name, r.value.getD "")⟩

end Folio
