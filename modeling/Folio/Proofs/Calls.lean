import Folio.Proofs.StoredForms
import Folio.Store.Database

namespace Folio.Store

/-- A call of a client. -/
inductive Call where
  | makeTables (path : String)
  | save (now : DateTime) (template : Template)
  | insert (r : Record)
  | seed (outage : Database.Outage) (now : DateTime)

namespace Call

/-- The database behind a call, whatever the call tells. -/
def run (db : Database) : Call → Database
  | makeTables path => (db.makeTables path).2
  | save now template => (db.save now template).2
  | insert r => (db.insert r).2
  | seed outage now => (db.seedDuring outage now).2

/-- The records before the first whose call fails. -/
def accepted (outage : Database.Outage) : Nat → List Record → List Record
  | _, [] => []
  | call, r :: rs => if outage call then [] else r :: accepted outage (call + 1) rs

/-- What a call changes. Installing the sample is a save of it, and happens only if its name was
never saved. -/
def changes (h : History) : Call → List Change
  | makeTables _ => []
  | save now template => [.saved now template]
  | insert r => [.inserted r]
  | seed outage now =>
    if outage 0 || (h.lastSave? Sample.name).isSome || outage 1 then []
    else .saved now (Sample.template now)
      :: (accepted outage 2 (Sample.records now)).map .inserted

end Call

/-- The history of calls. -/
def History.ofCalls (calls : List Call) : History :=
  calls.foldl (fun h call => h ++ call.changes h) []

theorem History.ofCalls_concat (calls : List Call) (call : Call) :
    ofCalls (calls ++ [call]) = ofCalls calls ++ call.changes (ofCalls calls) := by
  rw [ofCalls, List.foldl_append]
  rfl

namespace Database

/-- The database that calls leave behind once its tables have been made. -/
def after (path : String) (calls : List Call) : Database :=
  calls.foldl Call.run (blank.makeTables path).2

/-- The two queries of a template give the form and the fields that the tables have. -/
theorem template?_ready (t : Tables) (name : String) :
    (ready t).template? name = .ok (t.template? name) := by
  rw [Tables.template?, template?, activeForm?, tables, Except.map]
  cases t.activeForm? name with
  | none => rfl
  | some form => rfl

theorem insertAll_ready (outage : Outage) (t : Tables) (call : Nat) (rs : List Record) :
    (insertAll outage (ready t) call rs).2
      = ready (((Call.accepted outage call rs).map Change.inserted).foldl Tables.change t) := by
  induction rs generalizing t call with
  | nil => rfl
  | cons r rs ih =>
    rw [insertAll, Call.accepted]
    split
    · rfl
    · exact ih (t.insert r) (call + 1)

theorem hasSample_ready (outage : Outage) (h : History) :
    hasSample outage (ready (Tables.ofHistory h))
      = if outage 0 then .error ⟨"seed_sample", Sample.name, outageText⟩
        else .ok (h.lastSave? Sample.name).isSome := by
  rw [hasSample, ← (reflects_ofHistory h).isSome_formNamed? Sample.name]
  rfl

theorem seedDuring_ready (outage : Outage) (h : History) (now : DateTime) :
    ((ready (Tables.ofHistory h)).seedDuring outage now).2
      = ready (Tables.ofHistory (h ++ (Call.seed outage now).changes h)) := by
  rw [seedDuring, hasSample_ready, Call.changes]
  cases h0 : outage 0 with
  | true => simp
  | false =>
    cases hs : (h.lastSave? Sample.name).isSome with
    | true => simp
    | false =>
      cases h1 : outage 1 with
      | true => simp [saveSample, h1]
      | false =>
        have hinserted := insertAll_ready outage
          ((Tables.ofHistory h).save now (Sample.template now)).2 2 (Sample.records now)
        have hhistory (cs : List Change) :
            Tables.ofHistory (h ++ .saved now (Sample.template now) :: cs)
              = cs.foldl Tables.change
                ((Tables.ofHistory h).save now (Sample.template now)).2 := by
          rw [Tables.ofHistory, List.foldl_append, List.foldl_cons]
          rfl
        simp only [saveSample, h1, Bool.or_self, Bool.false_eq_true, ↓reduceIte, hhistory,
          ← hinserted]
        simp only [save, tables]
        split
        all_goals
          rename_i hi
          rw [hi]

/-- A call changes tables as it changes their history. -/
theorem run_ready (h : History) (call : Call) :
    call.run (ready (Tables.ofHistory h)) = ready (Tables.ofHistory (h ++ call.changes h)) := by
  cases call with
  | makeTables path => rw [Call.changes, List.append_nil]; rfl
  | save now template => rw [Call.changes, Tables.ofHistory_concat]; rfl
  | insert r => rw [Call.changes, Tables.ofHistory_concat]; rfl
  | seed outage now => exact seedDuring_ready outage h now

theorem after_eq (path : String) (calls : List Call) :
    after path calls = ready (Tables.ofHistory (History.ofCalls calls)) := by
  induction calls using List.reverseRecOn with
  | nil => rfl
  | append_singleton calls call ih =>
    have hstep : after path (calls ++ [call]) = call.run (after path calls) := by
      rw [after, List.foldl_append]
      rfl
    rw [hstep, History.ofCalls_concat, ih, run_ready]

end Database

end Folio.Store
