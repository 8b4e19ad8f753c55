import Folio.Proofs.Calls
import Folio.Proofs.Seeding

namespace Folio.Store

/-- Whether a template of that name is stored, active or not. -/
def Database.Stores : Database → String → Prop
  | ready t, name => ∃ form ∈ t.forms, form.name = name
  | blank, _ | unreachable, _ => False

namespace Tables

theorem isSome_formNamed?_iff (t : Tables) (name : String) :
    (t.formNamed? name).isSome ↔ (Database.ready t).Stores name := by
  simp only [formNamed?, List.find?_isSome, beq_iff_eq, Database.Stores]

theorem formNamed?_eq_none {t : Tables} {name : String}
    (hs : ¬ (Database.ready t).Stores name) : t.formNamed? name = none := by
  rwa [← Option.not_isSome_iff_eq_none, isSome_formNamed?_iff]

theorem stores_save (t : Tables) (now : DateTime) (template : Template) (name : String) :
    (Database.ready (t.save now template).2).Stores name
      ↔ (Database.ready t).Stores name ∨ template.name = name := by
  have hid (t : Tables) : (t.idOf? name).isSome ↔ (Database.ready t).Stores name := by
    rw [idOf?, Option.isSome_map, isSome_formNamed?_iff]
  rw [← hid, ← hid, idOf?_save]
  split
  · rename_i hn
    simp [hn]
  · rename_i hn
    simp [hn]

theorem stores_seeded (t : Tables) (now : DateTime) (n : Nat) :
    (Database.ready (t.seeded now n)).Stores Sample.name :=
  (t.stores_save now (Sample.template now) Sample.name).mpr (.inr rfl)

end Tables

/-- While the name of the sample is stored, nothing is installed. -/
theorem Database.seed_stored {db : Database} (hs : db.Stores Sample.name) (now : DateTime) :
    db.seed now = (.ok false, db) := by
  cases db with
  | unreachable => exact hs.elim
  | blank => exact hs.elim
  | ready t =>
    have hsome := (t.isSome_formNamed?_iff Sample.name).mpr hs
    rw [seed, seedDuring, hasSample, if_neg (by decide : ¬ noOutage 0 = true)]
    simp only [tables, Except.map, hsome]

namespace Call

/-- A call that does not fail for a reason of its own. -/
def Undisturbed : Call → Prop
  | seed outage _ => outage = Database.noOutage
  | makeTables _ | save _ _ | insert _ => True

/-- Whether a program makes the call when it starts. -/
def isRestart : Call → Bool
  | makeTables _ | seed _ _ => true
  | save _ _ | insert _ => false

/-- Whether the name of the sample is stored behind the call, whatever was stored before. -/
def bringsSample : Call → Bool
  | save _ template => template.name == Sample.name
  | seed _ _ => true
  | makeTables _ | insert _ => false

variable {call : Call}

/-- Tables stay tables, and the name of the sample is stored behind a call if it was before or if
the call brings it. -/
theorem run_stores (hc : call.Undisturbed) (t : Tables) : ∃ t', call.run (.ready t) = .ready t' ∧
    ((Database.ready t').Stores Sample.name ↔
      (Database.ready t).Stores Sample.name ∨ call.bringsSample = true) := by
  cases call with
  | makeTables path => exact ⟨t, rfl, by simp [bringsSample]⟩
  | save now template =>
    refine ⟨_, rfl, ?_⟩
    rw [bringsSample, beq_iff_eq]
    exact t.stores_save now template Sample.name
  | insert r => exact ⟨t.insert r, rfl, by simp [bringsSample, Database.Stores, Tables.insert]⟩
  | seed outage now =>
    obtain rfl : outage = Database.noOutage := hc
    by_cases hs : (Database.ready t).Stores Sample.name
    · exact ⟨t, congrArg Prod.snd (Database.seed_stored hs now), by simp [bringsSample, hs]⟩
    · have hseeded := Database.seed_ready (Tables.formNamed?_eq_none hs) now
      exact ⟨_, congrArg Prod.snd hseeded, by simp [bringsSample, Tables.stores_seeded]⟩

/-- A restart leaves a store as it is in which the name of the sample is stored. -/
theorem run_restart (hc : call.Undisturbed) (hr : call.isRestart = true) {t : Tables}
    (hs : (Database.ready t).Stores Sample.name) : call.run (.ready t) = .ready t := by
  cases call with
  | makeTables path => rfl
  | save now template => cases hr
  | insert r => cases hr
  | seed outage now =>
    obtain rfl : outage = Database.noOutage := hc
    exact congrArg Prod.snd (Database.seed_stored hs now)

end Call

namespace Database

/-- The database behind calls. -/
def runAll (db : Database) (calls : List Call) : Database :=
  calls.foldl Call.run db

theorem runAll_append (db : Database) (calls more : List Call) :
    db.runAll (calls ++ more) = (db.runAll calls).runAll more :=
  List.foldl_append

/-- The name of the sample is stored behind calls if it was before them or if one of them brings
it. -/
theorem runAll_stores {calls : List Call} (hc : ∀ call ∈ calls, call.Undisturbed) (t : Tables) :
    ∃ t', (ready t).runAll calls = ready t' ∧ ((ready t').Stores Sample.name ↔
      (ready t).Stores Sample.name ∨ ∃ call ∈ calls, call.bringsSample = true) := by
  induction calls generalizing t with
  | nil => exact ⟨t, rfl, by simp⟩
  | cons call calls ih =>
    obtain ⟨hcall, hcalls⟩ := List.forall_mem_cons.mp hc
    obtain ⟨next, hnext, hstores⟩ := Call.run_stores hcall t
    obtain ⟨after, hafter, hlater⟩ := ih hcalls next
    refine ⟨after, ?_, ?_⟩
    · rw [← hafter, ← hnext]
      rfl
    · simp [hlater, hstores, or_assoc]

/-- Once the name of the sample is stored, a run comes to the same without its restarts. -/
theorem runAll_restartless {calls : List Call} (hc : ∀ call ∈ calls, call.Undisturbed) {t : Tables}
    (hs : (ready t).Stores Sample.name) :
    (ready t).runAll calls = (ready t).runAll (calls.filter (!·.isRestart)) := by
  induction calls generalizing t with
  | nil => rfl
  | cons call calls ih =>
    obtain ⟨hcall, hcalls⟩ := List.forall_mem_cons.mp hc
    rw [List.filter_cons]
    cases hr : call.isRestart with
    | true =>
      have hkept := Call.run_restart hcall hr hs
      calc (ready t).runAll (call :: calls)
          = (call.run (ready t)).runAll calls := rfl
        _ = (ready t).runAll (calls.filter (!·.isRestart)) := by rw [hkept, ih hcalls hs]
    | false =>
      obtain ⟨next, hnext, hstores⟩ := Call.run_stores hcall t
      calc (ready t).runAll (call :: calls)
          = (call.run (ready t)).runAll calls := rfl
        _ = (call.run (ready t)).runAll (calls.filter (!·.isRestart)) := by
          rw [hnext, ih hcalls (hstores.mpr (.inl hs))]

theorem seed_answers (t : Tables) (now : DateTime) :
    (((ready t).seed now).1 = .ok true ↔ ¬ (ready t).Stores Sample.name) ∧
    ((ready t).seed now = (.ok false, ready t) ↔ (ready t).Stores Sample.name) := by
  by_cases hs : (ready t).Stores Sample.name
  · simp [seed_stored hs, hs]
  · simp [seed_ready (Tables.formNamed?_eq_none hs), hs]

/-- Tables that have been made hold what was there before. -/
theorem stores_makeTables {db : Database} {path : String}
    (hopen : (db.makeTables path).1 = .ok ()) :
    ∃ t, (db.makeTables path).2 = ready t ∧
      ∀ name, (ready t).Stores name ↔ db.Stores name := by
  cases db with
  | unreachable => cases hopen
  | blank => exact ⟨{}, rfl, fun name => by simp [Stores]⟩
  | ready t => exact ⟨t, rfl, fun name => Iff.rfl⟩

/-- In a run of a store that has its tables, a seed installs the sample exactly if no template of
its name is stored, which is so as long as none was there, saved or installed before. So only the
first seed can install it, a seed that does not and the making of the tables leave the database as
it is, and once a template of that name has been saved the run comes to the same without any
restart. -/
theorem restarts_harmless {db : Database} {path : String}
    (hopen : (db.makeTables path).1 = .ok ()) {calls : List Call}
    (hcalls : ∀ call ∈ calls, call.Undisturbed) :
    let store := (db.makeTables path).2.runAll
    (∀ before now rest, calls = before ++ .seed noOutage now :: rest →
      (((store before).seed now).1 = .ok true ↔ ¬ (store before).Stores Sample.name) ∧
      ((store before).seed now = (.ok false, store before) ↔ (store before).Stores Sample.name) ∧
      ((store before).Stores Sample.name ↔
        db.Stores Sample.name ∨ ∃ call ∈ before, call.bringsSample = true)) ∧
    (∀ before now between later rest,
      calls = before ++ .seed noOutage now :: (between ++ .seed noOutage later :: rest) →
      ((store (before ++ .seed noOutage now :: between)).seed later).1 = .ok false) ∧
    (∀ before again rest, calls = before ++ .makeTables again :: rest →
      (store before).makeTables again = (.ok (), store before)) ∧
    (∀ before now template rest, calls = before ++ .save now template :: rest →
      template.name = Sample.name →
      store calls = store (before ++ .save now template :: rest.filter (!·.isRestart))) := by
  intro store
  obtain ⟨start, hstart, hthere⟩ := stores_makeTables hopen
  have hbehind (before rest : List Call) (he : calls = before ++ rest) :
      ∃ t, store before = ready t ∧ ((ready t).Stores Sample.name ↔
        db.Stores Sample.name ∨ ∃ call ∈ before, call.bringsSample = true) := by
    have hbefore : ∀ call ∈ before, call.Undisturbed :=
      fun call hm => hcalls call (he ▸ List.mem_append_left rest hm)
    have hstores := runAll_stores hbefore start
    rwa [hthere, ← hstart] at hstores
  refine ⟨?_, ?_, ?_, ?_⟩
  · intro before now rest he
    obtain ⟨t, ht, hstores⟩ := hbehind _ _ he
    obtain ⟨hinstalls, hfinds⟩ := seed_answers t now
    rw [ht]
    exact ⟨hinstalls, hfinds, hstores⟩
  · intro before now between later rest he
    obtain ⟨t, ht, hstores⟩ := hbehind (before ++ .seed noOutage now :: between) _
      (by rw [he, List.append_assoc, List.cons_append])
    rw [ht, seed_stored (hstores.mpr (.inr ⟨.seed noOutage now, by simp, rfl⟩))]
  · intro before again rest he
    obtain ⟨t, ht, -⟩ := hbehind _ _ he
    rw [ht]
    rfl
  · intro before now template rest he hname
    obtain ⟨t, ht, hstores⟩ := hbehind (before ++ [.save now template]) rest (by simpa using he)
    have hs : (ready t).Stores Sample.name :=
      hstores.mpr (.inr ⟨.save now template, by simp, by simpa [Call.bringsSample] using hname⟩)
    have hrest : ∀ call ∈ rest, call.Undisturbed :=
      fun call hm => hcalls call (he ▸ by simp [hm])
    have hsplit (more : List Call) : store (before ++ .save now template :: more)
        = (ready t).runAll more := by
      rw [← ht, ← runAll_append, List.append_assoc, List.singleton_append]
    rw [he, hsplit, hsplit, runAll_restartless hrest hs]

/-- A sample that a user has switched off stays so over a restart. -/
theorem inactive_sample_kept :
    let store := (blank.makeTables "s").2.runAll
    let off : Template := { Sample.template default with active := false }
    ((store [.seed noOutage default, .save default off, .makeTables "s"]).seed default).1
      = .ok false ∧
    store [.seed noOutage default, .save default off, .makeTables "s", .seed noOutage default]
      = store [.seed noOutage default, .save default off] := by
  intro store off
  have hcalls : ∀ call ∈ [Call.seed noOutage default, .save default off, .makeTables "s",
      .seed noOutage default], call.Undisturbed := by
    simp [Call.Undisturbed]
  have hopen : (blank.makeTables "s").1 = .ok () := rfl
  obtain ⟨-, hsecond, -, hkept⟩ := restarts_harmless hopen hcalls
  exact ⟨hsecond [] default [.save default off, .makeTables "s"] default [] rfl,
    hkept [.seed noOutage default] default off [.makeTables "s", .seed noOutage default] rfl rfl⟩

end Database

end Folio.Store
