import Folio.Proofs.Numbers
import Folio.Store.Database

namespace Folio.Store

/-- The tables behind the save of the sample and the inserts of its first records. -/
def Tables.seeded (t : Tables) (now : DateTime) (n : Nat) : Tables :=
  let saved := (t.save now (Sample.template now)).2
  { saved with records := saved.records ++ (Sample.records now).take n }

/-- The first insert that fails stops the others. -/
theorem Database.insertAll_cases (outage : Outage) (t : Tables) (call : Nat) (rs : List Record) :
    insertAll outage (ready t) call rs
      = (.ok (), ready { t with records := t.records ++ rs.take rs.length }) ∨
    ∃ n < rs.length, outage (call + n) = true ∧ ∃ target,
      insertAll outage (ready t) call rs
        = (.error ⟨"insert_data_record", target, outageText⟩,
          ready { t with records := t.records ++ rs.take n }) := by
  induction rs generalizing t call with
  | nil => exact .inl (by rw [insertAll, List.take_nil, List.append_nil])
  | cons r rs ih =>
    rw [insertAll]
    cases ho : outage call with
    | true =>
      refine .inr ⟨0, Nat.zero_lt_succ _, ho, r.fieldName, ?_⟩
      rw [if_pos rfl, List.take_zero, List.append_nil]
    | false =>
      rw [if_neg Bool.false_ne_true]
      have hrest := ih (t.insert r) (call + 1)
      simp only [Tables.insert, List.append_assoc, List.singleton_append] at hrest
      obtain hall | ⟨n, hn, hout, target, hsome⟩ := hrest
      · exact .inl hall
      · refine .inr ⟨n + 1, Nat.succ_lt_succ hn, ?_, target, hsome⟩
        rwa [Nat.add_comm n 1, ← Nat.add_assoc]

/-- What a seed answers and leaves behind. -/
inductive SeedOutcome (outage : Database.Outage) (db : Database) (now : DateTime) :
    Except Fault Bool × Database → Prop
  | refused {fault : Fault} (hcause : ∀ t, db = .ready t → outage 0 = true ∨ outage 1 = true)
      (hop : fault.operation ≠ "insert_data_record") : SeedOutcome outage db now (.error fault, db)
  | broken {t : Tables} {n : Nat} {fault : Fault} (hdb : db = .ready t)
      (hn : n < (Sample.records now).length) (hcause : outage (2 + n) = true)
      (hop : fault.operation = "insert_data_record") :
      SeedOutcome outage db now (.error fault, .ready (t.seeded now n))
  | present {t : Tables} (hdb : db = .ready t) (hs : (t.formNamed? Sample.name).isSome) :
      SeedOutcome outage db now (.ok false, db)
  | installed {t : Tables} (hdb : db = .ready t) (hs : t.formNamed? Sample.name = none) :
      SeedOutcome outage db now (.ok true, .ready (t.seeded now (Sample.records now).length))

namespace Database

theorem seedDuring_outcome (outage : Outage) (db : Database) (now : DateTime) :
    SeedOutcome outage db now (db.seedDuring outage now) := by
  rw [seedDuring, hasSample]
  cases h0 : outage 0 with
  | true => exact .refused (fun _ _ => .inl h0) (by simp)
  | false =>
    cases db with
    | unreachable => exact .refused (fun _ he => nomatch he) (by simp)
    | blank => exact .refused (fun _ he => nomatch he) (by simp)
    | ready t =>
      simp only [tables, Except.map]
      cases hs : t.formNamed? Sample.name with
      | some form => exact .present rfl (by rw [hs]; rfl)
      | none =>
        rw [saveSample]
        cases h1 : outage 1 with
        | true => exact .refused (fun _ _ => .inr h1) (by simp)
        | false =>
          simp only [save, tables, Bool.false_eq_true, ↓reduceIte]
          obtain hall | ⟨n, hn, hout, target, hsome⟩ := insertAll_cases outage
            (t.save now (Sample.template now)).2 2 (Sample.records now)
          · rw [hall]
            exact .installed rfl hs
          · rw [hsome]
            exact .broken rfl hn hout rfl

/-- The template of a sample is found from then on, whatever became of its records. -/
theorem seedDuring_seeded {outage : Outage} (h0 : outage 0 = false) (t : Tables) (now : DateTime)
    (n : Nat) (later : DateTime) : (ready (t.seeded now n)).seedDuring outage later
      = (.ok false, ready (t.seeded now n)) := by
  have hid : (t.save now (Sample.template now)).2.idOf? Sample.name
      = some (t.save now (Sample.template now)).1 := by
    rw [Tables.idOf?_save]
    exact if_pos rfl
  obtain ⟨form, hf, -⟩ := Option.map_eq_some_iff.mp hid
  have hstored : (t.seeded now n).formNamed? Sample.name = some form := hf
  rw [seedDuring, hasSample, h0, if_neg Bool.false_ne_true]
  simp only [tables, Except.map, hstored, Option.isSome_some]

/-- While no call fails the whole sample is installed. -/
theorem seed_ready {t : Tables} (hs : t.formNamed? Sample.name = none) (now : DateTime) :
    (ready t).seed now = (.ok true, ready (t.seeded now (Sample.records now).length)) := by
  have ho : SeedOutcome noOutage (ready t) now ((ready t).seed now) := seedDuring_outcome _ _ _
  generalize (ready t).seed now = result at ho
  cases ho with
  | refused hcause hop =>
    rcases hcause t rfl with h | h <;> cases h
  | broken hdb hn hcause hop => cases hcause
  | present hdb hs' =>
    cases hdb
    rw [hs] at hs'
    cases hs'
  | installed hdb hs' =>
    cases hdb
    rfl

theorem ready_seeded_ne (t : Tables) (now : DateTime) (n : Nat) :
    ready (t.seeded now n) ≠ ready t := by
  intro he
  have hlast : (t.seeded now n).lastForm = t.lastForm := by rw [ready.inj he]
  have hsaved : (t.seeded now n).lastForm = t.lastForm + 1 :=
    t.save_lastForm now (Sample.template now)
  omega

/-- A failed seed has changed nothing exactly if it did not fail at a record, and then a later one
installs the whole sample. If it failed at a record, the template and the records before it stay,
and no later seed adds the others. -/
theorem failed_seed_undone_iff {outage : Outage} {db after : Database} {now : DateTime}
    {fault : Fault} (he : db.seedDuring outage now = (.error fault, after)) :
    (after = db ↔ fault.operation ≠ "insert_data_record") ∧
    (fault.operation ≠ "insert_data_record" →
      ∀ t, db = ready t → t.formNamed? Sample.name = none → ∀ later, after.seed later
        = (.ok true, ready (t.seeded later (Sample.records later).length))) ∧
    (fault.operation = "insert_data_record" →
      ∃ t n, db = ready t ∧ n < (Sample.records now).length ∧ outage (2 + n) = true ∧
        after = ready (t.seeded now n) ∧
        ∀ outage' later, outage' 0 = false → after.seedDuring outage' later = (.ok false, after)) := by
  have ho := seedDuring_outcome outage db now
  rw [he] at ho
  cases ho with
  | refused hcause hop =>
    refine ⟨⟨fun _ => hop, fun _ => rfl⟩, ?_, fun h => absurd h hop⟩
    rintro - t rfl hs later
    exact seed_ready hs later
  | @broken t n _ hdb hn hcause hop =>
    subst hdb
    refine ⟨⟨fun h => absurd h (ready_seeded_ne t now n), fun h => absurd hop h⟩,
      fun h => absurd hop h, ?_⟩
    intro _
    exact ⟨t, n, rfl, hn, hcause, rfl, fun _ later h0 => seedDuring_seeded h0 t now n later⟩

/-- A seed whose save fails leaves an empty store empty, and the next one installs the sample. -/
theorem seed_undone_at_save : ∃ fault after,
    (ready {}).seedDuring (· == 1) default = (.error fault, after) ∧
    fault.operation ≠ "insert_data_record" ∧ after = ready {} ∧
    ∀ later, (after.seed later).1 = .ok true := by
  have he : (ready {}).seedDuring (· == 1) default
      = (.error ⟨"save_template", Sample.name, outageText⟩, ready {}) := rfl
  obtain ⟨hundone, hinstalls, -⟩ := failed_seed_undone_iff he
  refine ⟨_, _, he, by decide, hundone.mpr (by decide), ?_⟩
  intro later
  rw [hinstalls (by decide) {} rfl rfl later]

/-- A seed whose second insert fails leaves the template with one record, and the next seed leaves
it at that. -/
theorem seed_broken_at_second_insert : ∃ fault t,
    (ready {}).seedDuring (· == 3) default = (.error fault, ready t) ∧ ready t ≠ ready {} ∧
    (t.formNamed? Sample.name).isSome ∧ t.records.length = 1 ∧
    ∀ later, (ready t).seed later = (.ok false, ready t) := by
  refine ⟨⟨"insert_data_record", "Empresa", outageText⟩, Tables.seeded {} default 1, rfl,
    ready_seeded_ne {} default 1, rfl, rfl, ?_⟩
  intro later
  exact seedDuring_seeded rfl {} default 1 later

end Database

end Folio.Store
