import Folio.Proofs.Calls
import Mathlib.Data.List.Nodup

namespace Folio

/-- A record decides the value of its name: it is later than all records of the name before it, and
none behind it is later. -/
def Decides (records : List Record) (r : Record) : Prop :=
  ∃ before after, records = before ++ r :: after ∧
    (∀ other ∈ before, other.fieldName = r.fieldName → other.createdAt < r.createdAt) ∧
    ∀ other ∈ after, other.fieldName = r.fieldName → other.createdAt ≤ r.createdAt

/-- The records of one name with one time, in their order. -/
def tied (records : List Record) (name : String) (time : DateTime) : List Record :=
  records.filter fun r => r.fieldName = name ∧ r.createdAt = time

/-- Two data sets with the same entries. -/
structure DataSet.Same (d e : DataSet) : Prop where
  entries : d.entries.Perm e.entries
  get? : ∀ name, d.get? name = e.get? name

theorem DateTime.lt_of_le_of_ne {a b : DateTime} (h : a ≤ b) (hne : a ≠ b) : a < b :=
  Int.lt_iff_le_and_ne.mpr ⟨h, fun he => hne (rank_inj he)⟩

theorem Decides.mem {records : List Record} {r : Record} (h : Decides records r) : r ∈ records := by
  obtain ⟨before, after, rfl, -⟩ := h
  simp

theorem authoritative?_eq_some_iff {records : List Record} {name : String} {r : Record} :
    authoritative? records name = some r ↔ Decides records r ∧ r.fieldName = name := by
  rw [authoritative?, foremost?_eq_some_iff]
  constructor
  · rintro ⟨before, after, hsplit, hbefore, hafter⟩
    obtain ⟨front, back, rfl, rfl, hback⟩ := List.filter_eq_append_iff.mp hsplit
    obtain ⟨middle, rest, rfl, hmiddle, hr, rfl⟩ := List.filter_eq_cons_iff.mp hback
    obtain rfl := eq_of_beq hr
    refine ⟨⟨front ++ middle, rest, by simp, ?_, ?_⟩, rfl⟩
    · intro other ho hn
      rcases List.mem_append.mp ho with hfront | hskipped
      · exact hbefore other (List.mem_filter.mpr ⟨hfront, by simpa using hn⟩)
      · exact absurd (by simpa using hn) (hmiddle other hskipped)
    · intro other ho hn
      exact hafter other (List.mem_filter.mpr ⟨ho, by simpa using hn⟩)
  · rintro ⟨⟨before, after, rfl, hbefore, hafter⟩, rfl⟩
    refine ⟨before.filter (·.fieldName == r.fieldName), after.filter (·.fieldName == r.fieldName),
      by simp [List.filter_append], ?_, ?_⟩
    · intro other ho
      obtain ⟨hm, hn⟩ := List.mem_filter.mp ho
      exact hbefore other hm (eq_of_beq hn)
    · intro other ho
      obtain ⟨hm, hn⟩ := List.mem_filter.mp ho
      exact hafter other hm (eq_of_beq hn)

/-- The deciding record is the first of those tied with it, and no record of its name is later. -/
theorem decides_iff {records : List Record} {r : Record} : Decides records r ↔
    (tied records r.fieldName r.createdAt).head? = some r ∧
    ∀ other ∈ records, other.fieldName = r.fieldName → other.createdAt ≤ r.createdAt := by
  constructor
  · rintro ⟨before, after, rfl, hbefore, hafter⟩
    have hnone : tied before r.fieldName r.createdAt = [] := by
      rw [tied, List.filter_eq_nil_iff]
      intro other ho
      simp only [decide_eq_true_eq, not_and]
      intro hn htime
      have hlt := hbefore other ho hn
      rw [htime] at hlt
      exact Int.lt_irrefl _ hlt
    constructor
    · rw [tied, List.filter_append, ← tied, hnone, List.nil_append,
        List.filter_cons_of_pos (by simp), List.head?_cons]
    · simp only [List.mem_append, List.mem_cons]
      rintro other (ho | rfl | ho) hn
      · exact Int.le_of_lt (hbefore other ho hn)
      · exact Std.le_refl _
      · exact hafter other ho hn
  · rintro ⟨hhead, hlatest⟩
    obtain ⟨others, hothers⟩ := List.head?_eq_some_iff.mp hhead
    obtain ⟨before, after, rfl, hbefore, -, -⟩ := List.filter_eq_cons_iff.mp hothers
    refine ⟨before, after, rfl, ?_, fun other ho => hlatest other (by simp [ho])⟩
    intro other ho hn
    have hdiffers := hbefore other ho
    simp only [decide_eq_true_eq, not_and] at hdiffers
    exact DateTime.lt_of_le_of_ne (hlatest other (by simp [ho]) hn) (hdiffers hn)

/-- Records may change places as long as those of one name with one time keep their order. -/
theorem authoritative?_reordered {records other : List Record} (hp : other.Perm records)
    (htied : ∀ name time, tied other name time = tied records name time) (name : String) :
    authoritative? other name = authoritative? records name := by
  apply Option.ext
  intro r
  rw [authoritative?_eq_some_iff, authoritative?_eq_some_iff, decides_iff, decides_iff, htied]
  simp only [hp.mem_iff]

theorem map_fst_assign [BEq κ] [LawfulBEq κ] (key : κ) (value : ν) (l : List (κ × ν)) :
    (assign key value l).map Prod.fst = l.map Prod.fst ∨
    (key ∉ l.map Prod.fst ∧ (assign key value l).map Prod.fst = l.map Prod.fst ++ [key]) := by
  induction l with
  | nil => exact .inr ⟨List.not_mem_nil, rfl⟩
  | cons e rest ih =>
    obtain ⟨k, v⟩ := e
    rw [assign]
    split
    · exact .inl rfl
    · rename_i hne
      obtain hkept | ⟨hnew, hlast⟩ := ih
      · exact .inl (by rw [List.map_cons, hkept, List.map_cons])
      · refine .inr ⟨?_, by rw [List.map_cons, hlast, List.map_cons, List.cons_append]⟩
        simp_all

/-- Every name has one record among the latest. -/
theorem nodup_latestRecords (records : List Record) :
    ((latestRecords records).map Prod.fst).Nodup := by
  induction records using List.reverseRecOn with
  | nil => exact List.nodup_nil
  | append_singleton records r ih =>
    have hassigned : ((assign r.fieldName r (latestRecords records)).map Prod.fst).Nodup := by
      obtain hkept | ⟨hnew, hlast⟩ := map_fst_assign r.fieldName r (latestRecords records)
      · rwa [hkept]
      · rw [hlast]
        exact List.Nodup.append ih (List.nodup_singleton _) (List.disjoint_singleton.mpr hnew)
    rw [latestRecords, List.foldl_append, List.foldl_cons, List.foldl_nil, ← latestRecords,
      Latest.note]
    split
    · exact hassigned
    · split
      · exact hassigned
      · exact ih

theorem nodup_resolve (records : List Record) :
    ((resolve records).entries.map Prod.fst).Nodup := by
  rw [resolve, List.map_map]
  exact nodup_latestRecords records

theorem mem_iff_lookup_eq_some {l : List (String × String)} (hd : (l.map Prod.fst).Nodup)
    {name value : String} : (name, value) ∈ l ↔ l.lookup name = some value := by
  rw [List.lookup_eq_some_iff]
  constructor
  · intro hm
    obtain ⟨before, after, rfl⟩ := List.append_of_mem hm
    refine ⟨before, after, rfl, ?_⟩
    rintro ⟨other, v⟩ ho
    rw [List.map_append, List.map_cons] at hd
    have hne := (List.nodup_append.mp hd).2.2 other (List.mem_map.mpr ⟨(other, v), ho, rfl⟩) name
      List.mem_cons_self
    simpa using Ne.symm hne
  · rintro ⟨before, after, rfl, -⟩
    simp

/-- Resolved data with the same values have the same entries. -/
theorem same_of_get? {records other : List Record}
    (h : ∀ name, (resolve other).get? name = (resolve records).get? name) :
    (resolve other).Same (resolve records) := by
  have hother := nodup_resolve other
  have hrecords := nodup_resolve records
  refine ⟨(List.perm_ext_iff_of_nodup hother.of_map hrecords.of_map).mpr ?_, h⟩
  rintro ⟨name, value⟩
  rw [mem_iff_lookup_eq_some hother, mem_iff_lookup_eq_some hrecords]
  exact iff_of_eq (congrArg (· = some value) (h name))

theorem get?_resolve_eq_some_iff {records : List Record} {name value : String} :
    (resolve records).get? name = some value ↔
      ∃ r, Decides records r ∧ r.fieldName = name ∧ r.value.getD "" = value := by
  rw [get?_resolve, currentValue?, Option.map_eq_some_iff]
  simp only [authoritative?_eq_some_iff, and_assoc]

/-- What a record says as an entry of a data set. -/
def Record.entry (r : Record) : String × String :=
  (r.fieldName, r.value.getD "")

/-- A record that shares its name with no other decides it. -/
theorem decides_of_distinct {records : List Record} (hd : (records.map Record.fieldName).Nodup)
    {r : Record} (hm : r ∈ records) : Decides records r := by
  obtain ⟨before, after, rfl⟩ := List.append_of_mem hm
  rw [List.map_append, List.map_cons, List.nodup_append, List.nodup_cons] at hd
  obtain ⟨-, ⟨hbehind, -⟩, hfront⟩ := hd
  refine ⟨before, after, rfl, ?_, ?_⟩
  · intro other ho hn
    exact absurd hn (hfront _ (List.mem_map_of_mem ho) _ List.mem_cons_self)
  · intro other ho hn
    exact absurd (hn ▸ List.mem_map_of_mem ho) hbehind

theorem get?_resolve_again {records again : List Record}
    (hp : (again.map Record.entry).Perm (resolve records).entries) (name : String) :
    (resolve again).get? name = (resolve records).get? name := by
  have hd : (again.map Record.fieldName).Nodup := by
    have hnames := (hp.map Prod.fst).nodup_iff.mpr (nodup_resolve records)
    rwa [List.map_map] at hnames
  apply Option.ext
  intro value
  rw [get?_resolve_eq_some_iff, DataSet.get?, ← mem_iff_lookup_eq_some (nodup_resolve records),
    ← hp.mem_iff, List.mem_map]
  constructor
  · rintro ⟨r, hr, rfl, rfl⟩
    exact ⟨r, hr.mem, rfl⟩
  · rintro ⟨r, hm, he⟩
    obtain ⟨hn, hv⟩ := Prod.mk.inj he
    exact ⟨r, decides_of_distinct hd hm, hn, hv⟩

/-- Resolved data have the value of the deciding record of each name, and of no other name. They
stay the same when records change places that do not tie, and when the data themselves are resolved
as records. -/
theorem resolve_decides (records : List Record) :
    (∀ name, (resolve records).get? name = none ↔ ∀ r ∈ records, r.fieldName ≠ name) ∧
    (∀ name value, (resolve records).get? name = some value ↔
      ∃ r, Decides records r ∧ r.fieldName = name ∧ r.value.getD "" = value) ∧
    (∀ other : List Record, other.Perm records →
      (∀ name time, tied other name time = tied records name time) →
        (resolve other).Same (resolve records)) ∧
    ∀ again : List Record, (again.map Record.entry).Perm (resolve records).entries →
      (resolve again).Same (resolve records) := by
  refine ⟨?_, fun name value => get?_resolve_eq_some_iff, ?_, ?_⟩
  · intro name
    rw [get?_resolve, currentValue?, Option.map_eq_none_iff, authoritative?_eq_none_iff]
  · intro other hp htied
    apply same_of_get?
    intro name
    rw [get?_resolve, get?_resolve, currentValue?, authoritative?_reordered hp htied, currentValue?]
  · intro again hp
    exact same_of_get? (get?_resolve_again hp)

namespace Store.Database

/-- After any calls the value that the store tells for a name is that of all its records resolved:
what the deciding record of those inserted under the name says. -/
theorem fieldValue?_agrees (path : String) (calls : List Call) (name : String) :
    ∃ records value, (after path calls).allRecords = .ok records ∧
      (after path calls).fieldValue? name = .ok value ∧
      value = (resolve records).get? name ∧
      value = currentValue? (History.ofCalls calls).records name := by
  have hr := reflects_ofHistory (History.ofCalls calls)
  rw [after_eq]
  generalize Tables.ofHistory (History.ofCalls calls) = t at hr
  have hvalue : t.fieldValue? name = currentValue? t.records name := by
    rw [Tables.fieldValue?, get?_resolve, currentValue?, authoritative?, Tables.recordsOf,
      List.filter_filter]
    simp only [Bool.and_self]
    rfl
  refine ⟨t.allRecords, t.fieldValue? name, rfl, rfl, ?_, ?_⟩
  · rw [hvalue, get?_resolve, t.currentValue?_allRecords]
  · rw [hvalue, hr.records]

end Store.Database

end Folio
