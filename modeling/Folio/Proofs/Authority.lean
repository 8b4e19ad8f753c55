import Folio.Store.Tables
import Mathlib.Data.List.Induction

namespace Folio

instance : Std.IsLinearPreorder DateTime where
  le_refl a := Int.le_refl a.rank
  le_trans a b c := Int.le_trans (a := a.rank) (b := b.rank) (c := c.rank)
  le_total a b := Int.le_total a.rank b.rank

theorem DateTime.lt_of_not_le {a b : DateTime} (h : ¬ a ≤ b) : b < a :=
  Int.not_le.mp h

theorem DateTime.not_le_of_lt {a b : DateTime} (h : a < b) : ¬ b ≤ a :=
  Int.not_le.mpr h

theorem DateTime.lt_of_le_of_lt {a b c : DateTime} (h : a ≤ b) (h' : b < c) : a < c :=
  Int.lt_of_le_of_lt h h'

/-- The first record that no other is later than. -/
def foremost? (records : List Record) : Option Record :=
  records.find? fun r => records.all fun other => other.createdAt ≤ r.createdAt

/-- The record of a name that decides its value. -/
def authoritative? (records : List Record) (name : String) : Option Record :=
  foremost? (records.filter (·.fieldName == name))

/-- What the authoritative record of a name says; a missing value is the empty text. -/
def currentValue? (records : List Record) (name : String) : Option String :=
  (authoritative? records name).map fun r => r.value.getD ""

/-- The foremost record is later than all before it, and none behind it is later. -/
theorem foremost?_eq_some_iff {records : List Record} {r : Record} :
    foremost? records = some r ↔ ∃ before after, records = before ++ r :: after ∧
      (∀ other ∈ before, other.createdAt < r.createdAt) ∧
      ∀ other ∈ after, other.createdAt ≤ r.createdAt := by
  rw [foremost?, List.find?_eq_some_iff_append]
  constructor
  · rintro ⟨hall, before, after, rfl, hbefore⟩
    simp only [List.all_eq_true, decide_eq_true_eq] at hall
    refine ⟨before, after, rfl, ?_, fun other ho => hall other (by simp [ho])⟩
    intro other ho
    apply DateTime.lt_of_not_le
    -- If `other` were not earlier, it would be as late as any record, and found first.
    intro hle
    have hother := hbefore other ho
    rw [Bool.not_eq_true', Bool.eq_false_iff] at hother
    apply hother
    simp only [List.all_eq_true, decide_eq_true_eq]
    intro any hany
    exact Std.le_trans (hall any hany) hle
  · rintro ⟨before, after, rfl, hbefore, hafter⟩
    refine ⟨?_, before, after, rfl, ?_⟩
    · simp only [List.all_eq_true, decide_eq_true_eq, List.mem_append, List.mem_cons]
      rintro other (ho | rfl | ho)
      · exact Int.le_of_lt (hbefore other ho)
      · exact Std.le_refl _
      · exact hafter other ho
    · intro other ho
      rw [Bool.not_eq_true', Bool.eq_false_iff]
      simp only [ne_eq, List.all_eq_true, decide_eq_true_eq]
      intro hall
      exact DateTime.not_le_of_lt (hbefore other ho) (hall r (by simp))

/-- One more record is foremost only if it is later than the foremost before it. -/
theorem foremost?_concat_of_some {records : List Record} {seen : Record}
    (h : foremost? records = some seen) (r : Record) : foremost? (records ++ [r])
      = if seen.createdAt < r.createdAt then some r else some seen := by
  obtain ⟨before, after, rfl, hbefore, hafter⟩ := foremost?_eq_some_iff.mp h
  split
  · rename_i hlt
    refine foremost?_eq_some_iff.mpr ⟨before ++ seen :: after, [], rfl, ?_, by simp⟩
    simp only [List.mem_append, List.mem_cons]
    rintro other (ho | rfl | ho)
    · exact Int.lt_trans (hbefore other ho) hlt
    · exact hlt
    · exact DateTime.lt_of_le_of_lt (hafter other ho) hlt
  · rename_i hle
    refine foremost?_eq_some_iff.mpr ⟨before, after ++ [r], by simp, hbefore, ?_⟩
    simp only [List.mem_append, List.mem_singleton]
    rintro other (ho | rfl)
    · exact hafter other ho
    · exact Int.not_lt.mp hle

theorem foremost?_singleton (r : Record) : foremost? [r] = some r :=
  foremost?_eq_some_iff.mpr ⟨[], [], rfl, by simp, by simp⟩

theorem foremost?_eq_none_iff {records : List Record} :
    foremost? records = none ↔ records = [] := by
  constructor
  · intro h
    induction records using List.reverseRecOn with
    | nil => rfl
    | append_singleton records r ih =>
      exfalso
      cases hf : foremost? records with
      | none =>
        rw [ih hf, List.nil_append, foremost?_singleton] at h
        cases h
      | some seen =>
        rw [foremost?_concat_of_some hf] at h
        split at h <;> cases h
  · rintro rfl
    rfl

theorem authoritative?_eq_none_iff {records : List Record} {name : String} :
    authoritative? records name = none ↔ ∀ r ∈ records, r.fieldName ≠ name := by
  rw [authoritative?, foremost?_eq_none_iff]
  simp

theorem Latest.lookup_note (latest : Latest) (r : Record) (name : String) :
    (latest.note r).lookup name =
      if r.fieldName = name then
        match latest.lookup name with
        | none => some r
        | some seen => if seen.createdAt < r.createdAt then some r else some seen
      else latest.lookup name := by
  by_cases hn : r.fieldName = name
  · rw [if_pos hn]
    subst hn
    rw [Latest.note]
    cases hl : latest.lookup r.fieldName with
    | none => exact lookup_assign_self _ _ _
    | some seen =>
      simp only
      split
      · exact lookup_assign_self _ _ _
      · exact hl
  · rw [if_neg hn, Latest.note]
    have hother (v : Record) : (assign r.fieldName v latest).lookup name = latest.lookup name :=
      lookup_assign_ne (Ne.symm hn) v latest
    split
    · exact hother r
    · split
      · exact hother r
      · rfl

/-- Collapsing records keeps the authoritative record of each name. -/
theorem lookup_latestRecords (records : List Record) (name : String) :
    (latestRecords records).lookup name = authoritative? records name := by
  induction records using List.reverseRecOn with
  | nil => rfl
  | append_singleton records r ih =>
    have hstep : latestRecords (records ++ [r]) = (latestRecords records).note r := by
      rw [latestRecords, List.foldl_append]
      rfl
    rw [hstep, Latest.lookup_note, ih]
    by_cases hn : r.fieldName = name
    · have hnamed : (records ++ [r]).filter (·.fieldName == name)
          = records.filter (·.fieldName == name) ++ [r] := by
        simp [List.filter_append, hn]
      rw [if_pos hn, authoritative?, authoritative?, hnamed]
      cases hf : foremost? (records.filter (·.fieldName == name)) with
      | none => rw [foremost?_eq_none_iff.mp hf, List.nil_append, foremost?_singleton]
      | some seen => rw [foremost?_concat_of_some hf]
    · rw [if_neg hn, authoritative?, authoritative?]
      simp [List.filter_append, hn]

theorem lookup_values (latest : Latest) (name : String) :
    (latest.map fun (name, r) => (name, r.value.getD "")).lookup name
      = (latest.lookup name).map fun r => r.value.getD "" := by
  induction latest with
  | nil => rfl
  | cons entry latest ih =>
    obtain ⟨other, r⟩ := entry
    rw [List.map_cons, List.lookup_cons, List.lookup_cons]
    cases name == other with
    | true => rfl
    | false => exact ih

/-- Resolved data give each name the value of its authoritative record. -/
theorem get?_resolve (records : List Record) (name : String) :
    (resolve records).get? name = currentValue? records name := by
  rw [currentValue?, ← lookup_latestRecords]
  exact lookup_values _ name

/-- A stable sort keeps the order of elements that it need not separate. -/
theorem filter_mergeSort {le : α → α → Bool} (htrans : ∀ a b c, le a b → le b c → le a c)
    (htotal : ∀ a b, le a b || le b a) {p : α → Bool} (htied : ∀ a b, p a → p b → le a b)
    (l : List α) : (l.mergeSort le).filter p = l.filter p := by
  have hpairs : (l.filter p).Pairwise fun a b => le a b := by
    rw [List.pairwise_filter]
    exact List.pairwise_of_forall fun a b => htied a b
  have hsub := (List.sublist_mergeSort htrans htotal hpairs List.filter_sublist).filter p
  simp only [List.filter_filter, Bool.and_self] at hsub
  have hlen := ((List.mergeSort_perm l le).filter p).length_eq
  exact (hsub.eq_of_length hlen.symm).symm

namespace Store.Tables

theorem byName_trans (a b c : Record) (hab : (!(b.fieldName < a.fieldName)) = true)
    (hbc : (!(c.fieldName < b.fieldName)) = true) : (!(c.fieldName < a.fieldName)) = true := by
  simp only [Bool.not_eq_true', decide_eq_false_iff_not, String.not_lt] at hab hbc ⊢
  exact String.le_trans hab hbc

theorem byName_total (a b : Record) :
    (!(b.fieldName < a.fieldName) || !(a.fieldName < b.fieldName)) = true := by
  simp only [Bool.or_eq_true, Bool.not_eq_true', decide_eq_false_iff_not, String.not_lt]
  exact String.le_total _ _

theorem filter_allRecords (t : Tables) (name : String) :
    t.allRecords.filter (·.fieldName == name) = t.recordsOf name := by
  refine filter_mergeSort byName_trans byName_total ?_ t.records
  intro a b ha hb
  rw [eq_of_beq ha, eq_of_beq hb]
  simp

theorem currentValue?_allRecords (t : Tables) (name : String) :
    currentValue? t.allRecords name = currentValue? t.records name := by
  rw [currentValue?, authoritative?, t.filter_allRecords name]
  rfl

end Store.Tables

end Folio
