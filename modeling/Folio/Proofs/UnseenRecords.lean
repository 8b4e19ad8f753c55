import Folio.Proofs.Outcomes

namespace Folio

/-- A section holds a placeholder with the name. -/
def Form.Mentions (f : Form) (name : String) : Prop :=
  ∃ markup, some markup ∈ f.sections ∧ name ∈ Placeholder.occurrences markup

theorem Form.mentions_of_lookup {f : Form} {name : String} (h : name ∈ f.lookups) :
    f.Mentions name := by
  obtain ⟨s, hs, hn⟩ := List.mem_flatMap.mp h
  cases s with
  | none => cases hn
  | some markup =>
    rw [sectionLookups] at hn
    split at hn
    · cases hn
    · exact ⟨markup, hs, hn⟩

/-- A record of the name is there that is no earlier than the new one. -/
def Superseded (records : List Record) (r : Record) : Prop :=
  ∃ seen ∈ records, seen.fieldName = r.fieldName ∧ r.createdAt ≤ seen.createdAt

theorem foremost?_latest {records : List Record} {first : Record}
    (h : foremost? records = some first) {seen : Record} (hs : seen ∈ records) :
    seen.createdAt ≤ first.createdAt := by
  obtain ⟨before, after, rfl, hbefore, hafter⟩ := foremost?_eq_some_iff.mp h
  rcases List.mem_append.mp hs with hs | hs
  · exact Int.le_of_lt (hbefore seen hs)
  · rcases List.mem_cons.mp hs with rfl | hs
    · exact Std.le_refl _
    · exact hafter seen hs

/-- A record of one name says nothing about another. -/
theorem authoritative?_concat_ne {r : Record} {name : String} (hne : r.fieldName ≠ name)
    (records : List Record) :
    authoritative? (records ++ [r]) name = authoritative? records name := by
  have hother : (records ++ [r]).filter (·.fieldName == name)
      = records.filter (·.fieldName == name) := by
    simp [hne]
  rw [authoritative?, hother, authoritative?]

/-- A superseded record never becomes authoritative. -/
theorem authoritative?_concat_superseded {records : List Record} {r : Record}
    (h : Superseded records r) (name : String) :
    authoritative? (records ++ [r]) name = authoritative? records name := by
  by_cases hn : r.fieldName = name
  · subst hn
    obtain ⟨seen, hseen, hname, hlate⟩ := h
    have hnamed : (records ++ [r]).filter (·.fieldName == r.fieldName)
        = records.filter (·.fieldName == r.fieldName) ++ [r] := by
      simp
    have hm : seen ∈ records.filter (·.fieldName == r.fieldName) :=
      List.mem_filter.mpr ⟨hseen, beq_iff_eq.mpr hname⟩
    rw [authoritative?, authoritative?, hnamed]
    cases hf : foremost? (records.filter (·.fieldName == r.fieldName)) with
    | none =>
      rw [foremost?_eq_none_iff.mp hf] at hm
      cases hm
    | some first =>
      have hle : r.createdAt ≤ first.createdAt := Std.le_trans hlate (foremost?_latest hf hm)
      rw [foremost?_concat_of_some hf, if_neg (fun hlt => DateTime.not_le_of_lt hlt hle)]
  · exact authoritative?_concat_ne hn records

/-- The names on which the report of a template depends: those it mentions and those it requires. -/
def Template.DependsOn (t : Template) (name : String) : Prop :=
  t.Mentions name ∨ ∃ f ∈ t.fields, f.required = true ∧ f.name = name

/-- Data that agree on the names that a template depends on give the same report. -/
theorem report_congr (policy : SanitizePolicy) (name : String) {t : Template}
    {data other : DataSet} (h : ∀ field, t.DependsOn field → data.get? field = other.get? field) :
    report policy name data (some t) = report policy name other (some t) := by
  have hlookups : ∀ field ∈ t.lookups, data.get? field = other.get? field := by
    intro field hf
    exact h field (.inl (Form.mentions_of_lookup hf))
  have hrequired : ∀ f ∈ t.fields, f.required = true → data.get? f.name = other.get? f.name := by
    intro f hf hr
    exact h f.name (.inr ⟨f, hf, hr, rfl⟩)
  rw [report, report, Template.render_congr policy hlookups hrequired]

namespace Engine
open Store

/-- The value of a field in the data of a report is that of its authoritative record. -/
theorem get?_resolve_allRecords (t : Tables) (field : String) :
    (resolve t.allRecords).get? field = currentValue? t.records field := by
  rw [get?_resolve, t.currentValue?_allRecords]

/-- Inserting a record keeps the preview of a template that does not depend on its name, and of
every template if it is superseded by a record that is there. -/
theorem preview_insert_unseen (e : Engine) (path : String) (calls : List Call) {name : String}
    {t : Template} {r : Record}
    (hfound : (Database.after path calls).template? name = .ok (some t))
    (hunseen : ¬ t.DependsOn r.fieldName ∨
      ∃ records, (Database.after path calls).allRecords = .ok records ∧ Superseded records r) :
    ((Database.after path calls).insert r).1 = .ok () ∧
    e.preview ((Database.after path calls).insert r).2 name
      = e.preview (Database.after path calls) name := by
  rw [Database.after_eq] at hfound hunseen ⊢
  generalize Tables.ofHistory (History.ofCalls calls) = tables at hfound hunseen ⊢
  rw [Database.template?_ready, Except.ok.injEq] at hfound
  have hinserted : (Database.ready tables).insert r = (.ok (), .ready (tables.insert r)) := rfl
  have hsame : (tables.insert r).template? name = tables.template? name := rfl
  refine ⟨congrArg Prod.fst hinserted, ?_⟩
  rw [hinserted, preview_ready, preview_ready, hsame, hfound]
  apply report_congr
  intro field hdepends
  rw [get?_resolve_allRecords, get?_resolve_allRecords, currentValue?, currentValue?,
    Tables.insert]
  congr 1
  rcases hunseen with hother | ⟨records, hall, seen, hseen, hname, hlate⟩
  · refine authoritative?_concat_ne ?_ tables.records
    rintro rfl
    exact hother hdepends
  · obtain rfl : tables.allRecords = records := Except.ok.inj hall
    have hstored : seen ∈ tables.records := List.mem_mergeSort.mp hseen
    exact authoritative?_concat_superseded ⟨seen, hstored, hname, hlate⟩ field

/-- A template whose body shows a field that it requires. -/
def titled : Template :=
  ⟨⟨0, "T", none, none, some "<h1>\x7b\x7bA\x7d\x7d</h1>", none, true, 1, default, none⟩,
    [⟨0, 0, "A", none, "Body", "Text", 0, true⟩]⟩

/-- The template is saved, and a value for its field comes in. -/
def titledCalls : List Call :=
  [.save default titled, .insert ⟨"A", some "x", default⟩]

/-- A record with the time stamp of the one before it does not take its place. -/
theorem preview_insert_tied :
    let e : Engine := ⟨.escape, "Reports", fun d _ _ => (.ok (), d)⟩
    let db := Database.after "reports.sqlite" titledCalls
    (∃ t, db.template? "T" = .ok (some t) ∧ t.DependsOn "A") ∧
    e.preview (db.insert ⟨"A", none, default⟩).2 "T" = e.preview db "T" := by
  intro e db
  let stored : Template := ⟨{ titled.toForm with id := 1 },
    [⟨1, 1, "A", none, "Body", "Text", 0, true⟩]⟩
  have hfound : db.template? "T" = .ok (some stored) := by
    have hform : (Tables.ofHistory (History.ofCalls titledCalls)).activeForm? "T"
        = some { titled.toForm with id := 1 } := rfl
    have hrows : (Tables.ofHistory (History.ofCalls titledCalls)).fields.filter (·.templateId == 1)
        = [⟨1, 1, "A", none, "Body", "Text", 0, true⟩] := rfl
    simp only [db, Database.after_eq, Database.template?_ready, Tables.template?, hform,
      Option.map_some, Tables.fieldsOf, hrows, List.mergeSort_singleton, stored]
  have hall : db.allRecords = .ok [⟨"A", some "x", default⟩] := by
    have hrecords : (Tables.ofHistory (History.ofCalls titledCalls)).records
        = [⟨"A", some "x", default⟩] := rfl
    simp only [db, Database.after_eq, Database.allRecords, Database.tables, Except.map,
      Tables.allRecords, hrecords, List.mergeSort_singleton]
  have hsuperseded : Superseded [⟨"A", some "x", default⟩] ⟨"A", none, default⟩ :=
    ⟨⟨"A", some "x", default⟩, List.mem_singleton.mpr rfl, rfl, Std.le_refl _⟩
  refine ⟨⟨stored, hfound, .inr ⟨_, List.mem_singleton.mpr rfl, rfl, rfl⟩⟩, ?_⟩
  exact (preview_insert_unseen e "reports.sqlite" _ hfound (.inr ⟨_, hall, hsuperseded⟩)).2

end Engine

end Folio
