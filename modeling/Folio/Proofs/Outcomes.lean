import Folio.Engine
import Folio.Proofs.Authority
import Folio.Proofs.Calls
import Folio.Proofs.Lookups

namespace Folio

namespace Template

/-- The required fields whose authoritative record is missing, or has no value or a blank one. -/
def unfilled (t : Template) (records : List Record) : List String :=
  (t.fields.filter fun f => f.required &&
    (authoritative? records f.name).all fun r => r.value.all Text.blank).map Field.name

theorem blank_getD (value : Option String) : Text.blank (value.getD "") = value.all Text.blank := by
  cases value with
  | none => rfl
  | some text => rfl

/-- Rendering asks for a value for each required field, and looks only at the current values. -/
theorem missing_of_current {records : List Record} {data : DataSet}
    (hd : ∀ name, data.get? name = currentValue? records name) (t : Template) :
    t.missing data = t.unfilled records := by
  have hblank (name : String) : (data.get? name).all Text.blank
      = (authoritative? records name).all fun r => r.value.all Text.blank := by
    rw [hd, currentValue?, Option.all_map]
    congr 1
    funext r
    exact blank_getD r.value
  simp only [missing, unfilled, hblank]

end Template

/-- What a preview tells of a name in the light of a history. -/
inductive Outcome (policy : SanitizePolicy) (h : Store.History) (name : String) :
    Except ReportError (List Primitive) → Prop
  | notFound (hnone : h.current? name = none) : Outcome policy h name (.error (.notFound name))
  | invalid {t : Template} (hfound : h.current? name = some t) (hdefects : t.defects ≠ []) :
      Outcome policy h name (.error (.invalid name t.defects))
  | notRendered {t : Template} (hfound : h.current? name = some t) (hvalid : t.defects = [])
      (hunfilled : t.unfilled h.records ≠ []) :
      Outcome policy h name (.error (.notRendered ⟨t.unfilled h.records⟩))
  | document {t : Template} {data : DataSet} {page : String}
      (hfound : h.current? name = some t) (hvalid : t.defects = [])
      (hfilled : t.unfilled h.records = [])
      (hdata : ∀ field, data.get? field = currentValue? h.records field)
      (hpage : t.render policy data = .ok page) :
      Outcome policy h name (.ok (Markup.extract page))

/-- What a preview makes of the template that it has found. -/
def report (policy : SanitizePolicy) (name : String) (data : DataSet) :
    Option Template → Except ReportError (List Primitive)
  | none => .error (.notFound name)
  | some t =>
    match t.defects with
    | [] =>
      match t.render policy data with
      | .ok page => .ok (Markup.extract page)
      | .error error => .error (.notRendered error)
    | defects => .error (.invalid name defects)

theorem report_eq_of_content (policy : SanitizePolicy) (name : String) (data : DataSet)
    {found other : Option Template} (h : found.map Template.content = other.map Template.content) :
    report policy name data found = report policy name data other := by
  cases found with
  | none =>
    rw [Option.map_none] at h
    rw [Option.map_eq_none_iff.mp h.symm]
  | some t =>
    obtain ⟨t', rfl, hc⟩ := Option.map_eq_some_iff.mp h.symm
    rw [report, report, Template.defects_eq_of_content hc,
      Template.render_eq_of_content policy data hc]

section Report

variable {policy : SanitizePolicy} {h : Store.History} {name : String} {data : DataSet}

/-- The report on the current template and values is an outcome. -/
theorem outcome_report (hdata : ∀ field, data.get? field = currentValue? h.records field) :
    Outcome policy h name (report policy name data (h.current? name)) := by
  cases hfound : h.current? name with
  | none => exact .notFound hfound
  | some t =>
    rw [report]
    cases hdefects : t.defects with
    | cons defect defects =>
      have hinvalid : Outcome policy h name (.error (.invalid name t.defects)) :=
        .invalid hfound (by simp [hdefects])
      rwa [hdefects] at hinvalid
    | nil =>
      have hmissing := Template.missing_of_current hdata t
      cases hunfilled : t.unfilled h.records with
      | nil =>
        have hpage := Template.render_of_filled policy (hmissing.trans hunfilled)
        rw [hpage]
        exact .document hfound hdefects hunfilled hdata hpage
      | cons field fields =>
        have herror : t.render policy data = .error ⟨t.unfilled h.records⟩ := by
          rw [Template.render, hmissing, hunfilled]
        rw [herror]
        exact .notRendered hfound hdefects (by simp [hunfilled])

/-- No other result is an outcome. -/
theorem Outcome.eq_report (hdata : ∀ field, data.get? field = currentValue? h.records field)
    {result : Except ReportError (List Primitive)} (ho : Outcome policy h name result) :
    report policy name data (h.current? name) = result := by
  cases ho with
  | notFound hnone => rw [hnone, report]
  | @invalid t hfound hdefects =>
    rw [hfound, report]
    cases hd : t.defects with
    | nil => exact absurd hd hdefects
    | cons defect defects => rfl
  | @notRendered t hfound hvalid hunfilled =>
    have herror : t.render policy data = .error ⟨t.unfilled h.records⟩ := by
      rw [Template.render, Template.missing_of_current hdata]
      cases hu : t.unfilled h.records with
      | nil => exact absurd hu hunfilled
      | cons field fields => rfl
    rw [hfound, report, hvalid, herror]
  | @document t current page hfound hvalid hfilled hcurrent hpage =>
    have hsame : t.render policy data = t.render policy current :=
      Template.render_congr policy (fun field _ => (hdata field).trans (hcurrent field).symm)
        (fun f _ _ => (hdata f.name).trans (hcurrent f.name).symm)
    rw [hfound, report, hvalid, hsame, hpage]

end Report

namespace Engine
open Store

/-- A template is found as the form and the fields that the tables give. -/
theorem findTemplate_ready (t : Tables) (name : String) :
    findTemplate (.ready t) name =
      match t.template? name with
      | none => .error (.notFound name)
      | some template => .ok template := by
  rw [findTemplate, Database.template?_ready]
  cases t.template? name with
  | none => rfl
  | some template => rfl

/-- A preview reads the tables once for the template and once for the records. -/
theorem preview_ready (e : Engine) (t : Tables) (name : String) :
    e.preview (.ready t) name
      = report e.policy name (resolve t.allRecords) (t.template? name) := by
  rw [preview, findTemplate_ready]
  cases t.template? name with
  | none => rfl
  | some template =>
    simp only [stored, Database.allRecords, Database.tables, Except.map, Except.mapError]
    change (match template.defects with | [] => _ | _ => _) = _
    rw [report]
    cases template.defects with
    | cons defect defects => rfl
    | nil =>
      change (match template.render e.policy (resolve t.allRecords) with
        | .ok _ => _ | .error _ => _) = _
      cases template.render e.policy (resolve t.allRecords) with
      | ok page => rfl
      | error error => rfl

/-- Validation tells the defects of the current template. -/
theorem validateTemplate_reflects {h : History} {t : Tables} (hr : Reflects h t) (name : String) :
    validateTemplate (.ready t) name =
      match h.current? name with
      | none => .error (.notFound name)
      | some shown => .ok shown.defects := by
  have hcontent := hr.content_template? name
  rw [validateTemplate, findTemplate_ready]
  cases hf : t.template? name with
  | none =>
    rw [hf, Option.map_none] at hcontent
    rw [Option.map_eq_none_iff.mp hcontent.symm]
    rfl
  | some stored =>
    rw [hf, Option.map_some] at hcontent
    obtain ⟨shown, hc, he⟩ := Option.map_eq_some_iff.mp hcontent.symm
    rw [hc]
    exact congrArg Except.ok (Template.defects_eq_of_content he.symm)

/-- After any calls a preview has the outcome that their history decides, and no other. What it says
of an invalid template is what validation tells. -/
theorem preview_eq_iff (e : Engine) (path : String) (calls : List Call) (name : String) :
    (∀ result, e.preview (Database.after path calls) name = result ↔
      Outcome e.policy (History.ofCalls calls) name result) ∧
    validateTemplate (Database.after path calls) name =
      match (History.ofCalls calls).current? name with
      | none => .error (.notFound name)
      | some shown => .ok shown.defects := by
  have hr := reflects_ofHistory (History.ofCalls calls)
  have hdata : ∀ field, (resolve (Tables.ofHistory (History.ofCalls calls)).allRecords).get? field
      = currentValue? (History.ofCalls calls).records field := by
    intro field
    rw [get?_resolve, Tables.currentValue?_allRecords, hr.records]
  rw [Database.after_eq]
  refine ⟨?_, validateTemplate_reflects hr name⟩
  intro result
  rw [preview_ready, report_eq_of_content _ _ _ (hr.content_template? name)]
  constructor
  · rintro rfl
    exact outcome_report hdata
  · exact Outcome.eq_report hdata

end Engine

end Folio
