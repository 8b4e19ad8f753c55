import Folio.Page

namespace Folio
open Placeholder

/-- The names that filling a section looks up. -/
def sectionLookups : Option String → List String
  | none => []
  | some markup => if Text.blank markup then [] else occurrences markup

def Form.lookups (f : Form) : List String :=
  f.sections.flatMap sectionLookups

/-- A filled section depends on the data only through the names it looks up. -/
theorem fillSection_congr (policy : SanitizePolicy) {data other : DataSet} {s : Option String}
    (h : ∀ name ∈ sectionLookups s, data.get? name = other.get? name) :
    fillSection policy data s = fillSection policy other s := by
  cases s with
  | none => rfl
  | some markup =>
    simp only [fillSection, sectionLookups] at h ⊢
    split
    · rfl
    · rename_i hb
      rw [if_neg hb] at h
      simp only [substitute, List.flatMap_def]
      congr 1
      apply List.map_congr_left
      intro piece hp
      cases piece with
      | char c => rfl
      | hole raw =>
        have hm : String.ofList (Text.trim raw) ∈ occurrences markup :=
          List.mem_filterMap.mpr ⟨.hole raw, hp, rfl⟩
        simp only [fillPiece, fillName, h _ hm]

namespace Template

/-- Rendering succeeds as soon as no required value is missing. -/
theorem render_of_filled (policy : SanitizePolicy) {t : Template} {data : DataSet}
    (h : t.missing data = []) : t.render policy data
      = .ok (String.ofList (Page.assemble t.name (t.css.getD "")
          (fillSection policy data t.header) (fillSection policy data t.body)
          (fillSection policy data t.footer))) := by
  rw [render, h]

theorem missing_congr {t : Template} {data other : DataSet}
    (h : ∀ f ∈ t.fields, f.required = true → data.get? f.name = other.get? f.name) :
    t.missing data = t.missing other := by
  unfold missing
  congr 1
  apply List.filter_congr
  intro f hf
  cases hr : f.required with
  | false => rfl
  | true => rw [h f hf hr]

/-- Data that agree on the names looked up and on the required fields give the same page, or fail
with the same names. -/
theorem render_congr (policy : SanitizePolicy) {t : Template} {data other : DataSet}
    (hlookups : ∀ name ∈ t.lookups, data.get? name = other.get? name)
    (hrequired : ∀ f ∈ t.fields, f.required = true → data.get? f.name = other.get? f.name) :
    t.render policy data = t.render policy other := by
  have hfill : ∀ s ∈ t.sections, fillSection policy data s = fillSection policy other s := by
    intro s hs
    apply fillSection_congr
    intro name hn
    exact hlookups name (List.mem_flatMap.mpr ⟨s, hs, hn⟩)
  simp only [Form.sections, List.mem_cons, List.not_mem_nil, or_false, forall_eq_or_imp,
    forall_eq] at hfill
  obtain ⟨hheader, hbody, hfooter⟩ := hfill
  simp only [render, missing_congr hrequired, hheader, hbody, hfooter]

end Template

end Folio
