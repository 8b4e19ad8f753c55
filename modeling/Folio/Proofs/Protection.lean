import Folio.Proofs.Lookups
import Folio.Proofs.SectionBoundaries
import Folio.Validation

namespace Folio
open Placeholder

namespace Form

/-- The text of a section, empty if there is none. -/
def text (s : Option String) : List Char :=
  (s.getD "").toList

/-- The placeholders that the joined sections may lack. -/
def swallowed (f : Form) : List String :=
  (if unclosed (text f.header) then (firstClosed (text f.body)).toList else [])
    ++ (if unclosed (text f.header ++ ' ' :: text f.body) then (firstClosed (text f.footer)).toList
        else [])

/-- No placeholder becomes a mark: each is replaced by its value, as the policy has it. -/
def Unmarked (policy : SanitizePolicy) (data : DataSet) (f : Form) : Prop :=
  ∀ name ∈ f.lookups, ∃ value, data.get? name = some value ∧
    fillName policy data name = sanitize policy name value

end Form

/-- Every declared field has a value that is more than white space. -/
def DataSet.Covers (data : DataSet) (t : Template) : Prop :=
  ∀ f ∈ t.fields, ∃ value, data.get? f.name = some value ∧ Text.blank value = false

theorem no_brace_of_blank {cs : List Char} (h : cs.all Text.isBlank = true) : '}' ∉ cs := by
  intro hm
  exact absurd (List.all_eq_true.mp h _ hm) (by decide)

theorem sectionLookups_eq (s : Option String) : sectionLookups s = namesIn (Form.text s) := by
  cases s with
  | none => rfl
  | some markup =>
    simp only [sectionLookups, Form.text, Option.getD_some]
    split
    · rename_i hb
      exact (namesIn_of_no_brace (no_brace_of_blank hb)).symm
    · rfl

namespace Form

theorem mem_lookups {f : Form} {name : String} :
    name ∈ f.lookups ↔ name ∈ namesIn (text f.header) ∨ name ∈ namesIn (text f.body) ∨
      name ∈ namesIn (text f.footer) := by
  simp [lookups, sections, sectionLookups_eq]

theorem occurrences_combinedMarkup (f : Form) : occurrences f.combinedMarkup =
    namesIn ((text f.header ++ ' ' :: text f.body) ++ ' ' :: text f.footer) := by
  simp [occurrences_eq, combinedMarkup, text]

theorem swallowed_subset_lookups {f : Form} {name : String} (h : name ∈ f.swallowed) :
    name ∈ f.lookups := by
  rw [mem_lookups]
  rcases List.mem_append.mp h with h | h <;> split at h
  · exact .inr (.inl (firstClosed_subset (Option.mem_toList.mp h)))
  · cases h
  · exact .inr (.inr (firstClosed_subset (Option.mem_toList.mp h)))
  · cases h

/-- Joining a text to what stands before it loses at most the placeholder that an unclosed opening
swallows. -/
theorem mem_joined_or_swallowed {xs ys : List Char} {name : String}
    (h : name ∈ namesIn xs ∨ name ∈ namesIn ys) :
    name ∈ namesIn (xs ++ ' ' :: ys) ∨
      name ∈ (if unclosed xs then (firstClosed ys).toList else []) := by
  cases hu : unclosed xs with
  | false =>
    rw [namesIn_joined_of_closed hu]
    exact .inl (List.mem_append.mpr h)
  | true => simpa using namesIn_joined_subset h

theorem mem_lookups_cases {f : Form} {name : String} (h : name ∈ f.lookups) :
    name ∈ occurrences f.combinedMarkup ∨ name ∈ f.swallowed := by
  rw [occurrences_combinedMarkup, swallowed, List.mem_append]
  rw [mem_lookups, ← or_assoc] at h
  rcases h with h | h
  · rcases mem_joined_or_swallowed h with h | h
    · rcases mem_joined_or_swallowed (.inl h) with h | h
      · exact .inl h
      · exact .inr (.inr h)
    · exact .inr (.inl h)
  · rcases mem_joined_or_swallowed (.inr h) with h | h
    · exact .inl h
    · exact .inr (.inr h)

end Form

namespace Template

theorem declared_of_valid {t : Template} (valid : t.defects = []) {name : String}
    (h : name ∈ occurrences t.combinedMarkup) : name ∈ t.fieldNames := by
  simp only [defects, List.append_eq_nil_iff, List.map_eq_nil_iff] at valid
  obtain ⟨⟨⟨-, hundeclared⟩, -⟩, -⟩ := valid
  have hp : name ∈ t.placeholders := mem_names.mpr h
  have hf := List.filter_eq_nil_iff.mp hundeclared name hp
  simpa using hf

theorem lookups_declared_iff {t : Template} (valid : t.defects = []) :
    (∀ name ∈ t.lookups, name ∈ t.fieldNames) ↔ ∀ name ∈ t.swallowed, name ∈ t.fieldNames := by
  constructor
  · intro h name hs
    exact h name (Form.swallowed_subset_lookups hs)
  · intro h name hl
    rcases Form.mem_lookups_cases hl with hc | hs
    · exact declared_of_valid valid hc
    · exact h name hs

theorem render_of_covers {t : Template} {data : DataSet} (h : data.Covers t)
    (policy : SanitizePolicy) : ∃ page, t.render policy data = .ok page := by
  have hm : t.missing data = [] := by
    simp only [missing, List.map_eq_nil_iff, List.filter_eq_nil_iff]
    intro f hf
    obtain ⟨value, hv, hb⟩ := h f hf
    simp [hv, hb]
  exact ⟨_, render_of_filled policy hm⟩

/-- The data that gives each of some names the value `x`. -/
def sampleData (names : List String) : DataSet :=
  ⟨names.map fun name => (name, "x")⟩

theorem get?_sampleData {names : List String} {name : String} :
    (sampleData names).get? name = if name ∈ names then some "x" else none := by
  induction names with
  | nil => rfl
  | cons n names ih =>
    simp only [sampleData, DataSet.get?, List.map_cons, List.lookup_cons] at ih ⊢
    by_cases h : name = n
    · simp [h]
    · simp [beq_false_of_ne h, h, ih]

/-- Data for all declared fields leaves no mark exactly if all names that are looked up are
declared. -/
theorem unmarked_iff_lookups_declared (t : Template) :
    (∀ policy data, data.Covers t → t.Unmarked policy data) ↔
      ∀ name ∈ t.lookups, name ∈ t.fieldNames := by
  constructor
  · intro h name hl
    have hc : (sampleData t.fieldNames).Covers t := by
      intro f hf
      have hf' : f.name ∈ t.fieldNames := List.mem_map_of_mem hf
      exact ⟨"x", by simp [get?_sampleData, hf'], by decide⟩
    obtain ⟨value, hv, -⟩ := h .preserve _ hc name hl
    by_contra hn
    simp [get?_sampleData, hn] at hv
  · intro h policy data hc name hl
    obtain ⟨f, hf, rfl⟩ := List.mem_map.mp (h name hl)
    obtain ⟨value, hv, -⟩ := hc f hf
    exact ⟨value, hv, by simp [fillName, hv]⟩

/-- Rendering looks up declared names only, and leaves no mark when all fields have values, exactly
if the placeholders swallowed at the boundaries of sections are declared. -/
theorem validation_protects_iff (t : Template) (valid : validate (some t) = []) :
    ((∀ name ∈ t.lookups, name ∈ t.fieldNames) ↔ ∀ name ∈ t.swallowed, name ∈ t.fieldNames) ∧
    (∀ policy data, data.Covers t → ∃ page, t.render policy data = .ok page) ∧
    ((∀ policy data, data.Covers t → t.Unmarked policy data) ↔
      ∀ name ∈ t.swallowed, name ∈ t.fieldNames) := by
  refine ⟨lookups_declared_iff valid, fun policy data hc => render_of_covers hc policy, ?_⟩
  rw [unmarked_iff_lookups_declared, lookups_declared_iff valid]

theorem exists_page_with_word {policy : SanitizePolicy} {t : Template} {data : DataSet}
    {word : List Char} (hm : t.missing data = [])
    (hw : Text.hasWord word (Page.assemble t.name (t.css.getD "")
      (fillSection policy data t.header) (fillSection policy data t.body)
      (fillSection policy data t.footer)) = true) :
    ∃ page, t.render policy data = .ok page ∧ Text.hasWord word page.toList = true := by
  refine ⟨_, render_of_filled policy hm, ?_⟩
  rw [String.toList_ofList]
  exact hw

/-- A template whose header leaves an opening unclosed. -/
def unclosedHeader (fields : List String) : Template :=
  ⟨⟨1, "T", none, some "\x7b\x7b", some "<h1>\x7b\x7bA\x7d\x7d</h1>", none, true, 1, default, none⟩,
    fields.map fun name => ⟨0, 1, name, none, "Body", "Text", 0, false⟩⟩

theorem unclosedHeader_protected :
    let t := unclosedHeader ["<h1>\x7b\x7bA", "A"]
    validate (some t) = [] ∧ t.swallowed = ["A"] ∧ ∀ name ∈ t.lookups, name ∈ t.fieldNames := by
  intro t
  have valid : validate (some t) = [] := by decide +kernel
  have hswallowed : t.swallowed = ["A"] := by decide +kernel
  have declared : ∀ name ∈ t.swallowed, name ∈ t.fieldNames := by
    rw [hswallowed]
    decide
  exact ⟨valid, hswallowed, (validation_protects_iff t valid).1.mpr declared⟩

/-- Validation can pass a template of which rendering looks up a name that is not declared. The mark
then stands on the page although every declared field has a value. -/
theorem unclosedHeader_unprotected :
    let t := unclosedHeader ["<h1>\x7b\x7bA"]
    let data : DataSet := ⟨[("<h1>\x7b\x7bA", "x")]⟩
    validate (some t) = [] ∧ data.Covers t ∧ "A" ∈ t.lookups ∧ "A" ∉ t.fieldNames ∧
      ∃ page, t.render .preserve data = .ok page ∧
        Text.hasWord "<h1>[A not found]</h1>".toList page.toList = true := by
  intro t data
  have hcovers : data.Covers t := by
    intro f hf
    obtain rfl := List.mem_singleton.mp hf
    exact ⟨"x", by decide, by decide⟩
  exact ⟨by decide +kernel, hcovers, by decide +kernel, by decide,
    exists_page_with_word (by decide) (by decide +kernel)⟩

end Template

end Folio
