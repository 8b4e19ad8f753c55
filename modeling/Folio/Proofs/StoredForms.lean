import Folio.Proofs.Contents
import Folio.Proofs.Histories
import Mathlib.Data.List.Induction
import Mathlib.Data.List.Nodup

namespace Folio.Store

/-- A stored form and its rows hold what a template was saved with. -/
structure Holds (t : Tables) (form : Form) (template : Template) : Prop where
  content : form.content = template.toForm.content
  rows : ∃ n, t.fields.filter (·.templateId == form.id)
    = Tables.numbered form.id n template.fields

namespace Holds

variable {t : Tables} {form : Form} {now : DateTime} {template : Template}

theorem saved (hid : form.id = (t.save now template).1)
    (hc : form.content = template.toForm.content) :
    Holds (t.save now template).2 form template := by
  refine ⟨hc, t.lastField, ?_⟩
  rw [Tables.save_fields, Tables.filter_replaced, hid, if_pos rfl]

/-- Saving one template leaves the others alone. -/
theorem save {other : Template} (hh : Holds t form other)
    (hid : form.id ≠ (t.save now template).1) : Holds (t.save now template).2 form other := by
  refine ⟨hh.content, ?_⟩
  rw [Tables.save_fields, Tables.filter_replaced, if_neg hid]
  exact hh.rows

end Holds

/-- The tables keep what a history has brought. -/
structure Reflects (h : History) (t : Tables) : Prop where
  records : t.records = h.records
  distinctNames : (t.forms.map Form.name).Nodup
  distinctIds : (t.forms.map Form.id).Nodup
  issued : ∀ form ∈ t.forms, form.id ≤ t.lastForm
  held : ∀ form ∈ t.forms, ∃ template, h.lastSave? form.name = some template ∧
    Holds t form template
  kept : ∀ name, (h.lastSave? name).isSome → name ∈ t.forms.map Form.name

namespace Reflects

variable {h : History} {t : Tables}

theorem empty : Reflects [] {} := by
  constructor
  · rfl
  · exact List.nodup_nil
  · exact List.nodup_nil
  · intro form hf
    cases hf
  · intro form hf
    cases hf
  · intro name hs
    cases hs

theorem insert (hr : Reflects h t) (r : Record) : Reflects (h ++ [.inserted r]) (t.insert r) := by
  refine ⟨?_, hr.distinctNames, hr.distinctIds, hr.issued, ?_, ?_⟩
  · rw [History.records_inserted, ← hr.records]
    rfl
  · intro form hf
    obtain ⟨template, hl, hcontent, hrows⟩ := hr.held form hf
    exact ⟨template, by rw [History.lastSave?_inserted]; exact hl, hcontent, hrows⟩
  · intro name hs
    rw [History.lastSave?_inserted] at hs
    exact hr.kept name hs

theorem eq_of_name (hr : Reflects h t) {form other : Form} (hf : form ∈ t.forms)
    (ho : other ∈ t.forms) (hn : form.name = other.name) : form = other :=
  List.inj_on_of_nodup_map hr.distinctNames hf ho hn

theorem eq_of_id (hr : Reflects h t) {form other : Form} (hf : form ∈ t.forms)
    (ho : other ∈ t.forms) (hn : form.id = other.id) : form = other :=
  List.inj_on_of_nodup_map hr.distinctIds hf ho hn

section Saving

variable (hr : Reflects h t) (now : DateTime) (template : Template)
include hr

/-- Behind a save a form is the one saved, or one that was there, of another name and number. -/
theorem save_form_cases {form : Form} (hm : form ∈ (t.save now template).2.forms) :
    (form.name = template.name ∧ form.id = (t.save now template).1 ∧
      form.content = template.toForm.content) ∨
    (form ∈ t.forms ∧ form.name ≠ template.name ∧ form.id ≠ (t.save now template).1) := by
  cases hf : t.formNamed? template.name with
  | none =>
    rw [Tables.save_new now hf] at hm ⊢
    rcases List.mem_append.mp hm with hold | hnew
    · have hname := List.find?_eq_none.mp hf form hold
      have hle := hr.issued form hold
      refine .inr ⟨hold, by simpa using hname, ?_⟩
      simp only
      omega
    · obtain rfl := List.mem_singleton.mp hnew
      exact .inl ⟨rfl, rfl, rfl⟩
  | some old =>
    obtain ⟨hold, hname⟩ := Tables.name_of_formNamed? hf
    rw [Tables.save_named now hf] at hm ⊢
    obtain ⟨f, hfm, rfl⟩ := List.mem_map.mp hm
    by_cases hn : f.name = template.name
    · obtain rfl : f = old := hr.eq_of_name hfm hold (hn.trans hname.symm)
      rw [if_pos (by simpa using hn)]
      refine .inl ⟨hn, rfl, ?_⟩
      simp [Form.content, Tables.overwrite, hn]
    · rw [if_neg (by simpa using hn)]
      refine .inr ⟨hfm, hn, ?_⟩
      intro he
      rw [hr.eq_of_id hfm hold he] at hn
      exact hn hname

theorem save_distinctNames : ((t.save now template).2.forms.map Form.name).Nodup := by
  obtain ⟨-, hnames⟩ | ⟨hnew, hnames⟩ :=
    Tables.save_forms_map t now template Form.name fun _ => rfl
  · rw [hnames]
    exact hr.distinctNames
  · rw [hnames]
    apply List.Nodup.append hr.distinctNames (List.nodup_singleton _)
    rw [List.disjoint_singleton, List.mem_map]
    rintro ⟨form, hm, he⟩
    exact absurd he (by simpa using List.find?_eq_none.mp hnew form hm)

theorem save_distinctIds : ((t.save now template).2.forms.map Form.id).Nodup := by
  obtain ⟨-, hids⟩ | ⟨-, hids⟩ := Tables.save_forms_map t now template Form.id fun _ => rfl
  · rw [hids]
    exact hr.distinctIds
  · rw [hids]
    apply List.Nodup.append hr.distinctIds (List.nodup_singleton _)
    rw [List.disjoint_singleton, List.mem_map]
    rintro ⟨form, hm, he⟩
    have hle := hr.issued form hm
    simp only at he
    omega

theorem save_issued {form : Form} (hm : form ∈ (t.save now template).2.forms) :
    form.id ≤ (t.save now template).2.lastForm := by
  have hid : form.id ∈ (t.save now template).2.forms.map Form.id := List.mem_map_of_mem hm
  have hissued : ∀ id ∈ t.forms.map Form.id, id ≤ t.lastForm := by
    intro id hi
    obtain ⟨old, hold, rfl⟩ := List.mem_map.mp hi
    exact hr.issued old hold
  rw [Tables.save_lastForm]
  obtain ⟨-, hids⟩ | ⟨-, hids⟩ := Tables.save_forms_map t now template Form.id fun _ => rfl
  · rw [hids] at hid
    have hle := hissued _ hid
    omega
  · rw [hids, List.mem_append, List.mem_singleton] at hid
    rcases hid with hold | hnew
    · have hle := hissued _ hold
      omega
    · simp only at hnew
      omega

/-- A save is kept under the name of its template, and leaves the other names alone. -/
theorem save : Reflects (h ++ [.saved now template]) (t.save now template).2 := by
  refine ⟨?_, hr.save_distinctNames now template, hr.save_distinctIds now template,
    fun form => hr.save_issued now template, ?_, ?_⟩
  · rw [Tables.save_records, History.records_saved]
    exact hr.records
  · intro form hm
    rw [History.lastSave?_saved]
    obtain ⟨hname, hid, hc⟩ | ⟨hold, hname, hid⟩ := hr.save_form_cases now template hm
    · rw [if_pos hname.symm]
      exact ⟨template, rfl, Holds.saved hid hc⟩
    · rw [if_neg (Ne.symm hname)]
      obtain ⟨other, hl, hh⟩ := hr.held form hold
      exact ⟨other, hl, hh.save hid⟩
  · intro name hs
    rw [History.lastSave?_saved] at hs
    obtain ⟨hnamed, hnames⟩ | ⟨-, hnames⟩ :=
      Tables.save_forms_map t now template Form.name fun _ => rfl
    all_goals
      rw [hnames]
      split at hs
    · rename_i hn
      obtain ⟨old, hf⟩ := Option.isSome_iff_exists.mp hnamed
      obtain ⟨hold, hname⟩ := Tables.name_of_formNamed? hf
      exact List.mem_map.mpr ⟨old, hold, hname.trans hn⟩
    · exact hr.kept name hs
    · rename_i hn
      exact List.mem_append.mpr (.inr (by simp [hn]))
    · exact List.mem_append.mpr (.inl (hr.kept name hs))

end Saving

theorem isSome_formNamed? (hr : Reflects h t) (name : String) :
    (t.formNamed? name).isSome = (h.lastSave? name).isSome := by
  rw [Bool.eq_iff_iff]
  constructor
  · intro hs
    obtain ⟨form, hf⟩ := Option.isSome_iff_exists.mp hs
    obtain ⟨hm, rfl⟩ := Tables.name_of_formNamed? hf
    obtain ⟨template, hl, -⟩ := hr.held form hm
    rw [hl]
    rfl
  · intro hs
    obtain ⟨form, hm, hn⟩ := List.mem_map.mp (hr.kept name hs)
    rw [Tables.formNamed?, List.find?_isSome]
    exact ⟨form, hm, by simpa using hn⟩

theorem change (hr : Reflects h t) (c : Change) : Reflects (h ++ [c]) (t.change c) := by
  cases c with
  | saved now template => exact hr.save now template
  | inserted r => exact hr.insert r

end Reflects

/-- The tables reflect every change that has been made to them. -/
theorem reflects_ofHistory (h : History) : Reflects h (Tables.ofHistory h) := by
  induction h using List.reverseRecOn with
  | nil => exact Reflects.empty
  | append_singleton h c ih =>
    rw [Tables.ofHistory_concat]
    exact ih.change c

theorem Tables.content_numbered (id : Int) (n : Nat) (fs : List Field) :
    (numbered id n fs).map Field.content = fs.map Field.content := by
  induction fs generalizing n with
  | nil => rfl
  | cons f fs ih => rw [numbered, List.map_cons, ih, List.map_cons]; rfl

/-- The template that was last saved under a name, if it was saved as active. -/
def History.current? (h : History) (name : String) : Option Template :=
  ((h.lastSave? name).filter (·.active)).map Template.arranged

theorem History.current?_eq_some_iff {h : History} {name : String} {shown : Template} :
    h.current? name = some shown ↔ ∃ template, h.lastSave? name = some template ∧
      template.active = true ∧ template.arranged = shown := by
  simp only [current?, Option.map_eq_some_iff, Option.filter_eq_some_iff, and_assoc]

theorem Holds.content_fieldsOf {t : Tables} {form : Form} {template : Template}
    (hh : Holds t form template) :
    (t.fieldsOf form.id).map Field.content = template.content.arranged.fields := by
  obtain ⟨n, hrows⟩ := hh.rows
  have hsort : (t.fieldsOf form.id).map Field.content
      = ((t.fields.filter (·.templateId == form.id)).map Field.content).mergeSort
          fun a b => a.displayOrder ≤ b.displayOrder :=
    List.map_mergeSort fun a _ b _ => rfl
  rw [hsort, hrows, Tables.content_numbered]
  rfl

theorem Holds.active {t : Tables} {form : Form} {template : Template}
    (hh : Holds t form template) : form.active = template.active := by
  have hactive : form.content.active = template.toForm.content.active := by rw [hh.content]
  exact hactive

namespace Reflects

variable {h : History} {t : Tables}

/-- A stored form is found under its name if it is active. -/
theorem activeForm?_eq_some_iff (hr : Reflects h t) {name : String} {form : Form} :
    t.activeForm? name = some form ↔ form ∈ t.forms ∧ form.name = name ∧ form.active = true := by
  constructor
  · intro hf
    have hfound := List.find?_some hf
    simp only [Bool.and_eq_true, beq_iff_eq] at hfound
    exact ⟨List.mem_of_find?_eq_some hf, hfound⟩
  · rintro ⟨hm, rfl, hactive⟩
    cases hf : t.activeForm? form.name with
    | none =>
      have hnone := List.find?_eq_none.mp hf form hm
      simp [hactive] at hnone
    | some other =>
      have hfound := List.find?_some hf
      simp only [Bool.and_eq_true, beq_iff_eq] at hfound
      rw [hr.eq_of_name (List.mem_of_find?_eq_some hf) hm hfound.1]

/-- A name has the contents of its last save, if that was active. -/
theorem content_template? (hr : Reflects h t) (name : String) :
    (t.template? name).map Template.content = (h.current? name).map Template.content := by
  cases hf : t.activeForm? name with
  | some form =>
    obtain ⟨hm, rfl, hactive⟩ := hr.activeForm?_eq_some_iff.mp hf
    obtain ⟨template, hl, hh⟩ := hr.held form hm
    have hcurrent : h.current? form.name = some template.arranged :=
      History.current?_eq_some_iff.mpr ⟨template, hl, hh.active.symm.trans hactive, rfl⟩
    have hcontent : (⟨form, t.fieldsOf form.id⟩ : Template).content
        = template.arranged.content := by
      rw [Template.arranged_content, Template.content, hh.content_fieldsOf, hh.content]
      rfl
    rw [hcurrent, Tables.template?, hf, Option.map_some, Option.map_some, Option.map_some, hcontent]
  | none =>
    cases hc : h.current? name with
    | none => rw [Tables.template?, hf]; rfl
    | some shown =>
      obtain ⟨template, hl, hactive, -⟩ := History.current?_eq_some_iff.mp hc
      obtain ⟨form, hm, rfl⟩ := List.mem_map.mp (hr.kept name (by rw [hl]; rfl))
      obtain ⟨other, hl', hh⟩ := hr.held form hm
      obtain rfl : template = other := Option.some.inj (hl.symm.trans hl')
      rw [hr.activeForm?_eq_some_iff.mpr ⟨hm, rfl, hh.active.trans hactive⟩] at hf
      cases hf

end Reflects

end Folio.Store
