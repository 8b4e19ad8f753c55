import Folio.Proofs.StoredForms

namespace Folio.Store

theorem History.isSome_firstSave? (h : History) (name : String) :
    (h.firstSave? name).isSome = (h.lastSave? name).isSome := by
  rw [firstSave?, lastSave?, ← List.head?_filter, Bool.eq_iff_iff, List.isSome_head?,
    List.getLast?_isSome]

namespace Tables

/-- The number under which a name is stored. -/
def idOf? (t : Tables) (name : String) : Option Int :=
  (t.formNamed? name).map Form.id

theorem form_of_idOf? {t : Tables} {name : String} {id : Int} (hid : t.idOf? name = some id) :
    ∃ form ∈ t.forms, form.name = name ∧ form.id = id := by
  obtain ⟨form, hf, hi⟩ := Option.map_eq_some_iff.mp hid
  obtain ⟨hm, hn⟩ := name_of_formNamed? hf
  exact ⟨form, hm, hn, hi⟩

theorem save_returns {t : Tables} {now : DateTime} {template : Template} {id : Int}
    (hid : t.idOf? template.name = some id) : (t.save now template).1 = id := by
  obtain ⟨old, hf, rfl⟩ := Option.map_eq_some_iff.mp hid
  rw [save_named now hf]

theorem idOf?_save (t : Tables) (now : DateTime) (template : Template) (name : String) :
    (t.save now template).2.idOf? name
      = if template.name = name then some (t.save now template).1 else t.idOf? name := by
  cases hf : t.formNamed? template.name with
  | none =>
    rw [save_new now hf, idOf?, formNamed?, List.find?_append, List.find?_singleton]
    by_cases hn : template.name = name
    · subst hn
      have hnone : t.forms.find? (·.name == template.name) = none := hf
      simp [hnone]
    · rw [if_neg (by simpa using hn), if_neg hn, Option.or_none]
      rfl
  | some old =>
    have hkept (form : Form) :
        (if form.name == template.name then overwrite now template form else form).name = form.name
        ∧ (if form.name == template.name then overwrite now template form else form).id
          = form.id := by
      split <;> exact ⟨rfl, rfl⟩
    have hsame : (t.save now template).2.idOf? name = t.idOf? name := by
      rw [save_named now hf, idOf?, formNamed?, List.find?_map, Option.map_map, idOf?, formNamed?]
      congr 1
      · funext form
        exact (hkept form).2
      · congr 1
        funext form
        exact congrArg (· == name) (hkept form).1
    rw [hsame]
    split
    · rename_i hn
      subst hn
      rw [save_named now hf, idOf?, hf, Option.map_some]
    · rfl

/-- A number once given to a name stays with it. -/
theorem idOf?_change {t : Tables} {name : String} {id : Int} (hid : t.idOf? name = some id)
    (c : Change) : (t.change c).idOf? name = some id := by
  cases c with
  | inserted r => exact hid
  | saved now template =>
    rw [change, idOf?_save]
    split
    · rename_i hn
      subst hn
      rw [save_returns hid]
    · exact hid

theorem idOf?_ofHistory {h : History} {name : String} {id : Int}
    (hid : (ofHistory h).idOf? name = some id) (later : History) :
    (ofHistory (h ++ later)).idOf? name = some id := by
  induction later using List.reverseRecOn with
  | nil => rwa [List.append_nil]
  | append_singleton later c ih =>
    rw [← List.append_assoc, ofHistory_concat]
    exact idOf?_change ih c

theorem id_of_numbered {templateId : Int} {n : Nat} {fs : List Field} {f : Field}
    (hf : f ∈ numbered templateId n fs) : n < f.id ∧ f.id ≤ n + fs.length := by
  induction fs generalizing n with
  | nil => cases hf
  | cons g fs ih =>
    rcases List.mem_cons.mp hf with rfl | hm
    · simp only [List.length_cons]
      omega
    · have hrest := ih hm
      simp only [List.length_cons]
      omega

theorem numbered_increasing (templateId : Int) (n : Nat) (fs : List Field) :
    (numbered templateId n fs).Pairwise fun f g => f.id < g.id := by
  induction fs generalizing n with
  | nil => exact .nil
  | cons f fs ih =>
    refine List.pairwise_cons.mpr ⟨?_, ih (n + 1)⟩
    intro g hg
    have hlater := id_of_numbered hg
    simp only
    omega

/-- A form of another name is found behind a save as it was before. -/
theorem activeForm?_save {h : History} {t : Tables} (hr : Reflects h t) (now : DateTime)
    {template : Template} {name : String} (hn : name ≠ template.name) :
    (t.save now template).2.activeForm? name = t.activeForm? name := by
  have hmem {form : Form} (hname : form.name = name) :
      form ∈ (t.save now template).2.forms ↔ form ∈ t.forms := by
    constructor
    · intro hm
      obtain ⟨hsaved, -⟩ | ⟨hold, -⟩ := hr.save_form_cases now template hm
      · exact absurd (hname.symm.trans hsaved) hn
      · exact hold
    · intro hold
      cases hf : t.formNamed? template.name with
      | none =>
        rw [save_new now hf]
        exact List.mem_append.mpr (.inl hold)
      | some old =>
        rw [save_named now hf]
        exact List.mem_map.mpr ⟨form, hold, by simp [hname, hn]⟩
  apply Option.ext
  intro form
  rw [(hr.save now template).activeForm?_eq_some_iff, hr.activeForm?_eq_some_iff]
  constructor
  · rintro ⟨hm, hname, hactive⟩
    exact ⟨(hmem hname).mp hm, hname, hactive⟩
  · rintro ⟨hm, hname, hactive⟩
    exact ⟨(hmem hname).mpr hm, hname, hactive⟩

theorem fieldsOf_save (t : Tables) (now : DateTime) (template : Template) {id : Int}
    (hid : id ≠ (t.save now template).1) :
    (t.save now template).2.fieldsOf id = t.fieldsOf id := by
  rw [fieldsOf, save_fields, filter_replaced, if_neg hid, fieldsOf]

theorem save_lastField (t : Tables) (now : DateTime) (template : Template) :
    (t.save now template).2.lastField = t.lastField + template.fields.length := by
  cases hf : t.formNamed? template.name with
  | none => rw [save_new now hf]
  | some old => rw [save_named now hf]

end Tables

namespace Reflects

variable {h : History} {t : Tables}

theorem isSome_idOf? (hr : Reflects h t) (name : String) :
    (t.idOf? name).isSome = (h.lastSave? name).isSome := by
  rw [Tables.idOf?, Option.isSome_map, hr.isSome_formNamed?]

theorem eq_of_idOf? (hr : Reflects h t) {name other : String} {id : Int}
    (hname : t.idOf? name = some id) (hother : t.idOf? other = some id) : name = other := by
  obtain ⟨form, hf, rfl, rfl⟩ := Tables.form_of_idOf? hname
  obtain ⟨form', hf', rfl, hid⟩ := Tables.form_of_idOf? hother
  rw [hr.eq_of_id hf hf' hid.symm]

theorem idOf?_form (hr : Reflects h t) {form : Form} (hm : form ∈ t.forms) :
    t.idOf? form.name = some form.id := by
  have hs : (t.idOf? form.name).isSome := by
    obtain ⟨last, hlast, -⟩ := hr.held form hm
    rw [hr.isSome_idOf?, hlast]
    rfl
  obtain ⟨id, hid⟩ := Option.isSome_iff_exists.mp hs
  obtain ⟨form', hm', hname, rfl⟩ := Tables.form_of_idOf? hid
  rw [hid, hr.eq_of_name hm' hm hname]

/-- A saved name has a form, which holds its last save. -/
theorem form_of_saved (hr : Reflects h t) {name : String} {last : Template}
    (hlast : h.lastSave? name = some last) :
    ∃ form ∈ t.forms, form.name = name ∧ Holds t form last := by
  obtain ⟨form, hm, rfl⟩ := List.mem_map.mp (hr.kept name (by rw [hlast]; rfl))
  obtain ⟨template, hl, hh⟩ := hr.held form hm
  obtain rfl : template = last := Option.some.inj (hl.symm.trans hlast)
  exact ⟨form, hm, rfl, hh⟩

/-- No other name has the number of a save. -/
theorem idOf?_ne_save (hr : Reflects h t) (now : DateTime) {template : Template} {name : String}
    {id : Int} (hn : name ≠ template.name) (hid : t.idOf? name = some id) :
    id ≠ (t.save now template).1 := by
  rintro rfl
  have hkept : (t.save now template).2.idOf? name = some (t.save now template).1 := by
    rw [Tables.idOf?_save, if_neg (Ne.symm hn), hid]
  have hsaved : (t.save now template).2.idOf? template.name = some (t.save now template).1 := by
    rw [Tables.idOf?_save, if_pos rfl]
  exact hn ((hr.save now template).eq_of_idOf? hkept hsaved)

end Reflects

/-- The rows belong to stored forms, and their numbers and times are those first given out. -/
structure Registered (h : History) (t : Tables) : Prop where
  born : ∀ form ∈ t.forms, ∃ first, h.firstSave? form.name = some first ∧
    form.createdAt = first.createdAt
  owned : ∀ f ∈ t.fields, f.templateId ∈ t.forms.map Form.id
  issued : ∀ f ∈ t.fields, f.id ≤ t.lastField
  increasing : t.fields.Pairwise fun f g => f.id < g.id

namespace Registered

variable {h : History} {t : Tables}

theorem empty : Registered [] {} := by
  constructor
  · intro form hm
    cases hm
  · intro f hf
    cases hf
  · intro f hf
    cases hf
  · exact .nil

theorem insert (hg : Registered h t) (r : Record) :
    Registered (h ++ [.inserted r]) (t.insert r) := by
  refine ⟨?_, hg.owned, hg.issued, hg.increasing⟩
  intro form hm
  rw [History.firstSave?_inserted]
  exact hg.born form hm

section Saving

variable (hg : Registered h t) (now : DateTime) (template : Template)
include hg

/-- Only a new name brings a time, which is that of its save. -/
theorem save_born (hr : Reflects h t) {form : Form} (hm : form ∈ (t.save now template).2.forms) :
    ∃ first, History.firstSave? (h ++ [.saved now template]) form.name = some first ∧
      form.createdAt = first.createdAt := by
  have hborn : ∀ entry ∈ t.forms.map fun form => (form.name, form.createdAt), ∃ first,
      History.firstSave? (h ++ [.saved now template]) entry.1 = some first ∧
        entry.2 = first.createdAt := by
    intro entry he
    obtain ⟨old, hold, rfl⟩ := List.mem_map.mp he
    obtain ⟨first, hf, hc⟩ := hg.born old hold
    exact ⟨first, by rw [History.firstSave?_saved, hf]; rfl, hc⟩
  have hentry := List.mem_map_of_mem (f := fun form : Form => (form.name, form.createdAt)) hm
  obtain ⟨-, hsame⟩ | ⟨hfree, hmore⟩ := Tables.save_forms_map t now template
    (fun form => (form.name, form.createdAt)) fun _ => rfl
  · rw [hsame] at hentry
    exact hborn _ hentry
  · rw [hmore] at hentry
    rcases List.mem_append.mp hentry with hold | hnew
    · exact hborn _ hold
    · obtain ⟨hname, hcreated⟩ := Prod.mk.inj (List.mem_singleton.mp hnew)
      have hunsaved : h.firstSave? template.name = none := by
        rw [← Option.not_isSome_iff_eq_none, h.isSome_firstSave?, ← hr.isSome_formNamed?, hfree]
        simp
      refine ⟨template, ?_, hcreated⟩
      rw [History.firstSave?_saved, hname, hunsaved]
      simp

theorem save_owned {f : Field} (hf : f ∈ (t.save now template).2.fields) :
    f.templateId ∈ (t.save now template).2.forms.map Form.id := by
  rw [Tables.save_fields] at hf
  rcases List.mem_append.mp hf with hold | hnew
  · have hid := hg.owned f (List.mem_filter.mp hold).1
    obtain ⟨-, hids⟩ | ⟨-, hids⟩ := Tables.save_forms_map t now template Form.id fun _ => rfl
    · rwa [hids]
    · rw [hids]
      exact List.mem_append.mpr (.inl hid)
  · have hid : (t.save now template).2.idOf? template.name = some (t.save now template).1 := by
      rw [Tables.idOf?_save, if_pos rfl]
    obtain ⟨form, hm, -, hi⟩ := Tables.form_of_idOf? hid
    rw [Tables.templateId_of_numbered hnew]
    exact List.mem_map.mpr ⟨form, hm, hi⟩

theorem save (hr : Reflects h t) :
    Registered (h ++ [.saved now template]) (t.save now template).2 := by
  refine ⟨fun form => hg.save_born now template hr, fun f => hg.save_owned now template, ?_, ?_⟩
  · intro f hf
    rw [Tables.save_fields] at hf
    rw [Tables.save_lastField]
    rcases List.mem_append.mp hf with hold | hnew
    · have hle := hg.issued f (List.mem_filter.mp hold).1
      omega
    · exact (Tables.id_of_numbered hnew).2
  · rw [Tables.save_fields]
    refine List.pairwise_append.mpr
      ⟨hg.increasing.sublist List.filter_sublist, Tables.numbered_increasing _ _ _, ?_⟩
    intro f hold g hnew
    have hle := hg.issued f (List.mem_filter.mp hold).1
    have hlt := (Tables.id_of_numbered hnew).1
    omega

end Saving

theorem change (hg : Registered h t) (hr : Reflects h t) (c : Change) :
    Registered (h ++ [c]) (t.change c) := by
  cases c with
  | saved now template => exact hg.save now template hr
  | inserted r => exact hg.insert r

/-- Only a stored form has fields. -/
theorem fieldsOf_of_unknown (hg : Registered h t) {id : Int} (hid : id ∉ t.forms.map Form.id) :
    t.fieldsOf id = [] := by
  have hnone : t.fields.filter (·.templateId == id) = [] := by
    rw [List.filter_eq_nil_iff]
    intro f hf he
    obtain rfl := eq_of_beq he
    exact hid (hg.owned f hf)
  rw [Tables.fieldsOf, hnone, List.mergeSort_nil]

theorem distinctFields (hg : Registered h t) : (t.fields.map Field.id).Nodup := by
  rw [List.nodup_iff_pairwise_ne, List.pairwise_map]
  exact hg.increasing.imp fun hlt => Int.ne_of_lt hlt

end Registered

theorem registered_ofHistory (h : History) : Registered h (Tables.ofHistory h) := by
  induction h using List.reverseRecOn with
  | nil => exact Registered.empty
  | append_singleton h c ih =>
    rw [Tables.ofHistory_concat]
    exact ih.change (reflects_ofHistory h) c

end Folio.Store
