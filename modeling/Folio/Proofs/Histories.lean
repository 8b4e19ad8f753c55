import Folio.Store.Tables

namespace Folio.Store

/-- A change of the tables. -/
inductive Change where
  | saved (now : DateTime) (template : Template)
  | inserted (r : Record)

def Change.template? : Change → Option Template
  | saved _ template => some template
  | inserted _ => none

def Change.record? : Change → Option Record
  | saved _ _ => none
  | inserted r => some r

/-- Changes, the oldest first. -/
abbrev History := List Change

namespace History

def saves (h : History) : List Template :=
  h.filterMap Change.template?

def records (h : History) : List Record :=
  h.filterMap Change.record?

/-- The template that was first saved under a name. -/
def firstSave? (h : History) (name : String) : Option Template :=
  h.saves.find? (·.name == name)

/-- The template that was last saved under a name. -/
def lastSave? (h : History) (name : String) : Option Template :=
  (h.saves.filter (·.name == name)).getLast?

@[simp] theorem saves_saved (h : History) (now : DateTime) (template : Template) :
    saves (h ++ [.saved now template]) = h.saves ++ [template] := by
  simp [saves, Change.template?]

@[simp] theorem saves_inserted (h : History) (r : Record) :
    saves (h ++ [.inserted r]) = h.saves := by
  rw [saves, List.filterMap_append]
  exact List.append_nil _

@[simp] theorem records_saved (h : History) (now : DateTime) (template : Template) :
    records (h ++ [.saved now template]) = h.records := by
  rw [records, List.filterMap_append]
  exact List.append_nil _

@[simp] theorem records_inserted (h : History) (r : Record) :
    records (h ++ [.inserted r]) = h.records ++ [r] := by
  simp [records, Change.record?]

theorem lastSave?_saved (h : History) (now : DateTime) (template : Template) (name : String) :
    lastSave? (h ++ [.saved now template]) name
      = if template.name = name then some template else h.lastSave? name := by
  rw [lastSave?, saves_saved, List.filter_append]
  split
  · rename_i hn
    simp [hn]
  · rename_i hn
    simp [hn, lastSave?]

theorem lastSave?_inserted (h : History) (r : Record) (name : String) :
    lastSave? (h ++ [.inserted r]) name = h.lastSave? name := by
  rw [lastSave?, saves_inserted, lastSave?]

theorem firstSave?_saved (h : History) (now : DateTime) (template : Template) (name : String) :
    firstSave? (h ++ [.saved now template]) name
      = (h.firstSave? name).or (if template.name = name then some template else none) := by
  rw [firstSave?, saves_saved, List.find?_append, List.find?_singleton]
  simp only [firstSave?, beq_iff_eq]

theorem firstSave?_inserted (h : History) (r : Record) (name : String) :
    firstSave? (h ++ [.inserted r]) name = h.firstSave? name := by
  rw [firstSave?, saves_inserted, firstSave?]

end History

namespace Tables

def change (t : Tables) : Change → Tables
  | .saved now template => (t.save now template).2
  | .inserted r => t.insert r

/-- The tables that a history leaves behind. -/
def ofHistory (h : History) : Tables :=
  h.foldl change {}

theorem ofHistory_concat (h : History) (c : Change) :
    ofHistory (h ++ [c]) = (ofHistory h).change c := by
  rw [ofHistory, List.foldl_append]
  rfl

section Saving

variable {t : Tables} {template : Template}

theorem save_named (now : DateTime) {old : Form} (hf : t.formNamed? template.name = some old) :
    t.save now template = (old.id, { t with
      forms := t.forms.map fun f =>
        if f.name == template.name then overwrite now template f else f
      fields := t.fields.filter (·.templateId ≠ old.id)
        ++ numbered old.id t.lastField template.fields
      lastForm := t.lastForm + 1
      lastField := t.lastField + template.fields.length }) := by
  simp only [save, hf]

theorem save_new (now : DateTime) (hf : t.formNamed? template.name = none) :
    t.save now template = (((t.lastForm + 1 : Nat) : Int), { t with
      forms := t.forms ++ [{ template.toForm with id := ((t.lastForm + 1 : Nat) : Int) }]
      fields := t.fields.filter (·.templateId ≠ ((t.lastForm + 1 : Nat) : Int))
        ++ numbered ((t.lastForm + 1 : Nat) : Int) t.lastField template.fields
      lastForm := t.lastForm + 1
      lastField := t.lastField + template.fields.length }) := by
  simp only [save, hf]

end Saving

theorem name_of_formNamed? {t : Tables} {name : String} {form : Form}
    (hf : t.formNamed? name = some form) : form ∈ t.forms ∧ form.name = name := by
  have hname := List.find?_some hf
  exact ⟨List.mem_of_find?_eq_some hf, by simpa using hname⟩

theorem templateId_of_numbered {id : Int} {n : Nat} {fs : List Field} {f : Field}
    (h : f ∈ numbered id n fs) : f.templateId = id := by
  induction fs generalizing n with
  | nil => cases h
  | cons g fs ih =>
    rcases List.mem_cons.mp h with rfl | hm
    · rfl
    · exact ih hm

/-- The rows of a template after the rows of one template have been replaced. -/
theorem filter_replaced (fields fs : List Field) (id other : Int) (n : Nat) :
    (fields.filter (·.templateId ≠ id) ++ numbered id n fs).filter (·.templateId == other)
      = if other = id then numbered id n fs else fields.filter (·.templateId == other) := by
  rw [List.filter_append, List.filter_filter]
  split
  · rename_i he
    subst he
    have hold : fields.filter (fun f => f.templateId == other && decide (f.templateId ≠ other))
        = [] := by
      simp
    have hnew : (numbered other n fs).filter (·.templateId == other) = numbered other n fs := by
      rw [List.filter_eq_self]
      intro f hf
      simp [templateId_of_numbered hf]
    rw [hold, hnew, List.nil_append]
  · rename_i hne
    have hold : fields.filter (fun f => f.templateId == other && decide (f.templateId ≠ id))
        = fields.filter (·.templateId == other) := by
      apply List.filter_congr
      intro f _
      by_cases hf : f.templateId = other
      · simp [hf, hne]
      · simp [hf]
    have hnew : (numbered id n fs).filter (·.templateId == other) = [] := by
      rw [List.filter_eq_nil_iff]
      intro f hf
      simp [templateId_of_numbered hf, Ne.symm hne]
    rw [hold, hnew, List.append_nil]

section Saving

variable (t : Tables) (now : DateTime) (template : Template)

theorem save_fields :
    (t.save now template).2.fields = t.fields.filter (·.templateId ≠ (t.save now template).1)
      ++ numbered (t.save now template).1 t.lastField template.fields := by
  cases hf : t.formNamed? template.name with
  | none => rw [save_new now hf]
  | some old => rw [save_named now hf]

theorem save_records : (t.save now template).2.records = t.records := by
  cases hf : t.formNamed? template.name with
  | none => rw [save_new now hf]
  | some old => rw [save_named now hf]

theorem save_lastForm : (t.save now template).2.lastForm = t.lastForm + 1 := by
  cases hf : t.formNamed? template.name with
  | none => rw [save_new now hf]
  | some old => rw [save_named now hf]

/-- What saving over a form keeps stays as it is, and only a new name brings something new. -/
theorem save_forms_map {α : Type} (key : Form → α)
    (hkey : ∀ form, key (overwrite now template form) = key form) :
    ((t.formNamed? template.name).isSome ∧
      (t.save now template).2.forms.map key = t.forms.map key) ∨
    (t.formNamed? template.name = none ∧
      (t.save now template).2.forms.map key = t.forms.map key
        ++ [key { template.toForm with id := ((t.lastForm + 1 : Nat) : Int) }]) := by
  cases hf : t.formNamed? template.name with
  | none =>
    refine .inr ⟨rfl, ?_⟩
    rw [save_new now hf, List.map_append]
    rfl
  | some old =>
    refine .inl ⟨rfl, ?_⟩
    rw [save_named now hf, List.map_map]
    apply List.map_congr_left
    intro form _
    rw [Function.comp_apply]
    split
    · exact hkey form
    · rfl

end Saving

end Tables

end Folio.Store
