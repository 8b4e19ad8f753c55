import Folio.Proofs.ByteOrder
import Folio.Proofs.Calls
import Folio.Proofs.Numbers

namespace Folio

def Field.unnumbered (f : Field) : Field :=
  { f with id := 0 }

/-- A field as a store keeps it for a template, but for its number. -/
def Field.stamped (templateId : Int) (f : Field) : Field :=
  { f with id := 0, templateId }

namespace Store

/-- Fields as they come back from the store: in display order, and in the order in which they were
saved within it. -/
structure FieldsBack (id : Int) (saved found : List Field) : Prop where
  perm : (found.map Field.unnumbered).Perm (saved.map (Field.stamped id))
  ordered : found.Pairwise fun a b => a.displayOrder ≤ b.displayOrder
  stable : ∀ place, (found.filter (·.displayOrder == place)).map Field.unnumbered
    = (saved.filter (·.displayOrder == place)).map (Field.stamped id)

/-- A template as it comes back from the store. -/
structure TemplateBack (id : Int) (first last found : Template) : Prop where
  form : found.toForm = { last.toForm with
    id, createdAt := first.createdAt, updatedAt := found.updatedAt }
  fields : FieldsBack id last.fields found.fields

/-- Records in the order of the bytes of their names, and as they were inserted within it. -/
structure RecordsBack (inserted found : List Record) : Prop where
  perm : found.Perm inserted
  ordered : found.Pairwise fun a b => bytesOf a.fieldName ≤ bytesOf b.fieldName
  stable : ∀ name, found.filter (·.fieldName == name) = inserted.filter (·.fieldName == name)

/-- What a store answers when it is asked for a name. -/
inductive Answer (h : History) (id : Int) (name : String) : Option Template → Prop
  | shown {first last found : Template} (hfirst : h.firstSave? name = some first)
      (hlast : h.lastSave? name = some last) (hactive : last.active = true)
      (hback : TemplateBack id first last found) : Answer h id name (some found)
  | hidden (hinactive : ∀ last, h.lastSave? name = some last → last.active = false) :
      Answer h id name none

theorem Holds.fieldsBack {t : Tables} {form : Form} {template : Template}
    (hh : Holds t form template) :
    FieldsBack form.id template.fields (t.fieldsOf form.id) := by
  have hback : (t.fieldsOf form.id).map Field.unnumbered
      = template.arranged.fields.map (Field.stamped form.id) := by
    have howned : ∀ f ∈ t.fieldsOf form.id, f.unnumbered = f.content.stamped form.id := by
      intro f hf
      have hid := (List.mem_filter.mp (List.mem_mergeSort.mp hf)).2
      rw [← eq_of_beq hid]
      rfl
    have hcontent : template.content.arranged.fields = template.arranged.fields.map Field.content :=
      congrArg Template.fields template.arranged_content.symm
    calc (t.fieldsOf form.id).map Field.unnumbered
        = ((t.fieldsOf form.id).map Field.content).map (Field.stamped form.id) := by
          rw [List.map_map]
          exact List.map_congr_left howned
      _ = (template.arranged.fields.map Field.content).map (Field.stamped form.id) := by
          rw [hh.content_fieldsOf, hcontent]
      _ = template.arranged.fields.map (Field.stamped form.id) := by
          rw [List.map_map]
          rfl
  obtain ⟨hperm, hordered, hstable⟩ := template.arranged_order
  constructor
  · rw [hback]
    exact hperm.map _
  · have hplaces : ((t.fieldsOf form.id).map Field.unnumbered).Pairwise
        fun a b => a.displayOrder ≤ b.displayOrder := by
      rw [hback, List.pairwise_map]
      exact hordered
    rwa [List.pairwise_map] at hplaces
  · intro place
    have hfiltered := congrArg (List.filter (·.displayOrder == place)) hback
    rw [List.filter_map, List.filter_map] at hfiltered
    exact hfiltered.trans (congrArg _ (hstable place))

namespace Tables

theorem recordsBack (t : Tables) : RecordsBack t.records t.allRecords := by
  refine ⟨List.mergeSort_perm _ _, ?_, t.filter_allRecords⟩
  refine (List.pairwise_mergeSort byName_trans byName_total t.records).imp ?_
  intro a b hab
  rw [← List.not_lt, bytesOf_lt_iff]
  simpa using hab

end Tables

namespace Reflects

variable {h : History} {t : Tables}

/-- A name is answered with its last save if that was active. -/
theorem answer (hr : Reflects h t) (hg : Registered h t) {name : String} {id : Int}
    (hid : (h.lastSave? name).isSome → t.idOf? name = some id) :
    Answer h id name (t.template? name) := by
  cases hf : t.activeForm? name with
  | none =>
    rw [Tables.template?, hf, Option.map_none]
    refine .hidden ?_
    intro last hlast
    obtain ⟨form, hm, hname, hh⟩ := hr.form_of_saved hlast
    rw [Bool.eq_false_iff]
    intro hactive
    rw [hr.activeForm?_eq_some_iff.mpr ⟨hm, hname, hh.active.trans hactive⟩] at hf
    cases hf
  | some form =>
    obtain ⟨hm, rfl, hactive⟩ := hr.activeForm?_eq_some_iff.mp hf
    obtain ⟨last, hlast, hh⟩ := hr.held form hm
    obtain ⟨first, hfirst, hcreated⟩ := hg.born form hm
    have hsaved : (h.lastSave? form.name).isSome := by
      rw [hlast]
      rfl
    obtain rfl : id = form.id := Option.some.inj ((hid hsaved).symm.trans (hr.idOf?_form hm))
    have hform : form = { last.toForm with
        id := form.id, createdAt := first.createdAt, updatedAt := form.updatedAt } := by
      rw [← hcreated]
      exact congrArg (fun content : Form => { content with
        id := form.id, createdAt := form.createdAt, updatedAt := form.updatedAt }) hh.content
    rw [Tables.template?, hf, Option.map_some]
    exact .shown hfirst hlast (hh.active.symm.trans hactive) ⟨hform, hh.fieldsBack⟩

end Reflects

/-- What a database tells of a history, in which every saved name has its number. -/
structure Tells (h : History) (idOf : String → Int) (db : Database) : Prop where
  template : ∀ name, ∃ found, db.template? name = .ok found ∧ Answer h (idOf name) name found
  fields : ∀ name last, h.lastSave? name = some last → ∃ found,
    db.fieldsOf (idOf name) = .ok found ∧ FieldsBack (idOf name) last.fields found
  unknown : ∀ id, (∀ name, (h.lastSave? name).isSome → idOf name ≠ id) → db.fieldsOf id = .ok []
  records : ∃ found, db.allRecords = .ok found ∧ RecordsBack h.records found
  distinctIds : ∀ name other, (h.lastSave? name).isSome → (h.lastSave? other).isSome →
    idOf name = idOf other → name = other
  distinctFields : ∃ t, db = .ready t ∧ (t.fields.map Field.id).Nodup

theorem Reflects.tells {h : History} {t : Tables} (hr : Reflects h t) (hg : Registered h t)
    {idOf : String → Int}
    (hid : ∀ name, (h.lastSave? name).isSome → t.idOf? name = some (idOf name)) :
    Tells h idOf (.ready t) := by
  have hform {form : Form} (hm : form ∈ t.forms) :
      (h.lastSave? form.name).isSome ∧ idOf form.name = form.id := by
    have hs : (h.lastSave? form.name).isSome := by
      rw [← hr.isSome_idOf?, hr.idOf?_form hm]
      rfl
    exact ⟨hs, Option.some.inj ((hid _ hs).symm.trans (hr.idOf?_form hm))⟩
  constructor
  · exact fun name => ⟨_, Database.template?_ready t name, hr.answer hg (hid name)⟩
  · intro name last hlast
    obtain ⟨form, hm, rfl, hh⟩ := hr.form_of_saved hlast
    rw [(hform hm).2]
    exact ⟨_, rfl, hh.fieldsBack⟩
  · intro id hunknown
    refine congrArg Except.ok (hg.fieldsOf_of_unknown ?_)
    intro hmem
    obtain ⟨form, hm, rfl⟩ := List.mem_map.mp hmem
    exact hunknown form.name (hform hm).1 (hform hm).2
  · exact ⟨_, rfl, hr.records ▸ t.recordsBack⟩
  · intro name other hname hother he
    exact hr.eq_of_idOf? (hid name hname) (he ▸ hid other hother)
  · exact ⟨t, rfl, hg.distinctFields⟩

/-- What stays of a name when another is saved. -/
structure Spared (h : History) (id : Int) (name : String) (db after : Database) : Prop where
  template : after.template? name = db.template? name
  fields : (h.lastSave? name).isSome → after.fieldsOf id = db.fieldsOf id
  records : after.allRecords = db.allRecords

/-- A call that saves a template, and what the save answers. -/
inductive Call.Saves (db : Database) : Call → Template → Except Fault Int → Prop
  | save (now : DateTime) (template : Template) :
      Saves db (.save now template) template (db.save now template).1
  | install {outage : Database.Outage} {now : DateTime} (habsent : db.hasSample outage = .ok false)
      (hworks : outage 1 = false) :
      Saves db (.seed outage now) (Sample.template now) (db.saveSample outage now).1

theorem History.ofCalls_append (calls rest : List Call) :
    ∃ later, ofCalls (calls ++ rest) = ofCalls calls ++ later := by
  induction rest using List.reverseRecOn with
  | nil => exact ⟨[], by rw [List.append_nil, List.append_nil]⟩
  | append_singleton rest call ih =>
    obtain ⟨later, ih⟩ := ih
    refine ⟨later ++ call.changes (ofCalls (calls ++ rest)), ?_⟩
    rw [← List.append_assoc, ofCalls_concat, ← List.append_assoc, ← ih]

/-- A call that saves answers the number that the name has from then on. -/
theorem Call.Saves.answer_eq {h : History} {call : Call} {template : Template}
    {answer : Except Fault Int}
    (hs : call.Saves (.ready (Tables.ofHistory h)) template answer) :
    ∃ id, answer = .ok id ∧
      ∀ later, (Tables.ofHistory (h ++ call.changes h ++ later)).idOf? template.name = some id := by
  have hsaved (now : DateTime) (more later : History) :
      (Tables.ofHistory (h ++ .saved now template :: more ++ later)).idOf? template.name
        = some ((Tables.ofHistory h).save now template).1 := by
    have hnow : (Tables.ofHistory (h ++ [.saved now template])).idOf? template.name
        = some ((Tables.ofHistory h).save now template).1 := by
      rw [Tables.ofHistory_concat, Tables.change, Tables.idOf?_save, if_pos rfl]
    have hlater := Tables.idOf?_ofHistory hnow (more ++ later)
    simpa only [List.append_assoc, List.cons_append, List.nil_append] using hlater
  cases hs with
  | save now template => exact ⟨_, rfl, hsaved now []⟩
  | @install outage now habsent hworks =>
    rw [Database.hasSample_ready] at habsent
    have hchanges : (Call.seed outage now).changes h = .saved now (Sample.template now)
        :: (accepted outage 2 (Sample.records now)).map .inserted := by
      cases h0 : outage 0 with
      | true => simp [h0] at habsent
      | false => simp_all [changes]
    refine ⟨_, ?_, fun later => hchanges ▸ hsaved now _ later⟩
    rw [Database.saveSample, hworks]
    rfl

namespace Database

theorem spared_save {h : History} {t : Tables} (hr : Reflects h t) (now : DateTime)
    {template : Template} {name : String} {id : Int} (hn : name ≠ template.name)
    (hid : (h.lastSave? name).isSome → t.idOf? name = some id) :
    Spared h id name (ready t) (ready (t.save now template).2) := by
  constructor
  · rw [template?_ready, template?_ready, Tables.template?, Tables.activeForm?_save hr now hn,
      Tables.template?]
    cases hf : t.activeForm? name with
    | none => rfl
    | some form =>
      obtain ⟨hm, hname, -⟩ := hr.activeForm?_eq_some_iff.mp hf
      have hne := hr.idOf?_ne_save now hn (hname ▸ hr.idOf?_form hm)
      rw [Option.map_some, Tables.fieldsOf_save t now template hne]
      rfl
  · intro hsaved
    have hne := hr.idOf?_ne_save now hn (hid hsaved)
    exact congrArg Except.ok (Tables.fieldsOf_save t now template hne)
  · change Except.ok (t.save now template).2.allRecords = Except.ok t.allRecords
    rw [Tables.allRecords, Tables.save_records, Tables.allRecords]

/-- After any calls the store answers from their history, a name has the number that every save of
it has answered, and a save leaves the other names alone. -/
theorem after_tells (path : String) (calls : List Call) : ∃ idOf : String → Int,
    Tells (History.ofCalls calls) idOf (after path calls) ∧
    (∀ before call rest template answer, calls = before ++ call :: rest →
      call.Saves (after path before) template answer → answer = .ok (idOf template.name)) ∧
    ∀ now template name, name ≠ template.name →
      Spared (History.ofCalls calls) (idOf name) name (after path calls)
        ((after path calls).save now template).2 := by
  have hr := reflects_ofHistory (History.ofCalls calls)
  have hg := registered_ofHistory (History.ofCalls calls)
  let idOf (name : String) : Int :=
    ((Tables.ofHistory (History.ofCalls calls)).idOf? name).getD 0
  have hid (name : String) (hs : ((History.ofCalls calls).lastSave? name).isSome) :
      (Tables.ofHistory (History.ofCalls calls)).idOf? name = some (idOf name) := by
    rw [← hr.isSome_idOf?] at hs
    obtain ⟨id, hi⟩ := Option.isSome_iff_exists.mp hs
    simp only [idOf, hi, Option.getD_some]
  refine ⟨idOf, ?_, ?_, ?_⟩
  · rw [after_eq]
    exact hr.tells hg hid
  · rintro before call rest template answer rfl hs
    rw [after_eq] at hs
    obtain ⟨id, rfl, hkept⟩ := hs.answer_eq
    obtain ⟨later, hlater⟩ := History.ofCalls_append (before ++ [call]) rest
    have hcalls : History.ofCalls (before ++ call :: rest)
        = History.ofCalls before ++ call.changes (History.ofCalls before) ++ later := by
      rw [List.append_cons, hlater, History.ofCalls_concat]
    have hnow := hkept later
    rw [← hcalls] at hnow
    simp only [idOf, hnow, Option.getD_some]
  · intro now template name hn
    rw [after_eq]
    exact spared_save hr now hn (hid name)

end Database

end Store

end Folio
