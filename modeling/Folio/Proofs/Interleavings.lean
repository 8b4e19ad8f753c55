import Folio.Proofs.Calls
import Folio.Proofs.Numbers

namespace Folio.Store

/-- How far the reading of a template has come. -/
inductive Reading where
  | begun
  | formRead (form : Form)
  | done (answer : Except Fault (Option Template))

namespace Reading

/-- The next query of a reading. -/
def next (db : Database) (name : String) : Reading → Reading
  | begun =>
    match db.activeForm? name with
    | .error e => done (.error e)
    | .ok none => done (.ok none)
    | .ok (some form) => formRead form
  | formRead form => done ((db.fieldsOf form.id).map fun fields => some ⟨form, fields⟩)
  | done answer => done answer

/-- Two queries without a change between them are the reading of a template. -/
theorem next_next (db : Database) (name : String) :
    (begun.next db name).next db name = done (db.template? name) := by
  rw [next, Database.template?]
  cases db.activeForm? name with
  | error e => rfl
  | ok form? =>
    cases form? with
    | none => rfl
    | some form =>
      change done ((db.fieldsOf form.id).map _) = done (db.fieldsOf form.id >>= _)
      cases db.fieldsOf form.id with
      | error e => rfl
      | ok fields => rfl

end Reading

/-- A step on the shared database: the next query of the reading, or a change by another client. -/
inductive Turn where
  | query
  | change (c : Change)

def Database.make (db : Database) : Change → Database
  | .saved now template => (db.save now template).2
  | .inserted r => (db.insert r).2

/-- A database and one reading of it. -/
structure Scene where
  db : Database
  reading : Reading

namespace Scene

def turn (name : String) (s : Scene) : Turn → Scene
  | .query => { s with reading := s.reading.next s.db name }
  | .change c => { s with db := s.db.make c }

def play (name : String) (s : Scene) (turns : List Turn) : Scene :=
  turns.foldl (turn name) s

theorem play_query (name : String) (s : Scene) (turns : List Turn) :
    s.play name (.query :: turns) = play name ⟨s.db, s.reading.next s.db name⟩ turns := rfl

/-- Changes by other clients add to the history and leave the reading where it is. -/
theorem play_changes (name : String) (h : History) (reading : Reading) (cs : List Change)
    (turns : List Turn) :
    play name ⟨.ready (Tables.ofHistory h), reading⟩ (cs.map .change ++ turns)
      = play name ⟨.ready (Tables.ofHistory (h ++ cs)), reading⟩ turns := by
  induction cs generalizing h with
  | nil => rw [List.append_nil, List.map_nil, List.nil_append]
  | cons c cs ih =>
    have hmade : (Database.ready (Tables.ofHistory h)).make c
        = .ready (Tables.ofHistory (h ++ [c])) := by
      rw [Tables.ofHistory_concat]
      cases c with
      | saved now template => rfl
      | inserted r => rfl
    calc play name ⟨.ready (Tables.ofHistory h), reading⟩ ((c :: cs).map .change ++ turns)
        = play name ⟨(Database.ready (Tables.ofHistory h)).make c, reading⟩
            (cs.map .change ++ turns) := rfl
      _ = play name ⟨.ready (Tables.ofHistory (h ++ c :: cs)), reading⟩ turns := by
          rw [hmade, ih, List.append_assoc, List.singleton_append]

end Scene

/-- The two queries of a reading among changes by other clients. -/
def interleaved (before between after : List Change) : List Turn :=
  before.map .change ++ .query :: (between.map .change ++ .query :: after.map .change)

namespace History

/-- What a reading of a name comes to that starts on the database of a history. -/
def readAmong (h : History) (name : String) (before between after : List Change) : Reading :=
  (Scene.play name ⟨.ready (Tables.ofHistory h), .begun⟩
    (interleaved before between after)).reading

/-- The form comes from the moment of the first query, the fields from that of the second. -/
theorem readAmong_eq (h : History) (name : String) (before between after : List Change) :
    h.readAmong name before between after
      = .done (.ok (((Tables.ofHistory (h ++ before)).activeForm? name).map fun form =>
          ⟨form, (Tables.ofHistory (h ++ before ++ between)).fieldsOf form.id⟩)) := by
  have hplayed : h.readAmong name before between after
      = ((Reading.begun.next (.ready (Tables.ofHistory (h ++ before))) name).next
          (.ready (Tables.ofHistory (h ++ before ++ between))) name) := by
    rw [readAmong, interleaved, Scene.play_changes, Scene.play_query, Scene.play_changes,
      Scene.play_query, ← List.append_nil (after.map Turn.change), Scene.play_changes]
    rfl
  rw [hplayed]
  cases hf : (Tables.ofHistory (h ++ before)).activeForm? name with
  | none =>
    have hfirst : Reading.begun.next (.ready (Tables.ofHistory (h ++ before))) name
        = .done (.ok none) := by
      simp only [Reading.next, Database.activeForm?, Database.tables, Except.map, hf]
    rw [hfirst]
    rfl
  | some form =>
    have hfirst : Reading.begun.next (.ready (Tables.ofHistory (h ++ before))) name
        = .formRead form := by
      simp only [Reading.next, Database.activeForm?, Database.tables, Except.map, hf]
    rw [hfirst]
    rfl

/-- The form of the current template of one moment with the fields last saved at a later one. -/
def mixed? (first second : History) (name : String) : Option Template :=
  (first.current? name).bind fun shown =>
    (second.lastSave? name).map fun last => { shown with fields := last.arranged.fields }

/-- A reading tells what its two moments have, each its part. -/
theorem content_mixed? (h : History) (later : List Change) (name : String) :
    (((Tables.ofHistory h).activeForm? name).map fun form =>
        (⟨form, (Tables.ofHistory (h ++ later)).fieldsOf form.id⟩ : Template)).map Template.content
      = (mixed? h (h ++ later) name).map Template.content := by
  have hr := reflects_ofHistory h
  have hcurrent := hr.content_template? name
  rw [Tables.template?] at hcurrent
  cases hf : (Tables.ofHistory h).activeForm? name with
  | none =>
    rw [hf, Option.map_none, Option.map_none] at hcurrent
    rw [mixed?, Option.map_eq_none_iff.mp hcurrent.symm]
    rfl
  | some form =>
    rw [hf, Option.map_some, Option.map_some] at hcurrent
    obtain ⟨shown, hshown, hcontent⟩ := Option.map_eq_some_iff.mp hcurrent.symm
    obtain ⟨hm, rfl, -⟩ := hr.activeForm?_eq_some_iff.mp hf
    obtain ⟨form', hm', hname, hid⟩ :=
      Tables.form_of_idOf? (Tables.idOf?_ofHistory (hr.idOf?_form hm) later)
    obtain ⟨last, hlast, hh⟩ := (reflects_ofHistory (h ++ later)).held form' hm'
    have hform : shown.toForm.content = form.content := congrArg Template.toForm hcontent
    have hfields : ((Tables.ofHistory (h ++ later)).fieldsOf form.id).map Field.content
        = last.arranged.fields.map Field.content := by
      rw [← hid, hh.content_fieldsOf]
      exact congrArg Template.fields last.arranged_content.symm
    have hmixed : mixed? h (h ++ later) form.name
        = some { shown with fields := last.arranged.fields } := by
      rw [mixed?, hshown, Option.bind_some, ← hname, hlast, Option.map_some]
    rw [hmixed]
    change some (⟨form.content, _⟩ : Template) = some ⟨shown.toForm.content, _⟩
    rw [hform, hfields]

end History

/-- What the store had under a name at some moment of a run. -/
def Stood (h : History) (run : List Change) (name : String) (found : Option Template) : Prop :=
  ∃ moment, h <+: moment ∧ moment <+: h ++ run ∧ ∃ stored,
    (Database.ready (Tables.ofHistory moment)).template? name = .ok stored ∧
      stored.map Template.content = found.map Template.content

/-- A template keeps its fields while no template of its name is saved. -/
theorem Tables.fieldsOf_later {h : History} {name : String} {id : Int}
    (hid : (ofHistory h).idOf? name = some id) {later : List Change}
    (hother : ∀ template ∈ History.saves later, template.name ≠ name) :
    (ofHistory (h ++ later)).fieldsOf id = (ofHistory h).fieldsOf id := by
  induction later using List.reverseRecOn with
  | nil => rw [List.append_nil]
  | append_singleton later c ih =>
    rw [← List.append_assoc, ofHistory_concat]
    cases c with
    | inserted r =>
      rw [History.saves_inserted] at hother
      exact ih hother
    | saved now template =>
      rw [History.saves_saved] at hother
      have hne : name ≠ template.name :=
        Ne.symm (hother template (List.mem_append.mpr (.inr (List.mem_singleton.mpr rfl))))
      have hfresh := (reflects_ofHistory (h ++ later)).idOf?_ne_save now hne
        (idOf?_ofHistory hid later)
      rw [change, fieldsOf_save _ now template hfresh]
      exact ih fun t ht => hother t (List.mem_append.mpr (.inl ht))

/-- A reading among changes tells the form of its first query with the fields of its second. That
is what the store had at some moment exactly if one moment has both; it is what the store had at
the first query if no save of the name comes between. -/
theorem reading_stood_iff (h : History) (name : String) (before between after : List Change) :
    ∃ found, h.readAmong name before between after = .done (.ok found) ∧
      found.map Template.content
        = (History.mixed? (h ++ before) (h ++ before ++ between) name).map Template.content ∧
      (Stood h (before ++ between ++ after) name found ↔
        ∃ moment, h <+: moment ∧ moment <+: h ++ (before ++ between ++ after) ∧
          (History.current? moment name).map Template.content
            = (History.mixed? (h ++ before) (h ++ before ++ between) name).map
                Template.content) ∧
      ((∀ template ∈ History.saves between, template.name ≠ name) →
        (Database.ready (Tables.ofHistory (h ++ before))).template? name = .ok found) := by
  have hcontent := History.content_mixed? (h ++ before) between name
  refine ⟨_, h.readAmong_eq name before between after, hcontent, ?_, ?_⟩
  · rw [Stood, hcontent]
    constructor
    · rintro ⟨moment, hstart, hend, stored, hstored, hsame⟩
      rw [Database.template?_ready] at hstored
      obtain rfl := Except.ok.inj hstored
      refine ⟨moment, hstart, hend, ?_⟩
      rw [← (reflects_ofHistory moment).content_template? name, hsame]
    · rintro ⟨moment, hstart, hend, hsame⟩
      refine ⟨moment, hstart, hend, _, Database.template?_ready _ name, ?_⟩
      rw [(reflects_ofHistory moment).content_template? name, hsame]
  · intro hother
    rw [Database.template?_ready, Tables.template?]
    cases hf : (Tables.ofHistory (h ++ before)).activeForm? name with
    | none => rfl
    | some form =>
      have hr := reflects_ofHistory (h ++ before)
      obtain ⟨hm, rfl, -⟩ := hr.activeForm?_eq_some_iff.mp hf
      rw [Option.map_some, Option.map_some, Tables.fieldsOf_later (hr.idOf?_form hm) hother]

/-- A template with one field, which its body shows. -/
def showing (field : String) (version : Int) : Template :=
  ⟨⟨0, "T", none, none, some ("\x7b\x7b" ++ field ++ "\x7d\x7d"), none, true, version, default,
    none⟩, [⟨0, 0, field, none, "Body", "Text", 0, false⟩]⟩

theorem arranged_showing (field : String) (version : Int) :
    (showing field version).arranged = showing field version := by
  rw [Template.arranged, showing, List.mergeSort_singleton]

/-- A save between the two queries leaves a form whose placeholder is not among its fields. -/
theorem reading_torn : ∃ found,
    History.readAmong [.saved default (showing "A" 1)] "T" [] [.saved default (showing "B" 2)] []
      = .done (.ok (some found)) ∧
    found.body = some "\x7b\x7bA\x7d\x7d" ∧ found.version = 1 ∧ found.fieldNames = ["B"] ∧
    ¬ Stood [.saved default (showing "A" 1)] [.saved default (showing "B" 2)] "T" (some found) := by
  have hform : (Tables.ofHistory [.saved default (showing "A" 1)]).activeForm? "T"
      = some { (showing "A" 1).toForm with id := 1 } := by
    rfl
  have hrows : (Tables.ofHistory [.saved default (showing "A" 1),
      .saved default (showing "B" 2)]).fields.filter (·.templateId == 1)
        = [⟨2, 1, "B", none, "Body", "Text", 0, false⟩] := by
    rfl
  refine ⟨⟨{ (showing "A" 1).toForm with id := 1 }, [⟨2, 1, "B", none, "Body", "Text", 0, false⟩]⟩,
    ?_, rfl, rfl, rfl, ?_⟩
  · rw [History.readAmong_eq]
    simp only [List.append_nil, List.singleton_append, hform, Option.map_some, Tables.fieldsOf,
      hrows, List.mergeSort_singleton]
  · rintro ⟨moment, ⟨rest, rfl⟩, hend, stored, hstored, hsame⟩
    rw [Database.template?_ready] at hstored
    obtain rfl := Except.ok.inj hstored
    rw [(reflects_ofHistory _).content_template?] at hsame
    rcases List.prefix_cons_iff.mp ((List.prefix_append_right_inj _).mp hend) with rfl |
      ⟨more, rfl, hmore⟩
    · have hcurrent : History.current? [.saved default (showing "A" 1)] "T"
          = some (showing "A" 1).arranged := rfl
      rw [List.append_nil, hcurrent, arranged_showing] at hsame
      exact absurd hsame (by decide)
    · obtain rfl := List.prefix_nil.mp hmore
      have hcurrent : History.current? ([.saved default (showing "A" 1)]
          ++ [.saved default (showing "B" 2)]) "T" = some (showing "B" 2).arranged := rfl
      rw [hcurrent, arranged_showing] at hsame
      exact absurd hsame (by decide)

end Folio.Store
