import Folio.Proofs.Lookups
import Folio.Proofs.Substitution

namespace Folio
open Placeholder

def isAngle (c : Char) : Bool :=
  c == '<' || c == '>'

/-- The angle brackets of a text, in their order. -/
def angles (cs : List Char) : List Char :=
  cs.filter isAngle

@[simp] theorem angles_append (as bs : List Char) : angles (as ++ bs) = angles as ++ angles bs :=
  List.filter_append ..

@[simp] theorem angles_break (cs : List Char) : angles ('\n' :: cs) = angles cs :=
  List.filter_cons_of_neg (by decide)

/-- Escaped text has no angle brackets. -/
@[simp] theorem angles_escape (cs : List Char) : angles (Text.escape cs) = [] := by
  rw [angles, List.filter_eq_nil_iff]
  intro c hc ha
  rw [isAngle, Bool.or_eq_true, beq_iff_eq, beq_iff_eq] at ha
  exact Text.angle_not_mem_escape ha cs hc

/-- The name does not mark its values as table markup. -/
structure PlainName (name : String) : Prop where
  noTable : Text.hasWord "Table".toList name.toList = false
  noTabela : Text.hasWord "Tabela".toList name.toList = false

/-- No value of the data is recognised as table markup. -/
def DataSet.Plain (data : DataSet) : Prop :=
  ∀ name value, data.get? name = some value → Text.hasWord "<table".toList value.toList = false

/-- The data with every value left empty. -/
def DataSet.emptied (data : DataSet) : DataSet :=
  ⟨data.entries.map fun (name, _) => (name, "")⟩

theorem DataSet.get?_emptied (data : DataSet) (name : String) :
    data.emptied.get? name = (data.get? name).map fun _ => "" := by
  rw [get?, get?, emptied]
  induction data.entries with
  | nil => rfl
  | cons entry entries ih =>
    obtain ⟨other, value⟩ := entry
    rw [List.map_cons, List.lookup_cons, List.lookup_cons]
    cases name == other with
    | true => rfl
    | false => exact ih

theorem DataSet.contains_emptied (data : DataSet) (name : String) :
    data.emptied.contains name = data.contains name := by
  rw [contains, contains, get?_emptied, Option.isSome_map]

theorem DataSet.plain_emptied (data : DataSet) : data.emptied.Plain := by
  intro name value h
  rw [get?_emptied, Option.map_eq_some_iff] at h
  obtain ⟨-, -, rfl⟩ := h
  decide

section Filling

variable {data other : DataSet}

/-- A value that is not table markup is inserted without angle brackets. -/
theorem angles_fillName_of_value {name value : String} (hname : PlainName name)
    (hvalue : data.get? name = some value)
    (hplain : Text.hasWord "<table".toList value.toList = false) :
    angles (fillName .escape data name) = [] := by
  have hcarries : carriesTable name value = false := by
    rw [carriesTable, hname.noTable, hname.noTabela, hplain]
    rfl
  rw [fillName_escape hcarries hvalue, angles_escape]

/-- What stands for a name has the same angle brackets for all data that hold the name. -/
theorem angles_fillName (hdata : data.Plain) (hother : other.Plain) {name : String}
    (hname : PlainName name) (hkey : data.contains name = other.contains name) :
    angles (fillName .escape data name) = angles (fillName .escape other name) := by
  rw [DataSet.contains, DataSet.contains] at hkey
  cases hd : data.get? name with
  | none =>
    rw [hd, Option.isSome_none, eq_comm, Option.isSome_eq_false_iff, Option.isNone_iff_eq_none]
      at hkey
    rw [fillName, fillName, hd, hkey]
  | some value =>
    rw [hd, Option.isSome_some, eq_comm, Option.isSome_iff_exists] at hkey
    obtain ⟨value', ho⟩ := hkey
    rw [angles_fillName_of_value hname hd (hdata name value hd),
      angles_fillName_of_value hname ho (hother name value' ho)]

theorem angles_fillPieces (hdata : data.Plain) (hother : other.Plain)
    (hkeys : ∀ name, data.contains name = other.contains name) {ps : List Piece}
    (hnames : ∀ name ∈ ps.filterMap Piece.name?, PlainName name) :
    angles (ps.flatMap (fillPiece .escape data))
      = angles (ps.flatMap (fillPiece .escape other)) := by
  induction ps with
  | nil => rfl
  | cons p ps ih =>
    rw [List.flatMap_cons, List.flatMap_cons, angles_append, angles_append]
    cases p with
    | char c => rw [ih hnames]; rfl
    | hole raw =>
      have hname : PlainName (String.ofList (Text.trim raw)) :=
        hnames _ (List.mem_filterMap.mpr ⟨.hole raw, List.mem_cons_self, rfl⟩)
      have hrest : ∀ name ∈ ps.filterMap Piece.name?, PlainName name := by
        intro name hn
        obtain ⟨q, hq, he⟩ := List.mem_filterMap.mp hn
        exact hnames name (List.mem_filterMap.mpr ⟨q, List.mem_cons_of_mem _ hq, he⟩)
      rw [ih hrest, fillPiece, fillPiece, angles_fillName hdata hother hname (hkeys _)]

/-- A filled section has the same angle brackets for all data with the same names. -/
theorem angles_fillSection (hdata : data.Plain) (hother : other.Plain)
    (hkeys : ∀ name, data.contains name = other.contains name) {s : Option String}
    (hnames : ∀ name ∈ sectionLookups s, PlainName name) :
    angles (fillSection .escape data s) = angles (fillSection .escape other s) := by
  cases s with
  | none => rfl
  | some markup =>
    rw [fillSection, fillSection]
    rw [sectionLookups] at hnames
    split
    · rfl
    · rename_i hblank
      rw [if_neg hblank] at hnames
      exact angles_fillPieces hdata hother hkeys hnames

end Filling

namespace Template

variable {t : Template} {data other : DataSet}

/-- The page of a template with its sections as the data fill them. -/
def page (policy : SanitizePolicy) (t : Template) (data : DataSet) : List Char :=
  Page.assemble t.name (t.css.getD "") (fillSection policy data t.header)
    (fillSection policy data t.body) (fillSection policy data t.footer)

theorem toList_of_render {policy : SanitizePolicy} {text : String}
    (h : t.render policy data = .ok text) : text.toList = t.page policy data := by
  rw [render] at h
  split at h
  · rw [← Except.ok.inj h, String.toList_ofList, page]
  · cases h

theorem angles_page (hnames : ∀ name ∈ t.lookups, PlainName name) (hdata : data.Plain)
    (hother : other.Plain) (hkeys : ∀ name, data.contains name = other.contains name) :
    angles (t.page .escape data) = angles (t.page .escape other) := by
  have hsection {s : Option String} (hs : s ∈ t.sections) :
      angles (fillSection .escape data s) = angles (fillSection .escape other s) :=
    angles_fillSection hdata hother hkeys
      fun name hn => hnames name (List.mem_flatMap.mpr ⟨s, hs, hn⟩)
  have hheader := hsection (s := t.header) (by simp [Form.sections])
  have hbody := hsection (s := t.body) (by simp [Form.sections])
  have hfooter := hsection (s := t.footer) (by simp [Form.sections])
  simp only [page, Page.assemble, angles_append, angles_break, hheader, hbody, hfooter]

/-- Two pages of a template whose data hold values for the same names have the same sequence of
angle brackets: that of the page whose values are all left empty. -/
theorem angles_render {text text' : String} (hnames : ∀ name ∈ t.lookups, PlainName name)
    (hdata : data.Plain) (hother : other.Plain)
    (hkeys : ∀ name, data.contains name = other.contains name)
    (hrender : t.render .escape data = .ok text) (hrender' : t.render .escape other = .ok text') :
    angles text.toList = angles text'.toList ∧
    angles text.toList = angles (t.page .escape data.emptied) := by
  rw [toList_of_render hrender, toList_of_render hrender']
  have hemptied : ∀ name, data.contains name = data.emptied.contains name := by
    intro name
    rw [data.contains_emptied]
  exact ⟨angles_page hnames hdata hother hkeys,
    angles_page hnames hdata data.plain_emptied hemptied⟩

/-- A template that shows one field in an attribute and in a paragraph, and one without a value. -/
def twiceShown : Template :=
  ⟨⟨1, "T", none, none,
      some "<p title='\x7b\x7bA\x7d\x7d'>\x7b\x7bA\x7d\x7d \x7b\x7bB\x7d\x7d</p>",
      none, true, 1, default, none⟩,
    [⟨0, 1, "A", none, "Body", "Text", 0, true⟩]⟩

def valueForA (value : String) : DataSet :=
  ⟨[("A", value)]⟩

theorem plain_valueForA {value : String}
    (h : Text.hasWord "<table".toList value.toList = false) : (valueForA value).Plain := by
  intro name value' hv
  rw [DataSet.get?, valueForA, List.lookup_cons] at hv
  split at hv
  · rwa [← Option.some.inj hv]
  · cases hv

/-- Markup and braces in a value leave the brackets of the page as they are. -/
theorem angles_twiceShown : ∃ text text',
    twiceShown.render .escape (valueForA "<b>\x7b\x7bB\x7d\x7d</b> > &lt;") = .ok text ∧
    twiceShown.render .escape (valueForA "x") = .ok text' ∧
    angles text.toList = angles text'.toList := by
  have hnames : ∀ name ∈ twiceShown.lookups, PlainName name := by
    have hlookups : twiceShown.lookups = ["A", "A", "B"] := by decide +kernel
    rw [hlookups]
    intro name hn
    simp only [List.mem_cons, List.not_mem_nil, or_false] at hn
    obtain rfl | rfl | rfl := hn
    all_goals exact ⟨by decide, by decide⟩
  have hkeys (name : String) : (valueForA "<b>\x7b\x7bB\x7d\x7d</b> > &lt;").contains name
      = (valueForA "x").contains name := by
    simp only [DataSet.contains, DataSet.get?, valueForA, List.lookup_cons]
    cases name == "A" with
    | true => rfl
    | false => rfl
  have hfilled : twiceShown.missing (valueForA "<b>\x7b\x7bB\x7d\x7d</b> > &lt;") = [] := by decide
  have hfilled' : twiceShown.missing (valueForA "x") = [] := by decide
  have hrender := render_of_filled .escape hfilled
  have hrender' := render_of_filled .escape hfilled'
  exact ⟨_, _, hrender, hrender', (angles_render hnames (plain_valueForA (by decide))
    (plain_valueForA (by decide)) hkeys hrender hrender').1⟩

end Template

end Folio
