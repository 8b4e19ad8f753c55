import Folio.Proofs.BlockReading
import Folio.Proofs.Lookups
import Folio.Proofs.PageShell
import Folio.Proofs.Substitution

namespace Folio
open Markup Placeholder

/-- The markup of a cell with the placeholder of a field. -/
def cellOfField (name : String) : List Char :=
  "<td>".toList ++ Placeholder.written name.toList ++ "</td>".toList

/-- The markup of a table whose only row has a cell for each name. -/
def rowOfFields (names : List String) : String :=
  String.ofList ("<table><tr>".toList ++ names.flatMap cellOfField ++ "</tr></table>".toList)

theorem toList_rowOfFields (names : List String) : (rowOfFields names).toList
    = "<table><tr>".toList ++ (names.flatMap cellOfField ++ "</tr></table>".toList) := by
  rw [← List.append_assoc]
  exact String.toList_ofList

/-- A name that stands in a placeholder as it is, and does not mark its value as a table. -/
structure CellName (name : String) : Prop where
  nonempty : name.toList ≠ []
  noBrace : '}' ∉ name.toList
  trimmed : Text.trim name.toList = name.toList
  noTable : Text.hasWord "Table".toList name.toList = false
  noTabela : Text.hasWord "Tabela".toList name.toList = false

theorem CellName.nameOf {name : String} (h : CellName name) :
    Placeholder.nameOf name.toList = name := by
  rw [Placeholder.nameOf, h.trimmed, String.ofList_toList]

theorem fillName_escaped {data : DataSet} {name value : String} (h : CellName name)
    (hv : data.get? name = some value)
    (hplain : Text.hasWord "<table".toList value.toList = false) :
    fillName .escape data name = Text.escape value.toList := by
  have hcarries : carriesTable name value = false := by
    rw [carriesTable, h.noTable, h.noTabela, hplain]
    rfl
  exact fillName_escape hcarries hv

/-- A cell with any text, line breaks included. -/
def filledCell (value : String) : List Char :=
  element "td".toList .none (Text.escape value.toList)

def filledRow (values : List String) : List Char :=
  element "table".toList .none (element "tr".toList .none (values.flatMap filledCell))

theorem filledCell_eq (value : String) :
    filledCell value = "<td>".toList ++ (Text.escape value.toList ++ "</td>".toList) := by
  rw [filledCell, element, List.append_assoc]
  rfl

theorem filledRow_eq (values : List String) : filledRow values
    = "<table><tr>".toList ++ (values.flatMap filledCell ++ "</tr></table>".toList) := by
  have hend : closing "tr".toList ++ closing "table".toList = "</tr></table>".toList := by decide
  have hbegin : opening "table".toList .none ++ opening "tr".toList .none
      = "<table><tr>".toList := by decide
  rw [filledRow, element, element, ← hend, ← hbegin]
  simp only [List.append_assoc]

/-- The values that lie on one line, as a reader sees them. -/
def shownCells (values : List String) : List String :=
  (values.filter fun value => !value.toList.contains '\n').map Text.trimmed

section Filling

variable {data : DataSet} {names : List String} {value : String → String}

theorem substitute_cells (hnames : ∀ name ∈ names, CellName name)
    (hdata : ∀ name ∈ names, data.get? name = some (value name) ∧
      Text.hasWord "<table".toList (value name).toList = false) (rest : List Char) :
    substitute .escape data (names.flatMap cellOfField ++ rest)
      = (names.map value).flatMap filledCell ++ substitute .escape data rest := by
  induction names with
  | nil => rfl
  | cons name names ih =>
    have hname := hnames name (by simp)
    obtain ⟨hvalue, hplain⟩ := hdata name (by simp)
    have hrest := ih (fun n h => hnames n (by simp [h])) (fun n h => hdata n (by simp [h]))
    rw [List.flatMap_cons, List.map_cons, List.flatMap_cons, filledCell_eq, cellOfField]
    simp only [List.append_assoc]
    rw [substitute_text (by decide), substitute_placeholder hname.nonempty hname.noBrace,
      substitute_text (by decide), hname.nameOf, fillName_escaped hname hvalue hplain, hrest]

theorem substitute_rowOfFields (hnames : ∀ name ∈ names, CellName name)
    (hdata : ∀ name ∈ names, data.get? name = some (value name) ∧
      Text.hasWord "<table".toList (value name).toList = false) :
    substitute .escape data (rowOfFields names).toList = filledRow (names.map value) := by
  have hend : substitute .escape data "</tr></table>".toList = "</tr></table>".toList :=
    substitute_plain (by decide)
  rw [toList_rowOfFields, substitute_text (by decide),
    substitute_cells hnames hdata, hend, filledRow_eq]

end Filling

section Reading

variable {α : Type} {p : Pattern α} {w : List Char}

theorem not_less_escape (value : String) : '<' ∉ Text.escape value.toList :=
  Text.angle_not_mem_escape (.inl rfl) _

theorem silent_cells (hp : Leads ('<' :: w) p) (htd : passes w "td".toList = true)
    (values : List String) : Silent p (values.flatMap filledCell) := by
  apply Silent.flatMap
  intro value _
  exact silent_element hp htd .none (silent_text hp (not_less_escape value))

theorem silent_filledRow (hp : Leads ('<' :: w) p) (htable : passes w "table".toList = true)
    (htr : passes w "tr".toList = true) (htd : passes w "td".toList = true)
    (values : List String) : Silent p (filledRow values) :=
  silent_element hp htable .none (silent_element hp htr .none (silent_cells hp htd values))

/-- Of the cells of a row those are found whose values lie on one line. -/
theorem shows_cells (values : List String) :
    Shows dataCell plainText (values.flatMap filledCell) (shownCells values) := by
  induction values with
  | nil => exact ⟨[], fun _ => rfl, rfl⟩
  | cons value values ih =>
    have hf := finds_lineElement "td".toList (by decide) (by decide) .none
      (not_less_escape value)
    have hcell : Shows dataCell plainText (filledCell value) (shownCells [value]) := by
      refine ⟨_, hf, ?_⟩
      by_cases hb : '\n' ∈ value.toList
      · simp [shownCells, mem_escape_break, hb]
      · simp [shownCells, mem_escape_break, hb, plainText_escape, Text.trimmed]
    have hshown : shownCells (value :: values) = shownCells [value] ++ shownCells values := by
      simp only [shownCells]
      rw [← List.map_append, ← List.filter_append, List.singleton_append]
    rw [List.flatMap_cons, hshown]
    exact hcell.append ih

/-- A row without cells is no row. -/
def shownRows (values : List String) : List (List String) :=
  [shownCells values].filter fun cells => !cells.isEmpty

theorem tableContents_row (values : List String) :
    tableContents (element "tr".toList .none (values.flatMap filledCell))
      = ([], shownRows values) := by
  have hth : Leads "<th".toList headerCell := leads_lineElement "th".toList
  have hclose := leads_closing "tr".toList
  have hheaders : Silent headerCell (element "tr".toList .none (values.flatMap filledCell)) :=
    silent_element hth (by decide) .none (silent_cells hth (by decide) values)
  have hrow : Finds tableRow (element "tr".toList .none (values.flatMap filledCell))
      [values.flatMap filledCell] :=
    finds_blockElement .none (silent_cells hclose (by decide) values)
  have hshown : Shows tableRow TableRow.cellTexts
      (element "tr".toList .none (values.flatMap filledCell)) [shownCells values] := by
    refine ⟨_, hrow, ?_⟩
    rw [List.map_singleton, TableRow.cellTexts, (shows_cells values).allMatches_eq]
  exact tableContents_of_shows (hheaders.shows plainText) hshown

theorem shows_filledRow (values : List String) :
    Shows tableBlock tableContents (filledRow values) [([], shownRows values)] := by
  have hclose := leads_closing "table".toList
  refine ⟨_, finds_blockElement .none
    (silent_element hclose (by decide) .none (silent_cells hclose (by decide) values)), ?_⟩
  rw [List.map_singleton, tableContents_row]

end Reading

/-- A template whose only markup is the row of these fields. -/
structure OnlyRow (names : List String) (t : Template) : Prop where
  css : t.css = none
  header : t.header = none
  body : t.body = some (rowOfFields names)
  footer : t.footer = none

theorem fillSection_rowOfFields {data : DataSet} {names : List String} {value : String → String}
    (hnames : ∀ name ∈ names, CellName name)
    (hdata : ∀ name ∈ names, data.get? name = some (value name) ∧
      Text.hasWord "<table".toList (value name).toList = false) :
    fillSection .escape data (some (rowOfFields names)) = filledRow (names.map value) := by
  have hblank : Text.blank (rowOfFields names) = false := by
    rw [Bool.eq_false_iff]
    intro h
    apply not_less_of_blank h
    rw [toList_rowOfFields]
    exact List.mem_append_left _ (by decide)
  rw [fillSection, hblank]
  exact substitute_rowOfFields hnames hdata

/-- A page whose only markup is a filled row is read as one table. -/
theorem extractFrom_page (title : String) (values : List String) :
    extractFrom (Page.assemble title "" [] (filledRow values) [])
      = [.table [] (shownRows values)] := by
  have hempty {α γ : Type} (p : Pattern α) (see : α → γ) : Shows p see [] [] :=
    ⟨[], fun _ => rfl, rfl⟩
  have hpage {α γ : Type} {p : Pattern α} {see : α → γ} {w : List Char} (hw : w ∈ scanWords)
      (hp : Leads w p) {shown : List γ} (h : Shows p see (filledRow values) shown) :
      Shows p see (Page.assemble title "" [] (filledRow values) []) shown := by
    have hall := shows_page hw hp title "" (by decide) (hempty p see) h (hempty p see)
    rwa [List.nil_append, List.append_nil] at hall
  have hheading : Leads "<h1".toList heading := leads_lineElement "h1".toList
  have htable : Leads "<table".toList tableBlock := leads_blockElement "table".toList
  have hsilent {α : Type} {p : Pattern α} {w : List Char} (hp : Leads ('<' :: w) p)
      (h : ["table".toList, "tr".toList, "td".toList].all (passes w) = true) :
      Silent p (filledRow values) := by
    simp only [List.all_cons, List.all_nil, Bool.and_true, Bool.and_eq_true] at h
    exact silent_filledRow hp h.1 h.2.1 h.2.2 values
  rw [extractFrom_of_shows
    (hpage (by decide) hheading ((hsilent hheading (by decide)).shows _))
    (hpage (by decide) leads_labelledParagraph
      ((hsilent leads_labelledParagraph (by decide)).shows _))
    (hpage (by decide) htable (shows_filledRow values))
    (hpage (by decide) leads_totalLine ((hsilent leads_totalLine (by decide)).shows _))
    (hpage (by decide) leads_footerBlock ((hsilent leads_footerBlock (by decide)).shows _))]
  rfl

theorem shownCells_eq_iff {values : List String} :
    shownCells values = values.map Text.trimmed ↔ ∀ value ∈ values, '\n' ∉ value.toList := by
  constructor
  · intro h value hv hb
    have hlen := congrArg List.length h
    simp only [shownCells, List.length_map] at hlen
    have hall := List.length_filter_eq_length_iff.mp hlen value hv
    simp [hb] at hall
  · intro h
    rw [shownCells, List.filter_eq_self.mpr]
    intro value hv
    simp [h value hv]

theorem shownRows_eq_iff (values : List String) (hne : values ≠ []) :
    shownRows values = [values.map Text.trimmed] ↔ ∀ value ∈ values, '\n' ∉ value.toList := by
  rw [← shownCells_eq_iff, shownRows]
  cases he : (shownCells values).isEmpty with
  | true =>
    rw [List.isEmpty_iff] at he
    simp [he, hne]
  | false => simp [he]

section Rendering

variable {t : Template} {data : DataSet} {names : List String} {value : String → String}

/-- The row of a page that a reader finds has those values that lie on one line. -/
theorem render_onlyRow (ht : OnlyRow names t) (hnames : ∀ name ∈ names, CellName name)
    (hdata : ∀ name ∈ names, data.get? name = some (value name) ∧
      Text.hasWord "<table".toList (value name).toList = false)
    (hrequired : t.missing data = []) :
    ∃ page, t.render .escape data = .ok page ∧
      extract page = [.table [] (shownRows (names.map value))] := by
  have hrender : t.render .escape data
      = .ok (String.ofList (Page.assemble t.name "" [] (filledRow (names.map value)) [])) := by
    rw [Template.render_of_filled .escape hrequired, ht.css, ht.header, ht.body, ht.footer,
      fillSection_rowOfFields hnames hdata]
    rfl
  refine ⟨_, hrender, ?_⟩
  rw [extract, String.toList_ofList, extractFrom_page]

/-- A row of fields filled with escaped values is read as one row of the values, in their places
and without the white space around them, exactly if no required value is missing and no value has
a line break. -/
theorem row_aligned_iff (ht : OnlyRow names t) (hne : names ≠ [])
    (hnames : ∀ name ∈ names, CellName name)
    (hdata : ∀ name ∈ names, data.get? name = some (value name) ∧
      Text.hasWord "<table".toList (value name).toList = false) :
    (∃ page, t.render .escape data = .ok page ∧
      extract page = [.table [] [names.map fun name => Text.trimmed (value name)]]) ↔
    t.missing data = [] ∧ ∀ name ∈ names, '\n' ∉ (value name).toList := by
  have hrow : shownRows (names.map value) = [names.map fun name => Text.trimmed (value name)] ↔
      ∀ name ∈ names, '\n' ∉ (value name).toList := by
    have hiff := shownRows_eq_iff (names.map value) (by simpa using hne)
    simpa [Function.comp_def] using hiff
  constructor
  · rintro ⟨page, hrender, haligned⟩
    have hrequired : t.missing data = [] := by
      cases hm : t.missing data with
      | nil => rfl
      | cons name rest => simp [Template.render, hm] at hrender
    obtain ⟨page', hrender', hread⟩ := render_onlyRow ht hnames hdata hrequired
    obtain rfl : page = page' := by
      rw [hrender] at hrender'
      injection hrender'
    refine ⟨hrequired, hrow.mp ?_⟩
    rw [hread] at haligned
    simpa using haligned
  · rintro ⟨hrequired, hlines⟩
    obtain ⟨page, hrender, hread⟩ := render_onlyRow ht hnames hdata hrequired
    refine ⟨page, hrender, ?_⟩
    rw [hread, hrow.mpr hlines]

end Rendering

/-- A template with a row of two cells. -/
def twoCells : Template :=
  ⟨⟨1, "T", none, none, some (rowOfFields ["A", "B"]), none, true, 1, default, none⟩,
    ["A", "B"].map fun name => ⟨0, 1, name, none, "Body", "Text", 0, true⟩⟩

/-- The value of a cell of the two. -/
def valueOf (first second : String) (name : String) : String :=
  if name = "A" then first else second

def twoValues (first second : String) : DataSet :=
  ⟨["A", "B"].map fun name => (name, valueOf first second name)⟩

theorem twoCells_onlyRow : OnlyRow ["A", "B"] twoCells :=
  ⟨rfl, rfl, rfl, rfl⟩

theorem twoCells_names : ∀ name ∈ ["A", "B"], CellName name := by
  intro name h
  simp only [List.mem_cons, List.not_mem_nil, or_false] at h
  obtain rfl | rfl := h
  · exact ⟨by decide, by decide, by decide +kernel, by decide +kernel, by decide +kernel⟩
  · exact ⟨by decide, by decide, by decide +kernel, by decide +kernel, by decide +kernel⟩

theorem twoCells_aligned :
    ∃ page, twoCells.render .escape (twoValues " </td>R&amp;D\r " "5") = .ok page ∧
      extract page = [.table [] [["</td>R&amp;D", "5"]]] := by
  have hdata : ∀ name ∈ ["A", "B"],
      (twoValues " </td>R&amp;D\r " "5").get? name = some (valueOf " </td>R&amp;D\r " "5" name) ∧
        Text.hasWord "<table".toList (valueOf " </td>R&amp;D\r " "5" name).toList = false := by
    decide +kernel
  have haligned := row_aligned_iff twoCells_onlyRow (by decide) twoCells_names hdata
  have hshown : ["A", "B"].map (fun name => Text.trimmed (valueOf " </td>R&amp;D\r " "5" name))
      = ["</td>R&amp;D", "5"] := by
    decide +kernel
  rw [hshown] at haligned
  exact haligned.mpr (by decide +kernel)

/-- A line break in the first value loses the first cell, and the second value moves into its
place. -/
theorem twoCells_misaligned :
    ∃ page, twoCells.render .escape (twoValues "12 Main St\nSpringfield" "5") = .ok page ∧
      extract page = [.table [] [["5"]]] := by
  have hdata : ∀ name ∈ ["A", "B"], (twoValues "12 Main St\nSpringfield" "5").get? name
        = some (valueOf "12 Main St\nSpringfield" "5" name) ∧
      Text.hasWord "<table".toList (valueOf "12 Main St\nSpringfield" "5" name).toList = false := by
    decide +kernel
  obtain ⟨page, hrender, hread⟩ :=
    render_onlyRow twoCells_onlyRow twoCells_names hdata (by decide +kernel)
  refine ⟨page, hrender, ?_⟩
  rw [hread]
  decide +kernel

end Folio
