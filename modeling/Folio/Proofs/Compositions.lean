import Folio.Drawing.Layout
import Mathlib.Data.List.GetD

namespace Folio

/-- The columns of a table: one for each header or, without headers, for each cell of the widest
row. -/
def tableColumns (headers : List String) (rows : List (List String)) : Nat :=
  if headers = [] then (rows.map List.length).max?.getD 0 else headers.length

/-- A row cut to a width, or filled up with empty cells behind its last. -/
def cutOrFilled (columns : Nat) (cells : List String) : List String :=
  (cells.take columns).rightpad columns ""

namespace Primitive

def columns : Primitive → Nat
  | table headers rows => tableColumns headers rows
  | _ => 0

/-- What there is to read in a primitive, empty texts included. -/
def texts : Primitive → List String
  | title text => [text]
  | labelValue label value => [label, " " ++ value]
  | table headers rows => headers ++ rows.flatMap (cutOrFilled (tableColumns headers rows))
  | total text => ["Total: " ++ text]
  | footer text => [text]

/-- What pages show of a primitive. The cells of a table with more than 85 columns, each less than
2 mm wide, have no room for a text. -/
def drawn (p : Primitive) : List String :=
  if p.columns ≤ 85 then p.texts else []

end Primitive

namespace Drawing

theorem columnCount_eq (headers : List String) (rows : List (List String)) :
    columnCount headers rows = tableColumns headers rows := by
  cases headers with
  | cons header headers => rfl
  | nil =>
    cases rows with
    | nil => rfl
    | cons row rows =>
      rw [columnCount, tableColumns, List.isEmpty_nil, if_pos rfl, if_pos rfl, List.map_cons,
        List.foldl_cons, Nat.zero_max, List.max?_cons', Option.getD_some]

theorem length_cutOrFilled (columns : Nat) (cells : List String) :
    (cutOrFilled columns cells).length = columns := by
  rw [cutOrFilled, List.rightpad, List.length_append, List.length_take, List.length_replicate]
  omega

theorem fitRow_eq (columns : Nat) (cells : List String) :
    fitRow columns cells = cutOrFilled columns cells := by
  apply List.ext_getElem
  · rw [fitRow, List.length_map, List.length_range, length_cutOrFilled]
  · intro i _ hi
    rw [length_cutOrFilled] at hi
    simp only [fitRow, List.getElem_map, List.getElem_range, cutOrFilled, List.rightpad,
      List.getElem_append, List.getElem_take, List.getElem_replicate, List.length_take]
    split
    · rw [List.getD_eq_getElem _ _ (by omega)]
    · rw [List.getD_eq_default _ _ (by omega)]

/-- Rows with a cell for each column are taken into a grid one after the other. -/
theorem push_all {g : Grid} {rows : List (List Run)} (h : ∀ row ∈ rows, row.length = g.columns) :
    rows.foldlM Grid.push g = .ok { g with rows := g.rows ++ rows } := by
  induction rows generalizing g with
  | nil =>
    rw [List.append_nil]
    rfl
  | cons row rows ih =>
    have hrest := ih (g := { g with rows := g.rows ++ [row] })
      fun other ho => h other (List.mem_cons_of_mem row ho)
    rw [List.foldlM_cons, Grid.push, if_pos (h row List.mem_cons_self)]
    simp only [List.append_assoc, List.singleton_append] at hrest
    exact hrest

def headerRows (headers : List String) : List (List Run) :=
  if headers.isEmpty then [] else [headers.map fun text => ⟨text, boldStyle⟩]

def bodyRow (columns : Nat) (cells : List String) : List Run :=
  (fitRow columns cells).map fun text => ⟨text, bodyStyle⟩

/-- The grid of a table, with its header row if it has headers. -/
def gridOf (headers : List String) (rows : List (List String)) : Grid :=
  ⟨columnCount headers rows, headerRows headers ++ rows.map (bodyRow (columnCount headers rows))⟩

theorem length_gridOf (headers : List String) (rows : List (List String)) :
    ∀ row ∈ (gridOf headers rows).rows, row.length = columnCount headers rows := by
  intro row hr
  rcases List.mem_append.mp hr with hh | hb
  · cases headers with
    | nil => cases hh
    | cons header headers =>
      obtain rfl := List.mem_singleton.mp hh
      exact List.length_map _
  · obtain ⟨cells, -, rfl⟩ := List.mem_map.mp hb
    rw [bodyRow, List.length_map, fitRow_eq, length_cutOrFilled]

/-- A table is drawn as its grid with a line of space around it, if it has a column at all. -/
theorem tableElements_eq (headers : List String) (rows : List (List String)) :
    tableElements headers rows = .ok (if columnCount headers rows = 0 then []
      else [.gap 1, .grid (gridOf headers rows), .gap 1]) := by
  have hall := push_all (g := ⟨columnCount headers rows, []⟩) (length_gridOf headers rows)
  simp only [gridOf, List.foldlM_append, List.foldlM_map, List.nil_append] at hall
  simp only [tableElements, tableGrid, List.foldlM_map]
  by_cases hc : columnCount headers rows = 0
  · rw [if_pos hc, if_pos hc]
    rfl
  · rw [if_neg hc, if_neg hc]
    cases headers with
    | nil =>
      simp only [headerRows, bodyRow, List.isEmpty_nil, ↓reduceIte, List.foldlM_nil,
        pure_bind] at hall ⊢
      rw [hall]
      rfl
    | cons header headers =>
      simp only [headerRows, bodyRow, List.isEmpty_cons, Bool.false_eq_true, ↓reduceIte,
        List.foldlM_cons, List.foldlM_nil, bind_pure] at hall ⊢
      rw [← bind_assoc, hall]
      rfl

/-- The rows of a grid are rows brought to one width: each cell stands where it stood, and an empty
text where there was none. -/
structure Squared (columns : Nat) (rows grid : List (List String)) : Prop where
  count : grid.length = rows.length
  width : ∀ cells ∈ grid, cells.length = columns
  cell : ∀ (i j : Nat) (hi : i < rows.length), j < columns →
    (grid[i]?).bind (·[j]?) = some ((rows[i][j]?).getD "")

theorem squared_fitRow (columns : Nat) (rows : List (List String)) :
    Squared columns rows (rows.map (fitRow columns)) := by
  refine ⟨List.length_map _, ?_, ?_⟩
  · intro cells hc
    obtain ⟨own, -, rfl⟩ := List.mem_map.mp hc
    rw [fitRow_eq, length_cutOrFilled]
  · intro i j hi hj
    rw [List.getElem?_map, List.getElem?_eq_getElem hi, Option.map_some, Option.bind_some, fitRow,
      List.getElem?_map, List.getElem?_range hj, Option.map_some, List.getD_eq_getElem?_getD]

/-- No row is wider than the widest. -/
theorem prefix_fitRow {rows : List (List String)} {cells : List String} (hc : cells ∈ rows) :
    cells <+: fitRow (tableColumns [] rows) cells := by
  have hwidest : cells.length ≤ tableColumns [] rows := by
    rw [tableColumns, if_pos rfl]
    exact List.le_max?_getD_of_mem (List.mem_map_of_mem hc)
  rw [fitRow_eq, cutOrFilled, List.take_of_length_le hwidest]
  exact List.prefix_append _ _

/-- A table has a column for each header or, without headers, for each cell of its widest row, and
every row, that of the headers included, is pushed with a cell for each column. So no row is
refused, and every table is composed. -/
theorem table_squared (headers : List String) (rows : List (List String)) :
    ∃ columns body, tableGrid headers rows = (columns, body) ∧ Squared columns rows body ∧
      (headers ≠ [] → columns = headers.length) ∧
      (headers = [] → columns = ((rows.map List.length).max?).getD 0 ∧
        ∀ (i : Nat) (hi : i < rows.length), ∃ own, body[i]? = some own ∧ rows[i] <+: own) ∧
      ∃ pushed, pushed = (if headers = [] then [] else [headers.map fun text => ⟨text, boldStyle⟩])
          ++ body.map (·.map fun text => ⟨text, bodyStyle⟩) ∧
        (∀ row ∈ pushed, row.length = columns) ∧
        pushed.foldlM Grid.push ⟨columns, []⟩ = .ok ⟨columns, pushed⟩ ∧
        tableElements headers rows
          = .ok (if columns = 0 then [] else [.gap 1, .grid ⟨columns, pushed⟩, .gap 1]) := by
  have hpushed : (gridOf headers rows).rows
      = (if headers = [] then [] else [headers.map fun text => ⟨text, boldStyle⟩])
        ++ (tableGrid headers rows).2.map (·.map fun text => ⟨text, bodyStyle⟩) := by
    simp only [gridOf, headerRows, tableGrid, List.map_map, List.isEmpty_iff]
    rfl
  have hall := push_all (g := ⟨columnCount headers rows, []⟩) (length_gridOf headers rows)
  refine ⟨_, _, rfl, squared_fitRow _ rows, ?_, ?_, (gridOf headers rows).rows, hpushed,
    length_gridOf headers rows, hall, tableElements_eq headers rows⟩
  · intro hne
    rw [columnCount_eq, tableColumns, if_neg hne]
  · rintro rfl
    refine ⟨columnCount_eq [] rows, fun i hi => ⟨_, ?_, prefix_fitRow (List.getElem_mem hi)⟩⟩
    rw [columnCount_eq, List.getElem?_map, List.getElem?_eq_getElem hi, Option.map_some]

theorem narrow_iff (columns : Nat) : narrow columns = true ↔ 85 < columns := by
  rw [narrow, decide_eq_true_iff]
  simp only [cellPadding, contentWidth, pageWidth, margin, millimetre]
  omega

namespace Element

/-- The texts of an element that there is room for. -/
def runs : Element → List Run
  | gap _ => []
  | line l => l.runs
  | grid g => if narrow g.columns then [] else g.rows.flatten

/-- Every row of a grid has a cell for each column. -/
def Framed : Element → Prop
  | grid g => ∀ row ∈ g.rows, row.length = g.columns
  | _ => True

end Element

/-- Elements that hold what pages show of a document. -/
structure Sets (document : List Primitive) (elements : List Element) : Prop where
  texts : (elements.flatMap Element.runs).map Run.text = document.flatMap Primitive.drawn
  framed : ∀ e ∈ elements, e.Framed

namespace Sets

theorem gaps {elements : List Element} (h : ∀ e ∈ elements, ∃ n, e = .gap n) :
    Sets [] elements := by
  constructor
  · rw [List.flatMap_nil, List.map_eq_nil_iff, List.flatMap_eq_nil_iff]
    intro e he
    obtain ⟨n, rfl⟩ := h e he
    rfl
  · intro e he
    obtain ⟨n, rfl⟩ := h e he
    trivial

theorem append {document more : List Primitive} {elements others : List Element}
    (h : Sets document elements) (h' : Sets more others) :
    Sets (document ++ more) (elements ++ others) := by
  constructor
  · rw [List.flatMap_append, List.map_append, h.texts, h'.texts, List.flatMap_append]
  · intro e he
    rcases List.mem_append.mp he with hl | hr
    · exact h.framed e hl
    · exact h'.framed e hr

/-- A line of text with a primitive that is no table. -/
theorem line {p : Primitive} {l : Line} (hc : p.columns = 0) (ht : l.runs.map Run.text = p.texts) :
    Sets [p] [.line l] := by
  constructor
  · simp [Element.runs, Primitive.drawn, hc, ht]
  · simp [Element.Framed]

theorem table (headers : List String) (rows : List (List String)) :
    Sets [.table headers rows] [.grid (gridOf headers rows)] := by
  constructor
  · simp only [List.flatMap_singleton, Element.runs, gridOf, narrow_iff, Primitive.drawn,
      Primitive.columns, ← columnCount_eq]
    by_cases hwide : 85 < columnCount headers rows
    · rw [if_pos hwide, if_neg (Nat.not_le.mpr hwide), List.map_nil]
    · rw [if_neg hwide, if_pos (Nat.not_lt.mp hwide), List.flatten_append, List.map_append,
        Primitive.texts, ← columnCount_eq]
      congr 1
      · cases headers with
        | nil => rfl
        | cons header headers => simp [headerRows, Function.comp_def]
      · rw [List.map_flatten, List.map_map, List.flatMap_def]
        congr 1
        apply List.map_congr_left
        intro cells _
        rw [Function.comp_apply, bodyRow, List.map_map, fitRow_eq]
        exact List.map_id _
  · intro e he
    obtain rfl := List.mem_singleton.mp he
    exact length_gridOf headers rows

/-- There is nothing to read in a table without columns. -/
theorem noTable {headers : List String} {rows : List (List String)}
    (hc : tableColumns headers rows = 0) : Sets [.table headers rows] [] := by
  have hnone (cells : List String) : cutOrFilled 0 cells = [] :=
    List.eq_nil_of_length_eq_zero (length_cutOrFilled 0 cells)
  cases headers with
  | cons header headers => cases hc
  | nil =>
    refine ⟨?_, by simp⟩
    simp [Primitive.drawn, Primitive.columns, Primitive.texts, hc, hnone]

end Sets

theorem primitiveElements_sets (p : Primitive) :
    ∃ elements, primitiveElements p = .ok elements ∧ Sets [p] elements := by
  have hgap : Sets [] [.gap 1] := .gaps fun e he => ⟨1, List.mem_singleton.mp he⟩
  cases p with
  | title text => exact ⟨_, rfl, (Sets.line rfl rfl).append hgap⟩
  | labelValue label value => exact ⟨_, rfl, Sets.line rfl rfl⟩
  | table headers rows =>
    refine ⟨_, tableElements_eq headers rows, ?_⟩
    split
    · rename_i hc
      exact .noTable (columnCount_eq headers rows ▸ hc)
    · exact (hgap.append (.table headers rows)).append hgap
  | total text => exact ⟨_, rfl, Sets.line rfl rfl⟩
  | footer text => exact ⟨_, rfl, Sets.line rfl rfl⟩

/-- One primitive at a time; at most some space is put in front of it. -/
theorem composeFrom_cons (started : Bool) (p : Primitive) (rest : List Primitive) :
    ∃ above started', Sets [] above ∧ composeFrom started (p :: rest) = do
      let elements ← primitiveElements p
      return above ++ elements ++ (← composeFrom started' rest) := by
  cases p with
  | footer text =>
    refine ⟨if started then [] else [.gap 2], true, .gaps ?_, rfl⟩
    intro e he
    split at he
    · cases he
    · exact ⟨2, List.mem_singleton.mp he⟩
  | title text => exact ⟨[], started, .gaps (by simp), rfl⟩
  | labelValue label value => exact ⟨[], started, .gaps (by simp), rfl⟩
  | table headers rows => exact ⟨[], started, .gaps (by simp), rfl⟩
  | total text => exact ⟨[], started, .gaps (by simp), rfl⟩

theorem composeFrom_sets (started : Bool) (document : List Primitive) :
    ∃ elements, composeFrom started document = .ok elements ∧ Sets document elements := by
  induction document generalizing started with
  | nil => exact ⟨[], rfl, .gaps (by simp)⟩
  | cons p rest ih =>
    obtain ⟨above, started', habove, hstep⟩ := composeFrom_cons started p rest
    obtain ⟨own, hown, hsown⟩ := primitiveElements_sets p
    obtain ⟨others, hothers, hsothers⟩ := ih started'
    refine ⟨above ++ own ++ others, ?_, (habove.append hsown).append hsothers⟩
    rw [hstep, hown, hothers]
    rfl

/-- Every document can be set on pages. -/
theorem renditionOf_eq (document : List Primitive) : ∃ elements, Sets document elements ∧
    renditionOf document = .ok ⟨titleOf document, paginate elements⟩ := by
  obtain ⟨elements, hc, hs⟩ := composeFrom_sets false document
  refine ⟨elements, hs, ?_⟩
  rw [renditionOf, compose, hc]

end Drawing

end Folio
