import Folio.Drawing.Backend
import Folio.Proofs.Compositions

namespace Folio.Drawing

def Page.runs (p : Page) : List Run :=
  p.sections.flatMap Section.runs

/-- The texts that a reader finds on the pages, from the first page to the last. -/
def Rendition.texts (r : Rendition) : List String :=
  (r.pages.flatMap Page.runs).map Run.text

/-- A text begins within the margins of its page. -/
structure Section.InMargins (s : Section) : Prop where
  columns : 0 < s.across.fraction.2
  left : margin * s.across.fraction.2 ≤ s.across.fraction.1
  right : s.across.fraction.1 ≤ (pageWidth - margin) * s.across.fraction.2
  down : margin ≤ s.up
  top : s.up ≤ pageHeight - margin

theorem visible_append (runs more : List Run) :
    visible (runs ++ more) = visible runs ++ visible more := by
  rw [visible, List.filter_append, List.map_append, visible, visible]

/-- Runs are shown by their texts, the empty ones left out. -/
theorem map_text_visible (runs : List Run) :
    (visible runs).map Run.text = ((runs.map Run.text).filter (· ≠ "")).map shownText := by
  rw [visible, List.map_map, List.filter_map, List.map_map]
  rfl

namespace Flow

/-- What has been drawn so far, on all pages. -/
def runs (f : Flow) : List Run :=
  f.pages.flatMap Page.runs

@[simp] theorem runs_start : start.runs = [] :=
  rfl

@[simp] theorem runs_turn (f : Flow) : f.turn.runs = f.runs := by
  simp [runs, pages, turn, Page.runs]

@[simp] theorem runs_goOn (f : Flow) : f.goOn.runs = f.runs := by
  rw [goOn]
  split
  · exact f.runs_turn
  · rfl

@[simp] theorem runs_stroke (f : Flow) (n : Nat) : (f.stroke n).runs = f.runs := by
  simp [runs, pages, stroke, Page.runs]

@[simp] theorem runs_advance (f : Flow) (height : Nat) : (f.advance height).runs = f.runs :=
  rfl

@[simp] theorem runs_draw (f : Flow) (across : Across) (down : Nat) (runs : List Run) :
    (f.draw across down runs).runs = f.runs ++ visible runs := by
  simp [Flow.runs, pages, draw, Page.runs]

@[simp] theorem runs_line (f : Flow) (l : Line) : (f.line l).runs = f.runs ++ visible l.runs := by
  rw [line, runs_advance, runs_draw]
  split
  · rw [runs_turn]
  · rfl

@[simp] theorem runs_cells (f : Flow) (columns : Nat) (row : List Run) :
    (f.cells columns row).runs = f.runs ++ visible row := by
  have hfrom (k : Nat) : ((row.zipIdx k).foldl
      (fun f cell => f.draw (.cell cell.2 columns) cellPadding [cell.1]) f).runs
        = f.runs ++ visible row := by
    induction row generalizing f k with
    | nil => simp [visible]
    | cons run row ih =>
      rw [List.zipIdx_cons, List.foldl_cons, ih, runs_draw, List.append_assoc, ← visible_append]
      rfl
  exact hfrom 0

/-- A row that does not fit is drawn on the next page, and only there. -/
@[simp] theorem runs_textRow (f : Flow) (columns : Nat) (cells : List Run) :
    (f.textRow columns cells).runs = f.runs ++ visible cells := by
  rw [textRow, runs_advance, runs_cells]
  split
  · rw [runs_stroke, runs_turn, runs_stroke]
  · rw [runs_stroke]

@[simp] theorem runs_frameRow (f : Flow) (cells : List Run) : (f.frameRow cells).runs = f.runs := by
  rw [frameRow, runs_advance, runs_stroke]

theorem runs_rows (f : Flow) (columns : Nat) (rows : List (List Run)) :
    (rows.foldl (fun f cells => f.row columns cells) f).runs
      = f.runs ++ visible (if narrow columns then [] else rows.flatten) := by
  induction rows generalizing f with
  | nil => simp [visible]
  | cons cells rows ih =>
    rw [List.foldl_cons, ih, row]
    by_cases hn : narrow columns = true
    · rw [if_pos hn, if_pos hn, if_pos hn, runs_frameRow]
    · rw [if_neg hn, if_neg hn, if_neg hn, runs_textRow, List.flatten_cons, visible_append,
        List.append_assoc]

theorem runs_element (f : Flow) (e : Element) : (f.element e).runs = f.runs ++ visible e.runs := by
  cases e with
  | gap lines =>
    rw [element, runs_advance, runs_goOn, Element.runs]
    simp [visible]
  | line l => exact f.runs_line l
  | grid g => rw [element, runs_rows, runs_goOn, Element.runs]

theorem runs_elements (f : Flow) (elements : List Element) :
    (elements.foldl element f).runs = f.runs ++ visible (elements.flatMap Element.runs) := by
  induction elements generalizing f with
  | nil => simp [visible]
  | cons e elements ih =>
    rw [List.foldl_cons, ih, runs_element, List.flatMap_cons, visible_append, List.append_assoc]

/-- The cursor is on its page, and everything drawn is within the margins. -/
structure OnPage (f : Flow) : Prop where
  left : f.left ≤ contentHeight
  full : ∀ page ∈ f.full, ∀ s ∈ page.sections, s.InMargins
  page : ∀ s ∈ f.page.sections, s.InMargins

namespace OnPage

variable {f : Flow}

theorem start : OnPage .start :=
  ⟨Nat.le_refl _, fun _ hp => (List.not_mem_nil hp).elim, fun _ hs => (List.not_mem_nil hs).elim⟩

theorem turn (h : f.OnPage) : f.turn.OnPage := by
  refine ⟨Nat.le_refl _, ?_, fun _ hs => (List.not_mem_nil hs).elim⟩
  intro page hp
  rcases List.mem_append.mp hp with hfull | hlast
  · exact h.full page hfull
  · obtain rfl := List.mem_singleton.mp hlast
    exact h.page

theorem goOn (h : f.OnPage) : f.goOn.OnPage := by
  rw [Flow.goOn]
  split
  · exact h.turn
  · exact h

theorem stroke (h : f.OnPage) (n : Nat) : (f.stroke n).OnPage :=
  ⟨h.left, h.full, h.page⟩

theorem advance (h : f.OnPage) (height : Nat) : (f.advance height).OnPage :=
  ⟨Nat.le_trans (Nat.sub_le _ _) h.left, h.full, h.page⟩

/-- What is drawn with enough room below the cursor stays above the lower margin. -/
theorem draw (h : f.OnPage) {across : Across} {down : Nat} (runs : List Run)
    (hroom : down + textHeight ≤ f.left) (hcolumns : 0 < across.fraction.2)
    (hleft : margin * across.fraction.2 ≤ across.fraction.1)
    (hright : across.fraction.1 ≤ (pageWidth - margin) * across.fraction.2) :
    (f.draw across down runs).OnPage := by
  refine ⟨h.left, h.full, ?_⟩
  intro s hs
  rcases List.mem_append.mp hs with hold | hnew
  · exact h.page s hold
  · obtain rfl := List.mem_singleton.mp hnew
    have hheight : margin + contentHeight = pageHeight - margin := rfl
    have hl := h.left
    refine ⟨hcolumns, hleft, hright, ?_, ?_⟩
    · simp only
      omega
    · simp only
      omega

theorem line (h : f.OnPage) (l : Line) : (f.line l).OnPage := by
  rw [Flow.line]
  have hroom : ∃ g : Flow, (if f.left < textHeight then f.turn else f) = g ∧ g.OnPage ∧
      0 + textHeight ≤ g.left := by
    refine ⟨_, rfl, ?_⟩
    split
    · exact ⟨h.turn, (by decide : 0 + textHeight ≤ contentHeight)⟩
    · rename_i hfits
      exact ⟨h, by omega⟩
  obtain ⟨g, hg, hpage, hfits⟩ := hroom
  rw [hg]
  apply advance
  cases l.centred with
  | true => exact hpage.draw l.runs hfits (by decide) (by decide) (by decide)
  | false => exact hpage.draw l.runs hfits (by decide) (by decide) (by decide)

/-- As long as the columns are not narrower than the padding, even the last begins in front of the
right margin. -/
theorem cells (h : f.OnPage) {columns : Nat} {row : List Run} (hw : row.length ≤ columns)
    (hc : columns ≤ 85) (hroom : cellPadding + textHeight ≤ f.left) :
    (f.cells columns row).OnPage := by
  have hfrom (k : Nat) (hk : k + row.length ≤ columns) : ((row.zipIdx k).foldl
      (fun f cell => f.draw (.cell cell.2 columns) cellPadding [cell.1]) f).OnPage := by
    induction row generalizing f k with
    | nil => exact h
    | cons run row ih =>
      rw [List.length_cons] at hk hw
      rw [List.zipIdx_cons, List.foldl_cons]
      refine ih (h.draw [run] hroom ?_ ?_ ?_) (by omega) hroom (k + 1) (by omega)
      all_goals
        simp only [Across.fraction, contentWidth, pageWidth, margin, cellPadding, millimetre]
      all_goals omega
  exact hfrom 0 (by omega)

theorem textRow (h : f.OnPage) {columns : Nat} {cells : List Run} (hw : cells.length = columns)
    (hc : columns ≤ 85) : (f.textRow columns cells).OnPage := by
  have hcells := Nat.le_of_eq hw
  have hpage : cellPadding + textHeight ≤ contentHeight := by decide
  rw [Flow.textRow]
  apply advance
  split
  · exact ((h.stroke _).turn.stroke _).cells hcells hc hpage
  · rename_i hfits
    exact (h.stroke _).cells hcells hc (Nat.not_lt.mp hfits)

theorem row (h : f.OnPage) {columns : Nat} {cells : List Run} (hw : cells.length = columns) :
    (f.row columns cells).OnPage := by
  rw [Flow.row]
  split
  · exact (h.stroke _).advance _
  · rename_i hroom
    exact h.textRow hw (Nat.not_lt.mp (mt (narrow_iff columns).mpr hroom))

theorem rows (h : f.OnPage) {columns : Nat} {rows : List (List Run)}
    (hw : ∀ row ∈ rows, row.length = columns) :
    (rows.foldl (fun f cells => f.row columns cells) f).OnPage := by
  induction rows generalizing f with
  | nil => exact h
  | cons row rows ih =>
    exact ih (h.row (hw row List.mem_cons_self))
      fun other ho => hw other (List.mem_cons_of_mem row ho)

theorem element (h : f.OnPage) {e : Element} (hframed : e.Framed) : (f.element e).OnPage := by
  cases e with
  | gap lines => exact h.goOn.advance _
  | line l => exact h.line l
  | grid g => exact h.goOn.rows hframed

theorem elements (h : f.OnPage) {elements : List Element} (hframed : ∀ e ∈ elements, e.Framed) :
    (elements.foldl Flow.element f).OnPage := by
  induction elements generalizing f with
  | nil => exact h
  | cons e elements ih =>
    exact ih (h.element (hframed e List.mem_cons_self))
      fun other ho => hframed other (List.mem_cons_of_mem e ho)

end OnPage

end Flow

/-- The pages show the texts in their order, but for the empty ones, and all within the margins. -/
structure Rendition.Shows (r : Rendition) (texts : List String) : Prop where
  texts : r.texts = (texts.filter (· ≠ "")).map shownText
  inMargins : ∀ page ∈ r.pages, ∀ s ∈ page.sections, s.InMargins

theorem shows_paginate {document : List Primitive} {elements : List Element}
    (hs : Sets document elements) (title : String) :
    Rendition.Shows ⟨title, paginate elements⟩ (document.flatMap Primitive.drawn) := by
  have hpage := Flow.OnPage.start.elements hs.framed
  constructor
  · calc (elements.foldl Flow.element .start).runs.map Run.text
        = (visible (elements.flatMap Element.runs)).map Run.text := by
          rw [Flow.runs_elements, Flow.runs_start, List.nil_append]
      _ = (((elements.flatMap Element.runs).map Run.text).filter (· ≠ "")).map shownText :=
          map_text_visible _
      _ = ((document.flatMap Primitive.drawn).filter (· ≠ "")).map shownText := by rw [hs.texts]
  · intro page hp
    rcases List.mem_append.mp hp with hfull | hlast
    · exact hpage.full page hfull
    · obtain rfl := List.mem_singleton.mp hlast
      exact hpage.page

/-- Pages that show some of the texts show all of them exactly if the others are empty, as no page
shows more texts than it has. -/
theorem Rendition.Shows.iff_of_sublist {r : Rendition} {texts more : List String}
    (h : r.Shows texts) (hs : texts.Sublist more) :
    r.Shows more ↔ texts.filter (· ≠ "") = more.filter (· ≠ "") := by
  constructor
  · intro hmore
    have hlength := congrArg List.length (h.texts.symm.trans hmore.texts)
    rw [List.length_map, List.length_map] at hlength
    exact (hs.filter _).eq_of_length hlength
  · intro he
    exact ⟨by rw [h.texts, he], h.inMargins⟩

theorem append_eq_iff_of_sublist {l m l' m' : List String} (h : l.Sublist m)
    (h' : l'.Sublist m') : l ++ l' = m ++ m' ↔ l = m ∧ l' = m' := by
  constructor
  · intro he
    have hlength := congrArg List.length he
    rw [List.length_append, List.length_append] at hlength
    have hl := h.length_le
    have hl' := h'.length_le
    exact ⟨h.eq_of_length (by omega), h'.eq_of_length (by omega)⟩
  · rintro ⟨rfl, rfl⟩
    rfl

theorem drawn_sublist (p : Primitive) : p.drawn.Sublist p.texts := by
  rw [Primitive.drawn]
  split
  · exact .refl _
  · exact List.nil_sublist _

theorem drawn_sublist_all (document : List Primitive) :
    (document.flatMap Primitive.drawn).Sublist (document.flatMap Primitive.texts) := by
  induction document with
  | nil => exact .refl _
  | cons p rest ih =>
    rw [List.flatMap_cons, List.flatMap_cons]
    exact (drawn_sublist p).append ih

theorem filter_drawn_iff (p : Primitive) :
    p.drawn.filter (· ≠ "") = p.texts.filter (· ≠ "") ↔
      (85 < p.columns → ∀ text ∈ p.texts, text = "") := by
  rw [Primitive.drawn]
  split
  · rename_i hc
    exact iff_of_true rfl fun hw => absurd hw (Nat.not_lt.mpr hc)
  · rename_i hc
    rw [List.filter_nil, eq_comm, List.filter_eq_nil_iff]
    simp [Nat.not_le.mp hc]

/-- Nothing is left out of a document exactly if there is nothing to read in its tables of more
than 85 columns. -/
theorem filter_drawn_all_iff (document : List Primitive) :
    (document.flatMap Primitive.drawn).filter (· ≠ "")
        = (document.flatMap Primitive.texts).filter (· ≠ "") ↔
      ∀ p ∈ document, 85 < p.columns → ∀ text ∈ p.texts, text = "" := by
  induction document with
  | nil => exact iff_of_true rfl fun _ hp => (List.not_mem_nil hp).elim
  | cons p rest ih =>
    rw [List.flatMap_cons, List.flatMap_cons, List.filter_append, List.filter_append,
      append_eq_iff_of_sublist ((drawn_sublist p).filter _) ((drawn_sublist_all rest).filter _),
      filter_drawn_iff, ih, List.forall_mem_cons]

/-- A document that can be set is painted as far as the file can be written. -/
theorem paint_of_rendition {fonts : FontSource} {d : Disk} (hf : fonts.load d = .ok ())
    {document : List Primitive} {rendition : Rendition} (hr : renditionOf document = .ok rendition)
    (path : String) :
    paint fonts d document path = match d.writeAtomically rendition.fileBytes path with
      | (.ok (), d) => (.ok (), d)
      | (.error e, d) => (.error (.notWritten e), d) := by
  -- Unfolded by delta, since proving the equation of `prepare` looks into the search for fonts.
  delta paint prepare
  rw [hf, hr]
  rfl

/-- Fonts in the directory of the run, with the name of one family and a fallback that is not
there. -/
def plainFonts : FontSource := ⟨"", "A", "B"⟩

/-- A disk with the files of one font family and nothing else. -/
def fontDisk : Disk :=
  ⟨fontStyles.map fun style => (["A-" ++ style ++ ".ttf"], .file fontSignature), []⟩

theorem load_fontDisk : plainFonts.load fontDisk = .ok () := by
  have hok : (plainFonts.load fontDisk).isOk = true := by decide +kernel
  cases h : plainFonts.load fontDisk with
  | ok u => rfl
  | error e =>
    rw [h] at hok
    cases hok

/-- With fonts that can be loaded, every document is set on pages that show, in order and within
the margins, all but the texts of its tables with more than 85 columns, and painting can then fail
only in writing the file. The pages show all of the document exactly if there is nothing to read in
such tables. -/
theorem paint_shows_all_iff {fonts : FontSource} {d : Disk} (hf : fonts.load d = .ok ())
    (document : List Primitive) (path : String) : ∃ rendition : Rendition,
      rendition.Shows (document.flatMap Primitive.drawn) ∧
      (rendition.Shows (document.flatMap Primitive.texts) ↔
        ∀ p ∈ document, 85 < p.columns → ∀ text ∈ p.texts, text = "") ∧
      paint fonts d document path = match d.writeAtomically rendition.fileBytes path with
        | (.ok (), d) => (.ok (), d)
        | (.error e, d) => (.error (.notWritten e), d) := by
  obtain ⟨elements, hs, hr⟩ := renditionOf_eq document
  have hshows := shows_paginate hs (titleOf document)
  refine ⟨_, hshows, ?_, paint_of_rendition hf hr path⟩
  rw [hshows.iff_of_sublist (drawn_sublist_all document), filter_drawn_all_iff]

/-- A report with a table that goes on over several pages, and one whose many columns are empty. -/
def longReport : List Primitive :=
  [.title "Sales", .labelValue "Region:" "North",
    .table ["Item", "Sum"] (List.replicate 100 ["Pen", "", "left over"]),
    .table [] [List.replicate 86 ""], .total "100", .footer "Printed once"]

theorem longReport_painted : plainFonts.load fontDisk = .ok () ∧
    ∃ rendition : Rendition, rendition.Shows (longReport.flatMap Primitive.texts) ∧
      paint plainFonts fontDisk longReport "out.pdf" =
        match fontDisk.writeAtomically rendition.fileBytes "out.pdf" with
        | (.ok (), d) => (.ok (), d)
        | (.error e, d) => (.error (.notWritten e), d) := by
  obtain ⟨rendition, -, hall, hpaint⟩ := paint_shows_all_iff load_fontDisk longReport "out.pdf"
  have hempty : ∀ p ∈ longReport, 85 < p.columns → ∀ text ∈ p.texts, text = "" := by
    decide +kernel
  exact ⟨load_fontDisk, rendition, hall.mpr hempty, hpaint⟩

/-- A row of 86 cells, all with the same text. -/
def wideTable : List Primitive :=
  [.table [] [List.replicate 86 "x"]]

/-- A page with the frames of 86 cells and no text. -/
def framesOnly : Rendition :=
  ⟨"Report", [⟨[], 344⟩]⟩

/-- Painting a row of 86 cells succeeds with a page that has their frames on it and none of their
texts. -/
theorem wideTable_dropped : plainFonts.load fontDisk = .ok () ∧
    wideTable.flatMap Primitive.texts = List.replicate 86 "x" ∧
    ¬ framesOnly.Shows (wideTable.flatMap Primitive.texts) ∧
    ∃ written, fontDisk.writeAtomically framesOnly.fileBytes "out.pdf" = (.ok (), written) ∧
      paint plainFonts fontDisk wideTable "out.pdf" = (.ok (), written) := by
  have hset : renditionOf wideTable = .ok framesOnly := rfl
  have hok : (fontDisk.writeAtomically framesOnly.fileBytes "out.pdf").1.isOk = true := by
    decide +kernel
  refine ⟨load_fontDisk, by decide +kernel, ?_, ?_⟩
  · intro h
    have hlength := congrArg List.length h.texts
    revert hlength
    decide +kernel
  · rw [paint_of_rendition load_fontDisk hset]
    cases hw : fontDisk.writeAtomically framesOnly.fileBytes "out.pdf" with
    | mk result written =>
      rw [hw] at hok
      cases result with
      | error e => cases hok
      | ok u => exact ⟨written, rfl, rfl⟩

end Folio.Drawing
