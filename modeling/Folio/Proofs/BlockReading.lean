import Folio.Proofs.Paragraphs
import Mathlib.Data.List.Basic

namespace Folio.Markup
open Pattern

variable {α β γ : Type} {p : Pattern α} {see : α → γ} {w : List Char}

theorem Shows.spaced (hp : Leads ('<' :: w) p) {f : β → List Char} {shown : β → List γ}
    (h : ∀ b, Shows p see (f b) (shown b)) (s : Spaced β) :
    Shows p see (s.written f) (s.values.flatMap shown) := by
  have hitems : Shows p see (s.items.flatMap fun item => f item.1 ++ item.2.text)
      (s.items.flatMap fun item => shown item.1) := by
    apply Shows.flatMap
    intro item _
    have hboth := (h item.1).append ((item.2.silent hp).shows see)
    rwa [List.append_nil] at hboth
  have hall := ((s.lead.silent hp).shows see).append hitems
  rw [List.nil_append] at hall
  rw [Spaced.values, List.flatMap_map]
  exact hall

theorem Shows.spaced_option (hp : Leads ('<' :: w) p) {f : β → List Char} {shown : β → Option γ}
    (h : ∀ b, Shows p see (f b) (shown b).toList) (s : Spaced β) :
    Shows p see (s.written f) (s.values.filterMap shown) := by
  rw [List.filterMap_eq_flatMap_toList]
  exact Shows.spaced hp h s

theorem silent_spaced (hp : Leads ('<' :: w) p) {f : β → List Char}
    (h : ∀ b, Silent p (f b)) (s : Spaced β) : Silent p (s.written f) := by
  apply (s.lead.silent hp).append
  apply Silent.flatMap
  intro (b, g) _
  exact (h b).append (g.silent hp)

namespace Cell

theorem shows_header (c : Cell) :
    Shows headerCell plainText c.written (c.header?.map Line.seen).toList := by
  cases c with
  | header a text =>
    have hf := finds_lineElement "th".toList (by decide) (by decide) a
      (not_less_written text)
    rw [if_neg (not_break_written text)] at hf
    exact ⟨_, hf, by simp [header?, plainText_written]⟩
  | data a text =>
    have hp : Leads "<th".toList headerCell := leads_lineElement "th".toList
    exact (silent_element hp (by decide) a (silent_text hp (not_less_written text))).shows _

theorem shows_data (c : Cell) :
    Shows dataCell plainText c.written (c.data?.map Line.seen).toList := by
  cases c with
  | header a text =>
    have hp : Leads "<td".toList dataCell := leads_lineElement "td".toList
    exact (silent_element hp (by decide) a (silent_text hp (not_less_written text))).shows _
  | data a text =>
    have hf := finds_lineElement "td".toList (by decide) (by decide) a
      (not_less_written text)
    rw [if_neg (not_break_written text)] at hf
    exact ⟨_, hf, by simp [data?, plainText_written]⟩

/-- A pattern that passes over the tags of cells finds nothing in them. -/
theorem silent (hp : Leads ('<' :: w) p) (hth : passes w "th".toList = true)
    (htd : passes w "td".toList = true) (c : Cell) : Silent p c.written := by
  cases c with
  | header a text => exact silent_element hp hth a (silent_text hp (not_less_written text))
  | data a text => exact silent_element hp htd a (silent_text hp (not_less_written text))

end Cell

namespace TableRow

theorem silent (hp : Leads ('<' :: w) p) (htr : passes w "tr".toList = true)
    (hth : passes w "th".toList = true) (htd : passes w "td".toList = true) (r : TableRow) :
    Silent p r.written :=
  silent_element hp htr r.attributes (silent_spaced hp (Cell.silent hp hth htd) r.cells)

theorem shows_headers (r : TableRow) :
    Shows headerCell plainText r.written (r.headers.map Line.seen) := by
  have hp : Leads "<th".toList headerCell := leads_lineElement "th".toList
  rw [headers, List.map_filterMap]
  exact (Shows.spaced_option hp Cell.shows_header r.cells).in_element hp (by decide) r.attributes

/-- The texts of the data cells in the inside of a row. -/
def cellTexts (row : List Char) : List String :=
  (allMatches dataCell row).map plainText

theorem shows_row (r : TableRow) : Shows tableRow cellTexts r.written [r.data.map Line.seen] := by
  have hd : Leads "<td".toList dataCell := leads_lineElement "td".toList
  have hs : Silent (literal (closing "tr".toList)) (r.cells.written Cell.written) :=
    silent_spaced (leads_closing "tr".toList)
      (Cell.silent (leads_closing "tr".toList) (by decide) (by decide)) r.cells
  refine ⟨_, finds_blockElement r.attributes hs, ?_⟩
  have hcells := (Shows.spaced_option hd Cell.shows_data r.cells).allMatches_eq
  rw [List.map_singleton, cellTexts, hcells, data,
    List.map_filterMap]

end TableRow

/-- What a text shows to the scans for header cells and for rows is what its table holds. -/
theorem tableContents_of_shows {cs : List Char} {headers : List String}
    {rows : List (List String)} (hheaders : Shows headerCell plainText cs headers)
    (hrows : Shows tableRow TableRow.cellTexts cs rows) :
    tableContents cs = (headers, rows.filter fun cells => !cells.isEmpty) := by
  rw [← hheaders.allMatches_eq, ← hrows.allMatches_eq]
  rfl

theorem tableContents_written (rows : Spaced TableRow) :
    tableContents (rows.written TableRow.written) =
      ((rows.values.flatMap TableRow.headers).map Line.seen,
        (rows.values.map fun r => r.data.map Line.seen).filter fun cells => !cells.isEmpty) := by
  have hth : Leads "<th".toList headerCell := leads_lineElement "th".toList
  have htr : Leads "<tr".toList tableRow := leads_blockElement "tr".toList
  rw [tableContents_of_shows (Shows.spaced hth TableRow.shows_headers rows)
    (Shows.spaced htr TableRow.shows_row rows), ← List.map_flatMap, ← List.map_eq_flatMap]

namespace Block

theorem silent_table (hp : Leads ('<' :: w) p) (htable : passes w "table".toList = true)
    (htr : passes w "tr".toList = true) (hth : passes w "th".toList = true)
    (htd : passes w "td".toList = true) (a : Attributes) (rows : Spaced TableRow) :
    Silent p (table a rows).written :=
  silent_element hp htable a (silent_spaced hp (TableRow.silent hp htr hth htd) rows)

theorem silent_title (hp : Leads ('<' :: w) p) (hh1 : passes w "h1".toList = true)
    (a : Attributes) (text : Line) : Silent p (title a text).written :=
  silent_element hp hh1 a (silent_text hp (not_less_written text))

theorem silent_row (hp : Leads ('<' :: w) p) (hpar : passes w "p".toList = true)
    (hstrong : passes w "strong".toList = true) (a : Attributes) (label value : Line) :
    Silent p (row a label value).written :=
  silent_element hp hpar a
    (silent_labelled hp hstrong (not_less_written label) (not_less_written value))

theorem silent_paragraph (hp : Leads ('<' :: w) p) (hpar : passes w "p".toList = true)
    (x : Paragraph) : Silent p x.written :=
  silent_element hp hpar x.attributes (silent_text hp (not_less_written x.text))

theorem silent_footer (hp : Leads ('<' :: w) p) (hdiv : passes w "div".toList = true)
    (h : ∀ x : Paragraph, Silent p x.written) (paragraphs : Spaced Paragraph) :
    Silent p (footer paragraphs).written :=
  silent_element hp hdiv .footerClass (silent_spaced hp h paragraphs)

theorem shows_heading (b : Block) : Shows heading plainText b.written b.title?.toList := by
  have hp : Leads "<h1".toList heading := leads_lineElement "h1".toList
  cases b with
  | title a text =>
    have hf := finds_lineElement "h1".toList (by decide) (by decide) a
      (not_less_written text)
    rw [if_neg (not_break_written text)] at hf
    exact ⟨_, hf, by simp [title?, plainText_written]⟩
  | row a label value => exact (silent_row hp (by decide) (by decide) a label value).shows _
  | table a rows =>
    exact (silent_table hp (by decide) (by decide) (by decide) (by decide) a rows).shows _
  | footer paragraphs =>
    exact (silent_footer hp (by decide) (silent_paragraph hp (by decide)) paragraphs).shows _

theorem shows_labelledParagraph (b : Block) :
    Shows labelledParagraph (fun (label, value) => (plainText label, plainText value)) b.written
      b.row?.toList := by
  have hp := leads_labelledParagraph
  cases b with
  | title a text => exact (silent_title hp (by decide) a text).shows _
  | row a label value =>
    refine ⟨_, finds_of_match (element_ne_nil _ _ _) (labelledParagraph_append a label value), ?_⟩
    simp [row?, plainText_written, plainText_trimStart_written]
  | table a rows =>
    exact (silent_table hp (by decide) (by decide) (by decide) (by decide) a rows).shows _
  | footer paragraphs =>
    have hparagraph (x : Paragraph) : Silent labelledParagraph x.written :=
      silent_plainParagraph x.attributes (not_less_written x.text)
    exact (silent_footer hp (by decide) hparagraph paragraphs).shows _

theorem shows_tableBlock (b : Block) :
    Shows tableBlock tableContents b.written b.table?.toList := by
  have hp : Leads "<table".toList tableBlock := leads_blockElement "table".toList
  cases b with
  | title a text => exact (silent_title hp (by decide) a text).shows _
  | row a label value => exact (silent_row hp (by decide) (by decide) a label value).shows _
  | table a rows =>
    have hclose := leads_closing "table".toList
    have hs : Silent (literal (closing "table".toList)) (rows.written TableRow.written) :=
      silent_spaced hclose (TableRow.silent hclose (by decide) (by decide) (by decide)) rows
    exact ⟨_, finds_blockElement a hs, by simp [table?, tableContents_written]⟩
  | footer paragraphs =>
    exact (silent_footer hp (by decide) (silent_paragraph hp (by decide)) paragraphs).shows _

theorem shows_totalLine (b : Block) : Shows totalLine plainText b.written b.total?.toList := by
  have hp := leads_totalLine
  cases b with
  | title a text => exact (silent_title hp (by decide) a text).shows _
  | row a label value =>
    have hopen := (silent_tags hp (by decide : passes _ "p".toList = true) a).1
    have hwritten : (row a label value).written = opening "p".toList a
        ++ (labelled label.written value.written ++ closing "p".toList) := List.append_assoc ..
    rw [hwritten, total?]
    split
    · rename_i htotal
      rw [(written_eq_total_iff label).mpr htotal]
      have hf : Finds totalLine (labelled "Total:".toList value.written ++ closing "p".toList)
          [Text.trimStart value.written] := by
        apply finds_of_match (by simp [labelled, element, opening])
        intro rest
        rw [List.append_assoc]
        exact totalLine_append value rest
      have hall := (hopen.shows plainText).append (hf.shows plainText)
      simpa [plainText_trimStart_written] using hall
    · rename_i hother
      exact (hopen.append (silent_total_of_ne hother value)).shows _
  | table a rows =>
    exact (silent_table hp (by decide) (by decide) (by decide) (by decide) a rows).shows _
  | footer paragraphs =>
    exact (silent_footer hp (by decide) (silent_paragraph hp (by decide)) paragraphs).shows _

/-- The texts of the paragraphs in the inside of a footer. -/
def footerTexts (cs : List Char) : List String :=
  (allMatches paragraph cs).map plainText

theorem shows_paragraph (x : Paragraph) :
    Shows paragraph plainText x.written [x.text.seen] := by
  have hf := finds_lineElement "p".toList (by decide) (by decide) x.attributes
    (not_less_written x.text)
  rw [if_neg (not_break_written x.text)] at hf
  exact ⟨_, hf, by simp [plainText_written]⟩

theorem footerOpener_append (rest : List Char) :
    footerOpener (opening "div".toList .footerClass ++ rest) = some ((), rest) := rfl

theorem shows_footerBlock (b : Block) :
    Shows footerBlock footerTexts b.written b.footer?.toList := by
  have hp := leads_footerBlock
  cases b with
  | title a text => exact (silent_title hp (by decide) a text).shows _
  | row a label value => exact (silent_row hp (by decide) (by decide) a label value).shows _
  | table a rows =>
    exact (silent_table hp (by decide) (by decide) (by decide) (by decide) a rows).shows _
  | footer paragraphs =>
    have hclose := leads_closing "div".toList
    have hs : Silent (literal (closing "div".toList)) (paragraphs.written Paragraph.written) :=
      silent_spaced hclose (silent_paragraph hclose (by decide)) paragraphs
    have hf : Finds footerBlock (footer paragraphs).written
        [paragraphs.written Paragraph.written] := by
      apply finds_of_match (element_ne_nil _ _ _)
      intro rest
      rw [element_append, footerBlock, andThen, footerOpener_append]
      exact contentTo_of_silent hs (fun _ _ => rfl) rest
    have hpar : Leads "<p".toList paragraph := leads_lineElement "p".toList
    have htexts := (Shows.spaced hpar shows_paragraph paragraphs).allMatches_eq
    refine ⟨_, hf, ?_⟩
    rw [List.map_singleton, footerTexts, htexts, ← List.map_eq_flatMap]
    rfl

end Block

theorem footerLines_eq (cs : List Char) : footerLines cs
    = ((firstMatch footerBlock cs).map fun found => Block.footerTexts found.1).getD [] := by
  rw [footerLines]
  split
  · rename_i h
    rw [h]
    rfl
  · rename_i h
    rw [h]
    rfl

/-- What a text shows to the five scans is its document. -/
theorem extractFrom_of_shows {cs : List Char} {titles totals : List String}
    {rows : List (String × String)} {tables : List (List String × List (List String))}
    {footers : List (List String)} (htitle : Shows heading plainText cs titles)
    (hrow : Shows labelledParagraph (fun (label, value) => (plainText label, plainText value)) cs
      rows)
    (htable : Shows tableBlock tableContents cs tables)
    (htotal : Shows totalLine plainText cs totals)
    (hfooter : Shows footerBlock Block.footerTexts cs footers) :
    extractFrom cs = (titles.head?.map Primitive.title).toList
      ++ rows.map (fun (label, value) => .labelValue label value)
      ++ (tables.head?.map fun (headers, rows) => Primitive.table headers rows).toList
      ++ (totals.head?.map Primitive.total).toList
      ++ (footers.head?.getD []).map .footer := by
  rw [← htitle.firstMatch_eq rfl, ← hrow.allMatches_eq, ← htable.firstMatch_eq rfl,
    ← htotal.firstMatch_eq rfl, ← hfooter.firstMatch_eq rfl, ← footerLines_eq]
  rfl

namespace Document

/-- A written document is read back as its first title, its labelled rows, its first table, its
first total and the lines of its first footer. -/
theorem extract_text (d : Document) : extract d.text = d.primitives := by
  have hheading : Leads "<h1".toList heading := leads_lineElement "h1".toList
  have htable : Leads "<table".toList tableBlock := leads_blockElement "table".toList
  rw [extract, text, String.toList_ofList,
    extractFrom_of_shows (Shows.spaced_option hheading Block.shows_heading d)
      (Shows.spaced_option leads_labelledParagraph Block.shows_labelledParagraph d)
      (Shows.spaced_option htable Block.shows_tableBlock d)
      (Shows.spaced_option leads_totalLine Block.shows_totalLine d)
      (Shows.spaced_option leads_footerBlock Block.shows_footerBlock d)]
  simp only [List.head?_filterMap]
  rfl

def noSpace : Gap :=
  ⟨[], by decide⟩

def newLine : Gap :=
  ⟨['\n', ' '], by decide⟩

def wide : Attributes where
  text := ' ' :: "class=\"wide\"".toList
  spaced := by
    intro c hc
    obtain rfl := Option.some.inj hc
    decide
  noLess := by decide
  noGreater := by decide

/-- A document with blocks of each kind: a title too many, texts with entities, and a row of a table
in which header and data cells are mixed. -/
def receipt : Document where
  lead := newLine
  items := [
    (.title wide ⟨"Pens & ink", by decide⟩, newLine),
    (.footer ⟨newLine, [
      (⟨.none, ⟨"Page 1", by decide⟩⟩, noSpace),
      (⟨wide, ⟨" Thanks ", by decide⟩⟩, newLine)]⟩, noSpace),
    (.row .none ⟨"Paid by:", by decide⟩ ⟨"<cash>", by decide⟩, noSpace),
    (.table .none ⟨newLine, [
      (⟨wide, noSpace, [
        (.header .none ⟨"Item", by decide⟩, newLine),
        (.header wide ⟨"Sum", by decide⟩, noSpace)]⟩, noSpace),
      (⟨.none, newLine, [
        (.header .none ⟨"Pen", by decide⟩, noSpace),
        (.data .none ⟨"< 3", by decide⟩, noSpace)]⟩, newLine)]⟩, newLine),
    (.row wide ⟨"Total:", by decide⟩ ⟨"2.50", by decide⟩, noSpace),
    (.title .none ⟨"Copy", by decide⟩, newLine)]

theorem receipt_read :
    receipt.text = "\n <h1 class=\"wide\">Pens &amp; ink</h1>\n <div class=\"footer\">\n "
      ++ "<p>Page 1</p><p class=\"wide\"> Thanks </p>\n </div>"
      ++ "<p><strong>Paid by:</strong> &lt;cash&gt;</p>"
      ++ "<table>\n <tr class=\"wide\"><th>Item</th>\n <th class=\"wide\">Sum</th></tr>"
      ++ "<tr>\n <th>Pen</th><td>&lt; 3</td></tr>\n </table>\n "
      ++ "<p class=\"wide\"><strong>Total:</strong> 2.50</p><h1>Copy</h1>\n " ∧
    extract receipt.text = [.title "Pens & ink", .labelValue "Paid by:" "<cash>",
      .labelValue "Total:" "2.50", .table ["Item", "Sum", "Pen"] [["< 3"]], .total "2.50",
      .footer "Page 1", .footer "Thanks"] := by
  rw [receipt.extract_text]
  decide +kernel

end Document

end Folio.Markup
