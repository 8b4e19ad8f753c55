import Folio.Proofs.AngleBrackets
import Folio.Proofs.BlockReading
import Folio.Proofs.Endings
import Folio.Proofs.PageShell

namespace Folio.Markup
open Pattern

variable {α : Type} {p : Pattern α} {w cs cs' : List Char}

/-- The sections of a page, each on lines of its own. -/
def sectionLines (header body footer : List Char) : List Char :=
  header ++ '\n' :: body ++ '\n' :: footer

/-- What stands on a page behind its sections. -/
def pageEnd : List Char :=
  '\n' :: Page.ending.toList

theorem assemble_eq (title css : String) (header body footer : List Char) :
    Page.assemble title css header body footer
      = pageHead title css ++ (sectionLines header body footer ++ pageEnd) := by
  simp [Page.assemble, pageHead, sectionLines, pageEnd]

/-- No tag that closes a match stands behind the sections, nor the rest of one. -/
theorem unaided_closing {close : String} (h : close ∈ ["</h1>", "</p>", "</table>", "</div>"]) :
    Unaided (literal close.toList) pageEnd := by
  simp only [List.mem_cons, List.not_mem_nil, or_false] at h
  obtain rfl | rfl | rfl | rfl := h
  all_goals exact unaided_literal (by decide) (by decide +kernel)

theorem unaided_heading : Unaided heading pageEnd := by
  have hclose : Unaided (literal "</h1>".toList) pageEnd := unaided_closing (by simp)
  exact (hclose.contentTo onLine).afterOpener _

theorem unaided_tableBlock : Unaided tableBlock pageEnd := by
  have hclose : Unaided (literal "</table>".toList) pageEnd := unaided_closing (by simp)
  exact (hclose.contentTo anywhere).afterOpener _

/-- A pattern that the ending does not aid matches in a page where it matches in the sections. -/
theorem allMatches_assemble (hw : w ∈ scanWords) (hleads : Leads w p) (hstable : Stable p)
    (hunaided : Unaided p pageEnd) (title : String) {css : String} (hcss : '<' ∉ css.toList)
    (header body footer : List Char) :
    allMatches p (Page.assemble title css header body footer)
      = allMatches p (sectionLines header body footer) := by
  rw [assemble_eq, (silent_pageHead hw hleads title hcss).allMatches_append,
    hunaided.allMatches_append hstable]

/-- The matches of the five scans decide the document. -/
theorem extractFrom_congr (htitle : allMatches heading cs = allMatches heading cs')
    (hrow : allMatches labelledParagraph cs = allMatches labelledParagraph cs')
    (htable : allMatches tableBlock cs = allMatches tableBlock cs')
    (htotal : allMatches totalLine cs = allMatches totalLine cs')
    (hfooter : allMatches footerBlock cs = allMatches footerBlock cs') :
    extractFrom cs = extractFrom cs' := by
  have hfirst {α β : Type} {p : Pattern α} (see : α → β) (hnil : p [] = none)
      (h : allMatches p cs = allMatches p cs') :
      (firstMatch p cs).map (fun found => see found.1)
        = (firstMatch p cs').map (fun found => see found.1) := by
    have hfst : (firstMatch p cs).map Prod.fst = (firstMatch p cs').map Prod.fst := by
      rw [firstMatch_eq_head? hnil, firstMatch_eq_head? hnil, h]
    have hshown := congrArg (Option.map see) hfst
    rwa [Option.map_map, Option.map_map] at hshown
  have htitleOf : titleOf cs = titleOf cs' := hfirst plainText rfl htitle
  have htableOf : tableOf cs = tableOf cs' := hfirst tableContents rfl htable
  have htotalOf : totalOf cs = totalOf cs' := hfirst plainText rfl htotal
  have hlines : footerLines cs = footerLines cs' := by
    rw [footerLines_eq, footerLines_eq, hfirst Block.footerTexts rfl hfooter]
  rw [extractFrom, extractFrom, labelledRows, labelledRows, htitleOf, htableOf, htotalOf, hlines,
    hrow]

theorem extractFrom_assemble (title : String) {css : String} (hcss : '<' ∉ css.toList)
    (header body footer : List Char) :
    extractFrom (Page.assemble title css header body footer)
      = extractFrom (sectionLines header body footer) := by
  have hparagraph : Unaided (literal "</p>".toList) pageEnd := unaided_closing (by simp)
  have hdivision : Unaided (literal "</div>".toList) pageEnd := unaided_closing (by simp)
  apply extractFrom_congr
  · exact allMatches_assemble (by simp [scanWords]) (leads_lineElement "h1".toList) stable_heading
      unaided_heading title hcss header body footer
  · exact allMatches_assemble (by simp [scanWords]) leads_labelledParagraph
      stable_labelledParagraph hparagraph.labelledParagraph title hcss header body footer
  · exact allMatches_assemble (by simp [scanWords]) (leads_blockElement "table".toList)
      stable_tableBlock unaided_tableBlock title hcss header body footer
  · exact allMatches_assemble (by simp [scanWords]) leads_totalLine stable_totalLine
      hparagraph.totalLine title hcss header body footer
  · exact allMatches_assemble (by simp [scanWords]) leads_footerBlock stable_footerBlock
      hdivision.footerBlock title hcss header body footer

end Folio.Markup

namespace Folio.Template
open Markup

/-- A rendered page has the document of its filled sections: neither the name of the template nor a
style sheet without tags nor the tags of the page add, remove or alter a primitive, whatever the
sections leave open. -/
theorem document_of_page {policy : SanitizePolicy} {t : Template} {data : DataSet} {page : String}
    (hcss : '<' ∉ (t.css.getD "").toList) (hrender : t.render policy data = .ok page) :
    extract page = extractFrom (fillSection policy data t.header ++ '\n' ::
      fillSection policy data t.body ++ '\n' :: fillSection policy data t.footer) := by
  rw [extract, toList_of_render hrender, Template.page]
  exact extractFrom_assemble t.name hcss _ _ _

/-- A template that is named like a title and a table, whose header ends inside a tag, and whose
other sections leave a table, a division at its closing tag, and a paragraph open. -/
def openTags : Template :=
  ⟨⟨1, "<h1>Name</h1><table>", some "h1 > p \x7bcolor: red\x7d", some "<h1 class='x",
      some "'>\x7b\x7bA\x7d\x7d</h1><p><strong>A:</strong> 1</p><table><tr><td>2</td>",
      some "<div class=\"footer\"><p>F</p></div <p><strong>B:</strong> 3", true, 1, default, none⟩,
    [⟨0, 1, "A", none, "Body", "Text", 0, true⟩]⟩

theorem document_of_openTags : '<' ∉ (openTags.css.getD "").toList ∧ ∃ page,
    openTags.render .preserve (valueForA "x") = .ok page ∧
    extract page = [.title "x", .labelValue "A:" "1"] := by
  have hcss : '<' ∉ (openTags.css.getD "").toList := by decide +kernel
  have hfilled : openTags.missing (valueForA "x") = [] := by decide
  have hrender := render_of_filled .preserve hfilled
  refine ⟨hcss, _, hrender, ?_⟩
  rw [document_of_page hcss hrender]
  decide +kernel

end Folio.Template
