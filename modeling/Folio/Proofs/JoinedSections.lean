import Folio.Proofs.Protection

namespace Folio
open Placeholder

namespace Defect

def undeclared? : Defect → Option String
  | undeclaredPlaceholder name => some name
  | _ => none

def unusedImage? : Defect → Option String
  | unusedImage name => some name
  | _ => none

end Defect

/-- Leaving elements out keeps the others at their first places. -/
theorem filter_eraseDups {α : Type} [DecidableEq α] (p : α → Bool) :
    ∀ as : List α, as.eraseDups.filter p = (as.filter p).eraseDups
  | [] => rfl
  | a :: as => by
    have ih := filter_eraseDups p (as.filter (!· == a))
    rw [List.eraseDups_cons]
    cases hp : p a with
    | true =>
      have hswap : (as.filter (!· == a)).filter p = (as.filter p).filter (!· == a) := by
        rw [List.filter_filter, List.filter_filter]
        exact List.filter_congr fun b _ => Bool.and_comm ..
      rw [List.filter_cons_of_pos hp, List.filter_cons_of_pos hp, List.eraseDups_cons, ih, hswap]
    | false =>
      have hsame : (as.filter (!· == a)).filter p = as.filter p := by
        rw [List.filter_filter]
        apply List.filter_congr
        intro b _
        by_cases hb : b = a <;> simp [hb, hp]
      rw [List.filter_cons_of_neg (by simp [hp]), List.filter_cons_of_neg (by simp [hp]), ih, hsame]
termination_by as => as.length
decreasing_by exact Nat.lt_succ_of_le (List.length_filter_le ..)

namespace Form

/-- The names that rendering looks up are those of the sections, one section after the other. -/
theorem lookups_eq (f : Form) : f.lookups = occurrences (f.header.getD "")
    ++ occurrences (f.body.getD "") ++ occurrences (f.footer.getD "") := by
  simp only [lookups, sections, List.flatMap_cons, List.flatMap_nil, List.append_nil,
    sectionLookups_eq, text, occurrences_eq, List.append_assoc]

theorem occurrences_combined_of_closed {f : Form} (hheader : unclosed (text f.header) = false)
    (hbody : unclosed (text f.body) = false) : occurrences f.combinedMarkup = f.lookups := by
  have hsections : f.combinedMarkup.toList
      = text f.header ++ ' ' :: (text f.body ++ ' ' :: text f.footer) := by
    simp [combinedMarkup, text]
  rw [occurrences_eq, hsections, namesIn_joined_of_closed hheader, namesIn_joined_of_closed hbody,
    lookups_eq]
  simp only [occurrences_eq, text, List.append_assoc]

end Form

namespace Template

theorem undeclared_defects (t : Template) :
    (validate (some t)).filterMap Defect.undeclared? = t.undeclared := by
  have hother : (t.unusedImages.map fun f => Defect.unusedImage f.name).filterMap
      Defect.undeclared? = [] := by
    simp [Defect.undeclared?]
  have hnames : (t.undeclared.map Defect.undeclaredPlaceholder).filterMap Defect.undeclared?
      = t.undeclared := by
    rw [List.filterMap_map]
    exact List.filterMap_some
  simp only [validate, defects, List.filterMap_append, hother, hnames,
    apply_ite (List.filterMap _), List.filterMap_cons, List.filterMap_nil, Defect.undeclared?,
    ite_self, List.append_nil, List.nil_append]

theorem unusedImage_defects (t : Template) :
    (validate (some t)).filterMap Defect.unusedImage? = t.unusedImages.map Field.name := by
  have hother : (t.undeclared.map Defect.undeclaredPlaceholder).filterMap Defect.unusedImage?
      = [] := by
    simp [Defect.unusedImage?]
  have hnames : (t.unusedImages.map fun f => Defect.unusedImage f.name).filterMap
      Defect.unusedImage? = t.unusedImages.map Field.name := by
    rw [List.filterMap_map]
    exact congrFun List.filterMap_eq_map t.unusedImages
  simp only [validate, defects, List.filterMap_append, hother, hnames,
    apply_ite (List.filterMap _), List.filterMap_cons, List.filterMap_nil, Defect.unusedImage?,
    ite_self, List.append_nil, List.nil_append]

/-- If header and body leave no opening unclosed, validation finds the names of the three sections
in their order. It reports those image fields that no section substitutes, and the undeclared names
in the order in which rendering meets them. -/
theorem joined_scan_exact (t : Template) (hheader : unclosed (Form.text t.header) = false)
    (hbody : unclosed (Form.text t.body) = false) :
    t.placeholders = (occurrences (t.header.getD "") ++ occurrences (t.body.getD "")
      ++ occurrences (t.footer.getD "")).eraseDups ∧
    (validate (some t)).filterMap Defect.unusedImage?
      = (t.fields.filter fun f => f.isImage && f.name ∉ t.lookups).map Field.name ∧
    (validate (some t)).filterMap Defect.undeclared?
      = (t.lookups.filter (· ∉ t.fieldNames)).eraseDups := by
  have hplaceholders : t.placeholders = t.lookups.eraseDups := by
    rw [placeholders, names_eq_eraseDups, Form.occurrences_combined_of_closed hheader hbody]
  refine ⟨?_, ?_, ?_⟩
  · rw [hplaceholders, Form.lookups_eq]
  · rw [unusedImage_defects, unusedImages, hplaceholders]
    simp only [List.mem_eraseDups]
  · rw [undeclared_defects, undeclared, hplaceholders, filter_eraseDups]

/-- A template with loose braces on either side of the boundaries between its sections, the last of
which leaves an opening unclosed. -/
def looseBraces : Template :=
  ⟨⟨1, "T", none, some "\x7b \x7b\x7bA\x7d\x7d \x7b",
      some "\x7bB\x7d\x7d \x7b\x7b C \x7d\x7d\x7d\x7b\x7bA\x7d\x7d\x7b",
      some "\x7bD\x7d\x7d \x7b\x7bE\x7d\x7d \x7b\x7bA", true, 1, default, none⟩,
    [⟨0, 1, "A", none, "Body", "Image", 0, true⟩, ⟨0, 1, "B", none, "Body", "imagem", 1, false⟩]⟩

theorem looseBraces_joined :
    let t := looseBraces
    unclosed (Form.text t.header) = false ∧ unclosed (Form.text t.body) = false ∧
    t.placeholders = ["A", "C", "E"] ∧
    (validate (some t)).filterMap Defect.unusedImage? = ["B"] ∧
    (validate (some t)).filterMap Defect.undeclared? = ["C", "E"] := by
  intro t
  have hheader : unclosed (Form.text t.header) = false := by decide +kernel
  have hbody : unclosed (Form.text t.body) = false := by decide +kernel
  obtain ⟨hnames, himages, hundeclared⟩ := joined_scan_exact t hheader hbody
  refine ⟨hheader, hbody, ?_, ?_, ?_⟩
  · rw [hnames]
    decide +kernel
  · rw [himages]
    decide +kernel
  · rw [hundeclared]
    decide +kernel

end Template

end Folio
