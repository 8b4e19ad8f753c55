import Folio.Page
import Folio.Proofs.Authority
import Folio.Validation

namespace Folio

/-- The part of a form that a save decides. -/
def Form.content (f : Form) : Form :=
  { f with id := 0, createdAt := default, updatedAt := none }

/-- The part of a field that a save decides. -/
def Field.content (f : Field) : Field :=
  { f with id := 0, templateId := 0 }

namespace Template

/-- The part of a template that a save decides. -/
def content (t : Template) : Template :=
  ⟨t.toForm.content, t.fields.map Field.content⟩

/-- The fields in display order, those of one place in the order in which they were saved. -/
def arranged (t : Template) : Template :=
  { t with fields := t.fields.mergeSort fun a b => a.displayOrder ≤ b.displayOrder }

/-- Arranging keeps every field, and the order among the fields of one place. -/
theorem arranged_order (t : Template) : t.arranged.fields.Perm t.fields ∧
    t.arranged.fields.Pairwise (fun a b => a.displayOrder ≤ b.displayOrder) ∧
    ∀ place, t.arranged.fields.filter (·.displayOrder == place)
      = t.fields.filter (·.displayOrder == place) := by
  have htrans (a b c : Field) (hab : decide (a.displayOrder ≤ b.displayOrder) = true)
      (hbc : decide (b.displayOrder ≤ c.displayOrder) = true) :
      decide (a.displayOrder ≤ c.displayOrder) = true := by
    rw [decide_eq_true_eq] at hab hbc ⊢
    exact Int.le_trans hab hbc
  have htotal (a b : Field) : (decide (a.displayOrder ≤ b.displayOrder) ||
      decide (b.displayOrder ≤ a.displayOrder)) = true := by
    simp only [Bool.or_eq_true, decide_eq_true_eq]
    exact Int.le_total _ _
  refine ⟨List.mergeSort_perm _ _, ?_, ?_⟩
  · have hsorted := List.pairwise_mergeSort htrans htotal t.fields
    exact hsorted.imp fun h => of_decide_eq_true h
  · intro place
    refine filter_mergeSort htrans htotal ?_ t.fields
    intro a b ha hb
    rw [eq_of_beq ha, eq_of_beq hb]
    simp

theorem defects_content (t : Template) : t.content.defects = t.defects := by
  have hnames : t.content.fieldNames = t.fieldNames := by
    rw [fieldNames, content, List.map_map]
    rfl
  have hempty : t.content.fields.isEmpty = t.fields.isEmpty := by
    rw [content, List.isEmpty_map]
  have hrequired : t.content.fields.any Field.required = t.fields.any Field.required := by
    rw [content, List.any_map]
    rfl
  have hundeclared : t.content.undeclared = t.undeclared := by
    rw [undeclared, hnames]
    rfl
  have himages : t.content.unusedImages = t.unusedImages.map Field.content := by
    rw [unusedImages, content, List.filter_map]
    rfl
  simp only [defects, hnames, hempty, hrequired, hundeclared, himages, List.map_map]
  rfl

theorem render_content (policy : SanitizePolicy) (t : Template) (data : DataSet) :
    t.content.render policy data = t.render policy data := by
  have hmissing : t.content.missing data = t.missing data := by
    rw [missing, content, List.filter_map, List.map_map]
    rfl
  rw [render, render, hmissing]
  rfl

theorem defects_eq_of_content {t other : Template} (h : t.content = other.content) :
    t.defects = other.defects := by
  rw [← t.defects_content, h, other.defects_content]

theorem render_eq_of_content (policy : SanitizePolicy) {t other : Template} (data : DataSet)
    (h : t.content = other.content) : t.render policy data = other.render policy data := by
  rw [← t.render_content, h, other.render_content]

theorem arranged_content (t : Template) : t.arranged.content = t.content.arranged := by
  have hfields : t.arranged.fields.map Field.content = t.content.arranged.fields :=
    List.map_mergeSort fun a _ b _ => rfl
  rw [content, hfields]
  rfl

end Template

end Folio
