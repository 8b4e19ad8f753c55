import Folio.Proofs.JoinedSections
import Mathlib.Data.List.Count
import Mathlib.Data.List.Nodup

namespace Folio
open Placeholder

namespace Defect

theorem toList_undeclared (name : String) : (undeclaredPlaceholder name).message.toList
    = "Placeholder without matching field: ".toList ++ name.toList :=
  String.toList_append

theorem toList_unusedImage (name : String) : (unusedImage name).message.toList
    = "Image field '".toList ++ (name.toList ++ "' is not used in the template".toList) := by
  change ("Image field '" ++ name ++ "' is not used in the template").toList = _
  rw [String.toList_append, String.toList_append, List.append_assoc]

/-- The defects that say no name. -/
def nameless : List Defect :=
  [noTemplate, noName, noContent, noFields, requiredWithoutFields]

theorem eq_of_nameless : ∀ a ∈ nameless, ∀ b ∈ nameless, a.message = b.message → a = b := by
  decide

/-- The letter with which the text begins. -/
def initial : Defect → Char
  | undeclaredPlaceholder _ => 'P'
  | unusedImage _ => 'I'
  | _ => 'T'

theorem head?_message (d : Defect) : d.message.toList.head? = some d.initial := by
  cases d with
  | undeclaredPlaceholder name =>
    have hword : "Placeholder without matching field: ".toList.head? = some 'P' := by decide
    rw [toList_undeclared, List.head?_append, hword]
    rfl
  | unusedImage name =>
    have hword : "Image field '".toList.head? = some 'I' := by decide
    rw [toList_unusedImage, List.head?_append, hword]
    rfl
  | _ => decide

theorem message_injective : Function.Injective message := by
  intro a b h
  have hinitial : a.initial = b.initial := by
    rw [← Option.some_inj, ← head?_message, ← head?_message, h]
  have htext := congrArg String.toList h
  cases a with
  | undeclaredPlaceholder m =>
    cases b with
    | undeclaredPlaceholder n =>
      rw [toList_undeclared, toList_undeclared] at htext
      rw [String.toList_injective (List.append_cancel_left htext)]
    | _ => simp [initial] at hinitial
  | unusedImage m =>
    cases b with
    | unusedImage n =>
      rw [toList_unusedImage, toList_unusedImage] at htext
      rw [String.toList_injective (List.append_cancel_right (List.append_cancel_left htext))]
    | _ => simp [initial] at hinitial
  | _ =>
    cases b with
    | undeclaredPlaceholder n => simp [initial] at hinitial
    | unusedImage n => simp [initial] at hinitial
    | _ => exact eq_of_nameless _ (by simp [nameless]) _ (by simp [nameless]) h

end Defect

/-- The field with text for its kind. -/
def Field.asText (f : Field) : Field :=
  { f with kind := "Text" }

theorem Field.isImage_asText (f : Field) : f.asText.isImage = false := by
  have hkind : (sameIgnoringCase "Text" "Image" || sameIgnoringCase "Text" "Imagem") = false := by
    decide
  exact hkind

namespace Template

/-- What a defect says of a template. -/
def Has (t : Template) : Defect → Prop
  | .noTemplate => False
  | .noName => Text.blank t.name = true
  | .noContent => ∀ markup, some markup ∈ t.sections → Text.blank markup = true
  | .noFields => t.fields = []
  | .undeclaredPlaceholder name => name ∈ t.placeholders ∧ name ∉ t.fieldNames
  | .unusedImage name =>
    (∃ f ∈ t.fields, f.isImage = true ∧ f.name = name) ∧ name ∉ t.placeholders
  | .requiredWithoutFields => False

theorem hasContent_eq_false_iff {t : Template} : t.hasContent = false ↔ t.Has .noContent := by
  rw [hasContent, List.any_eq_false]
  constructor
  · intro h markup hm
    simpa using h (some markup) hm
  · intro h s hs
    cases s with
    | none => simp
    | some markup => simp [h markup hs]

/-- Validation reports the defects that a template has. -/
theorem mem_validate {t : Template} {d : Defect} : d ∈ validate (some t) ↔ t.Has d := by
  cases d with
  | noContent =>
    rw [← hasContent_eq_false_iff]
    simp [validate, defects]
  | unusedImage name =>
    have hmem : .unusedImage name ∈ validate (some t) ↔ name ∈ t.unusedImages.map Field.name := by
      rw [← unusedImage_defects, List.mem_filterMap]
      constructor
      · intro h
        exact ⟨_, h, rfl⟩
      · rintro ⟨d, hd, hname⟩
        cases d <;> cases hname
        exact hd
    rw [hmem, List.mem_map]
    simp only [unusedImages, List.mem_filter, Bool.and_eq_true, decide_eq_true_eq, Has]
    constructor
    · rintro ⟨f, ⟨hf, himage, hunused⟩, rfl⟩
      exact ⟨⟨f, hf, himage, rfl⟩, hunused⟩
    · rintro ⟨⟨f, hf, himage, rfl⟩, hunused⟩
      exact ⟨f, ⟨hf, himage, hunused⟩, rfl⟩
  | requiredWithoutFields =>
    -- A template with a required field has a field.
    have hnone : ¬(t.fields.any Field.required && t.fieldNames.isEmpty) = true := by
      rw [Bool.and_eq_true, fieldNames, List.isEmpty_map, List.isEmpty_iff]
      rintro ⟨hrequired, hempty⟩
      rw [hempty] at hrequired
      cases hrequired
    simp only [validate, defects, if_neg hnone, Has]
    simp
  | undeclaredPlaceholder name => simp [validate, defects, undeclared, Has]
  | _ => simp [validate, defects, Has]

/-- What validation says, in words. -/
def report (t : Template) : List String :=
  (validate (some t)).map Defect.message

/-- Each undeclared name is reported once, however often it occurs. -/
theorem count_undeclared (t : Template) (name : String) :
    t.report.count (Defect.undeclaredPlaceholder name).message
      = if name ∈ t.placeholders ∧ name ∉ t.fieldNames then 1 else 0 := by
  have hnames : (validate (some t)).count (.undeclaredPlaceholder name)
      = t.undeclared.count name := by
    rw [← undeclared_defects, List.count_filterMap]
    apply List.countP_congr
    intro d _
    cases d <;> simp [Defect.undeclared?]
  have hnodup : t.undeclared.Nodup := (nodup_names t.combinedMarkup).filter _
  rw [report, List.count_map_of_injective _ _ Defect.message_injective, hnames, hnodup.count]
  simp [undeclared]

/-- Each field that is an unused image is reported once, also where fields share a name. -/
theorem count_unusedImage (t : Template) (name : String) :
    t.report.count (Defect.unusedImage name).message
      = t.fields.countP fun f => f.isImage ∧ f.name = name ∧ name ∉ t.placeholders := by
  have hnames : (validate (some t)).count (.unusedImage name)
      = (t.unusedImages.map Field.name).count name := by
    rw [← unusedImage_defects, List.count_filterMap]
    apply List.countP_congr
    intro d _
    cases d <;> simp [Defect.unusedImage?]
  rw [report, List.count_map_of_injective _ _ Defect.message_injective, hnames, List.count,
    List.countP_map, unusedImages, List.countP_filter]
  apply List.countP_congr
  intro f _
  simp only [Function.comp_apply, beq_iff_eq, Bool.and_eq_true, decide_eq_true_eq]
  constructor
  · rintro ⟨rfl, himage, hunused⟩
    exact ⟨himage, rfl, hunused⟩
  · rintro ⟨himage, rfl, hunused⟩
    exact ⟨rfl, himage, hunused⟩

/-- A template with a name, content and fields, in which every name has its field and every image
field is used. -/
structure Sound (t : Template) : Prop where
  named : Text.blank t.name = false
  filled : ∃ markup, some markup ∈ t.sections ∧ Text.blank markup = false
  fields : t.fields ≠ []
  declared : ∀ name ∈ t.placeholders, name ∈ t.fieldNames
  used : ∀ f ∈ t.fields, f.isImage = true → f.name ∈ t.placeholders

theorem validate_eq_nil_iff (t : Template) : validate (some t) = [] ↔ t.Sound := by
  simp only [List.eq_nil_iff_forall_not_mem, mem_validate]
  constructor
  · intro h
    refine ⟨by simpa [Has] using h .noName, by simpa [Has] using h .noContent, h .noFields, ?_, ?_⟩
    · intro name hname
      have hdeclared := h (.undeclaredPlaceholder name)
      simpa [Has, hname] using hdeclared
    · intro f hf himage
      have hused := h (.unusedImage f.name)
      by_contra hunused
      exact hused ⟨⟨f, hf, himage, rfl⟩, hunused⟩
  · intro h d hd
    cases d with
    | noTemplate => exact hd
    | noName => exact absurd (h.named.symm.trans hd) (by decide)
    | noContent =>
      obtain ⟨markup, hm, hfilled⟩ := h.filled
      exact absurd (hfilled.symm.trans (hd markup hm)) (by decide)
    | noFields => exact h.fields hd
    | undeclaredPlaceholder name => exact hd.2 (h.declared name hd.1)
    | unusedImage name =>
      obtain ⟨⟨f, hf, himage, rfl⟩, hunused⟩ := hd
      exact hunused (h.used f hf himage)
    | requiredWithoutFields => exact hd

section Mending

variable (t : Template) (reported : List Defect) (added : String → Field) (spare : Field)

/-- The fields with what has been reported put right: unused images become texts, and each name
without a field is given one. Apart from its name and its kind, an added field may be any. -/
def mendedFields : List Field :=
  (t.fields.map fun f =>
      if f.isImage ∧ f.name ∈ reported.filterMap Defect.unusedImage? then f.asText else f)
    ++ (reported.filterMap Defect.undeclared?).map fun name => { added name with name }.asText

/-- The template with its fields mended, and with a spare one if it would still have none. -/
def mended : Template :=
  let fields := t.mendedFields reported added
  { t with fields := if fields.isEmpty then [spare.asText] else fields }

theorem mem_mended_image {f : Field} (hf : f ∈ (t.mended reported added spare).fields)
    (himage : f.isImage = true) :
    f ∈ t.fields ∧ f.name ∉ reported.filterMap Defect.unusedImage? := by
  have htext {g : Field} : f ≠ g.asText := by
    rintro rfl
    rw [Field.isImage_asText] at himage
    cases himage
  have hmended : f ∈ t.mendedFields reported added := by
    rw [mended] at hf
    dsimp only at hf
    split at hf
    · exact absurd (List.mem_singleton.mp hf) htext
    · exact hf
  rw [mendedFields] at hmended
  obtain hkept | hadded := List.mem_append.mp hmended
  · obtain ⟨g, hg, he⟩ := List.mem_map.mp hkept
    split at he
    · exact absurd he.symm htext
    · rename_i hused
      subst he
      exact ⟨hg, fun hreported => hused ⟨himage, hreported⟩⟩
  · obtain ⟨name, -, he⟩ := List.mem_map.mp hadded
    exact absurd he.symm htext

/-- Mending keeps the name of every field and adds those that have been reported. -/
theorem mem_mended_names {name : String}
    (h : name ∈ t.fieldNames ∨ name ∈ reported.filterMap Defect.undeclared?) :
    name ∈ (t.mended reported added spare).fieldNames := by
  have hmended : name ∈ (t.mendedFields reported added).map Field.name := by
    rw [mendedFields, List.map_append, List.mem_append, List.map_map, List.map_map]
    obtain hkept | hadded := h
    · refine .inl ?_
      obtain ⟨f, hf, rfl⟩ := List.mem_map.mp hkept
      refine List.mem_map.mpr ⟨f, hf, ?_⟩
      rw [Function.comp_apply]
      split <;> rfl
    · exact .inr (List.mem_map.mpr ⟨name, hadded, rfl⟩)
  rw [fieldNames, mended]
  dsimp only
  split
  · rename_i hempty
    rw [List.isEmpty_iff] at hempty
    rw [hempty] at hmended
    cases hmended
  · exact hmended

theorem mended_fields_ne_nil : (t.mended reported added spare).fields ≠ [] := by
  rw [mended]
  dsimp only
  split
  · simp
  · rename_i hne
    rwa [List.isEmpty_iff] at hne

end Mending

/-- Once all that has been reported of its fields is put right, a template is without defects if it
has a name and content. -/
theorem sound_mended {t : Template} (hname : ¬t.Has .noName) (hcontent : ¬t.Has .noContent)
    (added : String → Field) (spare : Field) :
    (t.mended (validate (some t)) added spare).Sound where
  named := Bool.eq_false_iff.mpr hname
  filled := by
    have hfilled : ∃ markup, some markup ∈ t.sections ∧ Text.blank markup = false := by
      simpa [Has] using hcontent
    exact hfilled
  fields := t.mended_fields_ne_nil _ added spare
  declared := by
    intro name hplaceholder
    apply mem_mended_names
    rw [undeclared_defects]
    by_cases hdeclared : name ∈ t.fieldNames
    · exact .inl hdeclared
    · refine .inr (List.mem_filter.mpr ⟨hplaceholder, ?_⟩)
      simpa using hdeclared
  used := by
    intro f hf himage
    obtain ⟨hkept, hunreported⟩ := t.mem_mended_image _ added spare hf himage
    by_contra hunused
    rw [unusedImage_defects] at hunreported
    apply hunreported
    refine List.mem_map.mpr ⟨f, List.mem_filter.mpr ⟨hkept, ?_⟩, rfl⟩
    have hunused : f.name ∉ t.placeholders := hunused
    simp [himage, hunused]

/-- Validation finds nothing exactly in templates that are sound. Otherwise it reports each
undeclared name once and each unused image field once, and never misses fields where some are
required. Putting right what it reports of the fields leaves no defect exactly if it has reported
neither the name nor the content. -/
theorem validation_diagnoses (t : Template) :
    (validate (some t) = [] ↔ t.Sound) ∧
    (∀ name, t.report.count (Defect.undeclaredPlaceholder name).message
      = if name ∈ t.placeholders ∧ name ∉ t.fieldNames then 1 else 0) ∧
    (∀ name, t.report.count (Defect.unusedImage name).message
      = t.fields.countP fun f => f.isImage ∧ f.name = name ∧ name ∉ t.placeholders) ∧
    Defect.requiredWithoutFields.message ∉ t.report ∧
    ∀ added spare, validate (some (t.mended (validate (some t)) added spare)) = [] ↔
      .noName ∉ validate (some t) ∧ .noContent ∉ validate (some t) := by
  refine ⟨t.validate_eq_nil_iff, t.count_undeclared, t.count_unusedImage, ?_, ?_⟩
  · rw [report, List.mem_map_of_injective Defect.message_injective, mem_validate]
    exact id
  · intro added spare
    rw [validate_eq_nil_iff, mem_validate, mem_validate]
    constructor
    · intro h
      refine ⟨fun hblank => ?_, fun hempty => ?_⟩
      · exact Bool.eq_false_iff.mp h.named hblank
      · obtain ⟨markup, hmarkup, hfilled⟩ := h.filled
        exact Bool.eq_false_iff.mp hfilled (hempty markup hmarkup)
    · rintro ⟨hname, hcontent⟩
      exact sound_mended hname hcontent added spare

end Template

end Folio
