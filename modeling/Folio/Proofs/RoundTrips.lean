import Folio.Exchange
import Folio.Proofs.JsonRecords
import Folio.Proofs.JsonYields
import Folio.Proofs.WrittenTimes

namespace Folio
open Json

abbrev FitsIn64 (n : Int) : Prop :=
  -9223372036854775808 ≤ n ∧ n ≤ 9223372036854775807

abbrev FitsIn32 (n : Int) : Prop :=
  -2147483648 ≤ n ∧ n ≤ 2147483647

structure Field.Fits (f : Field) : Prop where
  id : FitsIn64 f.id
  templateId : FitsIn64 f.templateId
  displayOrder : FitsIn32 f.displayOrder

structure Template.Fits (t : Template) : Prop where
  id : FitsIn64 t.id
  version : FitsIn32 t.version
  fields : ∀ f ∈ t.fields, f.Fits

/-- Reading and writing agree: on every value that fits, and on whatever is read from any text. -/
structure RoundTrip (r : Reader α) (write : α → List Char) (Fits : α → Prop) : Prop where
  written : ∀ a, Fits a → readAll r (write a) = .ok a
  read : ∀ text a, readAll r text = .ok a →
    Fits a ∧ ∃ again, readAll r (write a) = .ok again ∧ again = a ∧ write again = write a

theorem RoundTrip.of {r : Reader α} {write : α → List Char} {Fits : α → Prop}
    (ht : ∀ a, Fits a → Takes r (write a) a) (hy : Yields r Fits) : RoundTrip r write Fits := by
  refine ⟨fun a ha => (ht a ha).all, ?_⟩
  intro text a ha
  have hfits := hy.all ha
  exact ⟨hfits, a, (ht a hfits).all, rfl, rfl⟩

theorem takes_int64 {n : Int} (h : FitsIn64 n) : Takes int64 (writeInt n) n :=
  .int h.1 h.2 (by decide)

theorem takes_int32 {n : Int} (h : FitsIn32 n) : Takes int32 (writeInt n) n :=
  .int h.1 h.2 (by decide)

theorem DateTime.takes (t : DateTime) : Takes DateTime.ofJson t.toJson t :=
  .parsed t.read?_write

theorem takes_optionalString (s : Option String) :
    Takes (optional string) (writeOption writeString s) s :=
  .optional .string (fun _ h => nomatch h) s

theorem DateTime.takes_optional (t : Option DateTime) :
    Takes (optional DateTime.ofJson) (writeOption DateTime.toJson t) t :=
  .optional DateTime.takes (fun _ h => nomatch h) t

theorem Field.takes {f : Field} (h : f.Fits) : Takes Field.shape.read f.toJson f := by
  refine .record (by decide) (List.cons_ne_nil _ _) ?_
  refine .cons ((takes_int64 h.id).map _) ?_
  refine .cons ((takes_int64 h.templateId).map _) ?_
  refine .cons ((Takes.string f.name).map _) ?_
  refine .cons ((takes_optionalString f.label).map _) ?_
  refine .cons ((Takes.string f.section_).map _) ?_
  refine .cons ((Takes.string f.kind).map _) ?_
  refine .cons ((takes_int32 h.displayOrder).map _) ?_
  refine .cons ((Takes.bool f.required).map _) ?_
  exact .nil f

theorem Template.takes {t : Template} (h : t.Fits) : Takes Template.shape.read t.toJson t := by
  refine .record (by decide) (List.cons_ne_nil _ _) ?_
  refine .cons ((takes_int64 h.id).map _) ?_
  refine .cons ((Takes.string t.name).map _) ?_
  refine .cons ((takes_optionalString t.css).map _) ?_
  refine .cons ((takes_optionalString t.header).map _) ?_
  refine .cons ((takes_optionalString t.body).map _) ?_
  refine .cons ((takes_optionalString t.footer).map _) ?_
  refine .cons ((Takes.bool t.active).map _) ?_
  refine .cons ((takes_int32 h.version).map _) ?_
  refine .cons (t.createdAt.takes.map _) ?_
  refine .cons ((DateTime.takes_optional t.updatedAt).map _) ?_
  refine .cons ((Takes.list fun f hf => Field.takes (h.fields f hf)).map _) ?_
  exact .nil t

theorem Record.takes (r : Record) : Takes Record.shape.read r.toJson r := by
  refine .record (by decide) (List.cons_ne_nil _ _) ?_
  refine .cons ((Takes.string r.fieldName).map _) ?_
  refine .cons ((takes_optionalString r.value).map _) ?_
  refine .cons (r.createdAt.takes.map _) ?_
  exact .nil r

namespace Primitive

theorem takes_texts (texts : List String) : Takes (list string) (writeTexts texts) texts :=
  .list fun s _ => .string s

theorem takes_labelValue (label value : String) :
    Takes labelValueShape.read
      (writeObject [("label", writeString label), ("value", writeString value)])
      (label, value) := by
  refine .record (by decide) (List.cons_ne_nil _ _) ?_
  refine .cons ((Takes.string label).map _) ?_
  refine .cons ((Takes.string value).map _) ?_
  exact .nil _

theorem takes_table (headers : List String) (rows : List (List String)) :
    Takes tableShape.read
      (writeObject [("headers", writeTexts headers), ("rows", writeArray (rows.map writeTexts))])
      (headers, rows) := by
  refine .record (by decide) (List.cons_ne_nil _ _) ?_
  refine .cons ((takes_texts headers).map _) ?_
  refine .cons ((Takes.list fun row _ => takes_texts row).map _) ?_
  exact .nil _

theorem takes (p : Primitive) : Takes Primitive.variants.read p.toJson p := by
  cases p with
  | title text => exact .tagged rfl ((Takes.string text).map _)
  | labelValue label value => exact .tagged rfl ((takes_labelValue label value).map _)
  | table headers rows => exact .tagged rfl ((takes_table headers rows).map _)
  | total text => exact .tagged rfl ((Takes.string text).map _)
  | footer text => exact .tagged rfl ((Takes.string text).map _)

end Primitive

theorem Field.yields : Yields Field.shape.read Field.Fits := by
  refine .record ?_ ⟨by decide, by decide, by decide⟩
  simp only [Field.shape, List.forall_mem_cons]
  refine ⟨?id, ?templateId, ?_, ?_, ?_, ?_, ?displayOrder, ?_, List.forall_mem_nil _⟩
  case id =>
    exact (Yields.intBetween _ _).map fun _ hn _ hf => ⟨hn, hf.templateId, hf.displayOrder⟩
  case templateId =>
    exact (Yields.intBetween _ _).map fun _ hn _ hf => ⟨hf.id, hn, hf.displayOrder⟩
  case displayOrder =>
    exact (Yields.intBetween _ _).map fun _ hn _ hf => ⟨hf.id, hf.templateId, hn⟩
  all_goals exact .kept fun _ _ hf => ⟨hf.id, hf.templateId, hf.displayOrder⟩

theorem Template.yields : Yields Template.shape.read Template.Fits := by
  refine .record ?_ ⟨by decide, by decide, List.forall_mem_nil _⟩
  simp only [Template.shape, List.forall_mem_cons]
  refine ⟨?id, ?_, ?_, ?_, ?_, ?_, ?_, ?version, ?_, ?_, ?fields, List.forall_mem_nil _⟩
  case id =>
    exact (Yields.intBetween _ _).map fun _ hn _ ht => ⟨hn, ht.version, ht.fields⟩
  case version =>
    exact (Yields.intBetween _ _).map fun _ hn _ ht => ⟨ht.id, hn, ht.fields⟩
  case fields =>
    exact Field.yields.list.map fun _ hfs _ ht => ⟨ht.id, ht.version, hfs⟩
  all_goals exact .kept fun _ _ ht => ⟨ht.id, ht.version, ht.fields⟩

/-- Templates, fields, records and primitives are read back as they were written, and so is
whatever was read from any text: the same value again, in the same text. -/
theorem json_roundTrip :
    RoundTrip Template.shape.read Template.toJson Template.Fits ∧
    RoundTrip Field.shape.read Field.toJson Field.Fits ∧
    RoundTrip Record.shape.read Record.toJson (fun _ => True) ∧
    RoundTrip Primitive.variants.read Primitive.toJson (fun _ => True) :=
  ⟨.of (fun _ => Template.takes) Template.yields, .of (fun _ => Field.takes) Field.yields,
    .of (fun r _ => r.takes) (.any _), .of (fun p _ => p.takes) (.any _)⟩

end Folio
