import Folio.Data
import Folio.Document.Primitive
import Folio.Json.Shape
import Folio.Json.Writer
import Folio.Template
import Folio.Time.Written

namespace Folio
open Json

def DateTime.toJson (t : DateTime) : List Char :=
  writeString (String.ofList t.write)

def DateTime.ofJson : Reader DateTime :=
  parsed DateTime.read?

namespace Field

def toJson (f : Field) : List Char :=
  writeObject [("id", writeInt f.id), ("template_id", writeInt f.templateId),
    ("field_name", writeString f.name), ("label", writeOption writeString f.label),
    ("section", writeString f.section_), ("field_type", writeString f.kind),
    ("display_order", writeInt f.displayOrder), ("required", writeBool f.required)]

def shape : Shape Field where
  start := ⟨0, 0, "", none, "", "", 0, false⟩
  members := [
    member "id" int64 fun n f => { f with id := n },
    member "template_id" int64 fun n f => { f with templateId := n },
    member "field_name" string fun s f => { f with name := s },
    optionalMember "label" (optional string) fun s f => { f with label := s },
    member "section" string fun s f => { f with section_ := s },
    member "field_type" string fun s f => { f with kind := s },
    member "display_order" int32 fun n f => { f with displayOrder := n },
    member "required" bool fun b f => { f with required := b }]
  openEnded := false

end Field

namespace Template

def toJson (t : Template) : List Char :=
  writeObject [("id", writeInt t.id), ("name", writeString t.name),
    ("css", writeOption writeString t.css), ("header_html", writeOption writeString t.header),
    ("body_html", writeOption writeString t.body),
    ("footer_html", writeOption writeString t.footer), ("active", writeBool t.active),
    ("version", writeInt t.version), ("created_at", t.createdAt.toJson),
    ("updated_at", writeOption DateTime.toJson t.updatedAt),
    ("fields", writeArray (t.fields.map Field.toJson))]

def shape : Shape Template where
  start := ⟨⟨0, "", none, none, none, none, false, 0, default, none⟩, []⟩
  members := [
    member "id" int64 fun n t => { t with id := n },
    member "name" string fun s t => { t with name := s },
    optionalMember "css" (optional string) fun s t => { t with css := s },
    optionalMember "header_html" (optional string) fun s t => { t with header := s },
    optionalMember "body_html" (optional string) fun s t => { t with body := s },
    optionalMember "footer_html" (optional string) fun s t => { t with footer := s },
    member "active" bool fun b t => { t with active := b },
    member "version" int32 fun n t => { t with version := n },
    member "created_at" DateTime.ofJson fun d t => { t with createdAt := d },
    optionalMember "updated_at" (optional DateTime.ofJson) fun d t => { t with updatedAt := d },
    member "fields" (list Field.shape.read) fun fs t => { t with fields := fs }]
  openEnded := false

end Template

namespace Record

def toJson (r : Record) : List Char :=
  writeObject [("field_name", writeString r.fieldName),
    ("value", writeOption writeString r.value), ("created_at", r.createdAt.toJson)]

def shape : Shape Record where
  start := ⟨"", none, default⟩
  members := [
    member "field_name" string fun s r => { r with fieldName := s },
    optionalMember "value" (optional string) fun s r => { r with value := s },
    member "created_at" DateTime.ofJson fun d r => { r with createdAt := d }]
  openEnded := false

end Record

namespace Primitive

def writeTexts (texts : List String) : List Char :=
  writeArray (texts.map writeString)

def toJson : Primitive → List Char
  | title text => writeObject [("Title", writeString text)]
  | labelValue label value =>
    writeObject [("LabelValueRow",
      writeObject [("label", writeString label), ("value", writeString value)])]
  | table headers rows =>
    writeObject [("Table",
      writeObject [("headers", writeTexts headers), ("rows", writeArray (rows.map writeTexts))])]
  | total text => writeObject [("TotalLine", writeString text)]
  | footer text => writeObject [("FooterLine", writeString text)]

def labelValueShape : Shape (String × String) where
  start := ("", "")
  members := [
    member "label" string fun s p => (s, p.2),
    member "value" string fun s p => (p.1, s)]
  openEnded := false

def tableShape : Shape (List String × List (List String)) where
  start := ([], [])
  members := [
    member "headers" (list string) fun hs p => (hs, p.2),
    member "rows" (list (list string)) fun rs p => (p.1, rs)]
  openEnded := false

def variants : Variants Primitive where
  alone _ := none
  tagged
    | "Title" => some (title <$> string)
    | "LabelValueRow" => some ((fun p => labelValue p.1 p.2) <$> labelValueShape.read)
    | "Table" => some ((fun p => table p.1 p.2) <$> tableShape.read)
    | "TotalLine" => some (total <$> string)
    | "FooterLine" => some (footer <$> string)
    | _ => none

end Primitive

/-- A document as JSON: its primitives in their order. -/
def documentJson (document : List Primitive) : List Char :=
  writeArray (document.map Primitive.toJson)

/-- The request to generate a report. -/
structure ReportRequest where
  templateName : String
deriving DecidableEq

namespace ReportRequest

def toJson (r : ReportRequest) : List Char :=
  writeObject [("template_name", writeString r.templateName)]

def shape : Shape ReportRequest where
  start := ⟨""⟩
  members := [member "template_name" string fun s _ => ⟨s⟩]
  openEnded := false

end ReportRequest

end Folio
