import Folio.Placeholder
import Folio.Template

namespace Folio

inductive Defect where
  | noTemplate
  | noName
  | noContent
  | noFields
  | undeclaredPlaceholder (name : String)
  | unusedImage (name : String)
  | requiredWithoutFields
deriving DecidableEq

def Defect.message : Defect → String
  | .noTemplate => "Template must not be null"
  | .noName => "Template name is required"
  | .noContent =>
    "Template must have at least one section (header, body or footer) with content"
  | .noFields => "Template must define at least one field"
  | .undeclaredPlaceholder name => "Placeholder without matching field: " ++ name
  | .unusedImage name => "Image field '" ++ name ++ "' is not used in the template"
  | .requiredWithoutFields => "Template has required fields but no fields defined"

namespace Template

def placeholders (t : Template) : List String :=
  Placeholder.names t.combinedMarkup

def hasContent (t : Template) : Bool :=
  t.sections.any fun s => s.any fun markup => !Text.blank markup

def undeclared (t : Template) : List String :=
  t.placeholders.filter (· ∉ t.fieldNames)

def unusedImages (t : Template) : List Field :=
  t.fields.filter fun f => f.isImage && f.name ∉ t.placeholders

def defects (t : Template) : List Defect :=
  (if Text.blank t.name then [.noName] else [])
    ++ (if t.hasContent then [] else [.noContent])
    ++ (if t.fields.isEmpty then [.noFields] else [])
    ++ t.undeclared.map .undeclaredPlaceholder
    ++ t.unusedImages.map (fun f => .unusedImage f.name)
    ++ (if t.fields.any Field.required && t.fieldNames.isEmpty then [.requiredWithoutFields]
        else [])

end Template

/-- The defects of what should be a template. -/
def validate : Option Template → List Defect
  | none => [.noTemplate]
  | some t => t.defects

end Folio
