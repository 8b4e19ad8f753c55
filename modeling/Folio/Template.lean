import Folio.Time.DateTime

namespace Folio

/-- A named slot of a template. -/
structure Field where
  id : Int
  templateId : Int
  name : String
  label : Option String
  section_ : String
  kind : String
  displayOrder : Int
  required : Bool
deriving DecidableEq

/-- Letters of the ASCII range lose their case. -/
def sameIgnoringCase (s t : String) : Bool :=
  s.toList.map Char.toLower == t.toList.map Char.toLower

def Field.isImage (f : Field) : Bool :=
  sameIgnoringCase f.kind "Image" || sameIgnoringCase f.kind "Imagem"

/-- A template without its fields. -/
structure Form where
  id : Int
  name : String
  css : Option String
  header : Option String
  body : Option String
  footer : Option String
  active : Bool
  version : Int
  createdAt : DateTime
  updatedAt : Option DateTime
deriving DecidableEq

structure Template extends Form where
  fields : List Field
deriving DecidableEq

/-- The three sections joined by spaces. -/
def Form.combinedMarkup (f : Form) : String :=
  f.header.getD "" ++ " " ++ f.body.getD "" ++ " " ++ f.footer.getD ""

def Form.sections (f : Form) : List (Option String) :=
  [f.header, f.body, f.footer]

def Template.fieldNames (t : Template) : List String :=
  t.fields.map Field.name

end Folio
