import Folio.Data
import Folio.Placeholder
import Folio.Template
import Folio.Text.Escape
import Folio.Text.Search

namespace Folio

/-- What happens to a value that carries no table markup. -/
inductive SanitizePolicy where
  /-- The value is inserted as it is. -/
  | preserve
  /-- The value is inserted as escaped text. -/
  | escape
deriving DecidableEq, Repr

structure RenderError where
  missing : List String
deriving DecidableEq, Repr

def RenderError.message (e : RenderError) : String :=
  "Missing required fields: " ++ ", ".intercalate e.missing

/-- A field whose name or value marks it as table markup is inserted as it is. -/
def carriesTable (name value : String) : Bool :=
  Text.hasWord "Table".toList name.toList || Text.hasWord "Tabela".toList name.toList
    || Text.hasWord "<table".toList value.toList

def sanitize (policy : SanitizePolicy) (name value : String) : List Char :=
  if carriesTable name value then value.toList
  else
    match policy with
    | .preserve => value.toList
    | .escape => Text.escape value.toList

/-- What a placeholder becomes: the value of its field, or a visible mark where there is none. -/
def fillName (policy : SanitizePolicy) (data : DataSet) (name : String) : List Char :=
  match data.get? name with
  | some value => sanitize policy name value
  | none => '[' :: name.toList ++ " not found]".toList

def fillPiece (policy : SanitizePolicy) (data : DataSet) : Placeholder.Piece → List Char
  | .char c => [c]
  | .hole raw => fillName policy data (String.ofList (Text.trim raw))

/-- Replaces each placeholder once; what a value brings with it is not looked at again. -/
def substitute (policy : SanitizePolicy) (data : DataSet) (cs : List Char) : List Char :=
  (Placeholder.pieces cs).flatMap (fillPiece policy data)

/-- A section without content is left out. -/
def fillSection (policy : SanitizePolicy) (data : DataSet) : Option String → List Char
  | none => []
  | some markup => if Text.blank markup then [] else substitute policy data markup.toList

namespace Page

def beforeTitle : String :=
  "<!DOCTYPE html>\n<html>\n<head>\n    <meta charset=\"UTF-8\">\n    <title>"

def beforeStyle : String := "</title>\n    <style>\n"

def beforeSections : String := "\n    </style>\n</head>\n<body>\n"

def ending : String := "</body>\n</html>\n"

/-- The page around three filled sections, each on lines of its own. -/
def assemble (title css : String) (header body footer : List Char) : List Char :=
  beforeTitle.toList ++ Text.escape title.toList ++ beforeStyle.toList ++ css.toList
    ++ beforeSections.toList ++ header ++ '\n' :: body ++ '\n' :: footer ++ '\n' :: ending.toList

end Page

namespace Template

/-- The required fields without a value, or with a blank one. -/
def missing (t : Template) (data : DataSet) : List String :=
  (t.fields.filter fun f => f.required && (data.get? f.name).all Text.blank).map Field.name

/-- Fails only if required values are missing, and then names all of them. -/
def render (policy : SanitizePolicy) (t : Template) (data : DataSet) :
    Except RenderError String :=
  match t.missing data with
  | [] =>
    .ok (String.ofList (Page.assemble t.name (t.css.getD "")
      (fillSection policy data t.header) (fillSection policy data t.body)
      (fillSection policy data t.footer)))
  | names => .error ⟨names⟩

end Template

end Folio
