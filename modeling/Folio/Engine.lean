import Folio.Artifact
import Folio.Drawing.Backend
import Folio.Markup.Extract
import Folio.Page
import Folio.Store.Database
import Folio.Validation

namespace Folio

inductive ReportError where
  | notFound (name : String)
  | invalid (template : String) (defects : List Defect)
  | dataAccess (fault : Store.Fault)
  | notRendered (error : RenderError)
  | notGenerated (file reason : String)
deriving DecidableEq

def ReportError.message : ReportError → String
  | notFound name => s!"Template '{name}' not found or inactive"
  | invalid template defects =>
    s!"Template '{template}' is invalid: " ++ "; ".intercalate (defects.map Defect.message)
  | dataAccess fault => fault.message
  | notRendered error => error.message
  | notGenerated file reason => s!"Failed to generate '{file}': {reason}"

/-- What a generation leaves behind: its result, the files, and what the backend was given. -/
structure Generation where
  result : Except ReportError String
  disk : Disk
  painted : List (List Primitive × String)

structure Engine where
  policy : SanitizePolicy
  outputDirectory : String
  backend : Backend

namespace Engine
open Store

def stored (r : Except Fault α) : Except ReportError α :=
  r.mapError .dataAccess

def findTemplate (db : Database) (name : String) : Except ReportError Template := do
  match ← stored (db.template? name) with
  | some t => return t
  | none => throw (.notFound name)

/-- The defects of a stored template. -/
def validateTemplate (db : Database) (name : String) : Except ReportError (List Defect) :=
  return (← findTemplate db name).defects

/-- The document of a template. Nothing is written. -/
def preview (e : Engine) (db : Database) (name : String) :
    Except ReportError (List Primitive) := do
  let template ← findTemplate db name
  match template.defects with
  | [] =>
    let data := resolve (← stored db.allRecords)
    match template.render e.policy data with
    | .ok html => return Markup.extract html
    | .error error => throw (.notRendered error)
  | defects => throw (.invalid name defects)

/-- Makes the output directory if there is nothing at its path. -/
def makeOutput (e : Engine) (d : Disk) : Except FileError Unit × Disk :=
  if d.exists? e.outputDirectory then (.ok (), d) else d.makeDirectories e.outputDirectory

/-- Paints a document into the output directory, in a file with this name. -/
def writeArtifact (e : Engine) (d : Disk) (document : List Primitive) (file : String) :
    Generation :=
  match e.makeOutput d with
  | (.error error, d) => ⟨.error (.notGenerated file error.message), d, []⟩
  | (.ok (), d) =>
    let path := Drawing.joinPath e.outputDirectory file
    match e.backend d document path with
    | (.ok (), d) => ⟨.ok path, d, [(document, path)]⟩
    | (.error reason, d) => ⟨.error (.notGenerated file reason), d, [(document, path)]⟩

/-- Generates the report of a template at a time. -/
def generate (e : Engine) (db : Database) (d : Disk) (now : DateTime) (name : String) :
    Generation :=
  match e.preview db name with
  | .error error => ⟨.error error, d, []⟩
  | .ok document => e.writeArtifact d document (artifactName name now)

end Engine

end Folio
