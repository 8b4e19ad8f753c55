import Folio.Engine
import Folio.Log
import Folio.Text.WebAddress

namespace Folio.Journal

def storeTarget : String := "report_engine::repository::sqlite"

def engineTarget : String := "report_engine::services::engine"

def renderTarget : String := "report_engine::services::renderer"

def extractTarget : String := "report_engine::services::extractor"

def paintTarget : String := "report_engine::services::pdf"

def sampleInstalled : Event :=
  ⟨.info, storeTarget, s!"Sample template '{Store.Sample.name}' installed"⟩

def lookup (name : String) (found : Except Store.Fault (Option Template)) : List Event :=
  ⟨.info, storeTarget, s!"Fetching template: {name}"⟩ ::
    match found with
    | .ok (some t) => [⟨.info, storeTarget, s!"Template loaded: {t.fields.length} fields found"⟩]
    | .ok none => [⟨.warn, storeTarget, s!"Template not found: {name}"⟩]
    | .error _ => []

def defects (ds : List Defect) : List Event :=
  match ds with
  | [] => []
  | _ =>
    [⟨.error, engineTarget,
      "Template validation errors: " ++ "; ".intercalate (ds.map Defect.message)⟩]

def data (records : Except Store.Fault (List Record)) : List Event :=
  ⟨.info, storeTarget, "Fetching report data"⟩ ::
    match records with
    | .ok rs =>
      [⟨.info, storeTarget, s!"Data loaded: {rs.length} records"⟩,
       ⟨.info, engineTarget, s!"Data resolved: {(resolve rs).size} fields"⟩]
    | .error _ => []

/-- Image fields whose value is no web address. -/
def images (t : Template) (d : DataSet) : List Event :=
  (t.fields.filter fun f =>
      f.isImage && (d.get? f.name).any fun value => !Text.isWebAddress value).map fun f =>
    ⟨.warn, renderTarget, s!"Image field '{f.name}' does not hold an http(s) URL"⟩

/-- The names of a section that have no value, at every place where they stand. -/
def unfilled (d : DataSet) : Option String → List Event
  | none => []
  | some markup =>
    if Text.blank markup then []
    else
      ((Placeholder.occurrences markup).filter fun name => !d.contains name).map fun name =>
        ⟨.warn, renderTarget, s!"Placeholder not found in data: {name}"⟩

/-- Bytes in units of 1024, with one decimal; a tie goes to the even digit. -/
def kilobytes (bytes : Nat) : String :=
  let q := bytes * 10 / 1024
  let r := bytes * 10 % 1024
  let tenths := if 512 < r ∨ (r = 512 ∧ q % 2 = 1) then q + 1 else q
  s!"{tenths / 10}.{tenths % 10}"

def rendering (t : Template) (d : DataSet) (page : Except RenderError String) : List Event :=
  ⟨.info, renderTarget, s!"Rendering markup for template: {t.name}"⟩ ::
    match page with
    | .error e => [⟨.error, renderTarget, e.message⟩]
    | .ok html =>
      images t d ++ t.sections.flatMap (unfilled d)
        ++ [⟨.info, renderTarget, s!"Markup rendered: {kilobytes html.utf8ByteSize}KB"⟩,
            ⟨.debug, extractTarget,
              s!"Extracted {(Markup.extract html).length} document primitives"⟩]

/-- The stages up to the document. -/
def preview (e : Engine) (db : Store.Database) (name : String) : List Event :=
  let found := db.template? name
  lookup name found ++
    match found with
    | .ok (some t) =>
      match t.defects with
      | [] =>
        let records := db.allRecords
        data records ++
          match records with
          | .ok rs => rendering t (resolve rs) (t.render e.policy (resolve rs))
          | .error _ => []
      | ds => defects ds
    | _ => []

/-- The stages from the document to the file. -/
def writing (e : Engine) (d : Disk) (document : List Primitive) (file : String) : List Event :=
  match e.makeOutput d with
  | (.error _, _) => []
  | (.ok (), made) =>
    (if d.exists? e.outputDirectory then []
     else [⟨.info, engineTarget, s!"Output directory created: {e.outputDirectory}"⟩])
      ++ ⟨.info, engineTarget, s!"Starting PDF generation: {file}"⟩ ::
        match e.backend made document (Drawing.joinPath e.outputDirectory file) with
        | (.ok (), _) =>
          [⟨.info, paintTarget,
            s!"PDF written: {Drawing.joinPath e.outputDirectory file}"⟩]
        | (.error _, _) => []

/-- One generation from beginning to end; `elapsed` is the time it took, in seconds. -/
def generation (e : Engine) (db : Store.Database) (d : Disk) (now : DateTime)
    (elapsed name : String) : List Event :=
  ⟨.info, engineTarget, s!"Starting report generation: {name}"⟩ :: preview e db name
    ++ (match e.preview db name with
        | .ok document => writing e d document (artifactName name now)
        | .error _ => [])
    ++ match (e.generate db d now name).result with
      | .ok path =>
        [⟨.info, engineTarget, s!"PDF generated: {path}"⟩,
         ⟨.info, engineTarget, s!"Report generated in {elapsed}s"⟩]
      | .error error =>
        [⟨.error, engineTarget,
          s!"Report generation failed: {name} (elapsed: {elapsed}s): {error.message}"⟩]

end Folio.Journal
