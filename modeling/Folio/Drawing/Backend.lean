import Folio.Drawing.Fonts
import Folio.Drawing.Written

namespace Folio

/-- What paints a document to a path: the failure as a text, and the files afterwards. -/
abbrev Backend := Disk → List Primitive → String → Except String Unit × Disk

namespace Drawing

inductive PaintError where
  | noFont (source : FontSource) (error : FontError)
  | notSet (error : RowError)
  | notWritten (error : WriteError)

def PaintError.message : PaintError → String
  | noFont source error =>
    s!"no usable font family '{source.family}' or '{source.fallback}' in {source.directory}: "
      ++ error.message
  | notSet error => error.message
  | notWritten error => error.message

/-- The rendition that a file is made of, before anything is written. -/
def prepare (fonts : FontSource) (d : Disk) (document : List Primitive) :
    Except PaintError Rendition := do
  match fonts.load d with
  | .error e => throw (.noFont fonts e)
  | .ok () =>
    match renditionOf document with
    | .error e => throw (.notSet e)
    | .ok rendition => return rendition

def Rendition.fileBytes (r : Rendition) : Bytes :=
  bytesOf (String.ofList r.toJson)

def paint (fonts : FontSource) (d : Disk) (document : List Primitive) (path : String) :
    Except PaintError Unit × Disk :=
  match prepare fonts d document with
  | .error e => (.error e, d)
  | .ok rendition =>
    match d.writeAtomically rendition.fileBytes path with
    | (.ok (), d) => (.ok (), d)
    | (.error e, d) => (.error (.notWritten e), d)

end Drawing

def pageBackend (fonts : Drawing.FontSource) : Backend :=
  fun d document path =>
    match Drawing.paint fonts d document path with
    | (.ok (), d) => (.ok (), d)
    | (.error e, d) => (.error e.message, d)

end Folio
