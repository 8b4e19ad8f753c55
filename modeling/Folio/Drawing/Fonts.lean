import Folio.Files

namespace Folio.Drawing

structure FontSource where
  directory : String
  family : String
  fallback : String

def fontStyles : List String :=
  ["Regular", "Bold", "Italic", "BoldItalic"]

/-- The path of a file in a directory. A name that begins at the root leads there by itself. -/
def joinPath (directory name : String) : String :=
  if directory = "" || name.startsWith "/" then name
  else if directory.endsWith "/" then directory ++ name
  else directory ++ "/" ++ name

/-- The first bytes of an outline font. -/
def fontSignature : Bytes := [0x00, 0x01, 0x00, 0x00]

inductive FontError where
  | missing (path : String)
  | unusable
deriving DecidableEq

def FontError.message : FontError → String
  | missing path => "Failed to open font file " ++ path
  | unusable => "Failed to read rusttype font"

def loadFont (d : Disk) (path : String) : Except FontError Unit :=
  match d.read? path with
  | none => .error (.missing path)
  | some bytes => if fontSignature.isPrefixOf bytes then .ok () else .error .unusable

/-- All styles of a family, in their order. -/
def loadFamily (d : Disk) (directory family : String) : Except FontError Unit :=
  fontStyles.forM fun style =>
    loadFont d (joinPath directory (family ++ "-" ++ style ++ ".ttf"))

/-- The family, or else the one to fall back to. -/
def FontSource.load (source : FontSource) (d : Disk) : Except FontError Unit :=
  match loadFamily d source.directory source.family with
  | .ok () => .ok ()
  | .error _ => loadFamily d source.directory source.fallback

end Folio.Drawing
