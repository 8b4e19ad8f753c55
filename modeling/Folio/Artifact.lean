import Folio.Time.Written

namespace Folio

/-- Path separators become underscores. -/
def safeName (name : List Char) : List Char :=
  name.map fun c => if c = '/' ∨ c = '\\' then '_' else c

def artifactName (template : String) (at_ : DateTime) : String :=
  String.ofList (safeName template.toList ++ '_' :: at_.stamp ++ ".pdf".toList)

end Folio
