namespace Folio

inductive Primitive where
  | title (text : String)
  | labelValue (label value : String)
  /-- A grid: the header texts, then the cell texts of each row. -/
  | table (headers : List String) (rows : List (List String))
  | total (text : String)
  | footer (text : String)
deriving DecidableEq, Repr

end Folio
