import Folio.Page
import Folio.Proofs.PlaceholderScan

namespace Folio
open Placeholder

variable {policy : SanitizePolicy} {data : DataSet}

theorem substitute_of_match {cs raw rest : List Char} (h : pattern cs = some (raw, rest)) :
    substitute policy data cs
      = fillName policy data (nameOf raw) ++ substitute policy data rest := by
  rw [substitute, pieces_of_match h]
  rfl

theorem substitute_of_no_match {c : Char} {cs : List Char} (h : pattern (c :: cs) = none) :
    substitute policy data (c :: cs) = c :: substitute policy data cs := by
  rw [substitute, pieces_of_no_match h]
  rfl

/-- A value that nothing marks as table markup is inserted as escaped text. -/
theorem fillName_escape {name value : String} (hcarries : carriesTable name value = false)
    (hv : data.get? name = some value) :
    fillName .escape data name = Text.escape value.toList := by
  simp only [fillName, hv, sanitize, hcarries]
  rfl

@[simp] theorem substitute_nil : substitute policy data [] = [] := rfl

theorem substitute_text {cs : List Char} (h : '{' ∉ cs) (rest : List Char) :
    substitute policy data (cs ++ rest) = cs ++ substitute policy data rest := by
  induction cs with
  | nil => rfl
  | cons c cs ih =>
    simp only [List.mem_cons, not_or] at h
    rw [List.cons_append, substitute_of_no_match (pattern_of_head_ne (Ne.symm h.1) _), ih h.2,
      List.cons_append]

theorem substitute_plain {cs : List Char} (h : '{' ∉ cs) : substitute policy data cs = cs := by
  have hall : substitute policy data (cs ++ []) = cs ++ substitute policy data [] :=
    substitute_text h []
  rwa [List.append_nil, substitute_nil, List.append_nil] at hall

/-- A placeholder as it is written. -/
def Placeholder.written (name : List Char) : List Char :=
  '{' :: '{' :: (name ++ ['}', '}'])

theorem substitute_placeholder {raw : List Char} (hne : raw ≠ []) (h : '}' ∉ raw)
    (rest : List Char) : substitute policy data (Placeholder.written raw ++ rest)
      = fillName policy data (nameOf raw) ++ substitute policy data rest :=
  substitute_of_match (pattern_eq_some.mpr ⟨by simp [Placeholder.written], hne, h⟩)

end Folio
