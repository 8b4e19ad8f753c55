namespace Folio.Text

def escapeChar : Char → List Char
  | '&' => ['&', 'a', 'm', 'p', ';']
  | '<' => ['&', 'l', 't', ';']
  | '>' => ['&', 'g', 't', ';']
  | c => [c]

def escape (cs : List Char) : List Char :=
  cs.flatMap escapeChar

@[simp] theorem escape_nil : escape [] = [] := rfl

@[simp] theorem escape_cons (c : Char) (cs : List Char) :
    escape (c :: cs) = escapeChar c ++ escape cs := rfl

@[simp] theorem escape_append (as bs : List Char) :
    escape (as ++ bs) = escape as ++ escape bs :=
  List.flatMap_append

theorem angle_not_mem_escape {b : Char} (hb : b = '<' ∨ b = '>') (cs : List Char) :
    b ∉ escape cs := by
  simp only [escape, List.mem_flatMap, not_exists, not_and]
  intro c _
  rcases hb with rfl | rfl <;> unfold escapeChar <;> split <;> simp_all [eq_comm]

/-- Characters that are no part of an entity are in the escaped text if they are in the text. -/
theorem mem_escape_iff {b : Char} (hb : b ∉ "<>&ltgamp;".toList) {cs : List Char} :
    b ∈ escape cs ↔ b ∈ cs := by
  have hchar (c : Char) : b ∈ escapeChar c ↔ b = c := by
    unfold escapeChar
    split <;> simp_all
  simp only [escape, List.mem_flatMap, hchar, exists_eq_right']

/-- The text with its markup characters written as entities. -/
def escaped (s : String) : String :=
  String.ofList (escape s.toList)

end Folio.Text
