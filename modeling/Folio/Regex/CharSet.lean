import Folio.Unicode.Class

namespace Folio.Regex

inductive CharSet where
  | nothing
  | range (first last : Char)
  | named (k : Unicode.Class)
  | union (s t : CharSet)
  | inter (s t : CharSet)
  | diff (s t : CharSet)
  | symmDiff (s t : CharSet)
  | compl (s : CharSet)
  /-- What is in the set in some case. -/
  | anyCase (s : CharSet)
  /-- The same, with the case of no other letters than those of ASCII. -/
  | anyAsciiCase (s : CharSet)
deriving DecidableEq, Repr

namespace CharSet

def has (c : Char) : CharSet → Bool
  | nothing => false
  | range first last => first ≤ c && c ≤ last
  | named k => k.has c.toNat
  | union s t => s.has c || t.has c
  | inter s t => s.has c && t.has c
  | diff s t => s.has c && !t.has c
  | symmDiff s t => s.has c != t.has c
  | compl s => !s.has c
  | anyCase s => (Unicode.caseVariants c.toNat).any fun n => s.has (Char.ofNat n)
  | anyAsciiCase s => s.has c || s.has c.toLower || s.has c.toUpper

def single (c : Char) : CharSet :=
  range c c

def ofRanges (ranges : List (Char × Char)) : CharSet :=
  ranges.foldr (fun (first, last) s => union (range first last) s) nothing

theorem has_single {c d : Char} : (single d).has c = true ↔ c = d := by
  simp only [single, has, Bool.and_eq_true, decide_eq_true_eq]
  exact ⟨fun h => Char.le_antisymm h.2 h.1, fun h => h ▸ ⟨Char.le_refl _, Char.le_refl _⟩⟩

theorem has_ofRanges {c : Char} {ranges : List (Char × Char)} :
    (ofRanges ranges).has c = true ↔ ∃ r ∈ ranges, r.1 ≤ c ∧ c ≤ r.2 := by
  induction ranges with
  | nil => simp [ofRanges, has]
  | cons r rs ih => simp [ofRanges, has] at ih ⊢; simp [ih]

end CharSet

end Folio.Regex
