namespace Folio.Text

/-- The twenty-five characters with the property `White_Space`. -/
def isBlank (c : Char) : Bool :=
  let n := c.toNat
  (0x09 ≤ n && n ≤ 0x0D) || n == 0x20 || n == 0x85 || n == 0xA0 || n == 0x1680
    || (0x2000 ≤ n && n ≤ 0x200A) || n == 0x2028 || n == 0x2029 || n == 0x202F
    || n == 0x205F || n == 0x3000

def trimStart (cs : List Char) : List Char :=
  cs.dropWhile isBlank

def trimEnd (cs : List Char) : List Char :=
  (trimStart cs.reverse).reverse

def trim (cs : List Char) : List Char :=
  trimEnd (trimStart cs)

/-- The text without the white space around it. -/
def trimmed (s : String) : String :=
  String.ofList (trim s.toList)

/-- No character but white space. -/
def blank (s : String) : Bool :=
  s.toList.all isBlank

theorem isBlank_of_isWhitespace {c : Char} (h : c.isWhitespace = true) : isBlank c = true := by
  simp only [Char.isWhitespace, Bool.or_eq_true, decide_eq_true_eq] at h
  rcases h with ((rfl | rfl) | rfl) | rfl <;> decide

theorem trimStart_eq_nil_iff {cs : List Char} : trimStart cs = [] ↔ cs.all isBlank = true := by
  induction cs with
  | nil => simp [trimStart]
  | cons c cs ih =>
    simp only [trimStart, List.dropWhile_cons, List.all_cons, Bool.and_eq_true] at ih ⊢
    split
    · next h => simp [h, ih]
    · next h => simp [h]

theorem trim_eq_nil_iff {cs : List Char} : trim cs = [] ↔ cs.all isBlank = true := by
  constructor
  · intro h
    simp only [trim, trimEnd, List.reverse_eq_nil_iff, trimStart_eq_nil_iff, List.all_reverse] at h
    rw [← trimStart_eq_nil_iff]
    cases hd : trimStart cs with
    | nil => rfl
    | cons c rest =>
      have hc : isBlank c = false := by
        have := List.head?_dropWhile_not isBlank cs
        simp only [trimStart] at hd
        simpa [hd] using this
      simp [hd, hc] at h
  · intro h
    rw [trim, trimStart_eq_nil_iff.mpr h]
    rfl

theorem blank_iff {s : String} : blank s = true ↔ trim s.toList = [] :=
  trim_eq_nil_iff.symm

end Folio.Text
