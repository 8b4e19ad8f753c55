import Folio.Proofs.PlaceholderScan

namespace Folio.Placeholder

/-- Whether an opening stands behind the last closing brace. -/
def unclosed : List Char → Bool
  | [] => false
  | c :: cs => unclosed cs || (['{', '{'].isPrefixOf (c :: cs) && !cs.contains '}')

/-- The placeholder that the first closing brace of a text closes. -/
def firstClosed : List Char → Option String
  | [] => none
  | c :: cs =>
    match pattern (c :: cs) with
    | some (raw, _) => some (nameOf raw)
    | none => if c = '}' then none else firstClosed cs

theorem unclosed_append {ys : List Char} (h : unclosed ys = true) (xs : List Char) :
    unclosed (xs ++ ys) = true := by
  induction xs with
  | nil => exact h
  | cons x xs ih => simp [unclosed, ih]

theorem unclosed_opening {name : List Char} (h : '}' ∉ name) :
    unclosed ('{' :: '{' :: name) = true := by
  simp [unclosed, h]

/-- A placeholder that only the joined text has begins with an opening that the first text leaves
unclosed and ends at the first closing brace of the second. -/
theorem pattern_joined {xs ys raw rest : List Char} (hx : pattern xs = none)
    (h : pattern (xs ++ ' ' :: ys) = some (raw, rest)) :
    ∃ name text, xs = '{' :: '{' :: name ∧ '}' ∉ name ∧ ys = text ++ '}' :: '}' :: rest ∧
      '}' ∉ text := by
  obtain ⟨he, hne, hraw⟩ := pattern_eq_some.mp h
  have hsplit : xs ++ ' ' :: ys = ('{' :: '{' :: raw) ++ '}' :: '}' :: rest := by simpa using he
  rcases List.append_eq_append_iff.mp hsplit with ⟨tail, htag, hrest⟩ | ⟨tail, hxs, hrest⟩
  · obtain ⟨text, rfl⟩ : ∃ text, tail = ' ' :: text := by
      cases tail with
      | nil => simp at hrest
      | cons t text =>
        obtain ⟨rfl, -⟩ := List.cons.inj hrest
        exact ⟨text, rfl⟩
    have hys : ys = text ++ '}' :: '}' :: rest := (List.cons.inj hrest).2
    match xs, htag with
    | [], htag => simp at htag
    | [a], htag => simp at htag
    | a :: b :: name, htag =>
      simp only [List.cons_append, List.cons.injEq] at htag
      obtain ⟨rfl, rfl, rfl⟩ := htag
      simp only [List.mem_append, not_or, List.mem_cons] at hraw
      exact ⟨name, text, rfl, hraw.1, hys, hraw.2.2⟩
  · match tail, hrest with
    | [], hrest => simp at hrest
    | [a], hrest => simp at hrest
    | a :: b :: more, hrest =>
      simp only [List.cons_append, List.cons.injEq] at hrest
      obtain ⟨rfl, rfl, rfl⟩ := hrest
      have hfound : pattern xs = some (raw, more) :=
        pattern_eq_some.mpr ⟨by simpa using hxs, hne, hraw⟩
      rw [hx] at hfound
      cases hfound

theorem no_match_of_no_brace {cs : List Char} (h : '}' ∉ cs) : pattern cs = none := by
  cases hp : pattern cs with
  | none => rfl
  | some found =>
    obtain ⟨rfl, -, -⟩ := pattern_eq_some.mp hp
    simp at h

theorem namesIn_of_no_brace {cs : List Char} (h : '}' ∉ cs) : namesIn cs = [] := by
  induction cs with
  | nil => rfl
  | cons c cs ih =>
    rw [namesIn_of_no_match (no_match_of_no_brace h)]
    exact ih fun hm => h (List.mem_cons_of_mem c hm)

/-- Behind its first closing brace a text is scanned the same whatever stood before. -/
theorem namesIn_first_closed {text : List Char} (h : '}' ∉ text) (rest : List Char) :
    namesIn (text ++ '}' :: '}' :: rest) =
      (firstClosed (text ++ '}' :: '}' :: rest)).toList ++ namesIn rest := by
  induction text with
  | nil =>
    have hb : pattern ('}' :: '}' :: rest) = none := pattern_of_head_ne (by decide) _
    have hb' : pattern ('}' :: rest) = none := pattern_of_head_ne (by decide) _
    simp [namesIn_of_no_match hb, namesIn_of_no_match hb', firstClosed, hb]
  | cons c text ih =>
    simp only [List.mem_cons, not_or] at h
    cases hp : pattern (c :: (text ++ '}' :: '}' :: rest)) with
    | none =>
      have hc : c ≠ '}' := fun he => h.1 he.symm
      simp only [List.cons_append, namesIn_of_no_match hp, firstClosed, hp, if_neg hc]
      exact ih h.2
    | some found =>
      obtain ⟨raw, rest'⟩ := found
      obtain ⟨he, -, hraw⟩ := pattern_eq_some.mp hp
      have hrest : rest' = rest := by
        have hdrop := congrArg (List.dropWhile isOpen) he
        rw [← List.cons_append, ← List.cons_append, ← List.cons_append,
          dropWhile_open (by simp [h]), dropWhile_open (by simp [hraw])] at hdrop
        simpa using hdrop.symm
      subst rest'
      simp [namesIn_of_match hp, firstClosed, hp]

theorem firstClosed_subset {cs : List Char} {name : String} (h : firstClosed cs = some name) :
    name ∈ namesIn cs := by
  induction cs with
  | nil => cases h
  | cons c cs ih =>
    cases hp : pattern (c :: cs) with
    | none =>
      rw [namesIn_of_no_match hp]
      simp only [firstClosed, hp] at h
      split at h
      · cases h
      · exact ih h
    | some found =>
      simp only [firstClosed, hp, Option.some.injEq] at h
      rw [namesIn_of_match hp, h]
      exact List.mem_cons_self

/-- Without an unclosed opening the scan of the joined text is the scan of each part. -/
theorem namesIn_joined_of_closed {xs : List Char} (h : unclosed xs = false) (ys : List Char) :
    namesIn (xs ++ ' ' :: ys) = namesIn xs ++ namesIn ys := by
  induction xs using scan_induction with
  | nil => exact namesIn_of_no_match (pattern_of_head_ne (by decide) ys)
  | hole cs raw rest hp ih =>
    obtain ⟨he, -, -⟩ := pattern_eq_some.mp hp
    have hrest : unclosed rest = false := by
      cases hu : unclosed rest with
      | false => rfl
      | true =>
        have hc := unclosed_append hu ('{' :: '{' :: raw ++ ['}', '}'])
        rw [show '{' :: '{' :: raw ++ ['}', '}'] ++ rest = cs by simp [he], h] at hc
        cases hc
    rw [namesIn_of_match (pattern_append hp _), namesIn_of_match hp, ih hrest, List.cons_append]
  | char c cs hp ih =>
    cases hj : pattern (c :: cs ++ ' ' :: ys) with
    | none =>
      have hcs : unclosed cs = false := by
        simp only [unclosed, Bool.or_eq_false_iff] at h
        exact h.1
      rw [List.cons_append] at hj ⊢
      rw [namesIn_of_no_match hj, namesIn_of_no_match hp, ih hcs]
    | some found =>
      obtain ⟨name, text, hxs, hname, -, -⟩ := pattern_joined hp hj
      rw [hxs, unclosed_opening hname] at h
      cases h

/-- However the first text ends, only the placeholder that the first closing brace of the second
text closes can be missing from the joined text. -/
theorem namesIn_joined_subset {xs ys : List Char} {name : String}
    (h : name ∈ namesIn xs ∨ name ∈ namesIn ys) :
    name ∈ namesIn (xs ++ ' ' :: ys) ∨ firstClosed ys = some name := by
  induction xs using scan_induction with
  | nil =>
    have hs : pattern (' ' :: ys) = none := pattern_of_head_ne (by decide) ys
    simpa [namesIn_of_no_match hs] using Or.inl (h.resolve_left (by simp))
  | hole cs raw rest hp ih =>
    rw [namesIn_of_match hp, List.mem_cons] at h
    rw [namesIn_of_match (pattern_append hp _), List.mem_cons]
    rcases h with (h | h) | h
    · exact .inl (.inl h)
    · exact (ih (.inl h)).imp_left .inr
    · exact (ih (.inr h)).imp_left .inr
  | char c cs hp ih =>
    rw [namesIn_of_no_match hp] at h
    cases hj : pattern (c :: cs ++ ' ' :: ys) with
    | none =>
      rw [List.cons_append] at hj ⊢
      rw [namesIn_of_no_match hj]
      exact ih h
    | some found =>
      obtain ⟨raw, rest⟩ := found
      obtain ⟨opened, text, hxs, hopened, rfl, htext⟩ := pattern_joined hp hj
      have hcs : namesIn cs = [] := by
        rw [← namesIn_of_no_match hp]
        exact namesIn_of_no_brace (by simp [hxs, hopened])
      rw [namesIn_of_match hj, List.mem_cons]
      rw [hcs, namesIn_first_closed htext, List.mem_append] at h
      rcases h with h | h | h
      · cases h
      · exact .inr (by simpa using h)
      · exact .inl (.inr h)

end Folio.Placeholder
