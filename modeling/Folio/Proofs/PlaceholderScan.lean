import Folio.Placeholder
import Mathlib.Data.List.TakeWhile

namespace Folio.Placeholder

theorem isOpen_of_not_mem {v : List Char} (hv : '}' ∉ v) : ∀ c ∈ v, isOpen c = true := by
  intro c hc
  simp only [isOpen, bne_iff_ne]
  rintro rfl
  exact hv hc

theorem takeWhile_open {v : List Char} (hv : '}' ∉ v) (rest : List Char) :
    (v ++ '}' :: rest).takeWhile isOpen = v := by
  simp [List.takeWhile_append_of_pos (isOpen_of_not_mem hv), isOpen]

theorem dropWhile_open {v : List Char} (hv : '}' ∉ v) (rest : List Char) :
    (v ++ '}' :: rest).dropWhile isOpen = '}' :: rest := by
  simp [List.dropWhile_append_of_pos (isOpen_of_not_mem hv), isOpen]

/-- A placeholder is its name between double braces; the name is not empty and ends at the first
closing brace. -/
theorem pattern_eq_some {cs raw rest : List Char} :
    pattern cs = some (raw, rest) ↔
      cs = '{' :: '{' :: (raw ++ '}' :: '}' :: rest) ∧ raw ≠ [] ∧ '}' ∉ raw := by
  constructor
  · intro h
    unfold pattern at h
    split at h
    · rename_i body
      split at h
      · rename_i c name tail htake hdrop
        cases h
        refine ⟨?_, by simp, ?_⟩
        · rw [← htake, ← hdrop, List.takeWhile_append_dropWhile]
        · intro hm
          rw [← htake] at hm
          simpa [isOpen] using List.mem_takeWhile_imp hm
      · cases h
    · cases h
  · rintro ⟨rfl, hne, hraw⟩
    obtain ⟨c, name, rfl⟩ := List.exists_cons_of_ne_nil hne
    simp only [pattern, takeWhile_open hraw, dropWhile_open hraw]

theorem pattern_append {cs raw rest : List Char} (h : pattern cs = some (raw, rest))
    (more : List Char) : pattern (cs ++ more) = some (raw, rest ++ more) := by
  obtain ⟨rfl, hne, hraw⟩ := pattern_eq_some.mp h
  exact pattern_eq_some.mpr ⟨by simp, hne, hraw⟩

theorem pattern_of_head_ne {c : Char} (hc : c ≠ '{') (cs : List Char) :
    pattern (c :: cs) = none := by
  cases h : pattern (c :: cs) with
  | none => rfl
  | some found =>
    obtain ⟨he, -⟩ := pattern_eq_some.mp h
    exact absurd (List.cons.inj he).1 hc

theorem piecesFrom_eq_drop (skip : Nat) (cs : List Char) :
    piecesFrom skip cs = pieces (cs.drop skip) := by
  induction skip generalizing cs with
  | zero => rfl
  | succ skip ih =>
    cases cs with
    | nil => rfl
    | cons c cs => exact ih cs

@[simp] theorem pieces_nil : pieces [] = [] := rfl

theorem pieces_of_match {cs raw rest : List Char} (h : pattern cs = some (raw, rest)) :
    pieces cs = .hole raw :: pieces rest := by
  obtain ⟨rfl, -, -⟩ := pattern_eq_some.mp h
  simp only [pieces, piecesFrom, h, List.cons.injEq, true_and]
  rw [piecesFrom_eq_drop, pieces]
  congr 1
  have hlen : ('{' :: (raw ++ '}' :: '}' :: rest)).length - rest.length
      = ('{' :: raw ++ ['}', '}']).length := by
    simp
    omega
  rw [hlen, show '{' :: (raw ++ '}' :: '}' :: rest) = ('{' :: raw ++ ['}', '}']) ++ rest by simp,
    List.drop_left]

theorem pieces_of_no_match {c : Char} {cs : List Char} (h : pattern (c :: cs) = none) :
    pieces (c :: cs) = .char c :: pieces cs := by
  simp only [pieces, piecesFrom, h]

/-- The scan goes on behind a placeholder, or by one character where there is none. -/
@[elab_as_elim]
theorem scan_induction {motive : List Char → Prop} (nil : motive [])
    (hole : ∀ cs raw rest, pattern cs = some (raw, rest) → motive rest → motive cs)
    (char : ∀ c cs, pattern (c :: cs) = none → motive cs → motive (c :: cs)) (cs : List Char) :
    motive cs := by
  induction hn : cs.length using Nat.strongRecOn generalizing cs with
  | ind n ih =>
    cases cs with
    | nil => exact nil
    | cons c cs =>
      cases h : pattern (c :: cs) with
      | none => exact char c cs h (ih cs.length (by simp [← hn]) cs rfl)
      | some found =>
        obtain ⟨raw, rest⟩ := found
        obtain ⟨he, -, -⟩ := pattern_eq_some.mp h
        have hlt : rest.length < n := by
          rw [← hn, he]
          simp
          omega
        exact hole _ raw rest h (ih rest.length hlt rest rfl)

/-- The names of the placeholders of a text, repetitions included. -/
def namesIn (cs : List Char) : List String :=
  (pieces cs).filterMap Piece.name?

theorem occurrences_eq (markup : String) : occurrences markup = namesIn markup.toList := rfl

def nameOf (raw : List Char) : String :=
  String.ofList (Text.trim raw)

@[simp] theorem namesIn_nil : namesIn [] = [] := rfl

theorem namesIn_of_match {cs raw rest : List Char} (h : pattern cs = some (raw, rest)) :
    namesIn cs = nameOf raw :: namesIn rest := by
  simp [namesIn, pieces_of_match h, Piece.name?, nameOf]

theorem namesIn_of_no_match {c : Char} {cs : List Char} (h : pattern (c :: cs) = none) :
    namesIn (c :: cs) = namesIn cs := by
  rw [namesIn, pieces_of_no_match h]
  exact List.filterMap_cons_none rfl

theorem mem_distinctFrom {α : Type} [DecidableEq α] {a : α} {seen as : List α} :
    a ∈ distinctFrom seen as ↔ a ∈ as ∧ a ∉ seen := by
  induction as generalizing seen with
  | nil => simp [distinctFrom]
  | cons b as ih =>
    simp only [distinctFrom]
    split
    · rename_i hb
      rw [ih, List.mem_cons]
      constructor
      · rintro ⟨ha, hs⟩
        exact ⟨.inr ha, hs⟩
      · rintro ⟨rfl | ha, hs⟩
        · exact absurd hb hs
        · exact ⟨ha, hs⟩
    · rename_i hb
      simp only [List.mem_cons, ih, not_or]
      constructor
      · rintro (rfl | ⟨ha, -, hs⟩)
        · exact ⟨.inl rfl, hb⟩
        · exact ⟨.inr ha, hs⟩
      · rintro ⟨rfl | ha, hs⟩
        · exact .inl rfl
        · by_cases he : a = b
          · exact .inl he
          · exact .inr ⟨ha, he, hs⟩

theorem distinctFrom_eq_eraseDups {α : Type} [DecidableEq α] (seen as : List α) :
    distinctFrom seen as = (as.filter (· ∉ seen)).eraseDups := by
  induction as generalizing seen with
  | nil => rfl
  | cons a as ih =>
    rw [distinctFrom]
    split
    · rename_i ha
      rw [ih, List.filter_cons_of_neg (by simpa using ha)]
    · rename_i ha
      have hbehind : as.filter (· ∉ a :: seen) = (as.filter (· ∉ seen)).filter (!· == a) := by
        rw [List.filter_filter]
        apply List.filter_congr
        intro b _
        by_cases hb : b = a <;> simp [hb]
      rw [ih, List.filter_cons_of_pos (by simpa using ha), List.eraseDups_cons, hbehind]

/-- The names are those that occur, each at its first place. -/
theorem names_eq_eraseDups (markup : String) : names markup = (occurrences markup).eraseDups := by
  have hall : (occurrences markup).filter (· ∉ ([] : List String)) = occurrences markup :=
    List.filter_eq_self.mpr (by simp)
  rw [names, distinct, distinctFrom_eq_eraseDups, hall]

theorem nodup_distinctFrom {α : Type} [DecidableEq α] (seen as : List α) :
    (distinctFrom seen as).Nodup := by
  induction as generalizing seen with
  | nil => exact List.nodup_nil
  | cons a as ih =>
    rw [distinctFrom]
    split
    · exact ih seen
    · refine List.nodup_cons.mpr ⟨?_, ih (a :: seen)⟩
      simp [mem_distinctFrom]

theorem nodup_names (markup : String) : (names markup).Nodup :=
  nodup_distinctFrom [] _

theorem mem_names {name markup : String} : name ∈ names markup ↔ name ∈ occurrences markup := by
  simp [names, distinct, mem_distinctFrom]

end Folio.Placeholder
