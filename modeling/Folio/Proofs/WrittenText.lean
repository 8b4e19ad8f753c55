import Folio.Proofs.BlockGrammar
import Mathlib.Data.List.DropRight

namespace Folio.Markup
open Pattern

theorem not_less_written (l : Line) : '<' ∉ l.written :=
  Text.angle_not_mem_escape (.inl rfl) _

theorem escape_eq_self_of_blank {c : Char} (h : Text.isBlank c = true) :
    Text.escapeChar c = [c] := by
  unfold Text.escapeChar
  split
  · exact absurd h (by decide)
  · exact absurd h (by decide)
  · exact absurd h (by decide)
  · rfl

theorem mem_escape_break {cs : List Char} : '\n' ∈ Text.escape cs ↔ '\n' ∈ cs :=
  Text.mem_escape_iff (by decide)

theorem not_break_written (l : Line) : '\n' ∉ l.written :=
  fun h => l.oneLine (mem_escape_break.mp h)

/-- White space in front of a text is not escaped. -/
theorem trimStart_escape (cs : List Char) :
    Text.trimStart (Text.escape cs) = Text.escape (Text.trimStart cs) := by
  induction cs with
  | nil => rfl
  | cons c cs ih =>
    simp only [Text.trimStart, List.dropWhile_cons] at ih ⊢
    by_cases hc : Text.isBlank c = true
    · simp [escape_eq_self_of_blank hc, hc, ih]
    · have hhead : ∀ b bs, Text.escapeChar c = b :: bs → Text.isBlank b = false := by
        intro b bs he
        unfold Text.escapeChar at he
        split at he
        all_goals obtain ⟨rfl, -⟩ := List.cons.inj he
        all_goals first | decide | simpa using hc
      cases he : Text.escapeChar c with
      | nil => exact absurd he (by unfold Text.escapeChar; split <;> simp)
      | cons b bs => simp [hc, he, hhead b bs he]

/-- Escaped text is read back without the white space around it. -/
theorem plainText_escape (cs : List Char) :
    plainText (Text.escape cs) = String.ofList (Text.trim cs) := by
  simp [plainText, Text.Entity.decode_escape]

theorem plainText_written (l : Line) : plainText l.written = l.seen :=
  plainText_escape _

theorem plainText_trimStart_written (l : Line) :
    plainText (Text.trimStart l.written) = l.seen := by
  rw [Line.written, trimStart_escape, plainText_escape, Text.trim]
  simp only [Text.trimStart, List.dropWhile_idempotent]
  rfl

theorem not_less_trimStart {cs : List Char} (h : '<' ∉ cs) : '<' ∉ Text.trimStart cs :=
  fun hm => h ((List.dropWhile_sublist _).subset hm)

theorem not_break_trimStart {cs : List Char} (h : '\n' ∉ cs) : '\n' ∉ Text.trimStart cs :=
  fun hm => h ((List.dropWhile_sublist _).subset hm)

theorem blanks_before_tag (cs rest : List Char) :
    blanks (cs ++ '<' :: rest) = some ((), Text.trimStart cs ++ '<' :: rest) := by
  have hless : Text.isBlank '<' = false := by decide
  rw [blanks, List.dropWhile_append]
  split
  · rename_i he
    simp [List.isEmpty_iff.mp he, Text.trimStart, hless]
  · rfl

theorem eq_of_isPrefixOf_less {as bs xs ys : List Char} (ha : '<' ∉ as) (hb : '<' ∉ bs)
    (h : (as ++ '<' :: xs).isPrefixOf (bs ++ '<' :: ys) = true) : as = bs := by
  induction as generalizing bs with
  | nil =>
    cases bs with
    | nil => rfl
    | cons b bs => simp_all
  | cons a as ih =>
    simp only [List.mem_cons, not_or] at ha
    cases bs with
    | nil =>
      simp only [List.cons_append, List.nil_append, List.isPrefixOf_cons_cons, Bool.and_eq_true,
        beq_iff_eq] at h
      exact absurd h.1.symm ha.1
    | cons b bs =>
      simp only [List.mem_cons, not_or] at hb
      simp only [List.cons_append, List.isPrefixOf_cons_cons, Bool.and_eq_true, beq_iff_eq] at h
      rw [h.1, ih ha.2 hb.2 h.2]

end Folio.Markup
