import Folio.Text.Numeral
import Mathlib.Algebra.Group.Nat.Defs
import Mathlib.Data.List.Induction

namespace Folio.Text

/-- The text does not go on with a digit. -/
def NoDigit (rest : List Char) : Prop :=
  ∀ c ∈ rest.head?, c.isDigit = false

theorem NoDigit.cons {c : Char} (h : c.isDigit = false) (rest : List Char) :
    NoDigit (c :: rest) := by
  intro d hd
  obtain rfl := Option.some.inj hd
  exact h

theorem NoDigit.nil : NoDigit [] :=
  fun _ hc => nomatch hc

section Runs

variable {ds rest : List Char} (hd : ∀ c ∈ ds, c.isDigit = true) (hr : NoDigit rest)
include hd hr

theorem takeWhile_digits : (ds ++ rest).takeWhile Char.isDigit = ds := by
  rw [List.takeWhile_append_of_pos hd]
  cases rest with
  | nil => rw [List.takeWhile_nil, List.append_nil]
  | cons c rest => rw [List.takeWhile_cons_of_neg (by simp [hr c rfl]), List.append_nil]

theorem dropWhile_digits : (ds ++ rest).dropWhile Char.isDigit = rest := by
  rw [List.dropWhile_append_of_pos hd]
  cases rest with
  | nil => rfl
  | cons c rest => rw [List.dropWhile_cons_of_neg (by simp [hr c rfl])]

end Runs

theorem digits_digit {n : Nat} : ∀ c ∈ digits n, c.isDigit = true :=
  fun _ => isDigit_of_mem_digits

theorem padded_digit {width n : Nat} : ∀ c ∈ padded width n, c.isDigit = true :=
  fun _ => isDigit_of_mem_padded

theorem length_digits_le {n width : Nat} (h : n < 10 ^ width) (hw : 0 < width) :
    (digits n).length ≤ width :=
  (Nat.length_toDigits_le_iff (by decide) hw).mpr h

theorem length_padded {n : Nat} (width : Nat) (h : n < 10 ^ width) (hw : 0 < width) :
    (padded width n).length = width := by
  have hl := length_digits_le h hw
  rw [padded, List.length_append, List.length_replicate]
  omega

theorem padded_ne_nil (width n : Nat) : padded width n ≠ [] :=
  fun h => digits_ne_nil n (List.append_eq_nil_iff.mp h).2

/-- The numeral of a number other than zero does not begin with a zero. -/
theorem head?_digits {n : Nat} (h : 0 < n) : (digits n).head? ≠ some '0' := by
  induction n using Nat.strongRecOn with
  | ind n ih =>
    rw [digits, Nat.toDigits_eq_if (by decide)]
    split
    · rename_i hsmall
      have hall : ∀ d < 10, 0 < d → [Nat.digitChar d].head? ≠ some '0' := by decide
      exact hall n hsmall h
    · have hrest := ih (n / 10) (by omega) (by omega)
      obtain ⟨d, ds, he⟩ := List.exists_cons_of_ne_nil (digits_ne_nil (n / 10))
      rw [he] at hrest
      rw [← digits, he]
      exact hrest

/-- Only the numeral of zero begins with a zero, and it has no other digit. -/
theorem digits_zero_cons {n : Nat} {ds : List Char} (h : digits n = '0' :: ds) : ds = [] := by
  cases Nat.eq_zero_or_pos n with
  | inl hz =>
    subst hz
    exact (List.cons.inj (h.symm.trans (by decide : digits 0 = ['0']))).2
  | inr hp =>
    refine absurd ?_ (head?_digits hp)
    rw [h, List.head?_cons]

theorem digitsValue_digit {d : Char} (h : d.isDigit = true) :
    digitsValue [d] < 10 ∧ digits (digitsValue [d]) = [d] := by
  have hbounds : 48 ≤ d.toNat ∧ d.toNat ≤ 57 := by
    simpa [Char.isDigit, UInt32.le_iff_toNat_le] using h
  have hall : ∀ n < 10, Nat.digitChar n = Char.ofNat (48 + n) := by decide
  have hvalue : digitsValue [d] = d.toNat - 48 := by
    simp [digitsValue, Nat.ofDigitChars_cons]
  rw [hvalue]
  refine ⟨by omega, ?_⟩
  rw [digits, Nat.toDigits_of_lt_base (by omega), hall _ (by omega),
    Nat.add_sub_cancel' hbounds.1, Char.ofNat_toNat]

theorem digitsValue_concat (ds : List Char) (d : Char) :
    digitsValue (ds ++ [d]) = 10 * digitsValue ds + digitsValue [d] := by
  simp only [digitsValue, Nat.ofDigitChars_append, Nat.ofDigitChars_cons, Nat.ofDigitChars_nil,
    Nat.mul_zero, Nat.zero_add]

theorem digits_concat {n : Nat} (hn : 0 < n) {d : Char} (h : d.isDigit = true) :
    digits (10 * n + digitsValue [d]) = digits n ++ [d] := by
  obtain ⟨hlt, hdigit⟩ := digitsValue_digit h
  rw [digits, ← Nat.toDigits_append_toDigits (by decide) hn hlt, ← digits, ← digits, hdigit]

/-- Digits are a numeral behind zeros. -/
theorem exists_zeros {ds : List Char} (hne : ds ≠ []) (hd : ∀ c ∈ ds, c.isDigit = true) :
    ∃ zeros, ds = List.replicate zeros '0' ++ digits (digitsValue ds) := by
  -- The last digit goes on with the numeral of those in front, unless they are all zeros.
  induction ds using List.reverseRecOn with
  | nil => exact absurd rfl hne
  | append_singleton front d ih =>
    have hlast : d.isDigit = true := hd d (by simp)
    by_cases hfront : front = []
    · subst hfront
      exact ⟨0, (digitsValue_digit hlast).2.symm⟩
    obtain ⟨zeros, hzeros⟩ := ih hfront fun c hc => hd c (List.mem_append_left [d] hc)
    rw [digitsValue_concat]
    obtain hz | hp := Nat.eq_zero_or_pos (digitsValue front)
    · rw [hz] at hzeros ⊢
      refine ⟨zeros + 1, ?_⟩
      rw [Nat.mul_zero, Nat.zero_add, (digitsValue_digit hlast).2, List.replicate_succ', hzeros]
      rfl
    · refine ⟨zeros, ?_⟩
      rw [digits_concat hp hlast, ← List.append_assoc, ← hzeros]

/-- Digits are the numeral of their value, padded to their width. -/
theorem padded_digitsValue {ds : List Char} (hne : ds ≠ []) (hd : ∀ c ∈ ds, c.isDigit = true) :
    padded ds.length (digitsValue ds) = ds := by
  obtain ⟨zeros, hzeros⟩ := exists_zeros hne hd
  have hlength := congrArg List.length hzeros
  rw [List.length_append, List.length_replicate] at hlength
  rw [padded, hlength, Nat.add_sub_cancel, ← hzeros]

end Folio.Text
