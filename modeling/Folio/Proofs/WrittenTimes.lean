import Folio.Proofs.Numerals
import Folio.Time.Written
import Mathlib.Data.Option.Basic

namespace Folio.DateTime
open Text

theorem trimStart_cons {c : Char} (h : isBlank c = false) (cs : List Char) :
    trimStart (c :: cs) = c :: cs :=
  List.dropWhile_cons_of_neg (by simp [h])

theorem not_blank_of_digit {c : Char} (h : c.isDigit = true) : isBlank c = false := by
  rw [Char.isDigit, Bool.and_eq_true, decide_eq_true_eq, decide_eq_true_eq] at h
  have hc : 0x30 ≤ c.toNat ∧ c.toNat ≤ 0x39 := h
  simp only [isBlank, Bool.or_eq_false_iff, Bool.and_eq_false_iff, decide_eq_false_iff_not,
    beq_eq_false_iff_ne]
  omega

theorem trimStart_digits {ds : List Char} (hd : ∀ c ∈ ds, c.isDigit = true) (hne : ds ≠ [])
    (rest : List Char) : trimStart (ds ++ rest) = ds ++ rest := by
  obtain ⟨d, ds, rfl⟩ := List.exists_cons_of_ne_nil hne
  exact trimStart_cons (not_blank_of_digit (hd d List.mem_cons_self)) _

/-- Digits are read as far as they go, if there are not too many of them. -/
theorem readDigits_append {limit : Nat} {ds rest : List Char}
    (hd : ∀ c ∈ ds, c.isDigit = true) (hne : ds ≠ []) (hl : ds.length ≤ limit)
    (hr : NoDigit rest) : readDigits limit (ds ++ rest) = some (ds, rest) := by
  rw [readDigits, takeWhile_digits hd hr, List.take_of_length_le hl]
  obtain ⟨d, ds, rfl⟩ := List.exists_cons_of_ne_nil hne
  simp

theorem readPart_padded {n : Nat} (h : n < 100) {rest : List Char} (hr : NoDigit rest) :
    readPart 2 (padded 2 n ++ rest) = some (n, rest) := by
  have hl := Nat.le_of_eq (length_padded 2 h (by decide))
  rw [readPart, trimStart_digits padded_digit (padded_ne_nil 2 n),
    readDigits_append padded_digit (padded_ne_nil 2 n) hl hr, Option.map_some]
  simp only [digitsValue_padded]

theorem readMark_cons (mark : Char) (h : isBlank mark = false) (rest : List Char) :
    readMark mark (mark :: rest) = some rest := by
  rw [readMark, trimStart_cons h]
  exact if_pos rfl

/-- A year behind its sign may have any number of digits. -/
theorem readDigits_signedYear (n : Nat) {rest : List Char} (hr : NoDigit rest) :
    readDigits (padded 4 n ++ rest).length (padded 4 n ++ rest) = some (padded 4 n, rest) := by
  refine readDigits_append padded_digit (padded_ne_nil 4 n) ?_ hr
  rw [List.length_append]
  omega

theorem readYear_written (year : Int) {rest : List Char} (hr : NoDigit rest) :
    readYear (writtenYear year ++ rest) = some (year, rest) := by
  rw [writtenYear]
  split
  · rename_i hplain
    have hl := Nat.le_of_eq (length_padded (n := year.toNat) 4 (by omega) (by decide))
    have hread := readDigits_append padded_digit (padded_ne_nil 4 year.toNat) hl hr
    rw [readYear, trimStart_digits padded_digit (padded_ne_nil 4 year.toNat)]
    obtain ⟨d, ds, he⟩ := List.exists_cons_of_ne_nil (padded_ne_nil 4 year.toNat)
    have hdigit : d.isDigit = true := padded_digit d (he ▸ List.mem_cons_self)
    have hsign : d ≠ '-' ∧ d ≠ '+' := by
      constructor <;> (rintro rfl; cases hdigit)
    rw [he, List.cons_append] at hread ⊢
    split
    · rename_i hminus
      exact absurd (List.cons.inj hminus).1 hsign.1
    · rename_i hplus
      exact absurd (List.cons.inj hplus).1 hsign.2
    · rw [hread, Option.map_some, ← he]
      simp only [digitsValue_padded]
      congr 2
      omega
  · split
    · rw [List.cons_append, readYear, trimStart_cons rfl]
      simp only [readDigits_signedYear _ hr, Option.map_some, digitsValue_padded]
      congr 2
      omega
    · rw [List.cons_append, readYear, trimStart_cons rfl]
      simp only [readDigits_signedYear _ hr, Option.map_some, digitsValue_padded]
      congr 2
      omega

/-- A fraction of so many digits counts from the first place behind the point. -/
theorem readFraction_padded {width n : Nat} (hn : n < 10 ^ width) (hw : 0 < width)
    (hw' : width ≤ 9) : readFraction ('.' :: padded width n) = some (n * 10 ^ (9 - width), []) := by
  have hl := length_padded width hn hw
  have hread : readDigits 9 (padded width n ++ []) = some (padded width n, []) :=
    readDigits_append padded_digit (padded_ne_nil width n) (by omega) .nil
  rw [List.append_nil] at hread
  rw [readFraction, hread, Option.map_some]
  simp only [hl, digitsValue_padded]
  rfl

theorem readFraction_written {nano : Nat} (h : nano < billion) :
    readFraction (writtenFraction nano) = some (nano, []) := by
  rw [billion] at h
  rw [writtenFraction]
  split
  · rename_i hz
    rw [hz]
    rfl
  · split
    · rw [readFraction_padded (by omega) (by decide) (by decide)]
      congr 2
      omega
    · split
      · rw [readFraction_padded (by omega) (by decide) (by decide)]
        congr 2
        omega
      · rw [readFraction_padded (by omega) (by decide) (by decide)]
        congr 2
        omega

theorem noDigit_fraction (nano : Nat) : NoDigit (writtenFraction nano) := by
  rw [writtenFraction]
  split
  · exact .nil
  · split
    · exact .cons rfl _
    · split <;> exact .cons rfl _

theorem fraction_lt (t : DateTime) : t.fraction < billion := by
  have hv := t.valid
  rw [fraction]
  split
  · assumption
  · simp only [Valid, billion] at hv ⊢
    omega

theorem ofParts?_eq (t : DateTime) :
    ofParts? t.year t.month t.day t.hour t.minute t.second t.nano = some t :=
  dif_pos t.valid

theorem read?_write (t : DateTime) : read? t.write = some t := by
  obtain ⟨-, ⟨-, hmonth⟩, ⟨-, hday⟩, hhour, hminute, hsecond, hnano⟩ := t.valid
  have hlast := daysInMonth_le t.year t.month
  have hwritten : t.writtenSecond < 100 := by
    rw [writtenSecond]
    split <;> omega
  have hfraction := readFraction_written t.fraction_lt
  simp only [read?, write, List.append_assoc, List.cons_append,
    readYear_written _ (NoDigit.cons (c := '-') rfl _),
    readMark_cons '-' rfl, readMark_cons 'T' rfl,
    readMark_cons ':' rfl,
    readPart_padded (n := t.month) (by omega) (NoDigit.cons (c := '-') rfl _),
    readPart_padded (n := t.day) (by omega) (NoDigit.cons (c := 'T') rfl _),
    readPart_padded (n := t.hour) (by omega) (NoDigit.cons (c := ':') rfl _),
    readPart_padded (n := t.minute) (by omega) (NoDigit.cons (c := ':') rfl _),
    readPart_padded hwritten (noDigit_fraction _), hfraction, Option.bind_eq_bind,
    Option.bind_some]
  rw [guard, if_pos (by rfl : trimStart [] = []), Option.pure_def, Option.bind_some]
  -- A leap second is written as second 60, and read back as second 59 with another billion.
  rw [writtenSecond, fraction]
  split
  · rw [if_neg (by omega)]
    exact t.ofParts?_eq
  · have hs : t.second = 59 := by omega
    have hn : billion + (t.nano - billion) = t.nano := by omega
    rw [hs, if_pos rfl, hn]
    have hparts := t.ofParts?_eq
    rwa [hs] at hparts

end Folio.DateTime
