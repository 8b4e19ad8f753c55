import Folio.Proofs.JsonDelimited

namespace Folio.Json
open Text Reader

variable {cs ds rest : List Char}

theorem fractionPart_cases {x : Option (List Char)} (h : fractionPart cs = .ok (x, rest)) :
    (x = none ∧ rest = cs ∧ cs.head? ≠ some '.') ∨
      (x ≠ none ∧ ∃ front, front ≠ [] ∧ cs = front ++ rest) := by
  unfold fractionPart at h
  split at h
  · rename_i more
    cases hrun : digitRun more with
    | error fault =>
      rw [hrun] at h
      cases h
    | ok p =>
      rw [hrun] at h
      cases h
      obtain ⟨rfl, -⟩ := digitRun_ok_iff.mp hrun
      exact .inr ⟨nofun, _, List.cons_ne_nil '.' _, rfl⟩
  · rename_i hpoint
    cases h
    refine .inl ⟨rfl, rfl, fun hc => ?_⟩
    obtain ⟨more, rfl⟩ := List.head?_eq_some_iff.mp hc
    exact hpoint more rfl

theorem of_exponentRun_ok {c : Char} {x : Option Int} (mark : List Char)
    {f : List Char × List Char → Option Int × List Char}
    (h : (digitRun cs).map f = .ok (x, rest)) (hf : ∀ p, (f p).1 ≠ none ∧ (f p).2 = p.2) :
    x ≠ none ∧ ∃ front, front ≠ [] ∧ c :: (mark ++ cs) = front ++ rest := by
  cases hrun : digitRun cs with
  | error fault =>
    rw [hrun] at h
    cases h
  | ok p =>
    obtain ⟨ds, more⟩ := p
    rw [hrun] at h
    obtain ⟨hx, hrest⟩ := Prod.mk.inj (Except.ok.inj h : f (ds, more) = (x, rest))
    obtain ⟨rfl, -⟩ := digitRun_ok_iff.mp hrun
    obtain ⟨hsome, hmore⟩ := hf (ds, more)
    rw [hx] at hsome
    rw [hrest] at hmore
    exact ⟨hsome, c :: (mark ++ ds), List.cons_ne_nil _ _, by simp [hmore]⟩

theorem exponentPart_cases {x : Option Int} (h : exponentPart cs = .ok (x, rest)) :
    (x = none ∧ rest = cs ∧ ∀ c ∈ cs.head?, isExponentMark c = false) ∨
      (x ≠ none ∧ ∃ front, front ≠ [] ∧ cs = front ++ rest) := by
  unfold exponentPart at h
  split at h
  · cases h
    exact .inl ⟨rfl, rfl, nofun⟩
  · split at h
    · right
      split at h
      · exact of_exponentRun_ok ['+'] h fun _ => ⟨nofun, rfl⟩
      · exact of_exponentRun_ok ['-'] h fun _ => ⟨nofun, rfl⟩
      · exact of_exponentRun_ok [] h fun _ => ⟨nofun, rfl⟩
    · rename_i hmark
      cases h
      refine .inl ⟨rfl, rfl, fun d hd => ?_⟩
      obtain rfl := Option.some.inj hd
      simpa using hmark

theorem fractionPart_suffix {x : Option (List Char)} (h : fractionPart cs = .ok (x, rest)) :
    rest <:+ cs := by
  obtain ⟨-, rfl, -⟩ | ⟨-, front, -, rfl⟩ := fractionPart_cases h
  · exact List.suffix_refl _
  · exact List.suffix_append front rest

theorem exponentPart_suffix {x : Option Int} (h : exponentPart cs = .ok (x, rest)) :
    rest <:+ cs := by
  obtain ⟨-, rfl, -⟩ | ⟨-, front, -, rfl⟩ := exponentPart_cases h
  · exact List.suffix_refl _
  · exact List.suffix_append front rest

theorem integerDigits_stops {before : List Char} (h : integerDigits cs = .ok (ds, before))
    (hr : Stops rest) : integerDigits (ds ++ rest) = .ok (ds, rest) := by
  obtain ⟨hrun, hzero⟩ := integerDigits_ok_iff.mp h
  obtain ⟨-, hne, hd, -⟩ := digitRun_ok_iff.mp hrun
  exact integerDigits_ok_iff.mpr ⟨digitRun_ok_iff.mpr ⟨rfl, hne, hd, hr.noDigit⟩, hzero⟩

/-- A whole number has neither a fraction nor an exponent. -/
theorem unsignedNumber_whole {negative : Bool} {n : Int}
    (h : unsignedNumber negative cs = .ok (.whole n, rest)) :
    ∃ ds, integerDigits cs = .ok (ds, rest) ∧ Stops rest ∧
      ∀ more, Stops more → unsignedNumber negative (ds ++ more) = .ok (.whole n, more) := by
  unfold unsignedNumber at h
  obtain ⟨⟨ds, afterDigits⟩, hi, hbehind⟩ := of_step_ok h
  obtain ⟨⟨x, afterFraction⟩, hf, hscaled⟩ := of_step_ok hbehind
  obtain ⟨⟨y, afterExponent⟩, he, hnumber⟩ := of_step_ok hscaled
  simp only at hnumber
  split at hnumber
  · rename_i hleft
    obtain ⟨hvalue, rfl⟩ := Prod.mk.inj (Except.ok.inj hnumber)
    obtain ⟨-, rfl, hpoint⟩ | ⟨hfraction, -⟩ := fractionPart_cases hf
    · obtain ⟨-, rfl, hmark⟩ | ⟨hexponent, -⟩ := exponentPart_cases he
      · refine ⟨ds, hi, fun c hc => ⟨?_, ?_, hmark c hc⟩, fun more hmore => ?_⟩
        · exact (digitRun_ok_iff.mp (integerDigits_ok_iff.mp hi).1).2.2.2 c hc
        · rintro rfl
          exact hpoint hc
        · simp only [unsignedNumber, integerDigits_stops hi hmore, fractionPart_stops hmore,
            exponentPart_stops hmore, bind, Except.bind, hleft, hvalue]
      · exact absurd rfl hexponent
    · exact absurd rfl hfraction
  · split at hnumber
    · cases hnumber
    · cases hnumber

/-- What is skipped of a number behind its sign. -/
def skipUnsigned : Reader Unit := fun cs => do
  let (_, cs) ← formOnly (integerDigits cs)
  let (_, cs) ← formOnly (fractionPart cs)
  let (_, cs) ← formOnly (exponentPart cs)
  return ((), cs)

theorem formOnly_ok_iff {x : Except Fault α} {a : α} : formOnly x = .ok a ↔ x = .ok a := by
  cases x with
  | error fault => exact ⟨nofun, nofun⟩
  | ok b => exact Iff.rfl

theorem skipUnsigned_stops {before : List Char} (h : integerDigits cs = .ok (ds, before)) :
    skipUnsigned (ds ++ rest) = .ok ((), rest) ↔ Stops rest := by
  constructor
  · intro hskip
    obtain ⟨⟨run, afterDigits⟩, hi, hbehind⟩ := of_step_ok hskip
    obtain ⟨⟨x, afterFraction⟩, hf, hscaled⟩ := of_step_ok hbehind
    obtain ⟨⟨y, afterExponent⟩, he, hend⟩ := of_step_ok hscaled
    cases hend
    obtain ⟨hsplit, -, hdigits, hnone⟩ :=
      digitRun_ok_iff.mp (integerDigits_ok_iff.mp (formOnly_ok_iff.mp hi)).1
    -- The run of digits may go on behind those of the number, so that no more than its end is left.
    have hleft : afterDigits <:+ rest := by
      have hd := (digitRun_ok_iff.mp (integerDigits_ok_iff.mp h).1).2.2.1
      rw [← dropWhile_digits hdigits hnone, ← hsplit, List.dropWhile_append_of_pos hd]
      exact List.dropWhile_suffix _
    have hlength := hleft.length_le
    obtain ⟨-, rfl, hpoint⟩ | ⟨-, front, hne, rfl⟩ := fractionPart_cases (formOnly_ok_iff.mp hf)
    · obtain ⟨-, rfl, hmark⟩ | ⟨-, front, hne, rfl⟩ := exponentPart_cases (formOnly_ok_iff.mp he)
      · exact fun c hc => ⟨hnone c hc, fun hdot => hpoint (hdot ▸ hc), hmark c hc⟩
      · rw [List.length_append] at hlength
        have hpos := List.length_pos_iff.mpr hne
        omega
    · rw [List.length_append] at hlength
      have hpos := List.length_pos_iff.mpr hne
      have hend := (exponentPart_suffix (formOnly_ok_iff.mp he)).length_le
      omega
  · intro hr
    simp only [skipUnsigned, integerDigits_stops h hr, fractionPart_stops hr,
      exponentPart_stops hr, formOnly, bind, Except.bind]
    rfl

theorem skipNumber_of_ne {c : Char} (hc : c ≠ '-') (cs : List Char) :
    skipNumber (c :: cs) = skipUnsigned (c :: cs) := by
  unfold skipNumber
  split
  · rename_i h
    exact absurd (List.cons.inj h).1 hc
  · rfl

theorem number_of_ne {c : Char} (hc : c ≠ '-') (cs : List Char) :
    number (c :: cs) = unsignedNumber false (c :: cs) := by
  rw [number]
  intro more h
  exact hc (List.cons.inj h).1

/-- The text of a whole number. It is read in front of anything that stops it, and skipped in front
of nothing else. -/
structure WholeText (text : List Char) (n : Int) : Prop where
  read : ∀ {more}, Stops more → number (text ++ more) = .ok (.whole n, more)
  skipped : ∀ {more}, skipNumber (text ++ more) = .ok ((), more) ↔ Stops more

theorem of_number_whole {c : Char} {n : Int} (h : number (c :: cs) = .ok (.whole n, rest)) :
    ∃ text, c :: cs = c :: text ++ rest ∧ Stops rest ∧ WholeText (c :: text) n := by
  by_cases hc : c = '-'
  · subst hc
    obtain ⟨ds, hi, hr, hread⟩ :=
      unsignedNumber_whole (h : unsignedNumber true cs = .ok (.whole n, rest))
    obtain ⟨rfl, -⟩ := digitRun_ok_iff.mp (integerDigits_ok_iff.mp hi).1
    exact ⟨ds, rfl, hr, ⟨fun hm => hread _ hm, skipUnsigned_stops hi⟩⟩
  · rw [number_of_ne hc] at h
    obtain ⟨ds, hi, hr, hread⟩ := unsignedNumber_whole h
    obtain ⟨hsplit, hne, -⟩ := digitRun_ok_iff.mp (integerDigits_ok_iff.mp hi).1
    obtain ⟨d, ds, rfl⟩ := List.exists_cons_of_ne_nil hne
    obtain ⟨rfl, rfl⟩ := List.cons.inj hsplit
    refine ⟨ds, rfl, hr, ⟨fun hm => ?_, ?_⟩⟩
    · rw [List.cons_append, number_of_ne hc]
      exact hread _ hm
    · intro more
      rw [List.cons_append, skipNumber_of_ne hc]
      exact skipUnsigned_stops hi

theorem skipWithin_number {c : Char} (hs : isSpace c = false) (hc : c = '-' ∨ c.isDigit = true)
    (fuel : Nat) (more : List Char) :
    skipWithin (fuel + 1) (c :: more) = skipNumber (c :: more) := by
  rw [skipWithin, bind_ok (peek_cons hs more)]
  split
  case h_7 => rw [if_pos hc]
  all_goals
    obtain hc | hc := hc <;> cases hc

/-- A whole number between two bounds, perhaps behind white space. -/
def BoundedText (low high : Int) (text : List Char) (n : Int) : Prop :=
  ∃ blanks c digits, text = blanks ++ c :: digits ∧ (∀ b ∈ blanks, isSpace b = true) ∧
    isSpace c = false ∧ (c = '-' ∨ c.isDigit = true) ∧ (low ≤ n ∧ n ≤ high) ∧
    WholeText (c :: digits) n

theorem intBetween_ok_iff {low high n : Int} : intBetween low high cs = .ok (n, rest) ↔
    ∃ text, cs = text ++ rest ∧ BoundedText low high text n ∧ Stops rest := by
  constructor
  · intro h
    obtain ⟨blanks, c, more, rfl, hb, hs, hif⟩ := of_peek_ok h
    split at hif
    · rename_i hc
      obtain ⟨number, mid, hnumber, hmid⟩ := of_bind_ok hif
      cases number with
      | fractional => cases hmid
      | whole m =>
        simp only at hmid
        split at hmid
        · rename_i hbounds
          cases hmid
          obtain ⟨digits, he, hr, htext⟩ := of_number_whole hnumber
          refine ⟨blanks ++ c :: digits, ?_, ?_, hr⟩
          · rw [he, List.append_assoc]
          · exact ⟨blanks, c, digits, rfl, hb, hs, hc, hbounds, htext⟩
        · cases hmid
    · cases otherKind_ne_ok hif
  · rintro ⟨text, rfl, ⟨blanks, c, digits, rfl, hb, hs, hc, hbounds, htext⟩, hr⟩
    rw [List.append_assoc, List.cons_append, intBetween, peek_blanks hb hs, if_pos hc,
      ← List.cons_append, bind_ok (htext.read hr)]
    simp only
    rw [if_pos hbounds]
    rfl

theorem BoundedText.skipValue_iff {low high n : Int} {text : List Char}
    (h : BoundedText low high text n) : skipValue (text ++ rest) = .ok ((), rest) ↔ Stops rest := by
  obtain ⟨blanks, c, digits, rfl, hb, hs, hc, -, htext⟩ := h
  rw [List.append_assoc, List.cons_append, skipValue, skipWithin_blanks hb hs,
    skipWithin_number hs hc, ← List.cons_append]
  exact htext.skipped

end Folio.Json
