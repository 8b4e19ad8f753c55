import Folio.Json.Shape
import Folio.Json.Writer
import Folio.Proofs.Numerals
import Mathlib.Tactic.SplitIfs

namespace Folio.Json
open Text Reader

theorem bind_ok {r : Reader α} {cs rest : List Char} {a : α} (h : r cs = .ok (a, rest))
    (f : α → Reader β) : (r >>= f) cs = f a rest := by
  change (r cs >>= fun p => f p.1 p.2) = f a rest
  rw [h]
  rfl

theorem map_ok {r : Reader α} {cs rest : List Char} {a : α} (h : r cs = .ok (a, rest))
    (f : α → β) : (f <$> r) cs = .ok (f a, rest) := by
  change (r cs >>= fun p => pure (f p.1, p.2)) = .ok (f a, rest)
  rw [h]
  rfl

theorem peek_cons {c : Char} (h : isSpace c = false) (cs : List Char) :
    peek (c :: cs) = .ok (c, c :: cs) := by
  unfold peek
  rw [List.dropWhile_cons_of_neg (by simp [h])]

theorem skip_cons (c : Char) (cs : List Char) : skip (c :: cs) = .ok ((), cs) :=
  rfl

theorem mark_cons {c : Char} (h : isSpace c = false) (cs : List Char) :
    mark c (c :: cs) = .ok ((), cs) := by
  rw [mark, bind_ok (peek_cons h cs), if_pos rfl, skip_cons]

theorem word_append (ws rest : List Char) : word ws (ws ++ rest) = .ok ((), rest) := by
  induction ws with
  | nil => rfl
  | cons w ws ih =>
    rw [List.cons_append, word]
    exact (if_pos rfl).trans ih

/-- A word is known by its first letter. -/
theorem word_written {c : Char} (hs : isSpace c = false) {ws : List Char} {a : α}
    {f : Char → Reader α} (hf : f c = skipLetters ws >>= fun _ => pure a) (rest : List Char) :
    (peek >>= f) (c :: (ws ++ rest)) = .ok (a, rest) := by
  have hletters : skipLetters ws (c :: (ws ++ rest)) = .ok ((), rest) := by
    rw [skipLetters, bind_ok (skip_cons c _), word_append]
  rw [bind_ok (peek_cons hs _), hf, bind_ok hletters]
  rfl

/-- What may follow a value: nothing, or the mark behind it. -/
def Ends (rest : List Char) : Prop :=
  ∀ c ∈ rest.head?, c = ',' ∨ c = ']' ∨ c = '\x7d'

theorem Ends.nil : Ends [] :=
  fun _ hc => nomatch hc

theorem Ends.cons {c : Char} (h : c = ',' ∨ c = ']' ∨ c = '\x7d') (rest : List Char) :
    Ends (c :: rest) := by
  intro d hd
  obtain rfl := Option.some.inj hd
  exact h

section Strings

theorem hexValue_hexDigit : ∀ n < 16, hexValue (hexDigit n) = some n := by
  decide

theorem four_bytes (a b c d : Char) (rest : List Char) :
    ¬ (String.ofList ((a :: b :: c :: d :: rest).take 4)).utf8ByteSize < 4 := by
  have ha := a.utf8Size_pos
  have hb := b.utf8Size_pos
  have hc := c.utf8Size_pos
  have hd := d.utf8Size_pos
  simp only [List.take_succ_cons, List.take_zero, String.ofList_cons, String.utf8ByteSize_append,
    String.utf8ByteSize_singleton]
  omega

theorem hexQuad_control {c : Char} (h : c.toNat < 0x20) (rest : List Char) :
    hexQuad ('0' :: '0' :: hexDigit (c.toNat / 16) :: hexDigit (c.toNat % 16) :: rest)
      = .ok (c.toNat, rest) := by
  have hhigh := hexValue_hexDigit (c.toNat / 16) (by omega)
  have hlow := hexValue_hexDigit (c.toNat % 16) (by omega)
  have hzero : hexValue '0' = some 0 := by decide
  rw [hexQuad, if_neg (four_bytes _ _ _ _ rest)]
  simp only [hzero, hhigh, hlow]
  congr 2
  omega

theorem escapedChar_control {c : Char} (h : c.toNat < 0x20) (rest : List Char) :
    escapedChar ('u' :: '0' :: '0' :: hexDigit (c.toNat / 16) :: hexDigit (c.toNat % 16) :: rest)
      = .ok (c, rest) := by
  have hlow : isLowSurrogate c.toNat = false := by simp [isLowSurrogate]; omega
  have hhigh : isHighSurrogate c.toNat = false := by simp [isHighSurrogate]; omega
  simp only [escapedChar, readEscape, hexQuad_control h, Except.map, bind, Except.bind, hlow, hhigh,
    Bool.false_eq_true, ↓reduceIte, Char.ofNat_toNat]

theorem stringWithin_escaped {fuel : Nat} {cs rest : List Char} {c : Char}
    (h : escapedChar cs = .ok (c, rest)) :
    stringWithin (fuel + 1) ('\\' :: cs)
      = (stringWithin fuel rest).map fun (s, rest) => (c :: s, rest) := by
  rw [stringWithin, h]
  rfl

theorem stringWithin_plain {fuel : Nat} {c : Char} (hq : c ≠ '"') (hb : c ≠ '\\')
    (hp : ¬ c.toNat < 0x20) (rest : List Char) :
    stringWithin (fuel + 1) (c :: rest)
      = (stringWithin fuel rest).map fun (s, rest) => (c :: s, rest) := by
  rw [stringWithin, if_neg hp]
  · rfl
  · exact hq
  · exact hb

theorem stringWithin_writeChar (fuel : Nat) (c : Char) (rest : List Char) :
    stringWithin (fuel + 1) (writeChar c ++ rest)
      = (stringWithin fuel rest).map fun (s, rest) => (c :: s, rest) := by
  rw [writeChar]
  split_ifs with hquote hbackslash _ _ _ _ _ hcontrol
  -- All the short escapes are read back at once.
  any_goals
    subst c
    exact stringWithin_escaped rfl
  · exact stringWithin_escaped (escapedChar_control hcontrol rest)
  · exact stringWithin_plain hquote hbackslash hcontrol rest

theorem length_writeChar_pos (c : Char) : 0 < (writeChar c).length := by
  rw [writeChar]
  repeat' split
  all_goals exact Nat.succ_pos _

theorem stringWithin_written (s rest : List Char) {fuel : Nat}
    (hf : (s.flatMap writeChar).length < fuel) :
    stringWithin fuel (s.flatMap writeChar ++ '"' :: rest) = .ok (s, rest) := by
  induction s generalizing fuel with
  | nil =>
    obtain ⟨fuel, rfl⟩ := Nat.exists_eq_add_of_lt hf
    rw [List.flatMap_nil, List.nil_append, stringWithin]
  | cons c s ih =>
    rw [List.flatMap_cons, List.length_append] at hf
    have hpos := length_writeChar_pos c
    obtain ⟨fuel, rfl⟩ : ∃ n, fuel = n + 1 := Nat.exists_eq_succ_of_ne_zero (by omega)
    rw [List.flatMap_cons, List.append_assoc, stringWithin_writeChar, ih (by omega)]
    rfl

/-- A string behind its opening quote is read up to the closing one. -/
theorem stringTail_written (s : String) (rest : List Char) :
    stringTail (s.toList.flatMap writeChar ++ '"' :: rest) = .ok (s.toList, rest) := by
  refine stringWithin_written s.toList rest ?_
  rw [List.length_append, List.length_cons]
  omega

theorem writeString_append (s : String) (rest : List Char) :
    writeString s ++ rest = '"' :: (s.toList.flatMap writeChar ++ '"' :: rest) := by
  simp [writeString]

theorem string_written (s : String) (rest : List Char) :
    string (writeString s ++ rest) = .ok (s, rest) := by
  rw [writeString_append, string, bind_ok (peek_cons rfl _), if_pos rfl,
    bind_ok (skip_cons _ _), bind_ok (stringTail_written s rest), String.ofList_toList]
  rfl

end Strings

section Numbers

/-- Nothing that a number could go on with. -/
def Stops (rest : List Char) : Prop :=
  ∀ c ∈ rest.head?, c.isDigit = false ∧ c ≠ '.' ∧ isExponentMark c = false

theorem Stops.noDigit {rest : List Char} (hr : Stops rest) : NoDigit rest :=
  fun c hc => (hr c hc).1

theorem Ends.stops {rest : List Char} (hr : Ends rest) : Stops rest := by
  intro c hc
  rcases hr c hc with rfl | rfl | rfl <;> decide

section Digits

variable {cs ds rest : List Char}

theorem digitRun_ok_iff : digitRun cs = .ok (ds, rest) ↔
    cs = ds ++ rest ∧ ds ≠ [] ∧ (∀ c ∈ ds, c.isDigit = true) ∧ NoDigit rest := by
  constructor
  · intro h
    have hsplit := List.takeWhile_append_dropWhile (p := Char.isDigit) (l := cs)
    have hdigits := List.all_eq_true.mp (List.all_takeWhile (p := Char.isDigit) (l := cs))
    have hhead := List.head?_dropWhile_not Char.isDigit cs
    rw [digitRun] at h
    cases ht : cs.takeWhile Char.isDigit with
    | nil =>
      rw [ht] at h
      cases hd : cs.dropWhile Char.isDigit <;> rw [hd] at h <;> cases h
    | cons d run =>
      rw [ht] at h hsplit hdigits
      cases h
      refine ⟨hsplit.symm, List.cons_ne_nil d run, hdigits, fun c hc => ?_⟩
      rw [Option.mem_def.mp hc] at hhead
      simpa using hhead
  · rintro ⟨rfl, hne, hd, hr⟩
    rw [digitRun, takeWhile_digits hd hr, dropWhile_digits hd hr]
    cases ds with
    | nil => exact absurd rfl hne
    | cons d ds => rfl

theorem integerDigits_ok_iff : integerDigits cs = .ok (ds, rest) ↔
    digitRun cs = .ok (ds, rest) ∧ ∀ d ds', ds ≠ '0' :: d :: ds' := by
  unfold integerDigits
  cases hrun : digitRun cs with
  | error fault => simp [bind, Except.bind]
  | ok p =>
    obtain ⟨run, more⟩ := p
    simp only [bind, Except.bind]
    split
    · rename_i d ds'
      refine ⟨nofun, fun ⟨h, hzero⟩ => ?_⟩
      cases h
      exact absurd rfl (hzero d ds')
    · rename_i hzero
      refine ⟨fun h => ?_, And.left⟩
      cases h
      exact ⟨rfl, fun d ds' => hzero d ds'⟩

theorem fractionPart_stops (hr : Stops rest) : fractionPart rest = .ok (none, rest) := by
  unfold fractionPart
  split
  · exact absurd rfl (hr '.' rfl).2.1
  · rfl

theorem exponentPart_stops (hr : Stops rest) : exponentPart rest = .ok (none, rest) := by
  cases rest with
  | nil => rfl
  | cons c rest =>
    unfold exponentPart
    simp only [(hr c rfl).2.2, Bool.false_eq_true, ↓reduceIte]

end Digits

theorem integerDigits_digits (n : Nat) {rest : List Char} (hr : Stops rest) :
    integerDigits (digits n ++ rest) = .ok (digits n, rest) := by
  refine integerDigits_ok_iff.mpr ⟨digitRun_ok_iff.mpr ?_, fun d ds hzero => ?_⟩
  · exact ⟨rfl, digits_ne_nil n, digits_digit, hr.noDigit⟩
  · cases digits_zero_cons hzero

theorem le_ofDigitChars (ds : List Char) (n : Nat) : n ≤ Nat.ofDigitChars 10 ds n := by
  induction ds generalizing n with
  | nil => exact Nat.le_refl n
  | cons d ds ih =>
    have hrest := ih (10 * n + (d.toNat - '0'.toNat))
    rw [Nat.ofDigitChars_cons]
    omega

/-- A number within 64 bits keeps all its digits. -/
theorem extendSignificand_of_le {ds : List Char} {n : Nat}
    (h : Nat.ofDigitChars 10 ds n ≤ maxSignificand) :
    extendSignificand n ds = (Nat.ofDigitChars 10 ds n, 0) := by
  induction ds generalizing n with
  | nil => rfl
  | cons d ds ih =>
    rw [Nat.ofDigitChars_cons] at h ⊢
    rw [extendSignificand, Nat.mul_comm n 10]
    exact (if_pos (Nat.le_trans (le_ofDigitChars ds _) h)).trans (ih h)

theorem unsignedNumber_written {n : Nat} (h : n ≤ maxSignificand) (negative : Bool)
    {rest : List Char} (hr : Ends rest) :
    unsignedNumber negative (digits n ++ rest)
      = .ok (if negative then negativeWhole n else .whole n, rest) := by
  have hvalue : Nat.ofDigitChars 10 (digits n) 0 = n := digitsValue_digits n
  have hall : extendSignificand 0 (digits n) = (n, 0) := by
    rw [extendSignificand_of_le (by rw [hvalue]; exact h), hvalue]
  simp only [unsignedNumber, integerDigits_digits n hr.stops, fractionPart_stops hr.stops,
    exponentPart_stops hr.stops, hall, bind, Except.bind]

theorem digit_ne_minus {n : Nat} {d : Char} {ds : List Char} (he : digits n = d :: ds) :
    d.isDigit = true ∧ d ≠ '-' := by
  have hd : d.isDigit = true := digits_digit d (he ▸ List.mem_cons_self)
  refine ⟨hd, ?_⟩
  rintro rfl
  cases hd

theorem number_written {n : Int} (hlow : -9223372036854775808 ≤ n)
    (hhigh : n ≤ 9223372036854775807) {rest : List Char} (hr : Ends rest) :
    number (writeInt n ++ rest) = .ok (.whole n, rest) := by
  rw [writeInt]
  split
  · rename_i hneg
    have hfits : n.natAbs ≤ maxSignificand := by
      rw [maxSignificand]
      omega
    rw [List.cons_append, number, unsignedNumber_written hfits _ hr, if_pos rfl, negativeWhole,
      if_neg (by omega)]
    congr 3
    omega
  · have hfits : n.toNat ≤ maxSignificand := by
      rw [maxSignificand]
      omega
    obtain ⟨d, ds, he⟩ := List.exists_cons_of_ne_nil (digits_ne_nil n.toNat)
    have hread := unsignedNumber_written hfits false hr
    rw [he, List.cons_append] at hread ⊢
    rw [number, hread]
    · simp only [Bool.false_eq_true, ↓reduceIte]
      congr 3
      omega
    · intro cs hc
      exact (digit_ne_minus he).2 (List.cons.inj hc).1

theorem not_space_of_digit {c : Char} (h : c.isDigit = true) : isSpace c = false := by
  rw [isSpace, Bool.eq_false_iff]
  intro hspace
  simp only [Bool.or_eq_true, beq_iff_eq] at hspace
  rcases hspace with ((rfl | rfl) | rfl) | rfl <;> cases h

/-- The first character of a whole number tells that it is one. -/
theorem writeInt_cons (n : Int) :
    ∃ c cs, writeInt n = c :: cs ∧ (c = '-' ∨ c.isDigit = true) ∧ isSpace c = false := by
  rw [writeInt]
  split
  · exact ⟨'-', _, rfl, .inl rfl, by decide⟩
  · obtain ⟨d, ds, he⟩ := List.exists_cons_of_ne_nil (digits_ne_nil n.toNat)
    have hd := (digit_ne_minus he).1
    exact ⟨d, ds, he, .inr hd, not_space_of_digit hd⟩

end Numbers

/-- The text begins a value: neither with white space nor with the end of a list. -/
def Opens (text : List Char) : Prop :=
  ∃ c cs, text = c :: cs ∧ isSpace c = false ∧ c ≠ ']'

theorem Opens.cons {c : Char} (hs : isSpace c = false) (hb : c ≠ ']') (cs : List Char) :
    Opens (c :: cs) :=
  ⟨c, cs, rfl, hs, hb⟩

theorem Opens.peek {text : List Char} (h : Opens text) (rest : List Char) :
    ∃ c, peek (text ++ rest) = .ok (c, text ++ rest) ∧ text.head? = some c ∧ c ≠ ']' := by
  obtain ⟨c, cs, rfl, hs, hb⟩ := h
  exact ⟨c, peek_cons hs _, rfl, hb⟩

/-- The reader takes this value from the front of any text that begins with the written one. -/
structure Takes (r : Reader α) (text : List Char) (a : α) : Prop where
  opens : Opens text
  read : ∀ {rest : List Char}, Ends rest → r (text ++ rest) = .ok (a, rest)

namespace Takes

theorem map {r : Reader α} {text : List Char} {a : α} (h : Takes r text a) (f : α → β) :
    Takes (f <$> r) text (f a) :=
  ⟨h.opens, fun hr => map_ok (h.read hr) f⟩

theorem all {r : Reader α} {text : List Char} {a : α} (h : Takes r text a) :
    readAll r text = .ok a := by
  have hread := h.read .nil
  rw [List.append_nil] at hread
  rw [readAll, hread]
  rfl

theorem opens_string (s : String) : Opens (writeString s) :=
  .cons rfl (by decide) _

theorem string (s : String) : Takes string (writeString s) s :=
  ⟨opens_string s, fun {rest} _ => string_written s rest⟩

theorem parsed {read? : List Char → Option α} {cs : List Char} {a : α} (h : read? cs = some a) :
    Takes (parsed read?) (writeString (String.ofList cs)) a := by
  refine ⟨opens_string _, fun {rest} _ => ?_⟩
  rw [Json.parsed, bind_ok (string_written _ rest), String.toList_ofList, h]
  rfl

theorem bool (b : Bool) : Takes bool (writeBool b) b := by
  cases b with
  | true => exact ⟨.cons rfl (by decide) _, fun {rest} _ => word_written rfl rfl rest⟩
  | false => exact ⟨.cons rfl (by decide) _, fun {rest} _ => word_written rfl rfl rest⟩

theorem int {low high n : Int} (hlow : low ≤ n) (hhigh : n ≤ high)
    (hwide : -9223372036854775808 ≤ low ∧ high ≤ 9223372036854775807) :
    Takes (intBetween low high) (writeInt n) n := by
  obtain ⟨c, cs, he, hc, hs⟩ := writeInt_cons n
  constructor
  · rw [he]
    refine .cons hs ?_ cs
    rintro rfl
    rcases hc with hc | hc <;> cases hc
  · intro rest hr
    have hread := number_written (n := n) (by omega) (by omega) hr
    rw [he, List.cons_append] at hread ⊢
    rw [intBetween, bind_ok (peek_cons hs _), if_pos hc, bind_ok hread]
    simp only
    rw [if_pos ⟨hlow, hhigh⟩]
    rfl

theorem optional {r : Reader α} {write : α → List Char} (h : ∀ a, Takes r (write a) a)
    (hn : ∀ a, (write a).head? ≠ some 'n') (o : Option α) :
    Takes (optional r) (writeOption write o) o := by
  cases o with
  | none => exact ⟨.cons rfl (by decide) _, fun {rest} _ => word_written rfl (if_pos rfl) rest⟩
  | some a =>
    refine ⟨(h a).opens, fun {rest} hr => ?_⟩
    obtain ⟨c, hpeek, hc, -⟩ := (h a).opens.peek rest
    have hletter : c ≠ 'n' := by
      rintro rfl
      exact hn a hc
    rw [writeOption, Json.optional, bind_ok hpeek, if_neg hletter, bind_ok ((h a).read hr)]
    rfl

end Takes

end Folio.Json
