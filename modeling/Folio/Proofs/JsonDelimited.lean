import Folio.Proofs.JsonScalars
import Folio.Proofs.JsonYields

namespace Folio.Json
open Text Reader

theorem of_peek_ok {f : Char → Reader α} {cs rest : List Char} {a : α}
    (h : (peek >>= f) cs = .ok (a, rest)) :
    ∃ blanks c more, cs = blanks ++ c :: more ∧ (∀ b ∈ blanks, isSpace b = true) ∧
      isSpace c = false ∧ f c (c :: more) = .ok (a, rest) := by
  obtain ⟨c, more, hpeek, hf⟩ := of_bind_ok h
  have hsplit := List.takeWhile_append_dropWhile (p := isSpace) (l := cs)
  rw [peek] at hpeek
  cases hd : cs.dropWhile isSpace with
  | nil =>
    rw [hd] at hpeek
    cases hpeek
  | cons d ds =>
    rw [hd] at hpeek hsplit
    cases hpeek
    have hblanks := List.all_eq_true.mp (List.all_takeWhile (p := isSpace) (l := cs))
    have hhead := List.head?_dropWhile_not isSpace cs
    rw [hd] at hhead
    exact ⟨cs.takeWhile isSpace, c, ds, hsplit.symm, hblanks, by simpa using hhead, hf⟩

theorem peek_blanks {blanks : List Char} (hb : ∀ b ∈ blanks, isSpace b = true) {c : Char}
    (hc : isSpace c = false) (f : Char → Reader α) (more : List Char) :
    (peek >>= f) (blanks ++ c :: more) = f c (c :: more) := by
  refine bind_ok ?_ f
  rw [peek, List.dropWhile_append_of_pos hb, List.dropWhile_cons_of_neg (by simp [hc])]

theorem of_map_ok {r : Reader α} {f : α → β} {cs rest : List Char} {b : β}
    (h : (f <$> r) cs = .ok (b, rest)) : ∃ a, r cs = .ok (a, rest) ∧ b = f a := by
  rw [← bind_pure_comp] at h
  obtain ⟨a, mid, hr, hmid⟩ := of_bind_ok h
  cases hmid
  exact ⟨a, hr, rfl⟩

theorem of_step_ok {x : Except Fault α} {f : α → Except Fault β} {b : β} (h : x >>= f = .ok b) :
    ∃ a, x = .ok a ∧ f a = .ok b := by
  cases x with
  | error fault => cases h
  | ok a => exact ⟨a, rfl, h⟩

theorem of_mapped_ok {x : Except Fault α} {f : α → β} {b : β} (h : x.map f = .ok b) :
    ∃ a, x = .ok a ∧ f a = b := by
  cases x with
  | error fault => cases h
  | ok a => exact ⟨a, rfl, Except.ok.inj h⟩

theorem otherKind_ne_ok {cs rest : List Char} {a : α} : otherKind cs ≠ .ok (a, rest) :=
  fun h => Yields.otherKind (P := fun _ => False) cs rest a h

theorem of_mark_ok {c : Char} {cs rest : List Char} {a : Unit} (h : mark c cs = .ok (a, rest)) :
    ∃ blanks, cs = blanks ++ c :: rest ∧ ∀ b ∈ blanks, isSpace b = true := by
  obtain ⟨blanks, d, more, rfl, hb, -, hif⟩ := of_peek_ok h
  split at hif
  · rename_i hd
    cases hif
    exact ⟨blanks, by rw [hd, List.tail_cons], hb⟩
  · cases hif

/-- Whatever the reader takes, it takes in front of any other text. -/
def Delimited (r : Reader α) : Prop :=
  ∀ cs rest a, r cs = .ok (a, rest) →
    ∃ text, cs = text ++ rest ∧ ∀ more, r (text ++ more) = .ok (a, more)

namespace Delimited

theorem pure (a : α) : Delimited (pure a : Reader α) := by
  intro cs rest b h
  cases h
  exact ⟨[], rfl, fun _ => rfl⟩

theorem fail (fault : Fault) : Delimited (fail fault : Reader α) :=
  fun _ _ _ h => nomatch h

theorem bind {r : Reader α} {f : α → Reader β} (h : Delimited r) (hf : ∀ a, Delimited (f a)) :
    Delimited (r >>= f) := by
  intro cs rest b hb
  obtain ⟨a, mid, hr, hmid⟩ := of_bind_ok hb
  obtain ⟨first, rfl, hfirst⟩ := h cs mid a hr
  obtain ⟨second, rfl, hsecond⟩ := hf a mid rest b hmid
  refine ⟨first ++ second, (List.append_assoc ..).symm, fun more => ?_⟩
  rw [List.append_assoc, bind_ok (hfirst _), hsecond]

/-- A value may stand for another one. -/
theorem replace {r : Reader α} (h : Delimited r) (b : β) : Delimited (r *> Pure.pure b) := by
  rw [seqRight_eq_bind]
  exact h.bind fun _ => .pure b

/-- The character that is peeked at belongs to what is taken behind it. -/
theorem peek {f : Char → Reader α}
    (hf : ∀ c, isSpace c = false → Delimited fun cs => f c (c :: cs)) :
    Delimited (peek >>= f) := by
  intro cs rest a h
  obtain ⟨blanks, c, more, rfl, hb, hc, hread⟩ := of_peek_ok h
  obtain ⟨text, rfl, htext⟩ := hf c hc more rest a hread
  refine ⟨blanks ++ c :: text, by simp, fun other => ?_⟩
  rw [List.append_assoc, List.cons_append, peek_blanks hb hc]
  exact htext other

theorem mark (c : Char) : Delimited (mark c) := by
  refine .peek fun d _ => ?_
  by_cases hd : d = c
  · rw [if_pos hd]
    exact .pure ()
  · rw [if_neg hd]
    exact .fail .malformed

theorem word (ws : List Char) : Delimited (word ws) := by
  induction ws with
  | nil => exact .pure ()
  | cons w ws ih =>
    intro cs rest a h
    cases cs with
    | nil => cases h
    | cons c cs =>
      change (if c = w then Reader.word ws cs else .error .malformed) = .ok (a, rest) at h
      split at h
      · rename_i hc
        obtain ⟨text, rfl, htext⟩ := ih cs rest a h
        refine ⟨c :: text, rfl, fun more => ?_⟩
        rw [List.cons_append, Reader.word]
        exact (if_pos hc).trans (htext more)
      · cases h

theorem skip {r : Reader α} (h : Delimited r) (c : Char) :
    Delimited fun cs => (skip >>= fun _ => r) (c :: cs) :=
  h

end Delimited

section Strings

variable {cs rest : List Char}

theorem hexQuad_taken {n : Nat} (h : hexQuad cs = .ok (n, rest)) :
    ∃ quad, cs = quad ++ rest ∧ ∀ more, hexQuad (quad ++ more) = .ok (n, more) := by
  unfold hexQuad at h
  split at h
  · cases h
  · split at h
    · rename_i a b c d more hlong
      refine ⟨[a, b, c, d], ?_⟩
      split at h
      · rename_i ha hb hc hd
        cases h
        refine ⟨rfl, fun more => ?_⟩
        simp only [List.cons_append, List.nil_append, hexQuad, if_neg (four_bytes a b c d more),
          ha, hb, hc, hd]
      · cases h
    · cases h

theorem readEscape_taken {e : Escape} (h : readEscape cs = .ok (e, rest)) :
    ∃ text, text ≠ [] ∧ cs = text ++ rest ∧ ∀ more, readEscape (text ++ more) = .ok (e, more) := by
  unfold readEscape at h
  split at h
  case h_10 rest' =>
    obtain ⟨⟨n, rest⟩, hq, hpair⟩ := of_mapped_ok h
    cases hpair
    obtain ⟨quad, rfl, hquad⟩ := hexQuad_taken hq
    refine ⟨'u' :: quad, List.cons_ne_nil _ _, rfl, fun more => ?_⟩
    rw [List.cons_append, readEscape, hquad]
    rfl
  all_goals
    cases h
  all_goals
    exact ⟨[_], List.cons_ne_nil _ _, rfl, fun _ => rfl⟩

/-- A low half is an escape like any other to one who only skips it. -/
theorem lowHalf_taken {n : Nat} (h : lowHalf cs = .ok (n, rest)) :
    ∃ text, cs = '\\' :: (text ++ rest) ∧ text ≠ [] ∧
      ∀ more, lowHalf ('\\' :: (text ++ more)) = .ok (n, more) ∧
        readEscape (text ++ more) = .ok (.unit n, more) := by
  unfold lowHalf at h
  split at h
  case h_3 rest' =>
    obtain ⟨⟨m, mid⟩, hq, hm⟩ := of_step_ok h
    simp only at hm
    split at hm
    · rename_i hlow
      cases hm
      obtain ⟨quad, rfl, hquad⟩ := hexQuad_taken hq
      refine ⟨'u' :: quad, rfl, List.cons_ne_nil _ _, fun more => ⟨?_, ?_⟩⟩
      · rw [List.cons_append, lowHalf, hquad]
        exact if_pos hlow
      · rw [List.cons_append, readEscape, hquad]
        rfl
    · cases hm
  all_goals cases h

/-- An escaped character takes one round of skipping, and a surrogate pair two. -/
theorem escapedChar_taken {c : Char} (h : escapedChar cs = .ok (c, rest)) :
    ∃ text, cs = text ++ rest ∧ (∀ more, escapedChar (text ++ more) = .ok (c, more)) ∧
      ∃ rounds ≤ text.length + 1, ∀ fuel more,
        skipStringWithin (fuel + rounds) ('\\' :: (text ++ more))
          = skipStringWithin fuel more := by
  unfold escapedChar at h
  obtain ⟨⟨e, mid⟩, he, hchar⟩ := of_step_ok h
  obtain ⟨text, hne, rfl, htext⟩ := readEscape_taken he
  have hround (fuel : Nat) (more : List Char) :
      skipStringWithin (fuel + 1) ('\\' :: (text ++ more)) = skipStringWithin fuel more := by
    rw [skipStringWithin, htext]
    rfl
  cases e with
  | char d =>
    cases hchar
    refine ⟨text, rfl, fun more => ?_, 1, by omega, hround⟩
    rw [escapedChar, htext]
    rfl
  | unit n =>
    simp only at hchar
    split_ifs at hchar with hlow hhigh
    · obtain ⟨⟨low, behind⟩, hl, hpair⟩ := of_step_ok hchar
      obtain ⟨hc, rfl⟩ := Prod.mk.inj (Except.ok.inj hpair)
      obtain ⟨half, rfl, hhalf, hlowHalf⟩ := lowHalf_taken hl
      refine ⟨text ++ '\\' :: half, by simp, fun more => ?_, 2, ?_, fun fuel more => ?_⟩
      · rw [List.append_assoc, List.cons_append, escapedChar, htext]
        simp only [bind, Except.bind, hlow, hhigh, (hlowHalf more).1, hc, Bool.false_eq_true,
          ↓reduceIte]
      · have hpos := List.length_pos_iff.mpr hhalf
        simp only [List.length_append, List.length_cons]
        omega
      · rw [List.append_assoc, List.cons_append, hround, skipStringWithin, (hlowHalf more).2]
        rfl
    · cases hchar
      refine ⟨text, rfl, fun more => ?_, 1, by omega, hround⟩
      rw [escapedChar, htext]
      simp only [bind, Except.bind, hlow, hhigh, Bool.false_eq_true, ↓reduceIte]

theorem skipStringWithin_plain {fuel : Nat} {c : Char} (hq : c ≠ '"') (hb : c ≠ '\\')
    (hp : ¬ c.toNat < 0x20) (rest : List Char) :
    skipStringWithin (fuel + 1) (c :: rest) = skipStringWithin fuel rest := by
  rw [skipStringWithin, if_neg hp]
  · exact hq
  · exact hb

theorem of_round_ok {x : Except Fault (List Char × List Char)} {c : Char} {s : List Char}
    (h : (x.map fun (s, rest) => (c :: s, rest)) = .ok (s, rest)) :
    ∃ tail, s = c :: tail ∧ x = .ok (tail, rest) := by
  obtain ⟨⟨tail, rest⟩, hx, hpair⟩ := of_mapped_ok h
  cases hpair
  exact ⟨tail, rfl, hx⟩

/-- A string ends with its closing quote, for one who reads it and for one who skips it. -/
theorem stringWithin_taken {fuel : Nat} {s : List Char}
    (h : stringWithin fuel cs = .ok (s, rest)) :
    ∃ text, cs = text ++ rest ∧ ∀ more fuel, text.length ≤ fuel →
      stringWithin fuel (text ++ more) = .ok (s, more) ∧
        skipStringWithin fuel (text ++ more) = .ok more := by
  -- On the rounds of the reader. The text is as long as its rounds at least, so that its length is
  -- fuel enough for either, also where a surrogate pair takes two rounds of skipping.
  induction fuel generalizing cs s with
  | zero => cases h
  | succ fuel ih =>
    cases cs with
    | nil => cases h
    | cons c cs =>
      by_cases hquote : c = '"'
      · subst hquote
        cases h
        refine ⟨['"'], rfl, fun more fuel hf => ?_⟩
        obtain ⟨fuel, rfl⟩ := Nat.exists_eq_add_of_le' hf
        exact ⟨rfl, rfl⟩
      by_cases hbackslash : c = '\\'
      · subst hbackslash
        cases he : escapedChar cs with
        | error fault =>
          rw [stringWithin, he] at h
          cases h
        | ok p =>
          obtain ⟨c, mid⟩ := p
          rw [stringWithin_escaped he] at h
          obtain ⟨tail, rfl, htail⟩ := of_round_ok h
          obtain ⟨escape, rfl, hescape, rounds, hrounds, hskip⟩ := escapedChar_taken he
          obtain ⟨text, rfl, htext⟩ := ih htail
          refine ⟨'\\' :: (escape ++ text), by simp, fun more fuel hf => ?_⟩
          rw [List.length_cons, List.length_append] at hf
          rw [List.cons_append, List.append_assoc]
          constructor
          · obtain ⟨fuel, rfl⟩ : ∃ n, fuel = n + 1 := Nat.exists_eq_succ_of_ne_zero (by omega)
            rw [stringWithin_escaped (hescape _), (htext more fuel (by omega)).1]
            rfl
          · obtain ⟨fuel, rfl⟩ : ∃ n, fuel = n + rounds := ⟨fuel - rounds, by omega⟩
            rw [hskip, (htext more fuel (by omega)).2]
      · by_cases hcontrol : c.toNat < 0x20
        · unfold stringWithin at h
          simp only [hcontrol, ↓reduceIte] at h
          cases h
        · rw [stringWithin_plain hquote hbackslash hcontrol] at h
          obtain ⟨tail, rfl, htail⟩ := of_round_ok h
          obtain ⟨text, rfl, htext⟩ := ih htail
          refine ⟨c :: text, rfl, fun more fuel hf => ?_⟩
          obtain ⟨fuel, rfl⟩ := Nat.exists_eq_add_of_le' (Nat.one_le_of_lt hf)
          obtain ⟨hread, hskip⟩ := htext more fuel (Nat.le_of_succ_le_succ hf)
          rw [List.cons_append, stringWithin_plain hquote hbackslash hcontrol,
            skipStringWithin_plain hquote hbackslash hcontrol, hread]
          exact ⟨rfl, hskip⟩

theorem Delimited.stringTail : Delimited stringTail := by
  intro cs rest s h
  obtain ⟨text, rfl, htext⟩ := stringWithin_taken h
  exact ⟨text, rfl, fun more => (htext more _ (by simp)).1⟩

theorem skipStringTail_of_stringTail {s : List Char} (h : stringTail cs = .ok (s, rest)) :
    skipStringTail cs = .ok ((), rest) := by
  obtain ⟨text, rfl, htext⟩ := stringWithin_taken h
  rw [skipStringTail, (htext rest _ (by simp)).2]
  rfl

theorem of_string_ok {s : String} (h : string cs = .ok (s, rest)) :
    ∃ blanks more, cs = blanks ++ '"' :: more ∧ (∀ b ∈ blanks, isSpace b = true) ∧
      skipStringTail more = .ok ((), rest) := by
  obtain ⟨blanks, c, more, rfl, hb, -, hif⟩ := of_peek_ok h
  split at hif
  · rename_i hc
    obtain ⟨_, _, hskip, hstring⟩ := of_bind_ok hif
    cases hskip
    obtain ⟨chars, mid, htail, hmid⟩ := of_bind_ok hstring
    cases hmid
    exact ⟨blanks, more, by rw [hc], hb, skipStringTail_of_stringTail htail⟩
  · cases otherKind_ne_ok hif

end Strings

theorem skipWithin_blanks {blanks : List Char} (hb : ∀ b ∈ blanks, isSpace b = true) {c : Char}
    (hc : isSpace c = false) (fuel : Nat) (more : List Char) :
    skipWithin (fuel + 1) (blanks ++ c :: more) = skipWithin (fuel + 1) (c :: more) := by
  rw [skipWithin, peek_blanks hb hc, bind_ok (peek_cons hc more)]

/-- One who does not want the value passes over it in one round, and stops where its reader does. -/
def Passes (r : Reader α) : Prop :=
  ∀ cs rest a fuel, r cs = .ok (a, rest) → skipWithin (fuel + 1) cs = .ok ((), rest)

namespace Passes

theorem replace {r : Reader α} (h : Passes r) (b : β) : Passes (r *> pure b) := by
  intro cs rest _ fuel hb
  rw [seqRight_eq_bind] at hb
  obtain ⟨a, mid, hr, hmid⟩ := of_bind_ok hb
  cases hmid
  exact h cs rest a fuel hr

theorem peek {f : Char → Reader α} (hf : ∀ c more rest a fuel, isSpace c = false →
      f c (c :: more) = .ok (a, rest) → skipWithin (fuel + 1) (c :: more) = .ok ((), rest)) :
    Passes (peek >>= f) := by
  intro cs rest a fuel h
  obtain ⟨blanks, c, more, rfl, hb, hc, hread⟩ := of_peek_ok h
  rw [skipWithin_blanks hb hc]
  exact hf c more rest a fuel hc hread

end Passes

theorem Delimited.string : Delimited string := by
  refine .peek fun c _ => ?_
  split
  · exact Delimited.stringTail.bind fun s => .pure (String.ofList s)
  · exact fun _ _ _ h => absurd h otherKind_ne_ok

theorem Passes.string : Passes string := by
  intro cs rest s fuel h
  obtain ⟨blanks, more, rfl, hb, hskip⟩ := of_string_ok h
  rw [skipWithin, peek_blanks hb rfl]
  exact hskip

theorem Delimited.bool : Delimited bool := by
  refine .peek fun c _ => ?_
  split
  · exact (Delimited.word _).bind fun _ => .pure true
  · exact (Delimited.word _).bind fun _ => .pure false
  · exact fun _ _ _ h => absurd h otherKind_ne_ok

theorem Passes.bool : Passes bool := by
  refine .peek fun c more rest b fuel hc h => ?_
  rw [skipWithin, bind_ok (peek_cons hc more)]
  split at h
  · obtain ⟨_, mid, hletters, hmid⟩ := of_bind_ok h
    cases hmid
    exact hletters
  · obtain ⟨_, mid, hletters, hmid⟩ := of_bind_ok h
    cases hmid
    exact hletters
  · cases otherKind_ne_ok h

theorem Delimited.null : Delimited null := by
  refine .peek fun c _ => ?_
  split
  · exact .word _
  · exact fun _ _ _ h => absurd h otherKind_ne_ok

theorem Passes.null : Passes null := by
  refine .peek fun c more rest b fuel hc h => ?_
  split at h
  · rename_i hn
    subst hn
    rw [skipWithin, bind_ok (peek_cons hc more)]
    exact h
  · cases otherKind_ne_ok h

section Tags

theorem Delimited.behind {r : Reader α} (h : Delimited r) (hne : ∀ a, r [] ≠ .ok (a, []))
    (c : Char) : Delimited fun cs => r (c :: cs) := by
  intro cs rest a hr
  obtain ⟨text, hcs, htext⟩ := h (c :: cs) rest a hr
  cases text with
  | nil => exact absurd (htext []) (hne a)
  | cons d text =>
    obtain ⟨rfl, rfl⟩ := List.cons.inj hcs
    exact ⟨text, rfl, htext⟩

variable {v : Variants α}

theorem Delimited.variants (hv : ∀ tag content, v.tagged tag = some content → Delimited content) :
    Delimited v.read := by
  refine .peek fun c _ => ?_
  split
  · refine .behind (.bind .string fun tag => ?_) (fun a h => nomatch h) '"'
    split
    · exact .pure _
    · exact .fail _
  · refine .skip (.bind .string fun tag => ?_) _
    split
    · exact .fail _
    · rename_i content hcontent
      exact (Delimited.mark ':').bind fun _ => (hv tag content hcontent).bind fun a =>
        (Delimited.mark _).bind fun _ => .pure a
  · exact .fail _

/-- A tagged value takes two more rounds, for its object and for the only member of it. -/
theorem skip_variants (hv : ∀ tag content, v.tagged tag = some content → Passes content)
    {cs rest : List Char} {a : α} (h : v.read cs = .ok (a, rest)) (fuel : Nat) :
    skipWithin (fuel + 3) cs = .ok ((), rest) := by
  obtain ⟨blanks, c, more, rfl, hb, hc, hread⟩ := of_peek_ok h
  rw [skipWithin_blanks hb hc]
  split at hread
  · obtain ⟨tag, mid, hstring, hmid⟩ := of_bind_ok hread
    cases halone : v.alone tag with
    | none =>
      rw [halone] at hmid
      cases hmid
    | some b =>
      rw [halone] at hmid
      cases hmid
      exact Passes.string _ _ _ _ hstring
  · obtain ⟨_, _, hskip, hobject⟩ := of_bind_ok hread
    cases hskip
    obtain ⟨tag, behindTag, hstring, hmember⟩ := of_bind_ok hobject
    cases htagged : v.tagged tag with
    | none =>
      rw [htagged] at hmember
      cases hmember
    | some content =>
      rw [htagged] at hmember
      obtain ⟨_, behindColon, hcolon, hvalue⟩ := of_bind_ok hmember
      obtain ⟨b, behindValue, hcontent, hclose⟩ := of_bind_ok hvalue
      obtain ⟨_, _, hbrace, hend⟩ := of_bind_ok hclose
      cases hend
      obtain ⟨blanks, more, rfl, hb, htag⟩ := of_string_ok hstring
      obtain ⟨behind, rfl, hbehind⟩ := of_mark_ok hbrace
      have hpassed := hv tag content htagged _ _ _ fuel hcontent
      rw [skipWithin, bind_ok (peek_cons rfl _)]
      simp only
      rw [bind_ok (skip_cons _ _), peek_blanks hb rfl, if_neg (by decide), skipMembersWithin,
        bind_ok (mark_cons rfl _), bind_ok htag, bind_ok hcolon, bind_ok hpassed,
        peek_blanks hbehind rfl]
      rfl
  · cases hread

end Tags

end Folio.Json
