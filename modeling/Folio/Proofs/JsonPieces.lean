import Folio.Proofs.JsonIntegers

namespace Folio.Json
open Reader

theorem skipStringWithin_suffix {fuel : Nat} {cs rest : List Char}
    (h : skipStringWithin fuel cs = .ok rest) : rest <:+ cs := by
  fun_induction skipStringWithin fuel cs with
  | case1 => cases h
  | case2 => cases h
  | case3 fuel more =>
    cases h
    exact List.suffix_cons '"' _
  | case4 fuel more ih =>
    obtain ⟨⟨e, behind⟩, he, hskip⟩ := of_step_ok h
    obtain ⟨text, -, rfl, -⟩ := readEscape_taken he
    have hrest := ih behind hskip
    exact (hrest.trans (List.suffix_append text behind)).trans (List.suffix_cons '\\' _)
  | case5 => cases h
  | case6 fuel c more hq hb hc ih => exact (ih h).trans (List.suffix_cons c more)

/-- What the reader leaves is an end of its text. -/
def Leaves (r : Reader α) : Prop :=
  ∀ cs rest a, r cs = .ok (a, rest) → rest <:+ cs

namespace Leaves

theorem bind {r : Reader α} {f : α → Reader β} (h : Leaves r) (hf : ∀ a, Leaves (f a)) :
    Leaves (r >>= f) := by
  intro cs rest b hb
  obtain ⟨a, mid, hr, hmid⟩ := of_bind_ok hb
  exact (hf a mid rest b hmid).trans (h cs mid a hr)

theorem fail (fault : Fault) : Leaves (fail fault : Reader α) :=
  fun _ _ _ h => nomatch h

theorem skip : Leaves skip := by
  intro cs rest _ h
  cases h
  exact List.tail_suffix cs

theorem peek : Leaves peek := by
  intro cs rest c h
  rw [← bind_pure Reader.peek] at h
  obtain ⟨blanks, d, more, rfl, -, -, hpure⟩ := of_peek_ok h
  cases hpure
  exact List.suffix_append blanks (c :: more)

theorem of_delimited {r : Reader α} (h : Delimited r) : Leaves r := by
  intro cs rest a hr
  obtain ⟨text, rfl, -⟩ := h cs rest a hr
  exact List.suffix_append text rest

theorem skipStringTail : Leaves skipStringTail := by
  intro cs rest _ h
  obtain ⟨rest, hskip, hpair⟩ := of_mapped_ok h
  cases hpair
  exact skipStringWithin_suffix hskip

theorem skipUnsigned : Leaves skipUnsigned := by
  intro cs rest _ h
  obtain ⟨⟨run, afterDigits⟩, hi, hbehind⟩ := of_step_ok h
  obtain ⟨⟨x, afterFraction⟩, hf, hscaled⟩ := of_step_ok hbehind
  obtain ⟨⟨y, afterExponent⟩, he, hend⟩ := of_step_ok hscaled
  cases hend
  obtain ⟨rfl, -⟩ := digitRun_ok_iff.mp (integerDigits_ok_iff.mp (formOnly_ok_iff.mp hi)).1
  have hfraction := fractionPart_suffix (formOnly_ok_iff.mp hf)
  have hexponent := exponentPart_suffix (formOnly_ok_iff.mp he)
  exact (hexponent.trans hfraction).trans (List.suffix_append run afterDigits)

theorem skipNumber : Leaves skipNumber := by
  intro cs rest _ h
  cases cs with
  | nil => cases h
  | cons c cs =>
    by_cases hc : c = '-'
    · subst hc
      exact (skipUnsigned cs rest () h).trans (List.suffix_cons '-' cs)
    · rw [skipNumber_of_ne hc] at h
      exact skipUnsigned _ rest () h

theorem skipWithin (fuel : Nat) : Leaves (skipWithin fuel) ∧ Leaves (skipElementsWithin fuel) ∧
    Leaves (skipMembersWithin fuel) := by
  induction fuel with
  | zero => exact ⟨.fail _, .fail _, .fail _⟩
  | succ fuel ih =>
    obtain ⟨hvalue, helements, hmembers⟩ := ih
    have hletters (ws : List Char) : Leaves (skipLetters ws) :=
      .bind .skip fun _ => .of_delimited (.word ws)
    refine ⟨.bind .peek fun c => ?_, ?_, ?_⟩
    · split
      · exact hletters _
      · exact hletters _
      · exact hletters _
      · exact .bind .skip fun _ => .skipStringTail
      · refine .bind .skip fun _ => .bind .peek fun next => ?_
        split
        · exact .skip
        · exact helements
      · refine .bind .skip fun _ => .bind .peek fun next => ?_
        split
        · exact .skip
        · exact hmembers
      · split
        · exact .skipNumber
        · exact .fail _
    · refine .bind hvalue fun _ => .bind .peek fun next => ?_
      split
      · exact .skip
      · exact .bind .skip fun _ => helements
      · exact .fail _
    · refine .bind (.of_delimited (.mark _)) fun _ => .bind .skipStringTail fun _ =>
        .bind (.of_delimited (.mark _)) fun _ => .bind hvalue fun _ => .bind .peek fun next => ?_
      split
      · exact .skip
      · exact .bind .skip fun _ => hmembers
      · exact .fail _

end Leaves

theorem skipValue_suffix {cs rest : List Char} (h : skipValue cs = .ok ((), rest)) : rest <:+ cs :=
  (Leaves.skipWithin _).1 cs rest () h

/-- A value whose text alone decides how it is read, as far as one who does not want it goes. -/
structure Scalar (r : Reader α) : Prop where
  passes : ∀ {cs rest a}, r cs = .ok (a, rest) → skipValue cs = .ok ((), rest)
  alone : ∀ {text rest a}, r (text ++ rest) = .ok (a, rest) → r text = .ok (a, [])
  amid : ∀ {text rest a}, r text = .ok (a, []) → skipValue (text ++ rest) = .ok ((), rest) →
    r (text ++ rest) = .ok (a, rest)

namespace Scalar

theorem of_delimited {r : Reader α} (hd : Delimited r)
    (hp : ∀ cs rest a, r cs = .ok (a, rest) → skipValue cs = .ok ((), rest)) : Scalar r where
  passes h := hp _ _ _ h
  alone {text rest a} h := by
    obtain ⟨text', he, htext⟩ := hd _ _ _ h
    obtain rfl := List.append_cancel_right he
    have halone := htext []
    rwa [List.append_nil] at halone
  amid {text rest a} h _ := by
    obtain ⟨text', rfl, htext⟩ := hd _ _ _ h
    rw [List.append_nil]
    exact htext rest

theorem map {r : Reader α} (h : Scalar r) (f : α → β) : Scalar (f <$> r) where
  passes hb := by
    obtain ⟨a, hr, rfl⟩ := of_map_ok hb
    exact h.passes hr
  alone hb := by
    obtain ⟨a, hr, rfl⟩ := of_map_ok hb
    exact map_ok (h.alone hr) f
  amid hb hskip := by
    obtain ⟨a, hr, rfl⟩ := of_map_ok hb
    exact map_ok (h.amid hr hskip) f

theorem string : Scalar string :=
  .of_delimited .string fun _ _ _ h => Passes.string _ _ _ _ h

theorem bool : Scalar bool :=
  .of_delimited .bool fun _ _ _ h => Passes.bool _ _ _ _ h

theorem variants {v : Variants α} (hd : ∀ tag content, v.tagged tag = some content →
      Delimited content ∧ Passes content) : Scalar v.read := by
  refine .of_delimited (.variants fun tag content h => (hd tag content h).1) ?_
  intro cs rest a h
  cases cs with
  | nil => cases h
  | cons c cs => exact skip_variants (fun tag content h => (hd tag content h).2) h _

theorem intBetween (low high : Int) : Scalar (intBetween low high) where
  passes h := by
    obtain ⟨text, rfl, htext, hr⟩ := intBetween_ok_iff.mp h
    exact htext.skipValue_iff.mpr hr
  alone {text rest n} h := by
    obtain ⟨text', he, htext, -⟩ := intBetween_ok_iff.mp h
    obtain rfl := List.append_cancel_right he
    exact intBetween_ok_iff.mpr ⟨text, (List.append_nil _).symm, htext, nofun⟩
  amid {text rest n} h hskip := by
    obtain ⟨text', rfl, htext, -⟩ := intBetween_ok_iff.mp h
    rw [List.append_nil] at hskip ⊢
    exact intBetween_ok_iff.mpr ⟨text', rfl, htext, htext.skipValue_iff.mp hskip⟩

end Scalar

end Folio.Json
