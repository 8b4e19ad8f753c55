import Folio.Proofs.Continuations
import Folio.Text.Search

namespace Folio.Markup
open Pattern

variable {α β : Type} {p : Pattern α} {q : Pattern β} {cs rest more behind : List Char}

/-- What stands behind a text is of no use to the pattern: where the text alone has no match, the
longer text has none, and there is none further on. -/
structure Unaided (p : Pattern α) (behind : List Char) : Prop where
  refuses : ∀ {cs}, p cs = none → p (cs ++ behind) = none
  nowhere : ∀ {place}, place <:+ behind → p place = none

/-- The pattern leaves an end of what it reads. A match that takes more text than there was ends in
what has been added. -/
structure Forward (p : Pattern α) : Prop where
  leaves : ∀ {cs a rest}, p cs = some (a, rest) → rest <:+ cs
  reaches : ∀ {cs more a rest}, p cs = none → p (cs ++ more) = some (a, rest) → rest <:+ more

theorem forward_literal (w : List Char) : Forward (literal w) where
  leaves h := ⟨w, (literal_eq_some.mp h).symm⟩
  reaches {cs more a rest} hnone h := by
    obtain ⟨ends, -, hmore⟩ | ⟨front, hcs, -⟩ :=
      List.append_eq_append_iff.mp (literal_eq_some.mp h)
    · exact ⟨ends, hmore.symm⟩
    · rw [(literal_eq_some (u := a)).mpr hcs] at hnone
      cases hnone

theorem forward_toTagEnd : Forward toTagEnd where
  leaves h := toTagEnd_suffix h
  reaches {cs more a rest} hnone h := by
    induction cs with
    | nil => exact toTagEnd_suffix h
    | cons c cs ih =>
      rw [toTagEnd] at hnone
      rw [List.cons_append, toTagEnd] at h
      split at hnone
      · cases hnone
      · rename_i hc
        rw [if_neg hc] at h
        exact ih hnone h

theorem forward_restOfOpener : Forward restOfOpener where
  leaves h := toTagEnd_suffix (toTagEnd_of_restOfOpener h)
  reaches {cs more a rest} hnone h := by
    cases cs with
    | nil => exact toTagEnd_suffix (toTagEnd_of_restOfOpener h)
    | cons c cs =>
      rw [restOfOpener] at hnone
      rw [List.cons_append, restOfOpener] at h
      split at hnone
      · cases hnone
      · rename_i hc
        rw [if_neg hc] at h
        split at h
        · rename_i hblank
          rw [if_pos hblank] at hnone
          exact forward_toTagEnd.reaches hnone h
        · cases h

namespace Unaided

theorem after (hp : Stable p) (hf : Forward p) (hq : Unaided q behind) :
    Unaided (andThen p q) behind where
  refuses {cs} h := by
    cases hcs : p cs with
    | none =>
      cases hmore : p (cs ++ behind) with
      | none => exact andThen_of_no_match hmore q
      | some found =>
        rw [andThen_of_match hmore]
        exact hq.nowhere (hf.reaches hcs hmore)
    | some found =>
      rw [andThen_of_match hcs] at h
      rw [andThen_of_match (hp.keeps hcs behind)]
      exact hq.refuses h
  nowhere {place} hplace := by
    cases hfound : p place with
    | none => exact andThen_of_no_match hfound q
    | some found =>
      rw [andThen_of_match hfound]
      exact hq.nowhere ((hf.leaves hfound).trans hplace)

theorem afterBlanks (hq : Unaided q behind) : Unaided (andThen blanks q) behind where
  refuses {cs} h := by
    change q (cs.dropWhile Text.isBlank) = none at h
    change q ((cs ++ behind).dropWhile Text.isBlank) = none
    rw [List.dropWhile_append]
    split
    · exact hq.nowhere (List.dropWhile_suffix _)
    · exact hq.refuses h
  nowhere hplace := hq.nowhere ((List.dropWhile_suffix _).trans hplace)

theorem afterBlanks₁ (hq : Unaided q behind) : Unaided (andThen blanks₁ q) behind := by
  have hnowhere {place : List Char} (hplace : place <:+ behind) :
      andThen blanks₁ q place = none := by
    cases place with
    | nil => rfl
    | cons c place =>
      rw [andThen_blanks₁_cons, hq.afterBlanks.nowhere hplace, ite_self]
  refine ⟨?_, hnowhere⟩
  intro cs h
  cases cs with
  | nil => exact hnowhere (List.suffix_refl behind)
  | cons c cs =>
    rw [andThen_blanks₁_cons] at h
    rw [List.cons_append, andThen_blanks₁_cons]
    split
    · rename_i hc
      rw [if_pos hc] at h
      exact hq.afterBlanks.refuses h
    · rfl

theorem upTo {stop : Pattern α} (allowed : Char → Bool) (hstop : Unaided stop behind) :
    Unaided (upTo allowed stop) behind := by
  have hnowhere {place : List Char} (hplace : place <:+ behind) :
      Pattern.upTo allowed stop place = none := by
    cases hfound : Pattern.upTo allowed stop place with
    | none => rfl
    | some found =>
      obtain ⟨⟨run, a⟩, rest⟩ := found
      obtain ⟨there, hthere, hmatch⟩ := stop_of_upTo hfound
      rw [hstop.nowhere (hthere.trans hplace)] at hmatch
      cases hmatch
  refine ⟨?_, hnowhere⟩
  intro cs h
  induction cs with
  | nil => exact hnowhere (List.suffix_refl behind)
  | cons c cs ih =>
    rw [upTo_cons_eq_none] at h
    rw [List.cons_append, upTo_cons_eq_none]
    exact ⟨hstop.refuses h.1, fun hallowed => ih (h.2 hallowed)⟩

theorem contentTo {close : List Char} (allowed : Char → Bool)
    (hclose : Unaided (literal close) behind) : Unaided (contentTo allowed close) behind where
  refuses h := by
    rw [contentTo_eq_none] at h ⊢
    exact (hclose.upTo allowed).refuses h
  nowhere hplace := contentTo_eq_none.mpr ((hclose.upTo allowed).nowhere hplace)

end Unaided

/-- A word is of no use behind a break if it has no such break in it and does not occur there. -/
theorem unaided_literal {w : List Char} {b : Char} (hb : b ∉ w)
    (hw : Text.hasWord w (b :: behind) = false) : Unaided (literal w) (b :: behind) where
  refuses {cs} h := by
    cases hmore : literal w (cs ++ b :: behind) with
    | none => rfl
    | some found =>
      obtain ⟨u, rest⟩ := found
      obtain ⟨ends, hends, hbehind⟩ | ⟨front, hcs, -⟩ :=
        List.append_eq_append_iff.mp (literal_eq_some.mp hmore)
      · cases ends with
        | nil =>
          have hcs : literal w cs = some ((), []) := literal_eq_some.mpr (by rw [hends]; simp)
          rw [hcs] at h
          cases h
        | cons c ends =>
          rw [(List.cons.inj hbehind).1] at hb
          exact absurd (hends ▸ List.mem_append_right cs List.mem_cons_self) hb
      · rw [hcs, literal_append] at h
        cases h
  nowhere {place} hplace := by
    cases hfound : literal w place with
    | none => rfl
    | some found =>
      obtain ⟨u, rest⟩ := found
      have hinfix : w <:+: b :: behind := by
        rw [literal_eq_some] at hfound
        rw [hfound] at hplace
        exact (List.prefix_append w rest).isInfix.trans hplace.isInfix
      rw [Text.hasWord_iff.mpr hinfix] at hw
      cases hw

theorem andThen_assoc {γ : Type} (p : Pattern α) (q : Pattern β) (r : Pattern γ) :
    andThen (andThen p q) r = andThen p (andThen q r) :=
  funext fun cs => Option.bind_assoc (p cs) _ _

namespace Unaided

theorem afterLiteral (w : List Char) (hq : Unaided q behind) :
    Unaided (andThen (literal w) q) behind :=
  hq.after (stable_literal w) (forward_literal w)

theorem afterOpener (name : List Char) (hq : Unaided q behind) :
    Unaided (andThen (opener name) q) behind := by
  rw [opener_eq, andThen_assoc]
  exact (hq.after stable_restOfOpener forward_restOfOpener).afterLiteral _

theorem afterFooterOpener (hq : Unaided q behind) : Unaided (andThen footerOpener q) behind := by
  simp only [footerOpener, andThen_assoc]
  have hquoted := (hq.after stable_toTagEnd forward_toTagEnd).afterLiteral "\"footer\"".toList
  have hvalue := hquoted.afterBlanks.afterLiteral "=".toList
  have hclass := hvalue.afterBlanks.afterLiteral "class".toList
  exact hclass.afterBlanks₁.afterLiteral "<div".toList

theorem restOfParagraph (hclose : Unaided (literal "</p>".toList) behind) :
    Unaided restOfParagraph behind :=
  (hclose.contentTo onLine).afterBlanks

theorem labelledParagraph (hclose : Unaided (literal "</p>".toList) behind) :
    Unaided labelledParagraph behind := by
  have hlabel := (hclose.restOfParagraph.afterLiteral "</strong>".toList).upTo onLine
  exact (hlabel.afterLiteral "<strong>".toList).afterOpener "p".toList

theorem totalLine (hclose : Unaided (literal "</p>".toList) behind) : Unaided totalLine behind :=
  hclose.restOfParagraph.afterLiteral _

theorem footerBlock (hclose : Unaided (literal "</div>".toList) behind) :
    Unaided footerBlock behind :=
  (hclose.contentTo anywhere).afterFooterOpener

/-- A scan of the longer text finds what a scan of the text finds. -/
theorem matchesFrom_append (hp : Stable p) (hu : Unaided p behind) (skip : Nat) (cs : List Char) :
    matchesFrom p skip (cs ++ behind) = matchesFrom p skip cs := by
  induction cs generalizing skip with
  | nil =>
    rw [List.nil_append, matchesFrom_eq_nil (fun place hplace => hu.nowhere hplace), matchesFrom]
  | cons c cs ih =>
    rw [List.cons_append]
    cases skip with
    | succ skip =>
      rw [matchesFrom, matchesFrom]
      exact ih skip
    | zero =>
      cases hc : p (c :: cs) with
      | none =>
        have hmore := hu.refuses hc
        rw [List.cons_append] at hmore
        rw [matchesFrom, matchesFrom, hc, hmore]
        exact ih 0
      | some found =>
        obtain ⟨a, rest⟩ := found
        have hmore := hp.keeps hc behind
        rw [List.cons_append] at hmore
        have htaken :
            (cs ++ behind).length - (rest ++ behind).length = cs.length - rest.length := by
          rw [List.length_append, List.length_append, Nat.add_sub_add_right]
        rw [matchesFrom, matchesFrom, hc, hmore]
        simp only [htaken, ih]

theorem allMatches_append (hp : Stable p) (hu : Unaided p behind) (cs : List Char) :
    allMatches p (cs ++ behind) = allMatches p cs :=
  hu.matchesFrom_append hp 0 cs

end Unaided

end Folio.Markup
