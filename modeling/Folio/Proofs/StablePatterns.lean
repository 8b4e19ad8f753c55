import Folio.Markup.Extract
import Folio.Proofs.Scans

namespace Folio.Markup
open Pattern

variable {α β : Type} {p : Pattern α} {q : Pattern β} {cs tail rest rest' more : List Char}

/-- What may stand behind a text changes neither a match in it nor a failure ahead of a match in
it. A match that begins later ends no earlier. -/
structure Stable (p : Pattern α) : Prop where
  keeps : ∀ {cs a rest}, p cs = some (a, rest) → ∀ more, p (cs ++ more) = some (a, rest ++ more)
  refuses : ∀ {cs tail found}, p cs = none → tail <:+ cs → p tail = some found →
    ∀ more, p (cs ++ more) = none
  later : ∀ {cs tail a b rest rest'}, tail <:+ cs → p cs = some (a, rest) →
    p tail = some (b, rest') → rest' <:+ rest

theorem literal_eq_some {w : List Char} {u : Unit} :
    literal w cs = some (u, rest) ↔ cs = w ++ rest := by
  rw [literal]
  constructor
  · intro h
    split at h
    · rename_i hw
      obtain ⟨behind, rfl⟩ := List.isPrefixOf_iff_prefix.mp hw
      simpa using h
    · cases h
  · rintro rfl
    exact literal_append w rest

theorem stable_literal (w : List Char) : Stable (literal w) where
  keeps h more := by
    rw [literal_eq_some] at h ⊢
    rw [h, List.append_assoc]
  refuses {cs tail found} h hs hfound more := by
    obtain ⟨u, rest⟩ := found
    cases hm : literal w (cs ++ more) with
    | none => rfl
    | some found =>
      have hlong : w.length ≤ cs.length := by
        have hlen := hs.length_le
        rw [literal_eq_some.mp hfound, List.length_append] at hlen
        omega
      have hw : w <+: cs ++ more := ⟨_, (literal_eq_some.mp hm).symm⟩
      obtain ⟨behind, rfl⟩ :=
        List.prefix_of_prefix_length_le hw (List.prefix_append cs more) hlong
      rw [literal_eq_some (u := ()) |>.mpr rfl] at h
      cases h
  later {cs tail a b rest rest'} hs h ht := by
    rw [literal_eq_some] at h ht
    have hlen := hs.length_le
    subst h ht
    apply List.suffix_of_suffix_length_le ((List.suffix_append w rest').trans hs)
      (List.suffix_append w rest)
    simpa using hlen

theorem toTagEnd_eq_none : toTagEnd cs = none ↔ '>' ∉ cs := by
  induction cs with
  | nil => simp [toTagEnd]
  | cons c cs ih =>
    rw [toTagEnd, List.mem_cons, not_or]
    split
    · rename_i hc
      simp [hc]
    · rename_i hc
      simp [ih, Ne.symm hc]

theorem toTagEnd_suffix {u : Unit} (h : toTagEnd cs = some (u, rest)) : rest <:+ cs := by
  induction cs with
  | nil => cases h
  | cons c cs ih =>
    rw [toTagEnd] at h
    split at h
    · cases h
      exact List.suffix_cons c rest
    · exact (ih h).trans (List.suffix_cons c cs)

theorem stable_toTagEnd : Stable toTagEnd where
  keeps {cs a rest} h more := by
    induction cs with
    | nil => cases h
    | cons c cs ih =>
      rw [toTagEnd] at h
      rw [List.cons_append, toTagEnd]
      split at h
      · rename_i hc
        cases h
        rw [if_pos hc]
      · rename_i hc
        rw [if_neg hc]
        exact ih h
  refuses {cs tail found} h hs hfound more := by
    rw [toTagEnd_eq_none] at h
    have hnone : toTagEnd tail = none :=
      toTagEnd_eq_none.mpr fun hm => h (hs.subset hm)
    rw [hnone] at hfound
    cases hfound
  later {cs tail a b rest rest'} hs h ht := by
    induction cs with
    | nil => cases h
    | cons c cs ih =>
      rcases List.suffix_cons_iff.mp hs with rfl | hs
      · rw [h] at ht
        cases ht
        exact List.suffix_refl _
      · rw [toTagEnd] at h
        split at h
        · cases h
          exact (toTagEnd_suffix ht).trans hs
        · exact ih hs h

theorem andThen_eq_some {b : β} : andThen p q cs = some (b, rest) ↔
    ∃ a mid, p cs = some (a, mid) ∧ q mid = some (b, rest) := by
  rw [andThen, Option.bind_eq_some_iff]
  simp

theorem andThen_of_match {a : α} (h : p cs = some (a, rest)) (q : Pattern β) :
    andThen p q cs = q rest := by
  rw [andThen, h]
  rfl

theorem andThen_of_no_match (h : p cs = none) (q : Pattern β) : andThen p q cs = none := by
  rw [andThen, h]
  rfl

theorem Stable.andThen (hp : Stable p) (hq : Stable q) : Stable (andThen p q) where
  keeps {cs b rest} h more := by
    obtain ⟨a, mid, hmid, hrest⟩ := andThen_eq_some.mp h
    exact andThen_eq_some.mpr ⟨a, mid ++ more, hp.keeps hmid more, hq.keeps hrest more⟩
  refuses {cs tail found} h hs hfound more := by
    obtain ⟨b, mid', htail, hfound⟩ := andThen_eq_some.mp hfound
    cases hc : p cs with
    | none => exact andThen_of_no_match (hp.refuses hc hs htail more) q
    | some first =>
      obtain ⟨a, mid⟩ := first
      rw [andThen_of_match hc] at h
      rw [andThen_of_match (hp.keeps hc more)]
      exact hq.refuses h (hp.later hs hc htail) hfound more
  later {cs tail a b rest rest'} hs h ht := by
    obtain ⟨_, mid, hmid, hrest⟩ := andThen_eq_some.mp h
    obtain ⟨_, mid', hmid', hrest'⟩ := andThen_eq_some.mp ht
    exact hq.later (hp.later hs hmid hmid') hrest hrest'

theorem suffix_dropWhile (f : Char → Bool) (h : tail <:+ cs) :
    tail.dropWhile f <:+ cs.dropWhile f := by
  induction cs with
  | nil =>
    obtain rfl := List.suffix_nil.mp h
    exact List.suffix_refl _
  | cons c cs ih =>
    rcases List.suffix_cons_iff.mp h with rfl | h
    · exact List.suffix_refl _
    · rw [List.dropWhile_cons]
      split
      · exact ih h
      · exact ((List.dropWhile_suffix f).trans h).trans (List.suffix_cons c cs)

/-- White space ends where there is more text. -/
theorem dropWhile_append_of_ne {f : Char → Bool} (h : cs.dropWhile f ≠ []) (more : List Char) :
    (cs ++ more).dropWhile f = cs.dropWhile f ++ more := by
  rw [List.dropWhile_append, if_neg]
  rwa [List.isEmpty_iff]

theorem stable_afterBlanks (hq : Stable q) (hnil : q [] = none) : Stable (andThen blanks q) where
  keeps {cs b rest} h more := by
    change q (cs.dropWhile Text.isBlank) = some (b, rest) at h
    have hne : cs.dropWhile Text.isBlank ≠ [] := by
      intro he
      rw [he, hnil] at h
      cases h
    change q ((cs ++ more).dropWhile Text.isBlank) = some (b, rest ++ more)
    rw [dropWhile_append_of_ne hne]
    exact hq.keeps h more
  refuses {cs tail found} h hs hfound more := by
    change q (cs.dropWhile Text.isBlank) = none at h
    change q (tail.dropWhile Text.isBlank) = some found at hfound
    have hsuffix := suffix_dropWhile Text.isBlank hs
    have hne : cs.dropWhile Text.isBlank ≠ [] := by
      intro he
      rw [he, List.suffix_nil] at hsuffix
      rw [hsuffix, hnil] at hfound
      cases hfound
    change q ((cs ++ more).dropWhile Text.isBlank) = none
    rw [dropWhile_append_of_ne hne]
    exact hq.refuses h hsuffix hfound more
  later hs h ht := hq.later (suffix_dropWhile Text.isBlank hs) h ht

theorem andThen_blanks₁_cons (c : Char) (q : Pattern β) (cs : List Char) :
    andThen blanks₁ q (c :: cs)
      = if Text.isBlank c then andThen blanks q (c :: cs) else none := by
  cases hc : Text.isBlank c with
  | true => simp [andThen, blanks₁, blanks, hc]
  | false => simp [andThen, blanks₁, hc]

theorem andThen_blanks_of_blanks₁ {found : β × List Char} (h : andThen blanks₁ q cs = some found) :
    andThen blanks q cs = some found := by
  cases cs with
  | nil => cases h
  | cons c cs =>
    rw [andThen_blanks₁_cons] at h
    split at h
    · exact h
    · cases h

theorem stable_afterBlanks₁ (hq : Stable q) (hnil : q [] = none) :
    Stable (andThen blanks₁ q) where
  keeps {cs b rest} h more := by
    have hblanks := (stable_afterBlanks hq hnil).keeps (andThen_blanks_of_blanks₁ h) more
    cases cs with
    | nil => cases h
    | cons c cs =>
      rw [andThen_blanks₁_cons] at h
      rw [List.cons_append, andThen_blanks₁_cons]
      split at h
      · rename_i hc
        rwa [if_pos hc]
      · cases h
  refuses {cs tail found} h hs hfound more := by
    have hfound := andThen_blanks_of_blanks₁ hfound
    cases cs with
    | nil =>
      rw [List.suffix_nil.mp hs] at hfound
      change q [] = some found at hfound
      rw [hnil] at hfound
      cases hfound
    | cons c cs =>
      rw [andThen_blanks₁_cons] at h
      rw [List.cons_append, andThen_blanks₁_cons]
      split
      · rename_i hc
        rw [if_pos hc] at h
        exact (stable_afterBlanks hq hnil).refuses h hs hfound more
      · rfl
  later {cs tail a b rest rest'} hs h ht :=
    (stable_afterBlanks hq hnil).later hs (andThen_blanks_of_blanks₁ h) (andThen_blanks_of_blanks₁ ht)

section UpTo

variable {allowed : Char → Bool} {stop : Pattern α} {a : α}

theorem upTo_nil_run :
    upTo allowed stop cs = some (([], a), rest) ↔ stop cs = some (a, rest) := by
  cases cs with
  | nil => simp [upTo]
  | cons c cs =>
    rw [upTo]
    split
    · rename_i hstop
      simp [hstop]
    · rename_i hstop
      split <;> simp [hstop]

theorem upTo_cons_run {c : Char} {run : List Char} :
    upTo allowed stop cs = some ((c :: run, a), rest) ↔ ∃ behind, cs = c :: behind ∧
      stop cs = none ∧ allowed c = true ∧ upTo allowed stop behind = some ((run, a), rest) := by
  cases cs with
  | nil => simp [upTo]
  | cons d cs =>
    rw [upTo]
    split
    · rename_i hstop
      simp [hstop]
    · rename_i hstop
      constructor
      · intro h
        split at h
        · rename_i hallowed
          obtain ⟨⟨⟨run', a'⟩, rest'⟩, hrun, he⟩ := Option.map_eq_some_iff.mp h
          cases he
          exact ⟨cs, rfl, hstop, hallowed, hrun⟩
        · cases h
      · rintro ⟨behind, he, -, hallowed, hrun⟩
        cases he
        rw [if_pos hallowed, hrun]
        rfl

theorem upTo_cons_eq_none {c : Char} : upTo allowed stop (c :: cs) = none ↔
    stop (c :: cs) = none ∧ (allowed c = true → upTo allowed stop cs = none) := by
  rw [upTo]
  split
  · rename_i hstop
    simp [hstop]
  · rename_i hstop
    split
    · rename_i hallowed
      simp [hstop, hallowed]
    · rename_i hallowed
      simp [hstop, hallowed]

/-- The search ends at a place where the stop matches. -/
theorem stop_of_upTo {run : List Char} (h : upTo allowed stop cs = some ((run, a), rest)) :
    ∃ place, place <:+ cs ∧ stop place = some (a, rest) := by
  induction run generalizing cs with
  | nil => exact ⟨cs, List.suffix_refl _, upTo_nil_run.mp h⟩
  | cons c run ih =>
    obtain ⟨behind, rfl, -, -, hrun⟩ := upTo_cons_run.mp h
    obtain ⟨place, hplace, hstop⟩ := ih hrun
    exact ⟨place, hplace.trans (List.suffix_cons c behind), hstop⟩

theorem upTo_append_of_none (hstop : Stable stop) (h : upTo allowed stop cs = none)
    {place : List Char} (hplace : place <:+ cs) (hmatch : stop place = some (a, rest))
    (more : List Char) : upTo allowed stop (cs ++ more) = none := by
  induction cs with
  | nil =>
    rw [List.suffix_nil.mp hplace] at hmatch
    rw [upTo_nil_run.mpr hmatch] at h
    cases h
  | cons c cs ih =>
    rw [upTo_cons_eq_none] at h
    rw [List.cons_append, upTo_cons_eq_none]
    refine ⟨hstop.refuses h.1 hplace hmatch more, fun hallowed => ?_⟩
    rcases List.suffix_cons_iff.mp hplace with rfl | hbehind
    · rw [h.1] at hmatch
      cases hmatch
    · exact ih (h.2 hallowed) hbehind

theorem stable_upTo (hstop : Stable stop) : Stable (upTo allowed stop) where
  keeps {cs found rest} h more := by
    obtain ⟨run, a⟩ := found
    induction run generalizing cs with
    | nil => exact upTo_nil_run.mpr (hstop.keeps (upTo_nil_run.mp h) more)
    | cons c run ih =>
      obtain ⟨behind, rfl, hnone, hallowed, hrun⟩ := upTo_cons_run.mp h
      obtain ⟨place, hplace, hmatch⟩ := stop_of_upTo hrun
      have hlater := hplace.trans (List.suffix_cons c behind)
      exact upTo_cons_run.mpr ⟨behind ++ more, rfl, hstop.refuses hnone hlater hmatch more,
        hallowed, ih hrun⟩
  refuses {cs tail found} h hs hfound more := by
    obtain ⟨⟨run, a⟩, rest⟩ := found
    obtain ⟨place, hplace, hmatch⟩ := stop_of_upTo hfound
    exact upTo_append_of_none hstop h (hplace.trans hs) hmatch more
  later {cs tail found found' rest rest'} hs h ht := by
    obtain ⟨run, a⟩ := found
    obtain ⟨run', b⟩ := found'
    induction run generalizing cs with
    | nil =>
      obtain ⟨place, hplace, hmatch⟩ := stop_of_upTo ht
      exact hstop.later (hplace.trans hs) (upTo_nil_run.mp h) hmatch
    | cons c run ih =>
      obtain ⟨behind, rfl, -, -, hrun⟩ := upTo_cons_run.mp h
      rcases List.suffix_cons_iff.mp hs with rfl | hbehind
      · rw [h] at ht
        cases ht
        exact List.suffix_refl _
      · exact ih hbehind hrun

theorem contentTo_eq_some {close run : List Char} : contentTo allowed close cs = some (run, rest) ↔
    upTo allowed (literal close) cs = some ((run, ()), rest) := by
  rw [contentTo, Option.map_eq_some_iff]
  constructor
  · rintro ⟨⟨⟨run', u⟩, rest'⟩, h, he⟩
    cases he
    exact h
  · intro h
    exact ⟨_, h, rfl⟩

theorem contentTo_eq_none {close : List Char} :
    contentTo allowed close cs = none ↔ upTo allowed (literal close) cs = none :=
  Option.map_eq_none_iff

theorem stable_contentTo (close : List Char) : Stable (contentTo allowed close) where
  keeps h more := by
    rw [contentTo_eq_some] at h ⊢
    exact (stable_upTo (stable_literal close)).keeps h more
  refuses {cs tail found} h hs hfound more := by
    rw [contentTo_eq_some] at hfound
    rw [contentTo_eq_none] at h ⊢
    exact (stable_upTo (stable_literal close)).refuses h hs hfound more
  later hs h ht := by
    rw [contentTo_eq_some] at h ht
    exact (stable_upTo (stable_literal close)).later hs h ht

end UpTo

section Openers

/-- What may stand between the name of an opening tag and its content. -/
def restOfOpener : Pattern Unit
  | c :: cs => if c = '>' then some ((), cs) else if Text.isBlank c then toTagEnd cs else none
  | [] => none

theorem opener_eq (name : List Char) :
    opener name = andThen (literal ('<' :: name)) restOfOpener := by
  rw [opener]
  congr 1

theorem toTagEnd_of_restOfOpener {u : Unit} (h : restOfOpener cs = some (u, rest)) :
    toTagEnd cs = some (u, rest) := by
  cases cs with
  | nil => cases h
  | cons c cs =>
    rw [restOfOpener] at h
    rw [toTagEnd]
    split
    · rename_i hc
      rwa [if_pos hc] at h
    · rename_i hc
      rw [if_neg hc] at h
      split at h
      · exact h
      · cases h

theorem stable_restOfOpener : Stable restOfOpener where
  keeps {cs a rest} h more := by
    have hend := stable_toTagEnd.keeps (toTagEnd_of_restOfOpener h) more
    cases cs with
    | nil => cases h
    | cons c cs =>
      rw [restOfOpener] at h
      rw [List.cons_append, toTagEnd] at hend
      rw [List.cons_append, restOfOpener]
      split
      · rename_i hc
        rwa [if_pos hc] at hend
      · rename_i hc
        rw [if_neg hc] at h hend
        split at h
        · rename_i hblank
          rwa [if_pos hblank]
        · cases h
  refuses {cs tail found} h hs hfound more := by
    obtain ⟨u, rest⟩ := found
    have hfound := toTagEnd_of_restOfOpener hfound
    cases cs with
    | nil =>
      rw [List.suffix_nil.mp hs] at hfound
      cases hfound
    | cons c cs =>
      rw [restOfOpener] at h
      rw [List.cons_append, restOfOpener]
      split at h
      · cases h
      · rename_i hc
        rw [if_neg hc]
        split at h
        · rename_i hblank
          have hnone : toTagEnd (c :: cs) = none := by rw [toTagEnd, if_neg hc, h]
          have hmore := stable_toTagEnd.refuses hnone hs hfound more
          rw [List.cons_append, toTagEnd, if_neg hc] at hmore
          rw [if_pos hblank, hmore]
        · rename_i hblank
          rw [if_neg hblank]
  later hs h ht :=
    stable_toTagEnd.later hs (toTagEnd_of_restOfOpener h) (toTagEnd_of_restOfOpener ht)

theorem stable_opener (name : List Char) : Stable (opener name) := by
  rw [opener_eq]
  exact (stable_literal _).andThen stable_restOfOpener

theorem stable_footerOpener : Stable footerOpener := by
  have hquoted := (stable_literal "\"footer\"".toList).andThen stable_toTagEnd
  have hvalue := (stable_literal "=".toList).andThen (stable_afterBlanks hquoted rfl)
  have hclass := (stable_literal "class".toList).andThen (stable_afterBlanks hvalue rfl)
  exact (stable_literal "<div".toList).andThen (stable_afterBlanks₁ hclass rfl)

end Openers

section Scans

theorem stable_element (allowed : Char → Bool) (name : List Char) :
    Stable (andThen (opener name) (contentTo allowed (['<', '/'] ++ name ++ ['>']))) :=
  (stable_opener name).andThen (stable_contentTo _)

theorem stable_heading : Stable heading := stable_element onLine _

theorem stable_restOfParagraph : Stable restOfParagraph :=
  stable_afterBlanks (stable_contentTo _) rfl

theorem stable_labelledParagraph : Stable labelledParagraph := by
  have hlabel : Stable (upTo onLine (andThen (literal "</strong>".toList) restOfParagraph)) :=
    stable_upTo ((stable_literal _).andThen stable_restOfParagraph)
  exact (stable_opener _).andThen ((stable_literal "<strong>".toList).andThen hlabel)

theorem stable_tableBlock : Stable tableBlock := stable_element anywhere _

theorem stable_totalLine : Stable totalLine :=
  (stable_literal _).andThen stable_restOfParagraph

theorem stable_footerBlock : Stable footerBlock :=
  stable_footerOpener.andThen (stable_contentTo _)

end Scans

end Folio.Markup
