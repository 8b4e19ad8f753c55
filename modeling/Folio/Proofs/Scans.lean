import Folio.Markup.Pattern

namespace Folio.Markup
open Pattern

variable {α β γ : Type} {p : Pattern α} {see : α → γ} {w : List Char}

/-- The pattern matches at no place of the text, whatever stands behind it. -/
def Silent (p : Pattern α) : List Char → Prop
  | [] => True
  | c :: cs => (∀ rest, p (c :: cs ++ rest) = none) ∧ Silent p cs

/-- The matches in the text are these, whatever stands behind it, and the search then goes on at
its end. -/
def Finds (p : Pattern α) (cs : List Char) (found : List α) : Prop :=
  ∀ rest, allMatches p (cs ++ rest) = found ++ allMatches p rest

theorem Silent.append {xs ys : List Char} (hx : Silent p xs) (hy : Silent p ys) :
    Silent p (xs ++ ys) := by
  induction xs with
  | nil => exact hy
  | cons c cs ih =>
    refine ⟨fun rest => ?_, ih hx.2⟩
    simpa using hx.1 (ys ++ rest)

theorem Silent.flatMap {written : β → List Char} {bs : List β}
    (h : ∀ b ∈ bs, Silent p (written b)) : Silent p (bs.flatMap written) := by
  induction bs with
  | nil => trivial
  | cons b bs ih =>
    rw [List.flatMap_cons]
    exact (h b (by simp)).append (ih fun b' hb => h b' (by simp [hb]))

theorem matchesFrom_eq_drop (p : Pattern α) (skip : Nat) (cs : List Char) :
    matchesFrom p skip cs = allMatches p (cs.drop skip) := by
  induction skip generalizing cs with
  | zero => rfl
  | succ skip ih =>
    cases cs with
    | nil => rfl
    | cons c cs => exact ih cs

theorem allMatches_of_match {cs rest : List Char} {a : α} (hne : cs ≠ [])
    (h : p (cs ++ rest) = some (a, rest)) : allMatches p (cs ++ rest) = a :: allMatches p rest := by
  obtain ⟨c, cs, rfl⟩ := List.exists_cons_of_ne_nil hne
  rw [List.cons_append] at h ⊢
  simp only [allMatches, matchesFrom, h]
  rw [matchesFrom_eq_drop, allMatches]
  simp

theorem Silent.allMatches_append {xs : List Char} (h : Silent p xs) (rest : List Char) :
    allMatches p (xs ++ rest) = allMatches p rest := by
  induction xs with
  | nil => rfl
  | cons c cs ih =>
    have hc := h.1 rest
    rw [List.cons_append] at hc ⊢
    rw [← ih h.2]
    simp only [allMatches, matchesFrom, hc]

theorem Silent.finds {cs : List Char} (h : Silent p cs) : Finds p cs [] :=
  fun rest => h.allMatches_append rest

theorem finds_of_match {cs : List Char} {a : α} (hne : cs ≠ [])
    (h : ∀ rest, p (cs ++ rest) = some (a, rest)) : Finds p cs [a] :=
  fun rest => allMatches_of_match hne (h rest)

theorem Finds.append {xs ys : List Char} {as bs : List α} (hx : Finds p xs as)
    (hy : Finds p ys bs) : Finds p (xs ++ ys) (as ++ bs) := by
  intro rest
  rw [List.append_assoc, hx, hy, List.append_assoc]

/-- What `see` makes of the matches in the text is this, whatever stands behind the text. -/
def Shows (p : Pattern α) (see : α → γ) (cs : List Char) (shown : List γ) : Prop :=
  ∃ found, Finds p cs found ∧ found.map see = shown

theorem Finds.shows {cs : List Char} {found : List α} (h : Finds p cs found) (see : α → γ) :
    Shows p see cs (found.map see) :=
  ⟨found, h, rfl⟩

theorem Silent.shows {cs : List Char} (h : Silent p cs) (see : α → γ) : Shows p see cs [] :=
  ⟨[], h.finds, rfl⟩

theorem Shows.append {xs ys : List Char} {as bs : List γ} (hx : Shows p see xs as)
    (hy : Shows p see ys bs) : Shows p see (xs ++ ys) (as ++ bs) := by
  obtain ⟨found, hf, rfl⟩ := hx
  obtain ⟨more, hm, rfl⟩ := hy
  exact ⟨found ++ more, hf.append hm, List.map_append⟩

theorem Shows.flatMap {written : β → List Char} {shown : β → List γ} {bs : List β}
    (h : ∀ b ∈ bs, Shows p see (written b) (shown b)) :
    Shows p see (bs.flatMap written) (bs.flatMap shown) := by
  induction bs with
  | nil => exact ⟨[], fun rest => rfl, rfl⟩
  | cons b bs ih =>
    rw [List.flatMap_cons, List.flatMap_cons]
    exact (h b (by simp)).append (ih fun b' hb => h b' (by simp [hb]))

/-- What stands silent before and behind a text adds nothing to what it shows. -/
theorem Shows.between {before cs behind : List Char} {shown : List γ} (hb : Silent p before)
    (h : Shows p see cs shown) (he : Silent p behind) :
    Shows p see (before ++ cs ++ behind) shown := by
  have hall := ((hb.shows see).append h).append (he.shows see)
  simpa using hall

theorem Shows.allMatches_eq {cs : List Char} {shown : List γ} (h : Shows p see cs shown) :
    (allMatches p cs).map see = shown := by
  obtain ⟨found, hf, rfl⟩ := h
  have hnil := hf []
  rw [List.append_nil] at hnil
  rw [hnil]
  exact congrArg (List.map see) (List.append_nil found)

theorem firstMatch_eq_head? (hnil : p [] = none) (cs : List Char) :
    (firstMatch p cs).map Prod.fst = (allMatches p cs).head? := by
  induction cs with
  | nil => simp [firstMatch, hnil, allMatches, matchesFrom]
  | cons c cs ih =>
    simp only [firstMatch, allMatches, matchesFrom] at ih ⊢
    cases h : p (c :: cs) with
    | none => exact ih
    | some found => rfl

theorem Shows.firstMatch_eq (hnil : p [] = none) {cs : List Char} {shown : List γ}
    (h : Shows p see cs shown) :
    (firstMatch p cs).map (fun found => see found.1) = shown.head? := by
  rw [← h.allMatches_eq, List.head?_map, ← firstMatch_eq_head? hnil, Option.map_map]
  rfl

/-- The pattern matches only where this word stands. -/
def Leads (w : List Char) (p : Pattern α) : Prop :=
  ∀ cs, w.isPrefixOf cs = false → p cs = none

theorem leads_literal (w : List Char) : Leads w (literal w) := by
  intro cs h
  simp [literal, h]

theorem Leads.andThen {p : Pattern α} (h : Leads w p) (q : Pattern β) : Leads w (andThen p q) := by
  intro cs hcs
  simp [Pattern.andThen, h cs hcs]

theorem leads_opener (name : List Char) : Leads ('<' :: name) (opener name) :=
  (leads_literal _).andThen _

/-- Two words differ at a place that both have. -/
def clash : List Char → List Char → Bool
  | a :: as, b :: bs => a != b || clash as bs
  | _, _ => false

theorem clash_append {xs : List Char} (h : clash w xs = true) (ys : List Char) :
    clash w (xs ++ ys) = true := by
  induction w generalizing xs with
  | nil => cases h
  | cons a w ih =>
    cases xs with
    | nil => cases h
    | cons b xs =>
      simp only [clash, List.cons_append, Bool.or_eq_true] at h ⊢
      exact h.imp_right ih

theorem isPrefixOf_of_clash {cs : List Char} (h : clash w cs = true) : w.isPrefixOf cs = false := by
  induction w generalizing cs with
  | nil => cases h
  | cons a w ih =>
    cases cs with
    | nil => rfl
    | cons b cs =>
      simp only [clash, Bool.or_eq_true, bne_iff_ne] at h
      rw [List.isPrefixOf_cons_cons, Bool.and_eq_false_iff]
      rcases h with h | h
      · exact .inl (beq_false_of_ne h)
      · exact .inr (ih h)

theorem Leads.none_of_clash (hp : Leads w p) {cs : List Char} (h : clash w cs = true)
    (rest : List Char) : p (cs ++ rest) = none :=
  hp _ (isPrefixOf_of_clash (clash_append h rest))

theorem silent_text (hp : Leads ('<' :: w) p) {cs : List Char} (h : '<' ∉ cs) : Silent p cs := by
  induction cs with
  | nil => trivial
  | cons c cs ih =>
    simp only [List.mem_cons, not_or] at h
    refine ⟨hp.none_of_clash ?_, ih h.2⟩
    simp [clash, h.1]

theorem silent_tag (hp : Leads ('<' :: w) p) {cs : List Char} (hc : clash w cs = true)
    (h : '<' ∉ cs) : Silent p ('<' :: cs) := by
  refine ⟨hp.none_of_clash ?_, silent_text hp h⟩
  simp [clash, hc]

/-- Whether a word clashes with every part of a text that reaches to its end. -/
def quiet (w : List Char) : List Char → Bool
  | [] => true
  | c :: cs => clash w (c :: cs) && quiet w cs

theorem silent_of_quiet (hp : Leads w p) {cs : List Char} (h : quiet w cs = true) :
    Silent p cs := by
  induction cs with
  | nil => trivial
  | cons c cs ih =>
    simp only [quiet, Bool.and_eq_true] at h
    exact ⟨hp.none_of_clash h.1, ih h.2⟩

theorem literal_append (w rest : List Char) : literal w (w ++ rest) = some ((), rest) := by
  simp [literal]

theorem upTo_of_silent {allowed : Char → Bool} {stop : Pattern α} {cs ys rest : List Char} {a : α}
    (hs : Silent stop cs) (hallowed : ∀ c ∈ cs, allowed c = true)
    (hstop : stop ys = some (a, rest)) :
    upTo allowed stop (cs ++ ys) = some ((cs, a), rest) := by
  induction cs with
  | nil =>
    cases ys with
    | nil => simp [upTo, hstop]
    | cons y ys => simp [upTo, hstop]
  | cons c cs ih =>
    have hc := hs.1 ys
    rw [List.cons_append] at hc ⊢
    simp [upTo, hc, hallowed c (by simp), ih hs.2 fun c' h => hallowed c' (by simp [h])]

/-- A character that is not allowed ends the search for what stops it. -/
theorem upTo_blocked {allowed : Char → Bool} {stop : Pattern α} {cs : List Char}
    (hs : Silent stop cs) {b : Char} (hb : b ∈ cs) (hblocked : allowed b = false)
    (ys : List Char) : upTo allowed stop (cs ++ ys) = none := by
  induction cs with
  | nil => cases hb
  | cons c cs ih =>
    have hc := hs.1 ys
    rw [List.cons_append] at hc ⊢
    simp only [upTo, hc]
    rcases List.mem_cons.mp hb with rfl | hb
    · simp [hblocked]
    · simp [ih hs.2 hb]

theorem contentTo_of_silent {allowed : Char → Bool} {cs close : List Char}
    (hs : Silent (literal close) cs) (hallowed : ∀ c ∈ cs, allowed c = true) (rest : List Char) :
    contentTo allowed close (cs ++ (close ++ rest)) = some (cs, rest) := by
  simp [contentTo, upTo_of_silent hs hallowed (literal_append close rest)]

theorem contentTo_blocked {allowed : Char → Bool} {cs close : List Char}
    (hs : Silent (literal close) cs) {b : Char} (hb : b ∈ cs) (hblocked : allowed b = false)
    (ys : List Char) : contentTo allowed close (cs ++ ys) = none := by
  simp [contentTo, upTo_blocked hs hb hblocked ys]

end Folio.Markup
