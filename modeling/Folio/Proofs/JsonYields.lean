import Folio.Json.Shape

namespace Folio.Json
open Reader

/-- A value that the reader takes from any text has this property. -/
def Yields (r : Reader α) (P : α → Prop) : Prop :=
  ∀ (cs rest : List Char) (a : α), r cs = .ok (a, rest) → P a

theorem of_bind_ok {r : Reader α} {f : α → Reader β} {cs rest : List Char} {b : β}
    (h : (r >>= f) cs = .ok (b, rest)) :
    ∃ a more, r cs = .ok (a, more) ∧ f a more = .ok (b, rest) := by
  change (r cs >>= fun p => f p.1 p.2) = .ok (b, rest) at h
  cases hr : r cs with
  | error e =>
    rw [hr] at h
    cases h
  | ok p =>
    rw [hr] at h
    exact ⟨p.1, p.2, rfl, h⟩

/-- What stands behind a member: the end of the object, or a comma and the members to come. -/
def Shape.behindMember (s : Shape α) (fuel : Nat) (seen : List String) (a : α) : Reader α := do
  match ← peek with
  | '\x7d' => if s.complete seen then do skip; return a else fail .mismatch
  | ',' => do
    skip
    s.membersWithin fuel seen a
  | _ => fail .malformed

namespace Yields

variable {P : α → Prop} {Q : β → Prop}

theorem bind {r : Reader α} {f : α → Reader β} (h : Yields r P)
    (hf : ∀ a, P a → Yields (f a) Q) : Yields (r >>= f) Q := by
  intro cs rest b hb
  obtain ⟨a, more, hr, hmore⟩ := of_bind_ok hb
  exact hf a (h cs more a hr) more rest b hmore

/-- What comes first may be anything, as long as what follows yields the property. -/
theorem after {r : Reader α} {f : α → Reader β} (hf : ∀ a, Yields (f a) Q) :
    Yields (r >>= f) Q := by
  intro cs rest b hb
  obtain ⟨a, more, -, hmore⟩ := of_bind_ok hb
  exact hf a more rest b hmore

theorem pure {a : α} (h : P a) : Yields (pure a : Reader α) P := by
  intro cs rest b hb
  cases hb
  exact h

theorem fail (fault : Fault) : Yields (fail fault : Reader α) P :=
  fun _ _ _ h => nomatch h

theorem map {r : Reader α} {f : α → β} (h : Yields r P) (hf : ∀ a, P a → Q (f a)) :
    Yields (f <$> r) Q := by
  rw [← bind_pure_comp]
  exact h.bind fun a ha => .pure (hf a ha)

theorem any (r : Reader α) : Yields r fun _ => True :=
  fun _ _ _ _ => trivial

/-- Nothing need be known of a value if the record keeps the property whatever is stored. -/
theorem kept {r : Reader β} {store : β → α → α} (h : ∀ b a, P a → P (store b a)) :
    Yields (store <$> r) fun store => ∀ a, P a → P (store a) :=
  (any r).map fun b _ => h b

theorem otherKind : Yields (otherKind : Reader α) P := by
  refine .after fun c => ?_
  split
  · exact .after fun _ => .fail _
  · exact .after fun _ => .fail _
  · exact .after fun _ => .fail _
  · exact .after fun _ => .after fun _ => .fail _
  · exact .fail _
  · exact .fail _
  · split
    · exact .after fun _ => .fail _
    · exact .fail _

theorem intBetween (low high : Int) : Yields (intBetween low high) fun n => low ≤ n ∧ n ≤ high := by
  refine .after fun c => ?_
  split
  · refine .after fun n => ?_
    split
    · split
      · rename_i hbounds
        exact .pure hbounds
      · exact .fail _
    · exact .fail _
  · exact otherKind

theorem elementsWithin {r : Reader α} (h : Yields r P) (fuel : Nat) :
    Yields (elementsWithin r fuel) fun elements => ∀ a ∈ elements, P a := by
  induction fuel with
  | zero => exact .fail _
  | succ fuel ih =>
    refine h.bind fun a ha => .after fun c => ?_
    split
    · exact .after fun _ => .pure (List.forall_mem_singleton.mpr ha)
    · refine .after fun _ => .after fun next => ?_
      split
      · exact .fail _
      · exact ih.bind fun elements he => .pure (List.forall_mem_cons.mpr ⟨ha, he⟩)
    · exact .fail _

theorem list {r : Reader α} (h : Yields r P) :
    Yields (list r) fun elements => ∀ a ∈ elements, P a := by
  refine .after fun c => ?_
  split
  · refine .after fun _ => .after fun next => ?_
    split
    · exact .after fun _ => .pure (List.forall_mem_nil _)
    · exact fun cs => h.elementsWithin cs.length cs
  · exact otherKind

section Records

variable {s : Shape α}
  (hm : ∀ m ∈ s.members, Yields m.read fun store => ∀ a, P a → P (store a))
include hm

theorem membersWithin (fuel : Nat) (seen : List String) {a : α} (ha : P a) :
    Yields (s.membersWithin fuel seen a) P := by
  induction fuel generalizing seen a with
  | zero => exact .fail _
  | succ fuel ih =>
    refine .after fun _ => .after fun key => ?_
    have hnext (b : α) (hb : P b) : Yields (s.behindMember fuel (String.ofList key :: seen) b) P := by
      refine .after fun c => ?_
      split
      · split
        · exact .after fun _ => .pure hb
        · exact .fail _
      · exact .after fun _ => ih _ hb
      · exact .fail _
    simp only
    split
    · rename_i m hfind
      split
      · exact (Yields.fail (P := P) _).bind hnext
      · exact .after fun _ => (hm m (List.mem_of_find?_eq_some hfind)).bind fun store hstore =>
          .bind (.pure (hstore a ha)) hnext
    · exact .after fun _ => .after fun _ => .bind (.pure ha) hnext

theorem object (hs : P s.start) : Yields s.object P := by
  refine .after fun _ => .after fun c => ?_
  split
  · split
    · exact .after fun _ => .pure hs
    · exact .fail _
  · exact fun cs => membersWithin hm cs.length [] hs cs

theorem elements {ms : List (Member α)} (hsub : ∀ m ∈ ms, m ∈ s.members) (first : Bool) {a : α}
    (ha : P a) : Yields (s.elements ms first a) P := by
  induction ms generalizing first a with
  | nil => exact .after fun _ => .pure ha
  | cons m ms ih =>
    have hrest : Yields (m.read >>= fun store => s.elements ms false (store a)) P :=
      (hm m (hsub m List.mem_cons_self)).bind fun store hstore =>
        ih (fun other ho => hsub other (List.mem_cons_of_mem m ho)) false (hstore a ha)
    refine .after fun c => ?_
    split
    · split
      · exact .after fun _ => .pure ha
      · exact .fail _
    · split
      · exact hrest
      · split
        · refine .after fun _ => .after fun next => ?_
          split
          · exact .fail _
          · exact hrest
        · exact .fail _

/-- Read as an object or as an array, a record keeps what every member keeps. -/
theorem record (hs : P s.start) : Yields s.read P := by
  refine .after fun c => ?_
  split
  · exact object hm hs
  · exact .after fun _ => elements hm (fun _ hin => hin) true hs
  · exact otherKind

end Records

/-- What a whole text is read as has the property. -/
theorem all {r : Reader α} (h : Yields r P) {text : List Char} {a : α}
    (ha : readAll r text = .ok a) : P a := by
  rw [readAll] at ha
  cases hr : r text with
  | error e =>
    rw [hr] at ha
    cases ha
  | ok p =>
    obtain ⟨b, rest⟩ := p
    rw [hr] at ha
    change (if rest.all isSpace then Except.ok b else .error Fault.malformed) = .ok a
      at ha
    split at ha
    · cases ha
      exact h text rest a hr
    · cases ha

end Yields

end Folio.Json
