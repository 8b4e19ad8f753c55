import Folio.Proofs.JsonScalars
import Folio.Proofs.JsonYields
import Mathlib.Data.List.Nodup

namespace Folio.Json
open Reader

theorem length_le_commaSeparated (parts : List (List Char)) :
    parts.length ≤ (commaSeparated parts).length + 1 := by
  induction parts with
  | nil => exact Nat.zero_le _
  | cons part parts ih =>
    cases parts with
    | nil => exact Nat.le_add_left _ _
    | cons next parts =>
      rw [commaSeparated, List.length_append, List.length_cons, List.length_cons (a := ',')]
      · omega
      · exact List.cons_ne_nil _ _

theorem commaSeparated_cons_append (part next : List Char) (parts : List (List Char))
    (rest : List Char) : commaSeparated (part :: next :: parts) ++ rest
      = part ++ ',' :: (commaSeparated (next :: parts) ++ rest) := by
  rw [commaSeparated, List.append_assoc, List.cons_append]
  exact List.cons_ne_nil _ _

theorem opens_commaSeparated {part : List Char} (h : Opens part) (parts : List (List Char)) :
    Opens (commaSeparated (part :: parts)) := by
  obtain ⟨c, cs, rfl, hs, hb⟩ := h
  cases parts with
  | nil => exact .cons hs hb cs
  | cons next parts =>
    have happend := commaSeparated_cons_append (c :: cs) next parts []
    rw [List.append_nil] at happend
    rw [happend]
    exact .cons hs hb _

section Lists

variable {r : Reader α} {write : α → List Char}

theorem elementsWithin_written {elements : List α} (h : ∀ a ∈ elements, Takes r (write a) a)
    (hne : elements ≠ []) {fuel : Nat} (hf : elements.length ≤ fuel) (rest : List Char) :
    elementsWithin r fuel (commaSeparated (elements.map write) ++ ']' :: rest)
      = .ok (elements, rest) := by
  induction elements generalizing fuel with
  | nil => exact absurd rfl hne
  | cons a elements ih =>
    obtain ⟨fuel, rfl⟩ : ∃ n, fuel = n + 1 := Nat.exists_eq_succ_of_ne_zero (by
      rw [List.length_cons] at hf
      omega)
    have hread {more : List Char} (hm : Ends more) := (h a List.mem_cons_self).read hm
    rw [elementsWithin]
    cases elements with
    | nil =>
      rw [List.map_cons, List.map_nil, commaSeparated,
        bind_ok (hread (.cons (.inr (.inl rfl)) rest)), bind_ok (peek_cons rfl _)]
      rfl
    | cons b elements =>
      have hrest := ih (fun c hc => h c (List.mem_cons_of_mem a hc)) (List.cons_ne_nil _ _)
        (Nat.le_of_succ_le_succ hf)
      -- A comma before the bracket would be a fault, but another element does not begin with one.
      obtain ⟨c, hpeek, -, hc⟩ := (opens_commaSeparated (h b (by simp)).opens
        (elements.map write)).peek (']' :: rest)
      rw [List.map_cons, List.map_cons, commaSeparated_cons_append,
        bind_ok (hread (.cons (.inl rfl) _)), bind_ok (peek_cons rfl _)]
      simp only
      rw [bind_ok (skip_cons _ _), bind_ok hpeek, if_neg hc, ← List.map_cons, bind_ok hrest]
      rfl

theorem Takes.list {elements : List α} (h : ∀ a ∈ elements, Takes r (write a) a) :
    Takes (list r) (writeArray (elements.map write)) elements := by
  refine ⟨.cons rfl (by decide) _, fun {rest} _ => ?_⟩
  rw [writeArray, List.append_assoc, List.cons_append, Json.list,
    bind_ok (peek_cons rfl _), if_pos rfl, bind_ok (skip_cons _ _)]
  cases elements with
  | nil => exact bind_ok (peek_cons (c := ']') rfl rest) _
  | cons a elements =>
    obtain ⟨c, hpeek, -, hc⟩ := (opens_commaSeparated (h a List.mem_cons_self).opens
      (elements.map write)).peek ([']'] ++ rest)
    rw [List.map_cons, bind_ok hpeek, if_neg hc, ← List.map_cons]
    refine elementsWithin_written h (List.cons_ne_nil _ _) ?_ rest
    have hparts := length_le_commaSeparated ((a :: elements).map write)
    rw [List.length_map] at hparts
    rw [List.length_append, List.length_append, List.length_singleton]
    omega

end Lists

/-- The members with these texts, read in their order, turn one record into another. -/
inductive Stores : List (Member α) → List (String × List Char) → α → α → Prop
  | nil (a : α) : Stores [] [] a a
  | cons {m : Member α} {ms : List (Member α)} {text : List Char}
      {texts : List (String × List Char)} {store : α → α} {a b : α} (h : Takes m.read text store)
      (rest : Stores ms texts (store a) b) : Stores (m :: ms) ((m.key, text) :: texts) a b

section Members

variable {s : Shape α}

/-- A member that is read for the first time is stored. -/
theorem membersWithin_member {m : Member α} {seen : List String} {text : List Char}
    {store : α → α} (hfind : s.members.find? (·.key == m.key) = some m) (hnew : m.key ∉ seen)
    (h : Takes m.read text store) (fuel : Nat) (a : α) {rest : List Char} (hr : Ends rest) :
    s.membersWithin (fuel + 1) seen a (writeMember (m.key, text) ++ rest)
      = s.behindMember fuel (m.key :: seen) (store a) rest := by
  rw [writeMember, List.append_assoc, List.cons_append, writeString_append, Shape.membersWithin,
    bind_ok (mark_cons rfl _), bind_ok (stringTail_written _ _)]
  simp only [String.ofList_toList, hfind, if_neg hnew]
  rw [bind_ok (mark_cons rfl _), bind_ok (h.read hr), pure_bind]
  rfl

theorem find?_key {done ms : List (Member α)} {m : Member α}
    (hk : ((done ++ m :: ms).map Member.key).Nodup) :
    (done ++ m :: ms).find? (·.key == m.key) = some m ∧ m.key ∉ (done.map Member.key).reverse := by
  rw [List.map_append, List.nodup_append] at hk
  have hnew : ∀ other ∈ done, other.key ≠ m.key := fun other ho =>
    hk.2.2 _ (List.mem_map_of_mem ho) _ List.mem_cons_self
  constructor
  · rw [List.find?_append, List.find?_eq_none.mpr (by simpa using hnew), Option.none_or,
      List.find?_cons_of_pos (by simp)]
  · rw [List.mem_reverse, List.mem_map]
    rintro ⟨other, ho, he⟩
    exact hnew other ho he

theorem membersWithin_written (hk : (s.members.map Member.key).Nodup) {ms : List (Member α)}
    {texts : List (String × List Char)} {a b : α} (h : Stores ms texts a b) (hne : ms ≠ [])
    {done : List (Member α)} (hs : s.members = done ++ ms) {fuel : Nat} (hf : ms.length ≤ fuel)
    (rest : List Char) :
    s.membersWithin fuel (done.map Member.key).reverse a
      (commaSeparated (texts.map writeMember) ++ '\x7d' :: rest) = .ok (b, rest) := by
  -- On the members to come: the keys seen are those of the members in front of them.
  induction h generalizing done fuel with
  | nil => exact absurd rfl hne
  | @cons m ms text texts store a b htakes hstores ih =>
    obtain ⟨fuel, rfl⟩ : ∃ n, fuel = n + 1 := Nat.exists_eq_succ_of_ne_zero (by
      rw [List.length_cons] at hf
      omega)
    obtain ⟨hfind, hnew⟩ := find?_key (hs ▸ hk)
    rw [← hs] at hfind
    have hseen : m.key :: (done.map Member.key).reverse
        = ((done ++ [m]).map Member.key).reverse := by
      simp
    cases hstores with
    | nil =>
      have hcomplete : s.complete (m.key :: (done.map Member.key).reverse) = true := by
        rw [Shape.complete, hs, hseen, List.all_eq_true]
        intro other ho
        simp only [Bool.or_eq_true, decide_eq_true_eq, List.mem_reverse]
        exact .inr (List.mem_map_of_mem ho)
      rw [List.map_cons, List.map_nil, commaSeparated,
        membersWithin_member hfind hnew htakes _ _ (.cons (.inr (.inr rfl)) rest),
        Shape.behindMember, bind_ok (peek_cons rfl rest)]
      simp only
      rw [if_pos hcomplete]
      rfl
    | cons hnext hmore =>
      have hrest := ih (List.cons_ne_nil _ _) (by simp [hs] : s.members = (done ++ [m]) ++ _)
        (Nat.le_of_succ_le_succ hf)
      rw [← hseen, List.map_cons] at hrest
      rw [List.map_cons, List.map_cons, commaSeparated_cons_append,
        membersWithin_member hfind hnew htakes _ _ (.cons (.inl rfl) _), Shape.behindMember,
        bind_ok (peek_cons rfl _)]
      simp only
      rw [bind_ok (skip_cons _ _), hrest]

theorem Stores.length_eq {ms : List (Member α)} {texts : List (String × List Char)} {a b : α}
    (h : Stores ms texts a b) : texts.length = ms.length := by
  induction h with
  | nil => rfl
  | cons _ _ ih => rw [List.length_cons, List.length_cons, ih]

/-- The first key opens a string, where an object without members would end. -/
theorem Stores.peek_key {ms : List (Member α)} {texts : List (String × List Char)} {a b : α}
    (h : Stores ms texts a b) (hne : ms ≠ []) (more : List Char) :
    peek (commaSeparated (texts.map writeMember) ++ more)
      = .ok ('"', commaSeparated (texts.map writeMember) ++ more) := by
  cases h with
  | nil => exact absurd rfl hne
  | @cons m ms text texts store a b htakes hstores =>
    cases texts with
    | nil => exact peek_cons rfl _
    | cons next texts =>
      rw [List.map_cons, List.map_cons, commaSeparated_cons_append]
      exact peek_cons rfl _

/-- A record whose members have all been written is read back from its object. -/
theorem Takes.record (hk : (s.members.map Member.key).Nodup) (hne : s.members ≠ [])
    {texts : List (String × List Char)} {b : α} (h : Stores s.members texts s.start b) :
    Takes s.read (writeObject texts) b := by
  refine ⟨.cons rfl (by decide) _, fun {rest} _ => ?_⟩
  rw [writeObject, List.append_assoc, List.cons_append, Shape.read,
    bind_ok (peek_cons rfl _)]
  simp only
  rw [Shape.object, bind_ok (skip_cons _ _)]
  rw [bind_ok (h.peek_key hne _), if_neg (by decide)]
  refine membersWithin_written hk h hne (List.nil_append s.members).symm ?_ rest
  have hparts := length_le_commaSeparated (texts.map writeMember)
  rw [List.length_map, h.length_eq] at hparts
  rw [List.length_append, List.length_append, List.length_singleton]
  omega

/-- A tagged value is read back from the object with its tag. -/
theorem Takes.tagged {v : Variants α} {key : String} {content : Reader α} {text : List Char}
    {a : α} (hv : v.tagged key = some content) (h : Takes content text a) :
    Takes v.read (writeObject [(key, text)]) a := by
  refine ⟨.cons rfl (by decide) _, fun {rest} _ => ?_⟩
  rw [writeObject, List.append_assoc, List.cons_append, Variants.read,
    bind_ok (peek_cons rfl _)]
  simp only [List.map_cons, List.map_nil, commaSeparated]
  rw [bind_ok (skip_cons _ _), writeMember, List.append_assoc, List.cons_append,
    bind_ok (string_written _ _)]
  simp only [hv]
  rw [bind_ok (mark_cons rfl _), List.singleton_append,
    bind_ok (h.read (.cons (.inr (.inr rfl)) rest)), bind_ok (mark_cons rfl rest)]
  rfl

end Members

end Folio.Json
