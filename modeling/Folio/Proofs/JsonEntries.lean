import Folio.Proofs.JsonPieces
import Folio.Proofs.JsonRecords

namespace Folio.Json
open Reader

/-- A key with the text that stands under it. -/
abbrev KeyText := String × List Char

/-- The text of the next value, of whatever kind. -/
def valueText : Reader (List Char) :=
  fun cs => (skipValue cs).map fun ((), rest) => (cs.take (cs.length - rest.length), rest)

def entry (key : String) (others : Reader (List KeyText)) : Reader (List KeyText) := do
  let text ← valueText
  let es ← others
  return (key, text) :: es

def behindEntry (others : Reader (List KeyText)) : Reader (List KeyText) := do
  let c ← peek
  if c = '\x7d' then
    skip
    return []
  else if c = ',' then
    skip
    others
  else fail .malformed

/-- The entries of an object from a key on. -/
def memberEntries : Nat → Reader (List KeyText)
  | 0 => fail .truncated
  | fuel + 1 => do
    mark '"'
    let key := String.ofList (← stringTail)
    mark ':'
    entry key (behindEntry (memberEntries fuel))

/-- The entries of an array, which has no keys of its own: its elements stand under those given. -/
def elementEntries : List String → Bool → Reader (List KeyText)
  | [], _ => do
    mark ']'
    return []
  | key :: keys, first => do
    let c ← peek
    if c = ']' then
      skip
      return []
    else if first then entry key (elementEntries keys false)
    else if c = ',' then
      skip
      if (← peek) = ']' then fail .malformed
      else entry key (elementEntries keys false)
    else fail .malformed

def objectEntries : Reader (List KeyText) := do
  skip
  if (← peek) = '\x7d' then
    skip
    return []
  else fun cs => memberEntries cs.length cs

def arrayEntries (keys : List String) : Reader (List KeyText) := do
  skip
  elementEntries keys true

/-- The entries of a record in either form. -/
def entries (keys : List String) : Reader (List KeyText) := do
  let c ← peek
  if c = '\x7b' then objectEntries
  else if c = '[' then arrayEntries keys
  else fail .mismatch

/-- Storing these entries, of which no known key may come twice, turns one record into another. -/
def Shape.Merges (s : Shape α) : List String → List KeyText → α → α → Prop
  | _, [], a, b => b = a
  | seen, (key, text) :: es, a, b =>
    match s.members.find? (·.key == key) with
    | some m => key ∉ seen ∧
        ∃ store, m.read text = .ok (store, []) ∧ s.Merges (key :: seen) es (store a) b
    | none => s.Merges (key :: seen) es a b

theorem readAll_ok_iff {r : Reader α} {text : List Char} {a : α} : readAll r text = .ok a ↔
    ∃ rest, r text = .ok (a, rest) ∧ rest.all isSpace = true := by
  rw [readAll]
  constructor
  · intro h
    obtain ⟨⟨b, rest⟩, hr, hend⟩ := of_step_ok h
    simp only at hend
    split at hend
    · rename_i hblank
      cases hend
      exact ⟨rest, hr, hblank⟩
    · cases hend
  · rintro ⟨rest, hr, hblank⟩
    rw [hr]
    exact if_pos hblank

/-- Reading a value comes to the same as taking a view of its text that stands for the value. -/
def Views (r : Reader α) (v : Reader γ) (Means : γ → α → Prop) : Prop :=
  ∀ cs rest a, r cs = .ok (a, rest) ↔ ∃ g, v cs = .ok (g, rest) ∧ Means g a

namespace Views

variable {Means : γ → α → Prop}

theorem fail (fault other : Fault) : Views (fail fault : Reader α) (fail other) Means :=
  fun _ _ _ => ⟨nofun, fun ⟨_, h, _⟩ => nomatch h⟩

theorem pure {a : α} {g : γ} (h : ∀ b, Means g b ↔ b = a) :
    Views (pure a : Reader α) (pure g) Means := by
  intro cs rest b
  constructor
  · intro hb
    cases hb
    exact ⟨g, rfl, (h a).mpr rfl⟩
  · rintro ⟨_, hg, hb⟩
    cases hg
    rw [(h b).mp hb]
    rfl

/-- Both may begin with reading the same. -/
theorem bind {r : Reader β} {f : β → Reader α} {k : β → Reader γ}
    (h : ∀ x, Views (f x) (k x) Means) : Views (r >>= f) (r >>= k) Means := by
  intro cs rest a
  constructor
  · intro ha
    obtain ⟨x, mid, hr, hf⟩ := of_bind_ok ha
    obtain ⟨g, hg, hmeans⟩ := (h x mid rest a).mp hf
    exact ⟨g, by rw [bind_ok hr, hg], hmeans⟩
  · rintro ⟨g, hg, hmeans⟩
    obtain ⟨x, mid, hr, hk⟩ := of_bind_ok hg
    rw [bind_ok hr]
    exact (h x mid rest a).mpr ⟨g, hk, hmeans⟩

/-- A reader that takes nothing has views that stand for nothing. -/
theorem never {r : Reader α} {v : Reader γ} (hr : ∀ cs rest a, r cs ≠ .ok (a, rest))
    (hv : ∀ cs rest g a, v cs = .ok (g, rest) → ¬ Means g a) : Views r v Means :=
  fun cs rest a =>
    ⟨fun h => absurd h (hr cs rest a), fun ⟨g, hg, h⟩ => absurd h (hv cs rest g a hg)⟩

theorem readAll {r : Reader α} {v : Reader γ} (h : Views r v Means) (text : List Char) (a : α) :
    readAll r text = .ok a ↔ ∃ g, readAll v text = .ok g ∧ Means g a := by
  simp only [readAll_ok_iff]
  constructor
  · rintro ⟨rest, hr, hblank⟩
    obtain ⟨g, hg, hmeans⟩ := (h text rest a).mp hr
    exact ⟨g, ⟨rest, hg, hblank⟩, hmeans⟩
  · rintro ⟨g, ⟨rest, hg, hblank⟩, hmeans⟩
    exact ⟨rest, (h text rest a).mpr ⟨g, hg, hmeans⟩, hblank⟩

end Views

theorem valueText_ok_iff {cs text rest : List Char} : valueText cs = .ok (text, rest) ↔
    cs = text ++ rest ∧ skipValue cs = .ok ((), rest) := by
  constructor
  · intro h
    obtain ⟨⟨_, rest⟩, hskip, hpair⟩ := of_mapped_ok h
    obtain ⟨front, rfl⟩ := skipValue_suffix hskip
    cases hpair
    simp [hskip]
  · rintro ⟨rfl, hskip⟩
    simp [valueText, hskip, Except.map]

theorem of_entry_ok {key : String} {others : Reader (List KeyText)} {cs rest : List Char}
    {es : List KeyText} (h : entry key others cs = .ok (es, rest)) :
    ∃ text mid es', es = (key, text) :: es' ∧ cs = text ++ mid ∧ skipValue cs = .ok ((), mid) ∧
      others mid = .ok (es', rest) := by
  obtain ⟨text, mid, htext, hothers⟩ := of_bind_ok h
  obtain ⟨es', _, he, hend⟩ := of_bind_ok hothers
  cases hend
  obtain ⟨hcs, hskip⟩ := valueText_ok_iff.mp htext
  exact ⟨text, mid, es', rfl, hcs, hskip, he⟩

theorem entry_ok {key : String} {others : Reader (List KeyText)} {text mid rest : List Char}
    {es : List KeyText} (hskip : skipValue (text ++ mid) = .ok ((), mid))
    (he : others mid = .ok (es, rest)) :
    entry key others (text ++ mid) = .ok ((key, text) :: es, rest) := by
  rw [entry, bind_ok (valueText_ok_iff.mpr ⟨rfl, hskip⟩), bind_ok he]
  rfl

section Members

variable {s : Shape α} {seen : List String} {key : String}

theorem Shape.merges_known {m : Member α} (hfind : s.members.find? (·.key == key) = some m)
    {text : List Char} {es : List KeyText} {a b : α} :
    s.Merges seen ((key, text) :: es) a b ↔
      key ∉ seen ∧ ∃ store, m.read text = .ok (store, []) ∧
        s.Merges (key :: seen) es (store a) b := by
  rw [Shape.Merges, hfind]

theorem Shape.merges_unknown (hfind : s.members.find? (·.key == key) = none)
    {text : List Char} {es : List KeyText} {a b : α} :
    s.Merges seen ((key, text) :: es) a b ↔ s.Merges (key :: seen) es a b := by
  rw [Shape.Merges, hfind]

variable {others : Reader (List KeyText)} {a : α}

theorem Views.known {m : Member α} (hfind : s.members.find? (·.key == key) = some m)
    (hnew : key ∉ seen) (hm : Scalar m.read) {next : α → Reader α}
    (hnext : ∀ a, Views (next a) others fun es b => s.Merges (key :: seen) es a b) :
    Views (m.read >>= fun store => next (store a)) (entry key others)
      fun es b => s.Merges seen es a b := by
  intro cs rest b
  constructor
  · intro hb
    obtain ⟨store, mid, hr, hmid⟩ := of_bind_ok hb
    have hskip := hm.passes hr
    obtain ⟨text, rfl⟩ := skipValue_suffix hskip
    obtain ⟨es, hes, hmerges⟩ := (hnext (store a) mid rest b).mp hmid
    exact ⟨(key, text) :: es, entry_ok hskip hes,
      (Shape.merges_known hfind).mpr ⟨hnew, store, hm.alone hr, hmerges⟩⟩
  · rintro ⟨es, hes, hmerges⟩
    obtain ⟨text, mid, es, rfl, rfl, hskip, hothers⟩ := of_entry_ok hes
    obtain ⟨-, store, hread, hrest⟩ := (Shape.merges_known hfind).mp hmerges
    rw [bind_ok (hm.amid hread hskip)]
    exact (hnext (store a) mid rest b).mpr ⟨es, hothers, hrest⟩

theorem Views.unknown (hfind : s.members.find? (·.key == key) = none) {next : Reader α}
    (hnext : Views next others fun es b => s.Merges (key :: seen) es a b) :
    Views (skipValue >>= fun _ => next) (entry key others) fun es b => s.Merges seen es a b := by
  intro cs rest b
  constructor
  · intro hb
    obtain ⟨_, mid, hskip, hmid⟩ := of_bind_ok hb
    obtain ⟨text, rfl⟩ := skipValue_suffix hskip
    obtain ⟨es, hes, hmerges⟩ := (hnext mid rest b).mp hmid
    exact ⟨(key, text) :: es, entry_ok hskip hes, (Shape.merges_unknown hfind).mpr hmerges⟩
  · rintro ⟨es, hes, hmerges⟩
    obtain ⟨text, mid, es, rfl, rfl, hskip, hothers⟩ := of_entry_ok hes
    rw [bind_ok hskip]
    exact (hnext mid rest b).mpr ⟨es, hothers, (Shape.merges_unknown hfind).mp hmerges⟩

end Members

/-- Every member may be absent, and its value is a scalar. -/
structure Shape.Lenient (s : Shape α) : Prop where
  optional : ∀ m ∈ s.members, m.required = false
  openEnded : s.openEnded = true
  distinct : (s.members.map Member.key).Nodup
  scalar : ∀ m ∈ s.members, Scalar m.read

namespace Shape.Lenient

variable {s : Shape α} (h : s.Lenient)
include h

theorem complete (seen : List String) : s.complete seen = true := by
  rw [Shape.complete, List.all_eq_true]
  intro m hm
  rw [h.optional m hm]
  rfl

theorem membersWithin (fuel : Nat) (seen : List String) (a : α) :
    Views (s.membersWithin fuel seen a) (memberEntries fuel) fun es b => s.Merges seen es a b := by
  induction fuel generalizing seen a with
  | zero => exact .fail _ _
  | succ fuel ih =>
    have hbehind (seen : List String) (a : α) : Views (s.behindMember fuel seen a)
        (behindEntry (memberEntries fuel)) fun es b => s.Merges seen es a b := by
      refine .bind fun c => ?_
      split
      · rw [if_pos (h.complete seen), if_pos rfl]
        exact .bind fun _ => .pure fun b => Iff.rfl
      · rw [if_neg (by decide), if_pos rfl]
        exact .bind fun _ => ih seen a
      · rename_i hbrace hcomma
        rw [if_neg hbrace, if_neg hcomma]
        exact .fail _ _
    refine .bind fun _ => .bind fun chars => ?_
    simp only
    split
    · rename_i m hfind
      split
      · rename_i hseen
        refine .never (fun _ _ _ h => by cases h) fun cs rest es b hes => ?_
        obtain ⟨_, _, -, hentry⟩ := of_bind_ok hes
        obtain ⟨text, mid, es, rfl, -⟩ := of_entry_ok hentry
        exact fun hmerges => ((merges_known hfind).mp hmerges).1 hseen
      · rename_i hnew
        simp only [pure_bind]
        refine .bind fun _ => .known hfind hnew ?_ fun a => hbehind _ a
        exact h.scalar m (List.mem_of_find?_eq_some hfind)
    · rename_i hfind
      simp only [pure_bind]
      exact .bind fun _ => .unknown hfind (hbehind _ a)

theorem object : Views s.object objectEntries fun es b => s.Merges [] es s.start b := by
  refine .bind fun _ => .bind fun c => ?_
  split
  · rw [if_pos (h.complete [])]
    exact .bind fun _ => .pure fun b => Iff.rfl
  · exact fun cs => h.membersWithin cs.length [] s.start cs

/-- The keys that have been seen in an array are those of the members in front. -/
theorem elements {done ms : List (Member α)} (hs : s.members = done ++ ms) (first : Bool) (a : α) :
    Views (s.elements ms first a) (elementEntries (ms.map Member.key) first)
      fun es b => s.Merges (done.map Member.key).reverse es a b := by
  -- On the members to come, as the array is read; the form has no unknown keys.
  induction ms generalizing done first a with
  | nil => exact .bind fun _ => .pure fun b => Iff.rfl
  | cons m ms ih =>
    have hkeys := h.distinct
    rw [hs] at hkeys
    obtain ⟨hfind, hnew⟩ := find?_key hkeys
    rw [← hs] at hfind
    have hentry : Views (m.read >>= fun store => s.elements ms false (store a))
        (entry m.key (elementEntries (ms.map Member.key) false))
        fun es b => s.Merges (done.map Member.key).reverse es a b := by
      refine .known hfind hnew (h.scalar m (by simp [hs])) fun a => ?_
      have hrest := ih (by simp [hs] : s.members = (done ++ [m]) ++ ms) false a
      rwa [List.map_append, List.reverse_append] at hrest
    refine .bind fun c => ?_
    split
    · rw [if_pos h.openEnded]
      exact .bind fun _ => .pure fun b => Iff.rfl
    · rename_i hbracket
      rw [if_neg hbracket]
      split
      · exact hentry
      · split
        · refine .bind fun _ => .bind fun next => ?_
          split
          · exact .fail _ _
          · exact hentry
        · exact .fail _ _

/-- A record is what its entries are merged to, whichever form it is written in. -/
theorem read : Views s.read (entries (s.members.map Member.key))
    fun es b => s.Merges [] es s.start b := by
  refine .bind fun c => ?_
  split
  · rw [if_pos rfl]
    exact h.object
  · rw [if_neg (by decide), if_pos rfl]
    exact .bind fun _ => h.elements (List.nil_append s.members).symm true s.start
  · rename_i hbrace hbracket
    rw [if_neg hbrace, if_neg hbracket]
    exact .never (fun _ _ _ => otherKind_ne_ok) fun _ _ _ _ hes => nomatch hes

end Shape.Lenient

end Folio.Json
