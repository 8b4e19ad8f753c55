import Folio.Files

namespace Folio.Disk

section Entries

variable {l place : Location}

theorem entry?_put_self (d : Disk) (hl : l ≠ []) (e : Entry) :
    Disk.entry? (d.put l e) l = some e := by
  rw [Disk.entry?, if_neg hl]
  exact lookup_assign_self l e d.entries

theorem entry?_put_ne (d : Disk) (hne : place ≠ l) (e : Entry) :
    Disk.entry? (d.put l e) place = d.entry? place := by
  rw [Disk.entry?, Disk.entry?, put, lookup_assign_ne hne]

theorem entry?_put (d : Disk) (hl : l ≠ []) (e : Entry) (place : Location) :
    Disk.entry? (d.put l e) place = if place = l then some e else d.entry? place := by
  split
  · rename_i h
    rw [h, d.entry?_put_self hl]
  · rename_i h
    exact d.entry?_put_ne h e

/-- Nothing is left of what was put into a free place and then erased. -/
theorem erase_put_of_free {d : Disk} (hfree : d.entry? l = none) (e : Entry) :
    (d.put l e).erase l = d := by
  have hkeys : ∀ entry ∈ d.entries, entry.1 ≠ l := by
    rw [Disk.entry?] at hfree
    split at hfree
    · cases hfree
    · intro entry hm
      have hother := List.lookup_eq_none_iff.mp hfree entry hm
      exact (ne_of_beq_false (by simpa using hother)).symm
  have hassign : (assign l e d.entries).filter (·.1 ≠ l) = d.entries := by
    generalize d.entries = entries at hkeys
    induction entries with
    | nil => simp [assign]
    | cons entry entries ih =>
      obtain ⟨key, old⟩ := entry
      have hkey : key ≠ l := hkeys _ List.mem_cons_self
      have hrest := ih fun entry hm => hkeys entry (List.mem_cons_of_mem _ hm)
      rw [assign, if_neg (by simpa using Ne.symm hkey), List.filter_cons_of_pos (by simpa using hkey),
        hrest]
  rw [erase, put, hassign]

end Entries

/-- A name that an entry of a directory can have. -/
structure IsName (part : String) : Prop where
  notEmpty : part ≠ ""
  notDot : part ≠ "."
  notDots : part ≠ ".."
  fits : nameFits part = true

section Steps

variable {d : Disk} {l place : Location} {part : String}

theorem IsName.step (hn : IsName part) (hl : d.isDirectory l = true) : d.step l part =
    if (d.entry? (l ++ [part])).isSome then .ok (l ++ [part]) else .error .notFound := by
  rw [Disk.step, hl, hn.fits]
  simp [hn.notEmpty, hn.notDot, hn.notDots]

theorem step_ok_cases (hs : d.step l part = .ok place) : d.isDirectory l = true ∧
    ((part = "" ∨ part = ".") ∧ place = l ∨ part = ".." ∧ place = l.dropLast ∨
      IsName part ∧ (d.entry? (l ++ [part])).isSome = true ∧ place = l ++ [part]) := by
  rw [Disk.step] at hs
  split at hs
  · cases hs
  rename_i hl
  refine ⟨by simpa using hl, ?_⟩
  split at hs
  · rename_i hdot
    exact .inl ⟨hdot, (Except.ok.inj hs).symm⟩
  rename_i hdot
  split at hs
  · rename_i hdots
    exact .inr (.inl ⟨hdots, (Except.ok.inj hs).symm⟩)
  rename_i hdots
  split at hs
  · cases hs
  rename_i hfits
  split at hs
  · rename_i hsome
    rw [not_or] at hdot
    exact .inr (.inr ⟨⟨hdot.1, hdot.2, hdots, by simpa using hfits⟩, hsome,
      (Except.ok.inj hs).symm⟩)
  · cases hs

/-- What is not found could be made. -/
theorem step_notFound (hs : d.step l part = .error .notFound) :
    d.isDirectory l = true ∧ IsName part ∧ d.entry? (l ++ [part]) = none := by
  rw [Disk.step] at hs
  split at hs
  · cases hs
  rename_i hl
  split at hs
  · cases hs
  rename_i hdot
  split at hs
  · cases hs
  rename_i hdots
  split at hs
  · cases hs
  rename_i hfits
  split at hs
  · cases hs
  rename_i hnone
  rw [not_or] at hdot
  exact ⟨by simpa using hl, ⟨hdot.1, hdot.2, hdots, by simpa using hfits⟩, by simpa using hnone⟩

theorem isSome_of_isDirectory (hd : d.isDirectory place = true) :
    (d.entry? place).isSome = true := by
  have hentry : d.entry? place = some .directory := by simpa [isDirectory] using hd
  rw [hentry]
  rfl

end Steps

theorem walk_cons_ok {d : Disk} {l place : Location} {part : String} {parts : List String} :
    d.walk l (part :: parts) = .ok place ↔
      ∃ next, d.step l part = .ok next ∧ d.walk next parts = .ok place := by
  rw [walk]
  cases hs : d.step l part with
  | error e => simp [bind, Except.bind]
  | ok next => simp [bind, Except.bind]

theorem walk_append {d : Disk} {l next : Location} {parts : List String}
    (hw : d.walk l parts = .ok next) (more : List String) :
    d.walk l (parts ++ more) = d.walk next more := by
  induction parts generalizing l with
  | nil => rw [Except.ok.inj hw, List.nil_append]
  | cons part parts ih =>
    obtain ⟨middle, hs, hrest⟩ := walk_cons_ok.mp hw
    rw [List.cons_append, walk, hs]
    exact ih hrest

theorem walk_append_ok {d : Disk} {l place : Location} {parts more : List String} :
    d.walk l (parts ++ more) = .ok place ↔
      ∃ next, d.walk l parts = .ok next ∧ d.walk next more = .ok place := by
  constructor
  · intro hw
    induction parts generalizing l with
    | nil => exact ⟨l, rfl, hw⟩
    | cons part parts ih =>
      obtain ⟨middle, hs, hrest⟩ := walk_cons_ok.mp hw
      obtain ⟨next, hfront, hback⟩ := ih hrest
      exact ⟨next, walk_cons_ok.mpr ⟨middle, hs, hfront⟩, hback⟩
  · rintro ⟨next, hfront, hback⟩
    exact (walk_append hfront more).trans hback

theorem start_of_walk {d : Disk} {start l : Location} {parts : List String}
    (hw : d.walk start parts = .ok l) (hl : d.isDirectory l = true) :
    d.isDirectory start = true := by
  cases parts with
  | nil => rwa [Except.ok.inj hw]
  | cons part parts =>
    obtain ⟨next, hs, -⟩ := walk_cons_ok.mp hw
    exact (step_ok_cases hs).1

theorem walk_empty {d : Disk} {start : Location} (hstart : d.isDirectory start = true)
    (rest : List String) : d.walk start ("" :: rest) = d.walk start rest := by
  rw [walk, Disk.step, hstart]
  rfl

/-- A slash at the end leads on to the same directory. -/
theorem walk_slash_iff {d : Disk} {start l : Location} {above : List String} :
    d.walk start (above ++ [""]) = .ok l ∧ d.isDirectory l = true ↔
      d.walk start above = .ok l ∧ d.isDirectory l = true := by
  constructor
  · rintro ⟨hw, hl⟩
    obtain ⟨next, hfront, hlast⟩ := walk_append_ok.mp hw
    obtain ⟨place, hs, hend⟩ := walk_cons_ok.mp hlast
    obtain rfl := Except.ok.inj hend
    obtain ⟨-, ⟨-, rfl⟩ | ⟨hdots, -⟩ | ⟨hname, -⟩⟩ := step_ok_cases hs
    · exact ⟨hfront, hl⟩
    · exact absurd hdots (by decide)
    · exact absurd rfl hname.notEmpty
  · rintro ⟨hw, hl⟩
    exact ⟨(walk_append hw [""]).trans (walk_empty hl []), hl⟩

/-- The components that count. -/
def plain (parts : List String) : List String :=
  parts.filter fun p => p ≠ "" ∧ p ≠ "."

theorem plain_of_empty {parts : List String} (h : ∀ part ∈ parts, part = "") :
    plain parts = [] := by
  rw [plain, List.filter_eq_nil_iff]
  intro part hm
  simp [h part hm]

theorem IsName.plain_append {name : String} (hn : IsName name) (above : List String)
    {blanks : List String} (hb : ∀ part ∈ blanks, part = "") :
    plain (above ++ name :: blanks) = plain above ++ [name] := by
  have hrest := plain_of_empty hb
  rw [plain] at hrest
  rw [plain, List.filter_append, List.filter_cons_of_pos, hrest]
  · rfl
  · simp [hn.notEmpty, hn.notDot]

/-- Empty components and single dots lead nowhere. -/
theorem walk_plain {d : Disk} {l place : Location} {parts : List String}
    (hw : d.walk l parts = .ok place) : d.walk l (plain parts) = .ok place := by
  induction parts generalizing l with
  | nil => exact hw
  | cons part parts ih =>
    obtain ⟨next, hs, hrest⟩ := walk_cons_ok.mp hw
    rw [plain, List.filter_cons]
    split
    · exact walk_cons_ok.mpr ⟨next, hs, ih hrest⟩
    · rename_i hplain
      have hdot : part = "" ∨ part = "." := by
        by_cases hempty : part = ""
        · exact .inl hempty
        · exact .inr (by simpa [hempty] using hplain)
      obtain ⟨-, ⟨-, rfl⟩ | ⟨hdots, -⟩ | ⟨hname, -⟩⟩ := step_ok_cases hs
      · exact ih hrest
      · rw [hdots] at hdot
        simp at hdot
      · exact absurd hdot (not_or.mpr ⟨hname.notEmpty, hname.notDot⟩)

/-- What is named in a directory that a walk leads to. -/
theorem named_ok {d : Disk} {start l : Location} {above : List String} {name last : String} :
    (do
      let place ← d.walk start above
      if d.isDirectory place then Except.ok (place, name)
      else .error .notADirectory) = .ok (l, last) ↔
      last = name ∧ d.walk start above = .ok l ∧ d.isDirectory l = true := by
  cases d.walk start above with
  | error e => simp [bind, Except.bind]
  | ok place =>
    simp only [bind, Except.bind, Except.ok.injEq]
    split
    · rename_i hd
      constructor
      · intro h
        obtain ⟨rfl, rfl⟩ := Prod.mk.inj (Except.ok.inj h)
        exact ⟨rfl, rfl, hd⟩
      · rintro ⟨rfl, rfl, -⟩
        rfl
    · rename_i hd
      constructor
      · intro h
        cases h
      · rintro ⟨-, rfl, hl⟩
        exact absurd hl hd

section Keeping

variable {d d' : Disk} (hkeep : ∀ l, d.isDirectory l = true → d'.isDirectory l = true)
include hkeep

theorem step_to_directory {l place : Location} {part : String} (hs : d.step l part = .ok place)
    (hp : d.isDirectory place = true) : d'.step l part = .ok place := by
  obtain ⟨hl, ⟨hdot, rfl⟩ | ⟨rfl, rfl⟩ | ⟨hname, -, rfl⟩⟩ := step_ok_cases hs
  · simp [step, hkeep _ hl, hdot]
  · simp [step, hkeep _ hl]
  · rw [hname.step (hkeep l hl), if_pos (isSome_of_isDirectory (hkeep _ hp))]

/-- The places on the way to a directory are directories themselves. -/
theorem walk_to_directory {l place : Location} {parts : List String}
    (hw : d.walk l parts = .ok place) (hp : d.isDirectory place = true) :
    d'.walk l parts = .ok place := by
  induction parts generalizing l with
  | nil => exact hw
  | cons part parts ih =>
    obtain ⟨next, hs, hrest⟩ := walk_cons_ok.mp hw
    have hnext := start_of_walk hrest hp
    exact walk_cons_ok.mpr ⟨next, step_to_directory hkeep hs hnext, ih hrest⟩

theorem lastStep_to_directory {start l : Location} {parts : List String} {name : String}
    (h : d.lastStep start parts = .ok (l, name)) : d'.lastStep start parts = .ok (l, name) := by
  rw [lastStep] at h ⊢
  cases hlast : parts.reverse.dropWhile (· = "") with
  | nil =>
    rw [hlast] at h
    exact h
  | cons last above =>
    rw [hlast] at h
    obtain ⟨hname, hw, hl⟩ := named_ok.mp h
    exact named_ok.mpr ⟨hname, walk_to_directory hkeep hw hl, hkeep l hl⟩

end Keeping

/-- What a path names at its end, below the place that the rest of it leads to. -/
theorem lastStep_ok {d : Disk} {start l : Location} {parts : List String} {name : String}
    (h : d.lastStep start parts = .ok (l, name)) : (l, name) = (start, ".") ∨
      ∃ above blanks, parts = above ++ name :: blanks ∧ (∀ part ∈ blanks, part = "") ∧
        name ≠ "" ∧ d.walk start above = .ok l ∧ d.isDirectory l = true := by
  rw [lastStep] at h
  cases hlast : parts.reverse.dropWhile (· = "") with
  | nil =>
    rw [hlast] at h
    exact .inl (Except.ok.inj h).symm
  | cons last above =>
    rw [hlast] at h
    obtain ⟨rfl, hw, hl⟩ := named_ok.mp h
    refine .inr ⟨above.reverse, (parts.reverse.takeWhile (· = "")).reverse, ?_, ?_, ?_, hw, hl⟩
    · have hsplit := List.takeWhile_append_dropWhile (p := (· = "")) (l := parts.reverse)
      rw [hlast] at hsplit
      simpa using (congrArg List.reverse hsplit).symm
    · intro part hm
      have hblanks := List.all_takeWhile (p := (· = "")) (l := parts.reverse)
      simpa using List.all_eq_true.mp hblanks part (List.mem_reverse.mp hm)
    · have hhead := List.head?_dropWhile_not (· = "") parts.reverse
      rw [hlast] at hhead
      simpa using hhead

theorem lastStep_concat_ok {d : Disk} {start l : Location} {above : List String}
    {name last : String} (hne : name ≠ "") : d.lastStep start (above ++ [name]) = .ok (l, last) ↔
      last = name ∧ d.walk start above = .ok l ∧ d.isDirectory l = true := by
  rw [lastStep, List.reverse_append, List.reverse_singleton, List.singleton_append,
    List.dropWhile_cons_of_neg (by simpa using hne)]
  simp only [List.reverse_reverse]
  exact named_ok

theorem parent_ok {d : Disk} {path : String} {found : Location × String} :
    d.parent path = .ok found ↔
      checkPath path = .ok () ∧ d.lastStep (d.origin path) (parts path) = .ok found := by
  rw [parent]
  cases checkPath path with
  | error e => simp [bind, Except.bind]
  | ok _ => simp [bind, Except.bind]

end Folio.Disk
