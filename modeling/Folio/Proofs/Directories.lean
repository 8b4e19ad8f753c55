import Folio.Proofs.Walks

namespace Folio.Disk

/-- A disk with more directories, which lie on a way from a place. -/
structure Extends (d : Disk) (start : Location) (way : List String) (d' : Disk) : Prop where
  workingDirectory : d'.workingDirectory = d.workingDirectory
  entry : ∀ l, d'.entry? l = d.entry? l ∨ d.entry? l = none ∧ d'.entry? l = some .directory ∧
    ∃ n, d'.walk start (way.take n) = .ok l

namespace Extends

variable {d d' d'' : Disk} {start : Location} {way : List String}

theorem refl (d : Disk) (start : Location) (way : List String) : Extends d start way d :=
  ⟨rfl, fun _ => .inl rfl⟩

theorem keeps (h : Extends d start way d') (l : Location) (hl : d.isDirectory l = true) :
    d'.isDirectory l = true := by
  obtain he | ⟨hnone, -, -⟩ := h.entry l
  · rwa [isDirectory, he]
  · simp [isDirectory, hnone] at hl

theorem trans (h : Extends d start way d') (h' : Extends d' start way d'') :
    Extends d start way d'' := by
  refine ⟨h'.workingDirectory.trans h.workingDirectory, ?_⟩
  intro l
  obtain he' | ⟨hnone', hmade', hway'⟩ := h'.entry l
  · obtain he | ⟨hnone, hmade, n, hw⟩ := h.entry l
    · exact .inl (he'.trans he)
    · have hd : d'.isDirectory l = true := by simp [isDirectory, hmade]
      exact .inr ⟨hnone, he'.trans hmade, n, walk_to_directory h'.keeps hw hd⟩
  · obtain he | ⟨-, hmade, -⟩ := h.entry l
    · exact .inr ⟨he.symm.trans hnone', hmade', hway'⟩
    · rw [hmade] at hnone'
      cases hnone'

/-- What lies on a way lies on every way that goes on from its end. -/
theorem longer (h : Extends d start way d') (more : List String) :
    Extends d start (way ++ more) d' := by
  refine ⟨h.workingDirectory, ?_⟩
  intro l
  obtain he | ⟨hnone, hmade, n, hw⟩ := h.entry l
  · exact .inl he
  · refine .inr ⟨hnone, hmade, min n way.length, ?_⟩
    rw [List.take_append_of_le_length (Nat.min_le_right n way.length), ← List.take_take,
      List.take_length]
    exact hw

end Extends

theorem makeDirectory_ok {d made : Disk} {start : Location} {parts : List String}
    (h : d.makeDirectory start parts = .ok made) : ∃ l name above,
      made = d.put (l ++ [name]) .directory ∧ d.isDirectory l = true ∧ IsName name ∧
      d.entry? (l ++ [name]) = none ∧ d.walk start above = .ok l ∧
      plain parts = above ++ [name] := by
  rw [makeDirectory] at h
  cases hlast : d.lastStep start parts with
  | error e =>
    rw [hlast] at h
    cases h
  | ok found =>
    obtain ⟨l, name⟩ := found
    rw [hlast] at h
    simp only [bind, Except.bind] at h
    cases hs : d.step l name with
    | ok place => simp [hs] at h
    | error e =>
      cases e <;> simp only [hs, reduceCtorEq, Except.ok.injEq] at h
      case notFound =>
        obtain ⟨hl, hname, hfree⟩ := step_notFound hs
        obtain hdot | ⟨above, blanks, rfl, hblanks, -, hw, -⟩ := lastStep_ok hlast
        · exact absurd (congrArg Prod.snd hdot) hname.notDot
        · exact ⟨l, name, plain above, h.symm, hl, hname, hfree, walk_plain hw,
            hname.plain_append above hblanks⟩

theorem makeDirectory_extends {d made : Disk} {start : Location} {parts : List String}
    (h : d.makeDirectory start parts = .ok made) : Extends d start (plain parts) made := by
  obtain ⟨l, name, above, rfl, hl, hname, hfree, hw, hplain⟩ := makeDirectory_ok h
  have hnew : Disk.entry? (d.put (l ++ [name]) .directory) (l ++ [name]) = some .directory :=
    d.entry?_put_self (by simp) _
  have hother {place : Location} (hne : place ≠ l ++ [name]) :
      Disk.entry? (d.put (l ++ [name]) .directory) place = d.entry? place :=
    d.entry?_put_ne hne _
  have hkeep : ∀ place, d.isDirectory place = true →
      (d.put (l ++ [name]) .directory).isDirectory place = true := by
    intro place hd
    by_cases hp : place = l ++ [name]
    · simp [isDirectory, hp, hfree] at hd
    · rwa [isDirectory, hother hp]
  refine ⟨rfl, ?_⟩
  intro place
  by_cases hp : place = l ++ [name]
  · subst hp
    refine .inr ⟨hfree, hnew, (plain parts).length, ?_⟩
    rw [List.take_length, hplain, walk_append (walk_to_directory hkeep hw hl)]
    refine walk_cons_ok.mpr ⟨l ++ [name], ?_, rfl⟩
    rw [hname.step (hkeep l hl), hnew]
    rfl
  · exact .inl (hother hp)

theorem ensureDirectory_extends (d : Disk) (start : Location) (parts : List String) :
    Extends d start (plain parts) (d.ensureDirectory start parts).2 := by
  rw [ensureDirectory]
  split
  · rename_i h
    exact makeDirectory_extends h
  · split <;> exact Extends.refl _ _ _

/-- Each directory above is made on the way to the last. -/
theorem makeWay_extends (d : Disk) (start : Location) {names parts : List String}
    (hnames : plain parts = names.reverse) :
    Extends d start names.reverse (d.makeWay start parts names).2 := by
  induction names generalizing parts with
  | nil => exact Extends.refl _ _ _
  | cons name above ih =>
    have hensure (d : Disk) := ensureDirectory_extends d start parts
    rw [hnames] at hensure
    rw [makeWay]
    split
    · have habove : plain above.reverse = above.reverse := by
        rw [plain, List.filter_eq_self]
        intro part hm
        have hmem : part ∈ plain parts := by
          rw [hnames, List.reverse_cons]
          exact List.mem_append_left _ hm
        exact (List.mem_filter.mp hmem).2
      have hfirst := (ih habove).longer [name]
      rw [← List.reverse_cons] at hfirst
      split
      · rename_i made hmade
        rw [hmade] at hfirst
        exact hfirst.trans (hensure made)
      · exact hfirst
    · exact hensure d

/-- Whether it succeeds or fails, making the directories of a path makes only missing directories,
and only on the way along the path. -/
theorem makeDirectories_extends (d : Disk) (path : String) :
    Extends d (d.origin path) (plainParts path) (d.makeDirectories path).2 := by
  rw [makeDirectories]
  split
  · exact Extends.refl _ _ _
  · split
    · have hnames : plain (parts path) = (plainParts path).reverse.reverse := by
        rw [List.reverse_reverse]
        rfl
      have hway := makeWay_extends d (d.origin path) hnames
      rwa [List.reverse_reverse] at hway
    · exact Extends.refl _ _ _

end Folio.Disk
