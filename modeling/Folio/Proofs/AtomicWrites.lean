import Folio.Proofs.PathTexts
import Mathlib.Data.List.Nodup

namespace Folio

namespace Disk

theorem temporaryName_injective {m n : Nat} (h : temporaryName m = temporaryName n) : m = n := by
  have hlist := congrArg String.toList h
  simp only [temporaryName, String.toList_append, String.toList_ofList] at hlist
  have hdigits := congrArg Text.digitsValue (List.append_cancel_left hlist)
  simpa using hdigits

/-- There are more names to try than entries, so one of them is free. -/
theorem freshName_free (d : Disk) (l : Location) : d.entry? (l ++ [d.freshName l]) = none := by
  rw [freshName]
  generalize hnames : (List.range (d.entries.length + 1)).map temporaryName = names
  cases hf : names.find? fun name => (d.entry? (l ++ [name])).isNone with
  | some name => simpa using List.find?_some hf
  | none =>
    exfalso
    have htaken : names.map (l ++ [·]) ⊆ d.entries.map Prod.fst := by
      intro place hm
      obtain ⟨name, hname, rfl⟩ := List.mem_map.mp hm
      have hsome := List.find?_eq_none.mp hf name hname
      obtain ⟨e, he⟩ := Option.ne_none_iff_exists'.mp (by simpa using hsome)
      rw [Disk.entry?, if_neg (by simp)] at he
      obtain ⟨front, back, hsplit, -⟩ := List.lookup_eq_some_iff.mp he
      rw [hsplit]
      simp
    have hdistinct : (names.map (l ++ [·])).Nodup := by
      rw [← hnames, List.map_map]
      apply List.Nodup.map _ List.nodup_range
      intro m n he
      simpa using temporaryName_injective (by simpa using he)
    have hlength := hdistinct.length_le_of_subset htaken
    rw [← hnames] at hlength
    simp only [List.length_map, List.length_range] at hlength
    omega

theorem IsName.target {d : Disk} {l : Location} {name : String} (hn : IsName name)
    (hl : d.isDirectory l = true) :
    (d.step l name).toOption.any d.isDirectory = d.isDirectory (l ++ [name]) := by
  rw [hn.step hl]
  cases he : d.entry? (l ++ [name]) with
  | none => simp [Except.toOption, isDirectory, he]
  | some e => simp [Except.toOption]

/-- The place of the file that a path names: below a directory, under a name that a file can have,
and where no directory is. -/
def destination? (d : Disk) (path : String) : Option Location :=
  match d.parent path with
  | .ok (l, name) =>
    if namesDirectory path name || !nameFits name || d.isDirectory (l ++ [name]) then none
    else some (l ++ [name])
  | .error _ => none

/-- A path names a file below a directory. -/
structure Names (d : Disk) (path : String) (l : Location) (name : String) : Prop where
  parent : d.parent path = .ok (l, name)
  noSlash : path.endsWith "/" = false
  isName : IsName name
  above : d.isDirectory l = true
  free : d.isDirectory (l ++ [name]) = false

theorem destination?_eq_some_iff {d : Disk} {path : String} {place : Location} :
    d.destination? path = some place ↔ ∃ l name, place = l ++ [name] ∧ d.Names path l name := by
  constructor
  · intro h
    rw [destination?] at h
    split at h
    · rename_i l name hparent
      split at h
      · cases h
      rename_i hname
      simp only [namesDirectory, Bool.or_eq_true, decide_eq_true_eq, Bool.not_eq_true', not_or,
        Bool.not_eq_true, Bool.not_eq_false] at hname
      obtain ⟨⟨⟨⟨hslash, hdot⟩, hdots⟩, hfits⟩, hfree⟩ := hname
      obtain hstart | ⟨above, blanks, -, -, hempty, -, hl⟩ := lastStep_ok (parent_ok.mp hparent).2
      · exact absurd (congrArg Prod.snd hstart) hdot
      · exact ⟨l, name, (Option.some.inj h).symm, hparent, hslash, ⟨hempty, hdot, hdots, hfits⟩, hl,
          hfree⟩
    · cases h
  · rintro ⟨l, name, rfl, h⟩
    rw [destination?, h.parent]
    simp [namesDirectory, h.noSlash, h.isName.notDot, h.isName.notDots, h.isName.fits, h.free]

section Rename

variable {d renamed : Disk} {source l : Location} {path name : String} {bytes : Bytes}

/-- A rename onto a name that a file can have. -/
theorem rename_eq (hsource : d.entry? source = some (.file bytes))
    (hparent : d.parent path = .ok (l, name)) (hname : IsName name) (hl : d.isDirectory l = true) :
    d.rename source path =
      if path.endsWith "/" then .error .notADirectory
      else if d.isDirectory (l ++ [name]) then .error .isADirectory
      else .ok ((d.erase source).put (l ++ [name]) (.file bytes)) := by
  have hstep : d.step l name ≠ .error .nameTooLong := by
    rw [hname.step hl]
    split <;> simp
  rw [rename, hparent]
  simp only [bind, Except.bind]
  rw [if_neg (not_or.mpr ⟨hname.notDot, hname.notDots⟩), hsource]
  split
  · rename_i hs
    exact absurd hs hstep
  · rename_i hbytes _
    cases hbytes
    rw [hname.target hl]
  · rename_i hother
    exact absurd rfl (hother bytes)

theorem isName_of_rename (hparent : d.parent path = .ok (l, name))
    (h : d.rename source path = .ok renamed) : IsName name ∧ d.isDirectory l = true := by
  rw [rename, hparent] at h
  simp only [bind, Except.bind] at h
  split at h
  · cases h
  rename_i hdots
  rw [not_or] at hdots
  obtain hdot | ⟨above, blanks, -, -, hempty, -, hl⟩ := lastStep_ok (parent_ok.mp hparent).2
  · exact absurd (congrArg Prod.snd hdot) hdots.1
  cases hfits : nameFits name with
  | false => simp [step, hl, hempty, hdots.1, hdots.2, hfits] at h
  | true => exact ⟨⟨hempty, hdots.1, hdots.2, hfits⟩, hl⟩

/-- A rename onto a path succeeds where the path names a file, and moves the file there. -/
theorem rename_ok_iff (hsource : d.entry? source = some (.file bytes)) :
    d.rename source path = .ok renamed ↔ ∃ place, d.destination? path = some place ∧
      renamed = (d.erase source).put place (.file bytes) := by
  constructor
  · intro h
    cases hparent : d.parent path with
    | error e =>
      rw [rename, hparent] at h
      cases e <;> simp [bind, Except.bind] at h
    | ok found =>
      obtain ⟨l, name⟩ := found
      obtain ⟨hname, hl⟩ := isName_of_rename hparent h
      rw [rename_eq hsource hparent hname hl] at h
      split at h
      · cases h
      rename_i hslash
      split at h
      · cases h
      rename_i hfree
      have hnames : d.Names path l name :=
        ⟨hparent, by simpa using hslash, hname, hl, by simpa using hfree⟩
      exact ⟨l ++ [name], destination?_eq_some_iff.mpr ⟨l, name, rfl, hnames⟩,
        (Except.ok.inj h).symm⟩
  · rintro ⟨place, hplace, rfl⟩
    obtain ⟨l, name, rfl, hnames⟩ := destination?_eq_some_iff.mp hplace
    rw [rename_eq hsource hnames.parent hnames.isName hnames.above, hnames.noSlash, hnames.free]
    rfl

end Rename

/-- Two disks have the same directories, and paths start from the same one. -/
structure SameDirectories (d d' : Disk) : Prop where
  workingDirectory : d'.workingDirectory = d.workingDirectory
  isDirectory : ∀ l, d'.isDirectory l = d.isDirectory l

namespace SameDirectories

variable {d d' d'' : Disk} {path : String} {place : Location}

theorem refl (d : Disk) : SameDirectories d d :=
  ⟨rfl, fun _ => rfl⟩

theorem symm (h : SameDirectories d d') : SameDirectories d' d :=
  ⟨h.workingDirectory.symm, fun l => (h.isDirectory l).symm⟩

theorem trans (h : SameDirectories d d') (h' : SameDirectories d' d'') : SameDirectories d d'' :=
  ⟨h'.workingDirectory.trans h.workingDirectory,
    fun l => (h'.isDirectory l).trans (h.isDirectory l)⟩

theorem keeps (h : SameDirectories d d') (l : Location) (hl : d.isDirectory l = true) :
    d'.isDirectory l = true :=
  (h.isDirectory l).trans hl

theorem origin (h : SameDirectories d d') (path : String) : d'.origin path = d.origin path := by
  rw [Disk.origin, Disk.origin, h.workingDirectory]

theorem parent_kept {l : Location} {name : String} (h : SameDirectories d d')
    (hp : d.parent path = .ok (l, name)) : d'.parent path = .ok (l, name) := by
  obtain ⟨hcheck, hlast⟩ := parent_ok.mp hp
  rw [← h.origin] at hlast
  exact parent_ok.mpr ⟨hcheck, lastStep_to_directory h.keeps hlast⟩

theorem destination?_of_some (h : SameDirectories d d') (hp : d.destination? path = some place) :
    d'.destination? path = some place := by
  obtain ⟨l, name, rfl, hnames⟩ := destination?_eq_some_iff.mp hp
  exact destination?_eq_some_iff.mpr ⟨l, name, rfl, h.parent_kept hnames.parent, hnames.noSlash,
    hnames.isName, h.keeps l hnames.above, (h.isDirectory _).trans hnames.free⟩

/-- What a path names depends on the directories alone. -/
theorem destination? (h : SameDirectories d d') (path : String) :
    d'.destination? path = d.destination? path :=
  Option.ext fun _ => ⟨h.symm.destination?_of_some, h.destination?_of_some⟩

end SameDirectories

theorem ne_nil_of_not_directory {d : Disk} {place : Location}
    (hfile : d.isDirectory place = false) : place ≠ [] := by
  rintro rfl
  simp [isDirectory, Disk.entry?] at hfile

/-- A file takes the place of no directory and makes none. -/
theorem sameDirectories_put {d : Disk} {place : Location} (hfile : d.isDirectory place = false)
    (bytes : Bytes) : SameDirectories d (d.put place (.file bytes)) := by
  refine ⟨rfl, fun l => ?_⟩
  rw [isDirectory, d.entry?_put (ne_nil_of_not_directory hfile)]
  split
  · rename_i hl
    rw [hl, hfile]
    simp
  · rfl

/-- A disk after a path has been written to: the path leads to a file with these bytes, where no
directory was, and nothing else has changed. -/
structure Written (d : Disk) (bytes : Bytes) (path : String) (place : Location) (d' : Disk) :
    Prop where
  workingDirectory : d'.workingDirectory = d.workingDirectory
  leads : d'.resolve path = .ok place
  file : d.isDirectory place = false
  entry : ∀ l, d'.entry? l = if l = place then some (.file bytes) else d.entry? l

theorem written_put {d : Disk} {path : String} {place : Location}
    (hplace : d.destination? path = some place) (bytes : Bytes) :
    Written d bytes path place (d.put place (.file bytes)) := by
  obtain ⟨l, name, rfl, hnames⟩ := destination?_eq_some_iff.mp hplace
  have hentry := d.entry?_put (l := l ++ [name]) (by simp) (.file bytes)
  refine ⟨rfl, ?_, hnames.free, hentry⟩
  have hsame := sameDirectories_put hnames.free bytes
  obtain ⟨hcheck, hlast⟩ := parent_ok.mp hnames.parent
  obtain hdot | ⟨above, blanks, hparts, hblanks, -, hw, hl⟩ := lastStep_ok hlast
  · exact absurd (congrArg Prod.snd hdot) hnames.isName.notDot
  rw [parts_of_no_slash hnames.noSlash hparts hblanks] at hparts
  rw [resolve, hcheck, hsame.origin, hparts]
  have hway := walk_append (walk_to_directory hsame.keeps hw hl) [name]
  refine hway.trans (walk_cons_ok.mpr ⟨l ++ [name], ?_, rfl⟩)
  rw [hnames.isName.step (hsame.keeps l hl), hentry, if_pos rfl]
  rfl

/-- Renaming a temporary file onto a path is all that is seen of a write. -/
theorem rename_temporary {d renamed : Disk} {temporary : Location} {path : String}
    (htemporary : temporary ≠ []) (hfree : d.entry? temporary = none) (bytes : Bytes) :
    (d.put temporary (.file bytes)).rename temporary path = .ok renamed ↔
      ∃ place, d.destination? path = some place ∧ renamed = d.put place (.file bytes) := by
  have hfile : d.isDirectory temporary = false := by simp [isDirectory, hfree]
  rw [rename_ok_iff (d.entry?_put_self htemporary _), erase_put_of_free hfree,
    (sameDirectories_put hfile bytes).destination? path]

/-- Where a path names a file, the directory for the temporary file is there. -/
theorem Names.resolve_directory {d : Disk} {path name : String} {l : Location}
    (h : d.Names path l name) : d.resolve (directoryOf path) = .ok l := by
  obtain ⟨hcheck, hlast⟩ := parent_ok.mp h.parent
  obtain hdot | ⟨above, blanks, hparts, hblanks, -, hw, hl⟩ := lastStep_ok hlast
  · exact absurd (congrArg Prod.snd hdot) h.isName.notDot
  rw [parts_of_no_slash h.noSlash hparts hblanks] at hparts
  exact resolve_directoryOf h.isName hcheck hparts hw hl

theorem writeAtomically_of_destination {d : Disk} {path : String} {place : Location}
    (h : d.destination? path = some place) (bytes : Bytes) :
    d.writeAtomically bytes path = (.ok (), d.put place (.file bytes)) := by
  obtain ⟨l, name, rfl, hnames⟩ := destination?_eq_some_iff.mp h
  have hrename := (rename_temporary (by simp) (d.freshName_free l) bytes).mpr ⟨_, h, rfl⟩
  rw [writeAtomically, hnames.resolve_directory]
  simp only
  rw [if_pos hnames.above, hrename]

theorem writeAtomically_of_no_destination {d : Disk} {path : String}
    (h : d.destination? path = none) (bytes : Bytes) :
    ∃ e, d.writeAtomically bytes path = (.error e, d) := by
  rw [writeAtomically]
  cases hr : d.resolve (directoryOf path) with
  | error e => exact ⟨_, rfl⟩
  | ok l =>
    simp only
    split
    · have hfree := d.freshName_free l
      cases hrename : (d.put (l ++ [d.freshName l]) (.file bytes)).rename (l ++ [d.freshName l])
          path with
      | error e => exact ⟨_, by rw [erase_put_of_free hfree]⟩
      | ok renamed =>
        obtain ⟨place, hplace, -⟩ := (rename_temporary (by simp) hfree bytes).mp hrename
        rw [h] at hplace
        cases hplace
    · exact ⟨_, rfl⟩

/-- A write fails and changes nothing, or it succeeds and changes one file only. -/
theorem writeAtomically_cases (d : Disk) (bytes : Bytes) (path : String) :
    (∃ e, d.writeAtomically bytes path = (.error e, d)) ∨
    ∃ place d', d.writeAtomically bytes path = (.ok (), d') ∧ Written d bytes path place d' := by
  cases h : d.destination? path with
  | none => exact .inl (writeAtomically_of_no_destination h bytes)
  | some place =>
    exact .inr ⟨place, _, writeAtomically_of_destination h bytes, written_put h bytes⟩

end Disk

end Folio
