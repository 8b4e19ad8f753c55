import Folio.Proofs.Walks
import Mathlib.Data.String.Basic

namespace Folio

namespace Text

variable {sep : Char} {cs part : List Char}

theorem cutAt_cons (sep c : Char) (cs : List Char) : ∃ part parts, cutAt sep cs = part :: parts ∧
    cutAt sep (c :: cs) = if c = sep then [] :: part :: parts else (c :: part) :: parts := by
  cases h : cutAt sep cs with
  | nil => exact absurd h (cutAt_ne_nil sep cs)
  | cons part parts => exact ⟨part, parts, rfl, by rw [cutAt, h]⟩

theorem cutAt_cons_self (sep : Char) (cs : List Char) :
    cutAt sep (sep :: cs) = [] :: cutAt sep cs := by
  obtain ⟨first, parts, hcut, hall⟩ := cutAt_cons sep sep cs
  rw [hall, if_pos rfl, hcut]

/-- The parts joined by what they have been cut at are the text again. -/
theorem intercalate_cutAt (sep : Char) (cs : List Char) :
    [sep].intercalate (cutAt sep cs) = cs := by
  induction cs with
  | nil => rfl
  | cons c cs ih =>
    obtain ⟨first, parts, hcut, hall⟩ := cutAt_cons sep c cs
    rw [hcut] at ih
    rw [hall]
    split
    · rename_i hc
      rw [List.intercalate_cons_of_ne_nil (by simp), ih, hc]
      rfl
    · cases parts with
      | nil =>
        rw [List.intercalate_singleton] at ih ⊢
        rw [ih]
      | cons second parts =>
        rw [List.intercalate_cons_cons] at ih ⊢
        rw [List.cons_append, List.cons_append, ih]

theorem not_mem_of_mem_cutAt (h : part ∈ cutAt sep cs) : sep ∉ part := by
  induction cs generalizing part with
  | nil =>
    rw [List.mem_singleton.mp h]
    exact List.not_mem_nil
  | cons c cs ih =>
    obtain ⟨first, parts, hcut, hall⟩ := cutAt_cons sep c cs
    rw [hcut] at ih
    rw [hall] at h
    split at h
    · rcases List.mem_cons.mp h with rfl | h
      · exact List.not_mem_nil
      · exact ih h
    · rename_i hc
      rcases List.mem_cons.mp h with rfl | h
      · rw [List.mem_cons, not_or]
        exact ⟨Ne.symm hc, ih List.mem_cons_self⟩
      · exact ih (List.mem_cons_of_mem _ h)

/-- A text is cut at every separator, so also at this one. -/
theorem cutAt_append (sep : Char) (cs rest : List Char) :
    cutAt sep (cs ++ sep :: rest) = cutAt sep cs ++ cutAt sep rest := by
  induction cs with
  | nil => exact cutAt_cons_self sep rest
  | cons c cs ih =>
    obtain ⟨first, parts, hcut, hall⟩ := cutAt_cons sep c cs
    rw [List.cons_append, cutAt, ih, hall, hcut, List.cons_append]
    by_cases hc : c = sep
    · rw [if_pos hc, List.cons_append, List.cons_append]
      exact if_pos hc
    · rw [if_neg hc, List.cons_append]
      exact if_neg hc

theorem cutAt_of_not_mem (h : sep ∉ cs) : cutAt sep cs = [cs] := by
  induction cs with
  | nil => rfl
  | cons c cs ih =>
    rw [List.mem_cons, not_or] at h
    rw [cutAt, ih h.2]
    exact if_neg (Ne.symm h.1)

theorem cutAt_intercalate {parts : List (List Char)} (h : ∀ part ∈ parts, sep ∉ part)
    (hne : parts ≠ []) : cutAt sep ([sep].intercalate parts) = parts := by
  induction parts with
  | nil => exact absurd rfl hne
  | cons part parts ih =>
    have hpart := h part List.mem_cons_self
    cases parts with
    | nil => rw [List.intercalate_singleton, cutAt_of_not_mem hpart]
    | cons second parts =>
      rw [List.intercalate_cons_cons, List.append_assoc, List.singleton_append,
        cutAt_append, cutAt_of_not_mem hpart,
        ih (fun part hm => h part (List.mem_cons_of_mem _ hm)) (by simp), List.singleton_append]

theorem intercalate_concat {parts : List (List Char)} (hne : parts ≠ [])
    (between last : List Char) :
    between.intercalate (parts ++ [last]) = between.intercalate parts ++ between ++ last := by
  induction parts with
  | nil => exact absurd rfl hne
  | cons part parts ih =>
    cases parts with
    | nil =>
      rw [List.singleton_append, List.intercalate_cons_cons, List.intercalate_singleton,
        List.intercalate_singleton]
    | cons second parts =>
      rw [List.cons_append, List.cons_append, List.intercalate_cons_cons,
        List.intercalate_cons_cons, ← List.cons_append, ih (by simp)]
      simp only [List.append_assoc]

/-- Where something is cut off and the last part is empty, the text ends in the separator. -/
theorem ends_of_cutAt {parts : List (List Char)} (hc : cutAt sep cs = parts ++ [[]])
    (hp : parts ≠ []) : ∃ front, cs = front ++ [sep] := by
  refine ⟨[sep].intercalate parts, ?_⟩
  rw [← intercalate_cutAt sep cs, hc, intercalate_concat hp, List.append_nil]

/-- Leaving parts out leaves characters out. -/
theorem sublist_intercalate {parts all : List (List Char)} (h : parts.Sublist all)
    (between : List Char) : (between.intercalate parts).Sublist (between.intercalate all) := by
  induction h with
  | slnil => exact List.Sublist.refl _
  | @cons parts all part hsub ih =>
    cases all with
    | nil =>
      rw [List.sublist_nil.mp hsub]
      exact List.nil_sublist _
    | cons second all =>
      rw [List.intercalate_cons_cons]
      exact ih.trans (List.sublist_append_right _ _)
  | @cons_cons parts all part hsub ih =>
    cases parts with
    | nil =>
      rw [List.intercalate_singleton]
      cases all with
      | nil => rw [List.intercalate_singleton]
      | cons second all =>
        rw [List.intercalate_cons_cons, List.append_assoc]
        exact List.sublist_append_left _ _
    | cons second parts =>
      cases all with
      | nil => cases hsub
      | cons second' all =>
        rw [List.intercalate_cons_cons, List.intercalate_cons_cons]
        exact (List.Sublist.refl _).append ih

end Text

namespace Disk

variable {d : Disk} {path : String} {names : List String}

theorem intercalate_parts (path : String) : "/".intercalate (parts path) = path := by
  apply String.toList_injective
  rw [String.toList_intercalate, parts, List.map_map]
  have hid : String.toList ∘ String.ofList = id := by
    funext cs
    exact String.toList_ofList
  rw [hid, List.map_id]
  exact Text.intercalate_cutAt '/' path.toList

theorem not_slash_of_mem_parts {part : String} (h : part ∈ parts path) : '/' ∉ part.toList := by
  obtain ⟨cs, hcs, rfl⟩ := List.mem_map.mp h
  rw [String.toList_ofList]
  exact Text.not_mem_of_mem_cutAt hcs

theorem parts_intercalate (h : ∀ name ∈ names, '/' ∉ name.toList) (hne : names ≠ []) :
    parts ("/".intercalate names) = names := by
  have hparts : ∀ part ∈ names.map String.toList, '/' ∉ part := by
    intro part hm
    obtain ⟨name, hname, rfl⟩ := List.mem_map.mp hm
    exact h name hname
  have hcut := Text.cutAt_intercalate hparts (by simpa using hne)
  rw [parts, String.toList_intercalate]
  change (Text.cutAt '/' (['/'].intercalate (names.map String.toList))).map String.ofList = names
  rw [hcut, List.map_map]
  have hid : String.ofList ∘ String.toList = id := by
    funext s
    exact String.ofList_toList
  rw [hid, List.map_id]

theorem parts_append (front rest : String) :
    parts (front ++ "/" ++ rest) = parts front ++ parts rest := by
  rw [parts, String.toList_append, String.toList_append, List.append_assoc]
  change (Text.cutAt '/' (front.toList ++ '/' :: rest.toList)).map String.ofList = _
  rw [Text.cutAt_append, List.map_append]
  rfl

theorem parts_slash_append (rest : String) : parts ("/" ++ rest) = "" :: parts rest :=
  parts_append "" rest

theorem parts_of_not_slash (h : '/' ∉ path.toList) : parts path = [path] := by
  rw [parts, Text.cutAt_of_not_mem h, List.map_singleton, String.ofList_toList]

/-- A path without a slash at its end names its last component there. -/
theorem parts_of_no_slash {path name : String} {above blanks : List String}
    (hs : path.endsWith "/" = false) (hp : parts path = above ++ name :: blanks)
    (hb : ∀ part ∈ blanks, part = "") : blanks = [] := by
  cases hback : blanks.reverse with
  | nil => simpa using hback
  | cons last front =>
    exfalso
    have hlast : last = "" := hb last (by rw [← List.mem_reverse, hback]; simp)
    have hblanks : blanks = front.reverse ++ [""] := by
      rw [← List.reverse_reverse blanks, hback, hlast, List.reverse_cons]
    have hcut : Text.cutAt '/' path.toList
        = ((above ++ name :: front.reverse).map String.toList) ++ [[]] := by
      have hlists := congrArg (List.map String.toList) hp
      rw [parts, List.map_map, hblanks] at hlists
      simpa [Function.comp_def] using hlists
    obtain ⟨text, htext⟩ := Text.ends_of_cutAt hcut (by simp)
    rw [String.endsWith, String.Slice.endsWith_string_eq_false_iff, String.copy_toSlice] at hs
    exact hs ⟨text, htext.symm⟩

theorem checkPath_ok_iff : checkPath path = .ok () ↔
    hasNul path = false ∧ path ≠ "" ∧ path.utf8ByteSize ≤ longestPath := by
  rw [checkPath]
  split
  · rename_i h
    simp [h]
  · rename_i hnul
    split
    · rename_i h
      simp [h]
    · rename_i hempty
      split
      · rename_i hlong
        simp [Nat.not_le.mpr hlong]
      · rename_i hlong
        simp [hnul, hempty, Nat.not_lt.mp hlong]

/-- A text made by leaving out characters of a path may be a path as well. -/
theorem checkPath_of_sublist {text : String} (hpath : checkPath path = .ok ()) (hne : text ≠ "")
    (h : text.toList.Sublist path.toList) : checkPath text = .ok () := by
  rw [checkPath_ok_iff] at hpath ⊢
  obtain ⟨hnul, -, hlong⟩ := hpath
  refine ⟨?_, hne, ?_⟩
  · rw [hasNul, List.contains_eq_mem, decide_eq_false_iff_not] at hnul ⊢
    exact fun hm => hnul (h.subset hm)
  · have hbytes := String.utf8Len_le_of_sublist h
    rw [← String.utf8ByteSize_ofList, ← String.utf8ByteSize_ofList, String.ofList_toList,
      String.ofList_toList] at hbytes
    exact Nat.le_trans hbytes hlong

theorem plainParts_concat {above : List String} {name : String} (hn : IsName name)
    (hparts : parts path = above ++ [name]) : plainParts path = plain above ++ [name] := by
  change plain (parts path) = _
  rw [hparts]
  exact hn.plain_append above (fun part hm => nomatch hm)

/-- A walk along joined names goes along the names. -/
theorem walk_intercalate {start : Location} (hstart : d.isDirectory start = true)
    (h : ∀ name ∈ names, '/' ∉ name.toList) :
    d.walk start (parts ("/".intercalate names)) = d.walk start names := by
  cases names with
  | nil => exact walk_empty hstart []
  | cons name names => rw [parts_intercalate h (by simp)]

theorem sublist_joined {all : List String} (h : names.Sublist all) :
    ("/".intercalate names).toList.Sublist ("/".intercalate all).toList := by
  rw [String.toList_intercalate, String.toList_intercalate]
  exact Text.sublist_intercalate (h.map String.toList) _

theorem startsWith_slash_iff : path.startsWith "/" = true ↔ ∃ rest, path = "/" ++ rest := by
  rw [String.startsWith_string_iff]
  constructor
  · rintro ⟨rest, hrest⟩
    exact ⟨String.ofList rest, String.toList_injective (by simpa using hrest.symm)⟩
  · rintro ⟨rest, rfl⟩
    rw [String.toList_append]
    exact List.prefix_append _ _

theorem endsWith_slash_iff : path.endsWith "/" = true ↔ ∃ front, path = front ++ "/" := by
  rw [String.endsWith, String.Slice.endsWith_string_iff, String.copy_toSlice]
  constructor
  · rintro ⟨front, hfront⟩
    exact ⟨String.ofList front, String.toList_injective (by simpa using hfront.symm)⟩
  · rintro ⟨front, rfl⟩
    rw [String.toList_append]
    exact List.suffix_append _ _

theorem not_slash_of_plain {above more : List String} (hparts : parts path = above ++ more) :
    ∀ name ∈ plain above, '/' ∉ name.toList := by
  intro name hm
  have habove : name ∈ parts path := by
    rw [hparts]
    exact List.mem_append_left _ (List.mem_of_mem_filter hm)
  exact not_slash_of_mem_parts habove

section Directory

variable {above : List String} {name : String} {l : Location}

theorem resolve_above_absolute {rest : String} (hn : IsName name)
    (hcheck : checkPath ("/" ++ rest) = .ok ())
    (hparts : parts ("/" ++ rest) = above ++ [name]) (hw : d.walk [] above = .ok l) :
    d.resolve ("/" ++ "/".intercalate (plain above)) = .ok l := by
  rw [parts_slash_append] at hparts
  cases above with
  | nil => exact absurd (List.cons.inj hparts).1.symm hn.notEmpty
  | cons first above =>
    obtain ⟨rfl, hrest⟩ := List.cons.inj hparts
    have hplain : plain ("" :: above) = plain above := rfl
    have hsub : (plain above).Sublist (parts rest) := by
      rw [hrest]
      exact List.filter_sublist.trans (List.sublist_append_left _ _)
    have hjoined := sublist_joined hsub
    rw [intercalate_parts] at hjoined
    have hcheck' : checkPath ("/" ++ "/".intercalate (plain above)) = .ok () := by
      apply checkPath_of_sublist hcheck (by simp)
      rw [String.toList_append, String.toList_append]
      exact (List.Sublist.refl _).append hjoined
    have horigin : d.origin ("/" ++ "/".intercalate (plain above)) = [] :=
      if_pos (startsWith_slash_iff.mpr ⟨_, rfl⟩)
    have hwalk := walk_plain hw
    rw [hplain] at hwalk
    rw [hplain, resolve, hcheck', horigin]
    change d.walk [] (parts ("/" ++ "/".intercalate (plain above))) = .ok l
    rw [parts_slash_append, walk_empty rfl, walk_intercalate rfl (not_slash_of_plain hrest), hwalk]

theorem resolve_above_relative (hl : d.isDirectory l = true) (hcheck : checkPath path = .ok ())
    (hparts : parts path = above ++ [name]) (hw : d.walk d.workingDirectory above = .ok l) :
    d.resolve (if "/".intercalate (plain above) = "" then "." else "/".intercalate (plain above))
      = .ok l := by
  have hslash := not_slash_of_plain hparts
  have hwalk := walk_intercalate (start_of_walk hw hl) hslash
  rw [walk_plain hw] at hwalk
  split
  · rename_i hempty
    rw [hempty] at hwalk
    have hstart := start_of_walk hw hl
    have hsame : d.workingDirectory = l :=
      Except.ok.inj ((walk_empty hstart []).symm.trans hwalk)
    have hdot : d.step d.workingDirectory "." = .ok l := by
      rw [Disk.step, hstart, hsame]
      rfl
    have hcheckDot : checkPath "." = .ok () := by decide
    have horigin : d.origin "." = d.workingDirectory :=
      if_neg (by simp [String.startsWith_string_iff])
    have hpartsDot : parts "." = ["."] := by decide
    rw [resolve, hcheckDot, horigin, hpartsDot]
    exact walk_cons_ok.mpr ⟨l, hdot, rfl⟩
  · rename_i hne
    have hsub : (plain above).Sublist (parts path) := by
      rw [hparts]
      exact List.filter_sublist.trans (List.sublist_append_left _ _)
    have hjoined := sublist_joined hsub
    rw [intercalate_parts] at hjoined
    have horigin : d.origin ("/".intercalate (plain above)) = d.workingDirectory := by
      refine if_neg fun habs => ?_
      obtain ⟨rest, hrest⟩ := startsWith_slash_iff.mp habs
      have hnames : plain above ≠ [] := by
        intro hnil
        rw [hnil] at hne
        exact hne rfl
      have hparts' := parts_intercalate hslash hnames
      rw [hrest, parts_slash_append] at hparts'
      have hempty : "" ∈ plain above := hparts' ▸ List.mem_cons_self
      simp [plain] at hempty
    rw [resolve, checkPath_of_sublist hcheck hne hjoined, horigin]
    exact hwalk

/-- The directory of a path leads to where the path names its last component. -/
theorem resolve_directoryOf (hn : IsName name) (hcheck : checkPath path = .ok ())
    (hparts : parts path = above ++ [name]) (hw : d.walk (d.origin path) above = .ok l)
    (hl : d.isDirectory l = true) : d.resolve (directoryOf path) = .ok l := by
  have hplain := plainParts_concat hn hparts
  rw [directoryOf, hplain, List.dropLast_concat]
  cases habs : path.startsWith "/" with
  | true =>
    rw [origin, if_pos habs] at hw
    obtain ⟨rest, rfl⟩ := startsWith_slash_iff.mp habs
    simpa using resolve_above_absolute hn hcheck hparts hw
  | false =>
    rw [origin, habs] at hw
    simpa using resolve_above_relative hl hcheck hparts hw

end Directory

end Disk

end Folio
