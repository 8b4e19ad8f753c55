import Folio.Artifact
import Folio.Drawing.Fonts
import Folio.Proofs.PathTexts
import Folio.Proofs.WrittenTimes

namespace Folio

namespace DateTime
open Text

variable {t t' : DateTime}

theorem mem_writtenYear {c : Char} {year : Int} (h : c ∈ writtenYear year) :
    c.isDigit = true ∨ c = '-' ∨ c = '+' := by
  rw [writtenYear] at h
  split at h
  · exact .inl (isDigit_of_mem_padded h)
  · split at h
    · rcases List.mem_cons.mp h with hc | h
      · exact .inr (.inl hc)
      · exact .inl (isDigit_of_mem_padded h)
    · rcases List.mem_cons.mp h with hc | h
      · exact .inr (.inr hc)
      · exact .inl (isDigit_of_mem_padded h)

theorem writtenYear_injective {year year' : Int} (h : writtenYear year = writtenYear year') :
    year = year' := by
  have hread := readYear_written year .nil
  rw [h, readYear_written year' .nil] at hread
  exact (congrArg Prod.fst (Option.some.inj hread)).symm

theorem padded_injective {width n n' : Nat} (h : padded width n = padded width n') : n = n' := by
  have hvalue := congrArg digitsValue h
  rwa [digitsValue_padded, digitsValue_padded] at hvalue

/-- What a stamp holds behind the year. -/
def stampEnd (t : DateTime) : List Char :=
  padded 2 t.month ++ (padded 2 t.day ++ '_' :: (padded 2 t.hour ++ (padded 2 t.minute
    ++ padded 2 t.writtenSecond)))

theorem stamp_eq (t : DateTime) : t.stamp = writtenYear t.year ++ t.stampEnd := by
  simp only [stamp, stampEnd, List.append_assoc, List.cons_append]

theorem month_lt (t : DateTime) : t.month < 10 ^ 2 := by
  obtain ⟨-, ⟨-, hmonth⟩, -⟩ := t.valid
  omega

theorem day_lt (t : DateTime) : t.day < 10 ^ 2 := by
  obtain ⟨-, -, ⟨-, hday⟩, -⟩ := t.valid
  have hlast := daysInMonth_le t.year t.month
  omega

theorem hour_lt (t : DateTime) : t.hour < 10 ^ 2 := by
  obtain ⟨-, -, -, hhour, -⟩ := t.valid
  omega

theorem minute_lt (t : DateTime) : t.minute < 10 ^ 2 := by
  obtain ⟨-, -, -, -, hminute, -⟩ := t.valid
  omega

theorem writtenSecond_lt (t : DateTime) : t.writtenSecond < 10 ^ 2 := by
  obtain ⟨-, -, -, -, -, hsecond, -⟩ := t.valid
  rw [writtenSecond]
  split <;> omega

theorem length_stampEnd (t : DateTime) : t.stampEnd.length = 11 := by
  simp only [stampEnd, List.length_append, List.length_cons,
    length_padded 2 t.month_lt (by decide), length_padded 2 t.day_lt (by decide),
    length_padded 2 t.hour_lt (by decide), length_padded 2 t.minute_lt (by decide),
    length_padded 2 t.writtenSecond_lt (by decide)]

/-- Two digits in front are read off. -/
theorem padded_append_inj {n n' : Nat} {rest rest' : List Char} (hn : n < 10 ^ 2)
    (hn' : n' < 10 ^ 2) (h : padded 2 n ++ rest = padded 2 n' ++ rest') :
    n = n' ∧ rest = rest' := by
  have hl := length_padded 2 hn (by decide)
  have hl' := length_padded 2 hn' (by decide)
  obtain ⟨hdigits, hrest⟩ := List.append_inj h (hl.trans hl'.symm)
  exact ⟨padded_injective hdigits, hrest⟩

theorem stampEnd_inj (h : t.stampEnd = t'.stampEnd) : t.month = t'.month ∧ t.day = t'.day ∧
    t.hour = t'.hour ∧ t.minute = t'.minute ∧ t.writtenSecond = t'.writtenSecond := by
  obtain ⟨hmonth, h⟩ := padded_append_inj t.month_lt t'.month_lt h
  obtain ⟨hday, h⟩ := padded_append_inj t.day_lt t'.day_lt h
  obtain ⟨hhour, h⟩ := padded_append_inj t.hour_lt t'.hour_lt (List.cons.inj h).2
  obtain ⟨hminute, h⟩ := padded_append_inj t.minute_lt t'.minute_lt h
  exact ⟨hmonth, hday, hhour, hminute, padded_injective h⟩

/-- Date-times of the same second are written the same up to their fractions. -/
theorem truncated_eq_iff : t.truncated = t'.truncated ↔ t.year = t'.year ∧ t.month = t'.month ∧
    t.day = t'.day ∧ t.hour = t'.hour ∧ t.minute = t'.minute ∧
    t.writtenSecond = t'.writtenSecond := by
  obtain ⟨-, -, -, -, -, hsecond, hnano⟩ := t.valid
  obtain ⟨-, -, -, -, -, hsecond', hnano'⟩ := t'.valid
  simp only [truncated, mk.injEq, writtenSecond]
  -- A leap second is the only second 60.
  by_cases hleap : t.nano < billion
  · by_cases hleap' : t'.nano < billion
    · rw [if_pos hleap, if_pos hleap', if_pos hleap, if_pos hleap']
      simp
    · rw [if_pos hleap, if_neg hleap', if_pos hleap, if_neg hleap']
      simp only [billion] at hnano' hleap' ⊢
      omega
  · by_cases hleap' : t'.nano < billion
    · rw [if_neg hleap, if_pos hleap', if_neg hleap, if_pos hleap']
      simp only [billion] at hnano hleap ⊢
      omega
    · rw [if_neg hleap, if_neg hleap', if_neg hleap, if_neg hleap']
      simp

end DateTime

section Names
open DateTime

/-- The last underscore of a text cuts it in one way only. -/
theorem takeWhile_last {back : List Char} (h : '_' ∉ back) (front : List Char) :
    (front ++ '_' :: back).reverse.takeWhile (· ≠ '_') = back.reverse := by
  have hback : ∀ c ∈ back.reverse, decide (c ≠ '_') = true := by
    intro c hm
    have hc : c ≠ '_' := by
      rintro rfl
      exact h (List.mem_reverse.mp hm)
    simpa using hc
  rw [List.reverse_append, List.reverse_cons, List.append_assoc,
    List.takeWhile_append_of_pos hback, List.singleton_append,
    List.takeWhile_cons_of_neg (by simp), List.append_nil]

theorem append_underscore_inj {front front' back back' : List Char} (hback : '_' ∉ back)
    (hback' : '_' ∉ back') (h : front ++ '_' :: back = front' ++ '_' :: back') :
    front = front' ∧ back = back' := by
  have hlast := takeWhile_last hback front
  rw [h, takeWhile_last hback' front'] at hlast
  have hsame := List.reverse_injective hlast.symm
  rw [hsame] at h
  exact ⟨List.append_cancel_right h, hsame⟩

theorem not_underscore_of_year (year : Int) : '_' ∉ writtenYear year := by
  intro hm
  obtain hdigit | hsign | hsign := mem_writtenYear hm
  · cases hdigit
  · cases hsign
  · cases hsign

/-- A name and a stamp joined by an underscore are told apart. -/
theorem append_stamp_inj {name name' : List Char} {t t' : DateTime} :
    name ++ '_' :: t.stamp = name' ++ '_' :: t'.stamp ↔
      name = name' ∧ t.truncated = t'.truncated := by
  rw [truncated_eq_iff]
  constructor
  · intro h
    rw [stamp_eq, stamp_eq, ← List.cons_append, ← List.cons_append, ← List.append_assoc,
      ← List.append_assoc] at h
    obtain ⟨hfront, hend⟩ := List.append_inj' h (t.length_stampEnd.trans t'.length_stampEnd.symm)
    obtain ⟨hname, hyear⟩ :=
      append_underscore_inj (not_underscore_of_year _) (not_underscore_of_year _) hfront
    exact ⟨hname, writtenYear_injective hyear, stampEnd_inj hend⟩
  · rintro ⟨rfl, hyear, hmonth, hday, hhour, hminute, hsecond⟩
    rw [stamp, stamp, hyear, hmonth, hday, hhour, hminute, hsecond]

theorem artifactName_eq_iff {template template' : String} {t t' : DateTime} :
    artifactName template t = artifactName template' t' ↔
      safeName template.toList = safeName template'.toList ∧ t.truncated = t'.truncated := by
  rw [← append_stamp_inj, artifactName, artifactName, String.ofList_inj,
    List.append_cancel_right_eq]

/-- A name that stands for itself in a path and is no path of its own. -/
structure NormalComponent (name : String) : Prop where
  notEmpty : name ≠ ""
  noSlash : '/' ∉ name.toList
  noBackslash : '\\' ∉ name.toList
  notDot : name ≠ "."
  notDots : name ≠ ".."

theorem mem_safeName {c : Char} {name : List Char} (h : c ∈ safeName name) :
    c ≠ '/' ∧ c ≠ '\\' := by
  obtain ⟨d, -, rfl⟩ := List.mem_map.mp h
  split
  · decide
  · rename_i hd
    exact not_or.mp hd

theorem not_separator_of_mem_stamp {c : Char} {t : DateTime} (h : c ∈ t.stamp) :
    c ≠ '/' ∧ c ≠ '\\' := by
  have hdigit {c : Char} (hc : c.isDigit = true) : c ≠ '/' ∧ c ≠ '\\' := by
    constructor <;> (rintro rfl; cases hc)
  rw [stamp_eq, List.mem_append] at h
  rcases h with hyear | hend
  · obtain hc | rfl | rfl := mem_writtenYear hyear
    · exact hdigit hc
    · decide
    · decide
  · simp only [stampEnd, List.mem_append, List.mem_cons] at hend
    rcases hend with hc | hc | rfl | hc | hc | hc
    · exact hdigit (Text.isDigit_of_mem_padded hc)
    · exact hdigit (Text.isDigit_of_mem_padded hc)
    · decide
    · exact hdigit (Text.isDigit_of_mem_padded hc)
    · exact hdigit (Text.isDigit_of_mem_padded hc)
    · exact hdigit (Text.isDigit_of_mem_padded hc)

theorem not_separator_of_mem_artifactName {c : Char} {template : String} {t : DateTime}
    (h : c ∈ (artifactName template t).toList) : c ≠ '/' ∧ c ≠ '\\' := by
  rw [artifactName, String.toList_ofList, List.mem_append, List.mem_append, List.mem_cons] at h
  obtain (hname | rfl | hstamp) | hending := h
  · exact mem_safeName hname
  · decide
  · exact not_separator_of_mem_stamp hstamp
  · have hall : ".pdf".toList.all (fun c => c ≠ '/' ∧ c ≠ '\\') = true := by decide
    simpa using List.all_eq_true.mp hall c hending

theorem artifactName_normal (template : String) (t : DateTime) :
    NormalComponent (artifactName template t) := by
  -- The underscore behind the template is in no name that means something else.
  have hmark : '_' ∈ (artifactName template t).toList := by
    simp [artifactName]
  have hother {name : String} (hn : '_' ∉ name.toList) : artifactName template t ≠ name := by
    rintro rfl
    exact hn hmark
  exact ⟨hother (by decide), fun hm => (not_separator_of_mem_artifactName hm).1 rfl,
    fun hm => (not_separator_of_mem_artifactName hm).2 rfl, hother (by decide),
    hother (by decide)⟩

end Names

namespace Disk
open Drawing

variable {d : Disk} {l : Location} {directory file last : String}

theorem startsWith_slash_append (hne : directory ≠ "") (rest : String) :
    (directory ++ rest).startsWith "/" = directory.startsWith "/" := by
  rw [Bool.eq_iff_iff, String.startsWith_string_iff, String.startsWith_string_iff,
    String.toList_append]
  cases hd : directory.toList with
  | nil => exact absurd (String.toList_eq_nil_iff.mp hd) hne
  | cons c cs => simp

section Joined

variable (hslash : '/' ∉ file.toList)
include hslash

theorem not_startsWith_slash : file.startsWith "/" = false := by
  rw [Bool.eq_false_iff]
  intro hs
  obtain ⟨rest, rfl⟩ := startsWith_slash_iff.mp hs
  simp at hslash

theorem joinPath_eq (directory : String) : joinPath directory file =
    if directory = "" then file
    else if directory.endsWith "/" then directory ++ file
    else directory ++ "/" ++ file := by
  simp [joinPath, not_startsWith_slash hslash]

theorem origin_joinPath (directory : String) :
    d.origin (joinPath directory file) = d.origin directory := by
  rw [joinPath_eq hslash]
  split
  · rename_i hempty
    rw [hempty, origin, origin, not_startsWith_slash hslash]
    simp
  · rename_i hne
    split
    · rw [origin, origin, startsWith_slash_append hne]
    · rw [origin, origin, String.append_assoc, startsWith_slash_append hne]

/-- The components of the directory come first, but for a slash at its end. -/
theorem parts_joinPath (directory : String) :
    ∃ above, parts (joinPath directory file) = above ++ [file] ∧
      (parts directory = above ∨ parts directory = above ++ [""]) := by
  rw [joinPath_eq hslash]
  split
  · rename_i hempty
    rw [hempty]
    exact ⟨[], parts_of_not_slash hslash, .inr rfl⟩
  · split
    · rename_i hend
      obtain ⟨front, rfl⟩ := endsWith_slash_iff.mp hend
      have hfront := parts_append front ""
      rw [String.append_empty] at hfront
      exact ⟨parts front, by rw [parts_append, parts_of_not_slash hslash], .inr hfront⟩
    · exact ⟨parts directory, by rw [parts_append, parts_of_not_slash hslash], .inl rfl⟩

/-- A name joined to the path of a directory names an entry of this directory. -/
theorem parent_joinPath_ok (hf : file ≠ "") (directory : String) :
    d.parent (joinPath directory file) = .ok (l, last) ↔
      checkPath (joinPath directory file) = .ok () ∧ last = file ∧
        d.walk (d.origin directory) (parts directory) = .ok l ∧ d.isDirectory l = true := by
  obtain ⟨above, hparts, hdirectory⟩ := parts_joinPath hslash directory
  have hwalk : d.walk (d.origin directory) (parts directory) = .ok l ∧ d.isDirectory l = true ↔
      d.walk (d.origin directory) above = .ok l ∧ d.isDirectory l = true := by
    rcases hdirectory with hd | hd
    · rw [hd]
    · rw [hd, walk_slash_iff]
  rw [parent_ok, hwalk, ← lastStep_concat_ok hf, hparts, origin_joinPath hslash]

end Joined

end Disk

open Disk Drawing in
/-- The name of an artifact is one component: joined to the path of a directory, it names an entry
of this directory. Two artifacts have the same name exactly if the names of their templates are the
same with underscores for separators, and they were made in the same second. -/
theorem artifactName_safe_distinct :
    (∀ (template : String) (t : DateTime), NormalComponent (artifactName template t) ∧
      ∀ (d : Disk) (directory : String) (l : Location) (last : String),
        d.parent (joinPath directory (artifactName template t)) = .ok (l, last) ↔
          checkPath (joinPath directory (artifactName template t)) = .ok () ∧
          last = artifactName template t ∧
          d.walk (d.origin directory) (parts directory) = .ok l ∧ d.isDirectory l = true) ∧
    ∀ (template template' : String) (t t' : DateTime),
      artifactName template t = artifactName template' t' ↔
        safeName template.toList = safeName template'.toList ∧ t.truncated = t'.truncated := by
  refine ⟨fun template t => ?_, fun _ _ _ _ => artifactName_eq_iff⟩
  have hnormal := artifactName_normal template t
  exact ⟨hnormal, fun d directory l last =>
    parent_joinPath_ok hnormal.noSlash hnormal.notEmpty directory⟩

end Folio
