import Folio.Proofs.SectionGrammar

namespace Folio
open Placeholder

/-- Some text without braces. -/
structure Braceless (cs : List Char) : Prop where
  nonempty : cs ≠ []
  noOpening : '{' ∉ cs
  noClosing : '}' ∉ cs

/-- Every name of the markup has a value with some text and without braces. -/
def DataSet.Settles (data : DataSet) (markup : String) : Prop :=
  ∀ name ∈ Placeholder.names markup,
    ∃ value, data.get? name = some value ∧ Braceless value.toList

theorem Braceless.ne_of_mem {cs : List Char} (h : Braceless cs) {b c : Char}
    (hb : b = '{' ∨ b = '}') (hc : c ∈ cs) : c ≠ b := by
  rintro rfl
  rcases hb with rfl | rfl
  · exact h.noOpening hc
  · exact h.noClosing hc

theorem Braceless.escape {cs : List Char} (h : Braceless cs) : Braceless (Text.escape cs) := by
  refine ⟨?_, ?_, ?_⟩
  · obtain ⟨c, cs, rfl⟩ := List.exists_cons_of_ne_nil h.nonempty
    have hc : Text.escapeChar c ≠ [] := by
      unfold Text.escapeChar
      split <;> simp
    simp [hc]
  · rw [Text.mem_escape_iff (by decide)]
    exact h.noOpening
  · rw [Text.mem_escape_iff (by decide)]
    exact h.noClosing

theorem Braceless.fillName {data : DataSet} {name value : String}
    (h : Braceless value.toList) (hvalue : data.get? name = some value)
    (policy : SanitizePolicy) : Braceless (fillName policy data name) := by
  simp only [Folio.fillName, hvalue, sanitize_eq]
  split
  · exact h
  · exact h.escape

namespace Placeholder

/-- A text shows no name exactly if no placeholder stands anywhere in it. -/
theorem namesIn_eq_nil_iff {cs : List Char} :
    namesIn cs = [] ↔ ∀ raw, raw ≠ [] → '}' ∉ raw → ¬ written raw <:+: cs := by
  have hwritten (raw rest : List Char) :
      written raw ++ rest = '{' :: '{' :: (raw ++ '}' :: '}' :: rest) := by
    simp [written]
  induction cs using scan_induction with
  | nil => simp [written]
  | hole cs raw rest hp ih =>
    obtain ⟨he, hne, hraw⟩ := pattern_eq_some.mp hp
    have hinfix : written raw <:+: cs := ⟨[], rest, by rw [List.nil_append, hwritten, he]⟩
    rw [namesIn_of_match hp]
    constructor
    · intro h
      cases h
    · intro h
      exact absurd hinfix (h raw hne hraw)
  | char c cs hp ih =>
    rw [namesIn_of_no_match hp]
    apply Iff.trans ih
    constructor
    · intro h raw hne hraw hinfix
      rcases List.infix_cons_iff.mp hinfix with ⟨rest, hrest⟩ | hinfix
      · have hfound : pattern (c :: cs) = some (raw, rest) :=
          pattern_eq_some.mpr ⟨by rw [← hrest, hwritten], hne, hraw⟩
        rw [hp] at hfound
        cases hfound
      · exact h raw hne hraw hinfix
    · intro h raw hne hraw hinfix
      exact h raw hne hraw (List.infix_cons hinfix)

end Placeholder

section Substitution

variable {policy : SanitizePolicy} {data : DataSet} {cs : List Char}

/-- Whatever the policy, each of these names is filled with some text without braces. -/
def Settled (policy : SanitizePolicy) (data : DataSet) (names : List String) : Prop :=
  ∀ name ∈ names, Braceless (fillName policy data name)

theorem Settled.tail {name : String} {names : List String}
    (h : Settled policy data (name :: names)) : Settled policy data names :=
  fun n hn => h n (List.mem_cons_of_mem _ hn)

/-- A brace at the head of a substituted text stood at the head of the text. -/
theorem head_of_substitute (hs : Settled policy data (namesIn cs)) {b : Char}
    (hb : b = '{' ∨ b = '}') {rest : List Char} (h : substitute policy data cs = b :: rest) :
    ∃ cs', cs = b :: cs' ∧ substitute policy data cs' = rest ∧ namesIn cs = namesIn cs' := by
  cases cs using scan_induction with
  | nil => cases h
  | hole _ raw behind hp =>
    rw [namesIn_of_match hp] at hs
    have hfill := hs _ List.mem_cons_self
    obtain ⟨c, fill, hc⟩ := List.exists_cons_of_ne_nil hfill.nonempty
    rw [substitute_of_match hp, hc] at h
    have hmem : c ∈ fillName policy data (nameOf raw) := by simp [hc]
    exact absurd (List.cons.inj h).1 (hfill.ne_of_mem hb hmem)
  | char c cs' hp =>
    rw [substitute_of_no_match hp] at h
    obtain ⟨rfl, hrest⟩ := List.cons.inj h
    exact ⟨cs', rfl, hrest, namesIn_of_no_match hp⟩

/-- If a substituted text is closed somewhere, so was the text, and with text in between if there is
now. -/
theorem closed_of_substitute (hs : Settled policy data (namesIn cs)) {raw rest : List Char}
    (hraw : '}' ∉ raw) (h : substitute policy data cs = raw ++ '}' :: '}' :: rest) :
    ∃ raw' rest', cs = raw' ++ '}' :: '}' :: rest' ∧ '}' ∉ raw' ∧ (raw ≠ [] → raw' ≠ []) := by
  induction cs using scan_induction generalizing raw with
  | nil => simp at h
  | hole cs name behind hp ih =>
    obtain ⟨rfl, hne, hname⟩ := pattern_eq_some.mp hp
    exact ⟨'{' :: '{' :: name, behind, rfl, by simp [hname], by simp⟩
  | char c cs hp ih =>
    rw [namesIn_of_no_match hp] at hs
    rw [substitute_of_no_match hp] at h
    cases raw with
    | nil =>
      obtain ⟨rfl, hclose⟩ := List.cons.inj h
      obtain ⟨cs', rfl, -, -⟩ := head_of_substitute hs (.inr rfl) hclose
      exact ⟨[], cs', rfl, hraw, fun hne => absurd rfl hne⟩
    | cons r raw =>
      obtain ⟨rfl, htail⟩ := List.cons.inj h
      rw [List.mem_cons, not_or] at hraw
      obtain ⟨raw', rest', rfl, hraw', -⟩ := ih hs hraw.2 htail
      exact ⟨c :: raw', rest', rfl, by simp [hraw.1, hraw'], by simp⟩

/-- A brace that opened no placeholder opens none in front of the substituted text. -/
theorem no_match_of_substitute {c : Char} (hs : Settled policy data (namesIn cs))
    (hp : pattern (c :: cs) = none) : pattern (c :: substitute policy data cs) = none := by
  cases hfound : pattern (c :: substitute policy data cs) with
  | none => rfl
  | some found =>
    obtain ⟨raw, rest⟩ := found
    obtain ⟨he, hne, hraw⟩ := pattern_eq_some.mp hfound
    obtain ⟨rfl, hopen⟩ := List.cons.inj he
    obtain ⟨cs', rfl, hsub, hnames⟩ := head_of_substitute hs (.inl rfl) hopen
    rw [hnames] at hs
    obtain ⟨raw', rest', rfl, hraw', hne'⟩ := closed_of_substitute hs hraw hsub
    have hmatch : pattern ('{' :: '{' :: (raw' ++ '}' :: '}' :: rest')) = some (raw', rest') :=
      pattern_eq_some.mpr ⟨rfl, hne' hne, hraw'⟩
    rw [hp] at hmatch
    cases hmatch

theorem namesIn_append_of_no_opening {cs : List Char} (h : '{' ∉ cs) (rest : List Char) :
    namesIn (cs ++ rest) = namesIn rest := by
  induction cs with
  | nil => rfl
  | cons c cs ih =>
    rw [List.mem_cons, not_or] at h
    rw [List.cons_append, namesIn_of_no_match (pattern_of_head_ne (Ne.symm h.1) _), ih h.2]

theorem namesIn_substitute (hs : Settled policy data (namesIn cs)) :
    namesIn (substitute policy data cs) = [] := by
  induction cs using scan_induction with
  | nil => rfl
  | hole cs raw rest hp ih =>
    rw [namesIn_of_match hp] at hs
    have hfill := hs _ List.mem_cons_self
    rw [substitute_of_match hp, namesIn_append_of_no_opening hfill.noOpening, ih hs.tail]
  | char c cs hp ih =>
    rw [namesIn_of_no_match hp] at hs
    rw [substitute_of_no_match hp, namesIn_of_no_match (no_match_of_substitute hs hp), ih hs]

end Substitution

/-- Filling a section whose names all have values with some text and without braces leaves no
placeholder, however the braces of the section stand. -/
theorem no_placeholder_left (policy : SanitizePolicy) {data : DataSet} {markup : String}
    (h : data.Settles markup) :
    (∀ raw, raw ≠ [] → '}' ∉ raw →
      ¬ Placeholder.written raw <:+: fillSection policy data (some markup)) ∧
    Placeholder.names (String.ofList (fillSection policy data (some markup))) = [] := by
  have hfilled : namesIn (fillSection policy data (some markup)) = [] := by
    rw [fillSection]
    split
    · rfl
    · apply namesIn_substitute
      intro name hn
      obtain ⟨value, hvalue, hplain⟩ := h name (mem_names.mpr hn)
      exact hplain.fillName hvalue policy
  refine ⟨namesIn_eq_nil_iff.mp hfilled, ?_⟩
  rw [Placeholder.names, occurrences_eq, String.toList_ofList, hfilled]
  rfl

/-- Markup with nested, empty and unclosed braces around its placeholders. -/
def strayBraces : String :=
  "\x7b \x7b\x7b\x7bA \x7d\x7d\x7d \x7d\x7d\x7b\x7b B\x7d\x7d\x7b\x7b\x7d\x7d\x7b \x7b\x7b"

theorem strayBraces_filled :
    let data : DataSet := ⟨[("\x7bA", "<b>$1</b>"), ("B", " ")]⟩
    Placeholder.names strayBraces = ["\x7bA", "B"] ∧ data.Settles strayBraces ∧
      Placeholder.names (String.ofList (fillSection .escape data (some strayBraces))) = [] := by
  intro data
  have hnames : Placeholder.names strayBraces = ["\x7bA", "B"] := by decide +kernel
  have hsettles : data.Settles strayBraces := by
    intro name hn
    rw [hnames, List.mem_pair] at hn
    obtain rfl | rfl := hn
    · exact ⟨"<b>$1</b>", by decide, by decide, by decide, by decide⟩
    · exact ⟨" ", by decide, by decide, by decide, by decide⟩
  exact ⟨hnames, hsettles, (no_placeholder_left .escape hsettles).2⟩

end Folio
