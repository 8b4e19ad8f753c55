import Folio.Proofs.Substitution
import Mathlib.Data.List.Infix

namespace Folio
open Placeholder

/-- The text that opens a placeholder. -/
def Placeholder.openingBraces : List Char := ['{', '{']

/-- Text in which no placeholder is opened. -/
structure Literal where
  text : String
  noOpening : ¬ Placeholder.openingBraces <:+: text.toList

/-- A name as it may stand between double braces. -/
structure WrittenName where
  text : String
  nonempty : text ≠ ""
  noClosing : '}' ∉ text.toList

/-- A placeholder and the text before it, which does not end in an opening brace. -/
structure Slot where
  before : Literal
  apart : before.text.toList.getLast? ≠ some '{'
  name : WrittenName

/-- A section with at least one placeholder. -/
structure MarkedSection where
  slots : List Slot
  marked : slots ≠ []
  last : Literal

namespace Slot

def written (s : Slot) : List Char :=
  s.before.text.toList ++ Placeholder.written s.name.text.toList

/-- The field that the placeholder refers to. -/
def field (s : Slot) : String :=
  Text.trimmed s.name.text

def pieces (s : Slot) : List Piece :=
  s.before.text.toList.map .char ++ [.hole s.name.text.toList]

end Slot

def MarkedSection.text (s : MarkedSection) : String :=
  String.ofList (s.slots.flatMap Slot.written ++ s.last.text.toList)

/-- A value goes in as it is if the policy keeps all values so, or if its name or the value itself
marks it as a table. -/
def KeptAsIs (policy : SanitizePolicy) (name value : String) : Prop :=
  policy = .preserve ∨ "Table".toList <:+: name.toList ∨ "Tabela".toList <:+: name.toList ∨
    "<table".toList <:+: value.toList

instance (policy : SanitizePolicy) (name value : String) :
    Decidable (KeptAsIs policy name value) :=
  inferInstanceAs (Decidable (_ ∨ _ ∨ _ ∨ _))

/-- What stands in a filled section for a field. -/
def inserted (policy : SanitizePolicy) (data : DataSet) (name : String) : String :=
  match data.get? name with
  | none => "[" ++ name ++ " not found]"
  | some value => if KeptAsIs policy name value then value else Text.escaped value

theorem filterMap_chars (cs : List Char) : (cs.map Piece.char).filterMap Piece.name? = [] := by
  rw [List.filterMap_eq_nil_iff]
  intro piece hp
  obtain ⟨c, -, rfl⟩ := List.mem_map.mp hp
  rfl

theorem flatMap_chars (policy : SanitizePolicy) (data : DataSet) (cs : List Char) :
    (cs.map Piece.char).flatMap (fillPiece policy data) = cs := by
  rw [List.flatMap_map]
  exact List.flatMap_singleton' cs

theorem carriesTable_iff {name value : String} : carriesTable name value = true ↔
    "Table".toList <:+: name.toList ∨ "Tabela".toList <:+: name.toList ∨
      "<table".toList <:+: value.toList := by
  rw [carriesTable, Bool.or_eq_true, Bool.or_eq_true, Text.hasWord_iff, Text.hasWord_iff,
    Text.hasWord_iff, or_assoc]

theorem sanitize_eq (policy : SanitizePolicy) (name value : String) : sanitize policy name value
    = if KeptAsIs policy name value then value.toList else Text.escape value.toList := by
  cases policy with
  | preserve => simp [sanitize, KeptAsIs]
  | escape =>
    rw [sanitize]
    congr 1
    rw [carriesTable_iff, KeptAsIs]
    simp

theorem fillName_eq_inserted (policy : SanitizePolicy) (data : DataSet) (name : String) :
    fillName policy data name = (inserted policy data name).toList := by
  rw [fillName, inserted]
  cases data.get? name with
  | none => simp
  | some value =>
    simp only [sanitize_eq]
    split
    · rfl
    · exact (String.toList_ofList).symm

namespace Placeholder

/-- Where no opening begins there is no placeholder. -/
theorem no_match_of_no_opening {cs : List Char} (h : ¬ openingBraces <+: cs) : pattern cs = none := by
  cases hp : pattern cs with
  | none => rfl
  | some found =>
    obtain ⟨rfl, -, -⟩ := pattern_eq_some.mp hp
    exact absurd (List.prefix_append openingBraces _) h

/-- Text stays as it is up to a place that, with the character standing there, completes no
opening. -/
theorem pieces_literal {cs rest : List Char} (h : ¬ openingBraces <:+: cs ++ rest.take 1) :
    pieces (cs ++ rest) = cs.map .char ++ pieces rest := by
  induction cs with
  | nil => rfl
  | cons c cs ih =>
    rw [List.cons_append, List.infix_cons_iff, not_or] at h
    have hnone : pattern (c :: (cs ++ rest)) = none := by
      apply no_match_of_no_opening
      intro hopen
      apply h.1
      have hnext : (cs ++ rest.take 1).take 1 = (cs ++ rest).take 1 := by
        cases cs with
        | nil => rw [List.nil_append, List.nil_append, List.take_take, Nat.min_self]
        | cons d cs => rfl
      rw [List.prefix_iff_eq_take] at hopen ⊢
      exact hopen.trans (congrArg (c :: ·) hnext.symm)
    rw [List.cons_append, pieces_of_no_match hnone, ih h.2, List.map_cons, List.cons_append]

end Placeholder

namespace Slot

theorem no_opening_at_name (s : Slot) (rest : List Char) :
    ¬ Placeholder.openingBraces <:+: s.before.text.toList
      ++ (Placeholder.written s.name.text.toList ++ rest).take 1 := by
  rw [Placeholder.written, List.cons_append, List.take_succ_cons, List.take_zero,
    List.infix_concat_iff, not_or]
  refine ⟨?_, s.before.noOpening⟩
  intro hsuffix
  have hlast : ['{'] <:+ s.before.text.toList := by
    rw [Placeholder.openingBraces, show ['{', '{'] = ['{'] ++ ['{'] from rfl] at hsuffix
    obtain ⟨front, hfront⟩ := hsuffix
    rw [← List.append_assoc] at hfront
    exact ⟨front, List.append_cancel_right hfront⟩
  obtain ⟨front, hfront⟩ := hlast
  apply s.apart
  rw [← hfront, List.getLast?_concat]

theorem pieces_written (s : Slot) (rest : List Char) :
    Placeholder.pieces (s.written ++ rest) = s.pieces ++ Placeholder.pieces rest := by
  have hne : s.name.text.toList ≠ [] := by
    rw [ne_eq, String.toList_eq_nil_iff]
    exact s.name.nonempty
  have hname : pattern (Placeholder.written s.name.text.toList ++ rest)
      = some (s.name.text.toList, rest) :=
    pattern_eq_some.mpr ⟨by simp [Placeholder.written], hne, s.name.noClosing⟩
  rw [written, List.append_assoc, pieces_literal (s.no_opening_at_name rest),
    pieces_of_match hname, pieces, List.append_assoc, List.singleton_append]

theorem names_pieces (s : Slot) : s.pieces.filterMap Piece.name? = [s.field] := by
  rw [pieces, List.filterMap_append, filterMap_chars, List.nil_append]
  rfl

theorem fill_pieces (s : Slot) (policy : SanitizePolicy) (data : DataSet) :
    s.pieces.flatMap (fillPiece policy data)
      = s.before.text.toList ++ (inserted policy data s.field).toList := by
  rw [pieces, List.flatMap_append, flatMap_chars, ← fillName_eq_inserted, List.flatMap_singleton]
  rfl

end Slot

/-- A section is cut exactly at the placeholders that were written. -/
theorem pieces_slots (slots : List Slot) (rest : List Char) :
    pieces (slots.flatMap Slot.written ++ rest)
      = slots.flatMap Slot.pieces ++ pieces rest := by
  induction slots with
  | nil => rfl
  | cons s slots ih =>
    rw [List.flatMap_cons, List.append_assoc, s.pieces_written, ih, List.flatMap_cons,
      List.append_assoc]

theorem Literal.pieces_text (l : Literal) : pieces l.text.toList = l.text.toList.map .char := by
  have hend : ¬ Placeholder.openingBraces <:+: l.text.toList ++ List.take 1 [] := by
    simpa using l.noOpening
  have hall := pieces_literal hend
  rwa [List.append_nil, pieces_nil, List.append_nil] at hall

namespace MarkedSection

variable (s : MarkedSection)

theorem pieces_text : pieces s.text.toList
    = s.slots.flatMap Slot.pieces ++ s.last.text.toList.map .char := by
  rw [text, String.toList_ofList, pieces_slots, s.last.pieces_text]

theorem not_blank : Text.blank s.text = false := by
  obtain ⟨slot, hslot⟩ := List.exists_mem_of_ne_nil _ s.marked
  rw [Bool.eq_false_iff]
  intro hblank
  have hbrace : '{' ∈ s.text.toList := by
    rw [text, String.toList_ofList]
    apply List.mem_append_left
    apply List.mem_flatMap_of_mem hslot
    simp [Slot.written, Placeholder.written]
  exact absurd (List.all_eq_true.mp hblank _ hbrace) (by decide)

/-- The names of a section are those of its placeholders, each at its first place. Filling it keeps
the literal texts and puts for each placeholder what the data hold for its field, or a mark. -/
theorem filled_exactly (policy : SanitizePolicy) (data : DataSet) :
    Placeholder.names s.text = (s.slots.map Slot.field).eraseDups ∧
    fillSection policy data (some s.text)
      = s.slots.flatMap (fun slot =>
          slot.before.text.toList ++ (inserted policy data slot.field).toList)
        ++ s.last.text.toList := by
  constructor
  · have hnames : s.slots.flatMap (fun slot => slot.pieces.filterMap Piece.name?)
        = s.slots.map Slot.field := by
      simp only [Slot.names_pieces, ← List.map_eq_flatMap]
    rw [names_eq_eraseDups, occurrences, s.pieces_text, List.filterMap_append,
      List.filterMap_flatMap, hnames, filterMap_chars, List.append_nil]
  · rw [fillSection, s.not_blank, if_neg Bool.false_ne_true, substitute, s.pieces_text,
      List.flatMap_append, List.flatMap_assoc, flatMap_chars]
    simp only [Slot.fill_pieces]

/-- Names with a brace, a line break and a mark of tables, next to loose braces and each other. -/
def threeNames : MarkedSection where
  slots := [
    ⟨⟨"<h1>\x7d", by decide⟩, by decide, ⟨"\x7b Total\n", by decide, by decide⟩⟩,
    ⟨⟨"", by decide⟩, by decide, ⟨"Tabela", by decide, by decide⟩⟩,
    ⟨⟨"\x7b, ", by decide⟩, by decide, ⟨"Gone", by decide, by decide⟩⟩]
  marked := by decide
  last := ⟨"\x7d\x7d \x7b", by decide⟩

/-- A placeholder inside a value is not filled, and a missing value is marked. -/
theorem threeNames_filled :
    let data : DataSet :=
      ⟨[("\x7b Total", "<b>\x7b\x7bTabela\x7d\x7d & $1</b>"), ("Tabela", "<tr>&</tr>")]⟩
    threeNames.text = "<h1>\x7d\x7b\x7b\x7b Total\n\x7d\x7d\x7b\x7bTabela\x7d\x7d"
        ++ "\x7b, \x7b\x7bGone\x7d\x7d\x7d\x7d \x7b" ∧
      Placeholder.names threeNames.text = ["\x7b Total", "Tabela", "Gone"] ∧
      fillSection .escape data (some threeNames.text)
        = ("<h1>\x7d&lt;b&gt;\x7b\x7bTabela\x7d\x7d &amp; $1&lt;/b&gt;<tr>&</tr>"
          ++ "\x7b, [Gone not found]\x7d\x7d \x7b").toList := by
  intro data
  obtain ⟨hnames, hfilled⟩ := threeNames.filled_exactly .escape data
  rw [hnames, hfilled]
  decide +kernel

end MarkedSection

end Folio
