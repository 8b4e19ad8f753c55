import Folio.Proofs.WrittenText

namespace Folio.Markup
open Pattern

variable {α : Type} {p : Pattern α} {w : List Char}

/-- The rest of a paragraph is its text without the white space in front. -/
theorem restOfParagraph_append {cs : List Char} (hless : '<' ∉ cs) (hline : '\n' ∉ cs)
    (rest : List Char) :
    restOfParagraph (' ' :: cs ++ (closing "p".toList ++ rest))
      = some (Text.trimStart cs, rest) := by
  have hb : Text.isBlank ' ' = true := by decide
  have htrim : Text.trimStart (' ' :: cs) = Text.trimStart cs := by simp [Text.trimStart, hb]
  have hskip : blanks (' ' :: cs ++ (closing "p".toList ++ rest))
      = some ((), Text.trimStart cs ++ (closing "p".toList ++ rest)) := by
    rw [← htrim]
    exact blanks_before_tag (' ' :: cs) _
  rw [restOfParagraph, andThen, hskip]
  exact contentTo_of_silent
    (silent_text (leads_closing "p".toList) (not_less_trimStart hless))
    (onLine_of_not_mem (not_break_trimStart hline)) rest

theorem leads_labelledParagraph : Leads "<p".toList labelledParagraph :=
  (leads_opener "p".toList).andThen _

theorem leads_totalLine : Leads "<strong>Total:</strong>".toList totalLine :=
  (leads_literal _).andThen _

theorem leads_footerBlock : Leads "<div".toList footerBlock :=
  ((leads_literal _).andThen _).andThen _

theorem silent_labelled (hp : Leads ('<' :: w) p) (h : passes w "strong".toList = true)
    {label value : List Char} (hlabel : '<' ∉ label) (hvalue : '<' ∉ value) :
    Silent p (labelled label value) := by
  apply (silent_element hp h .none (silent_text hp hlabel)).append
  exact silent_text hp (by simp [hvalue])

theorem labelled_append (label value rest : List Char) : labelled label value ++ rest
    = "<strong>".toList ++ (label ++ ("</strong>".toList ++ (' ' :: value ++ rest))) := by
  simp [labelled, element, opening, closing, Attributes.none]

/-- A labelled paragraph gives its label and its value without the white space in front. -/
theorem labelledParagraph_append (a : Attributes) (label value : Line) (rest : List Char) :
    labelledParagraph
        (element "p".toList a (labelled label.written value.written) ++ rest)
      = some ((label.written, Text.trimStart value.written), rest) := by
  rw [element_append, labelledParagraph, andThen_opening, labelled_append, andThen,
    literal_append]
  have hs : Silent (andThen (literal "</strong>".toList) restOfParagraph) label.written :=
    silent_text ((leads_literal "</strong>".toList).andThen _) (not_less_written label)
  apply upTo_of_silent hs (onLine_of_not_mem (not_break_written label))
  rw [andThen, literal_append]
  exact restOfParagraph_append (not_less_written value) (not_break_written value) rest

/-- A paragraph that does not begin with a tag is no labelled paragraph. -/
theorem silent_plainParagraph (a : Attributes) {cs : List Char} (h : '<' ∉ cs) :
    Silent labelledParagraph (element "p".toList a cs) := by
  have hp := leads_labelledParagraph
  have hhead : ∀ rest, labelledParagraph (element "p".toList a cs ++ rest) = none := by
    intro rest
    rw [element_append, labelledParagraph, andThen_opening]
    apply (leads_literal "<strong>".toList).andThen
    cases cs with
    | nil => rfl
    | cons c cs =>
      simp only [List.mem_cons, not_or] at h
      exact isPrefixOf_of_clash (by simp [clash, h.1])
  have htail : Silent labelledParagraph ("p".toList ++ a.text ++ ['>']) :=
    silent_text hp (by simp [a.noLess])
  have hclose : Silent labelledParagraph (closing "p".toList) :=
    silent_closing hp (by decide) (by decide)
  exact ⟨hhead, (htail.append (silent_text hp h)).append hclose⟩

theorem written_eq_total_iff (l : Line) : l.written = "Total:".toList ↔ l.text = "Total:" := by
  constructor
  · intro h
    have hd := congrArg Text.Entity.decode h
    rw [Line.written, Text.Entity.decode_escape] at hd
    exact String.toList_inj.mp (hd.trans (by decide))
  · intro h
    rw [Line.written, h]
    decide

theorem totalLine_append (value : Line) (rest : List Char) :
    totalLine (labelled "Total:".toList value.written ++ (closing "p".toList ++ rest))
      = some (Text.trimStart value.written, rest) := by
  rw [labelled_append, totalLine, andThen]
  have hword (ys : List Char) : "<strong>".toList ++ ("Total:".toList ++ ("</strong>".toList ++ ys))
      = "<strong>Total:</strong>".toList ++ ys := rfl
  rw [hword, literal_append]
  exact restOfParagraph_append (not_less_written value) (not_break_written value) rest

theorem silent_total_of_ne {label : Line} (h : label.text ≠ "Total:") (value : Line) :
    Silent totalLine (labelled label.written value.written ++ closing "p".toList) := by
  have hp := leads_totalLine
  have hhead : ∀ rest, totalLine
      (labelled label.written value.written ++ closing "p".toList ++ rest) = none := by
    intro rest
    apply hp
    rw [List.append_assoc, labelled_append, Bool.eq_false_iff]
    intro hprefix
    apply h ∘ (written_eq_total_iff label).mp
    exact (eq_of_isPrefixOf_less (by decide) (not_less_written label) hprefix).symm
  have hopen : Silent totalLine ("strong".toList ++ ['>']) := silent_text hp (by decide)
  have hclose (name : List Char) (hname : '<' ∉ name)
      (hc : clash "strong>Total:</strong>".toList ('/' :: name ++ ['>']) = true) :
      Silent totalLine (closing name) := silent_closing hp hname hc
  have hvalue : Silent totalLine (' ' :: value.written) :=
    silent_text hp (by simp [not_less_written value])
  have htail := (((hopen.append (silent_text hp (not_less_written label))).append
    (hclose "strong".toList (by decide) (by decide))).append hvalue).append
    (hclose "p".toList (by decide) (by decide))
  exact ⟨hhead, htail⟩

end Folio.Markup
