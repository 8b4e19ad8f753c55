import Folio.Markup.Extract
import Folio.Proofs.Scans

namespace Folio.Markup
open Pattern

variable {α γ : Type} {p : Pattern α} {see : α → γ} {w name content : List Char}

/-- White space between tags. -/
structure Gap where
  text : List Char
  blank : text.all Text.isBlank = true

/-- What may stand behind the name in an opening tag: nothing, or white space and text without
angle brackets. -/
structure Attributes where
  text : List Char
  spaced : ∀ c ∈ text.head?, Text.isBlank c = true
  noLess : '<' ∉ text
  noGreater : '>' ∉ text

/-- A text without line breaks. -/
structure Line where
  text : String
  oneLine : '\n' ∉ text.toList

def opening (name : List Char) (a : Attributes) : List Char :=
  '<' :: (name ++ a.text ++ ['>'])

def closing (name : List Char) : List Char :=
  ['<', '/'] ++ name ++ ['>']

def element (name : List Char) (a : Attributes) (content : List Char) : List Char :=
  opening name a ++ content ++ closing name

theorem not_less_of_blank {cs : List Char} (h : cs.all Text.isBlank = true) : '<' ∉ cs := by
  intro hm
  exact absurd (List.all_eq_true.mp h _ hm) (by decide)

theorem Gap.silent (g : Gap) (hp : Leads ('<' :: w) p) : Silent p g.text :=
  silent_text hp (not_less_of_blank g.blank)

theorem toTagEnd_append {cs : List Char} (h : '>' ∉ cs) (rest : List Char) :
    toTagEnd (cs ++ '>' :: rest) = some ((), rest) := by
  induction cs with
  | nil => simp [toTagEnd]
  | cons c cs ih =>
    simp only [List.mem_cons, not_or] at h
    simp [toTagEnd, Ne.symm h.1, ih h.2]

theorem opener_opening (name : List Char) (a : Attributes) (rest : List Char) :
    opener name (opening name a ++ rest) = some ((), rest) := by
  have hword : opening name a ++ rest = ('<' :: name) ++ (a.text ++ '>' :: rest) := by
    simp [opening]
  rw [hword]
  simp only [opener, andThen, literal_append, Option.bind_some]
  cases ht : a.text with
  | nil => simp
  | cons c cs =>
    have hc : Text.isBlank c = true := a.spaced c (by simp [ht])
    have hg := a.noGreater
    rw [ht, List.mem_cons, not_or] at hg
    simp [Ne.symm hg.1, hc, toTagEnd_append hg.2]

theorem andThen_opening {β : Type} (q : Pattern β) (name : List Char) (a : Attributes)
    (rest : List Char) : andThen (opener name) q (opening name a ++ rest) = q rest := by
  simp [andThen, opener_opening]

/-- A pattern that begins with `<` and this word matches in no tag of elements of this name. -/
def passes (w name : List Char) : Bool :=
  !name.contains '<' && clash w name && clash w ('/' :: name ++ ['>'])

theorem passes_iff : passes w name = true ↔
    '<' ∉ name ∧ clash w name = true ∧ clash w ('/' :: name ++ ['>']) = true := by
  simp [passes, and_assoc]

theorem silent_closing (hp : Leads ('<' :: w) p) (hname : '<' ∉ name)
    (hc : clash w ('/' :: name ++ ['>']) = true) : Silent p (closing name) := by
  apply silent_tag hp hc
  simp [hname]

theorem silent_tags (hp : Leads ('<' :: w) p) (h : passes w name = true) (a : Attributes) :
    Silent p (opening name a) ∧ Silent p (closing name) := by
  obtain ⟨hname, hopen, hclose⟩ := passes_iff.mp h
  refine ⟨?_, silent_closing hp hname hclose⟩
  apply silent_tag hp
  · rw [List.append_assoc]
    exact clash_append hopen _
  · simp [hname, a.noLess]

theorem Shows.in_element (hp : Leads ('<' :: w) p) (h : passes w name = true) (a : Attributes)
    {shown : List γ} (hc : Shows p see content shown) :
    Shows p see (element name a content) shown :=
  Shows.between (silent_tags hp h a).1 hc (silent_tags hp h a).2

theorem silent_element (hp : Leads ('<' :: w) p) (h : passes w name = true) (a : Attributes)
    (hc : Silent p content) : Silent p (element name a content) :=
  ((silent_tags hp h a).1.append hc).append (silent_tags hp h a).2

theorem element_ne_nil (name : List Char) (a : Attributes) (content : List Char) :
    element name a content ≠ [] := by
  simp [element, opening]

theorem element_append (name : List Char) (a : Attributes) (content rest : List Char) :
    element name a content ++ rest = opening name a ++ (content ++ (closing name ++ rest)) := by
  simp [element]

theorem leads_lineElement (name : List Char) : Leads ('<' :: name) (lineElement name) :=
  (leads_opener name).andThen _

theorem leads_blockElement (name : List Char) : Leads ('<' :: name) (blockElement name) :=
  (leads_opener name).andThen _

theorem leads_closing (name : List Char) :
    Leads ('<' :: ('/' :: name ++ ['>'])) (literal (closing name)) :=
  leads_literal _

theorem onLine_of_not_mem {cs : List Char} (h : '\n' ∉ cs) : ∀ c ∈ cs, onLine c = true := by
  intro c hc
  simp only [onLine, bne_iff_ne]
  rintro rfl
  exact h hc

/-- An element on one line is found; one whose text is broken over lines is passed over, and so is
what stands in it. -/
theorem finds_lineElement (name : List Char) (hname : '<' ∉ name)
    (hclose : clash name ('/' :: name ++ ['>']) = true) (a : Attributes)
    (hcontent : '<' ∉ content) :
    Finds (lineElement name) (element name a content)
      (if '\n' ∈ content then [] else [content]) := by
  have hs : Silent (literal (closing name)) content := silent_text (leads_closing name) hcontent
  split
  · rename_i hbroken
    have hp := leads_lineElement name
    have hhead : ∀ rest, lineElement name (element name a content ++ rest) = none := by
      intro rest
      rw [element_append, lineElement, andThen_opening]
      exact contentTo_blocked hs hbroken (by decide) _
    have htail : Silent (lineElement name) (name ++ a.text ++ ['>']) :=
      silent_text hp (by simp [hname, a.noLess])
    have hbody : Silent (lineElement name) (name ++ a.text ++ ['>'] ++ content ++ closing name) :=
      (htail.append (silent_text hp hcontent)).append (silent_closing hp hname hclose)
    exact Silent.finds ⟨hhead, hbody⟩
  · rename_i hline
    apply finds_of_match (element_ne_nil name a content)
    intro rest
    rw [element_append, lineElement, andThen_opening]
    exact contentTo_of_silent hs (onLine_of_not_mem hline) rest

theorem finds_blockElement (a : Attributes) (hs : Silent (literal (closing name)) content) :
    Finds (blockElement name) (element name a content) [content] := by
  apply finds_of_match (element_ne_nil name a content)
  intro rest
  rw [element_append, blockElement, andThen_opening]
  exact contentTo_of_silent hs (fun _ _ => rfl) rest

end Folio.Markup
