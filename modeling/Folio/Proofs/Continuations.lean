import Folio.Proofs.StablePatterns

namespace Folio

/-- The kinds of primitives. -/
inductive Motif where
  | title
  | labelValue
  | table
  | total
  | footer
deriving DecidableEq

def Primitive.motif : Primitive → Motif
  | title _ => .title
  | labelValue _ _ => .labelValue
  | table _ _ => .table
  | total _ => .total
  | footer _ => .footer

/-- The primitives of one kind in a document. -/
def ofMotif (motif : Motif) (document : List Primitive) : List Primitive :=
  document.filter fun p => p.motif = motif

end Folio

namespace Folio.Markup
open Pattern

variable {α β : Type} {p : Pattern α} {cs rest : List Char}

theorem firstMatch_of_match {found : α × List Char} (h : p cs = some found) :
    firstMatch p cs = some found := by
  cases cs with
  | nil => exact h
  | cons c cs => rw [firstMatch, h]

theorem firstMatch_of_no_match {c : Char} (h : p (c :: cs) = none) :
    firstMatch p (c :: cs) = firstMatch p cs := by
  rw [firstMatch, h]

theorem match_of_firstMatch {found : α × List Char} (h : firstMatch p cs = some found) :
    ∃ place, place <:+ cs ∧ p place = some found := by
  induction cs with
  | nil => exact ⟨[], List.suffix_refl _, h⟩
  | cons c cs ih =>
    cases hc : p (c :: cs) with
    | some first =>
      rw [firstMatch_of_match hc] at h
      exact ⟨c :: cs, List.suffix_refl _, by rw [hc, h]⟩
    | none =>
      rw [firstMatch_of_no_match hc] at h
      obtain ⟨place, hplace, hmatch⟩ := ih h
      exact ⟨place, hplace.trans (List.suffix_cons c cs), hmatch⟩

/-- The first match of a text is the first match of every text that goes on from it. -/
theorem Stable.firstMatch_append (hp : Stable p) {a : α} (h : firstMatch p cs = some (a, rest))
    (more : List Char) : firstMatch p (cs ++ more) = some (a, rest ++ more) := by
  induction cs with
  | nil => exact firstMatch_of_match (hp.keeps h more)
  | cons c cs ih =>
    cases hc : p (c :: cs) with
    | some found =>
      rw [firstMatch_of_match hc] at h
      rw [h] at hc
      exact firstMatch_of_match (hp.keeps hc more)
    | none =>
      rw [firstMatch_of_no_match hc] at h
      obtain ⟨place, hplace, hmatch⟩ := match_of_firstMatch h
      have hnone := hp.refuses hc (hplace.trans (List.suffix_cons c cs)) hmatch more
      rw [List.cons_append] at hnone ⊢
      rw [firstMatch_of_no_match hnone, ih h]

theorem matchesFrom_eq_nil (h : ∀ place, place <:+ cs → p place = none) (skip : Nat) :
    matchesFrom p skip cs = [] := by
  induction cs generalizing skip with
  | nil => rw [matchesFrom]
  | cons c cs ih =>
    have hbehind : ∀ place, place <:+ cs → p place = none :=
      fun place hplace => h place (hplace.trans (List.suffix_cons c cs))
    cases skip with
    | zero =>
      rw [matchesFrom, h _ (List.suffix_refl _)]
      exact ih hbehind 0
    | succ skip =>
      rw [matchesFrom]
      exact ih hbehind skip

/-- The matches of a text are the first matches of every text that goes on from it. -/
theorem Stable.matchesFrom_append (hp : Stable p) (skip : Nat) (cs more : List Char) :
    matchesFrom p skip cs <+: matchesFrom p skip (cs ++ more) := by
  induction cs generalizing skip with
  | nil =>
    rw [matchesFrom]
    exact List.nil_prefix
  | cons c cs ih =>
    cases skip with
    | succ skip =>
      rw [List.cons_append, matchesFrom, matchesFrom]
      exact ih skip
    | zero =>
      cases hc : p (c :: cs) with
      | some found =>
        obtain ⟨a, rest⟩ := found
        have hmore := hp.keeps hc more
        rw [List.cons_append] at hmore ⊢
        -- The characters taken by the match are as many with more text behind it.
        have htaken : (cs ++ more).length - (rest ++ more).length = cs.length - rest.length := by
          rw [List.length_append, List.length_append, Nat.add_sub_add_right]
        rw [matchesFrom, matchesFrom, hc, hmore]
        simp only [htaken]
        exact List.cons_prefix_cons.mpr ⟨rfl, ih _⟩
      | none =>
        by_cases hany : ∃ place found, place <:+ cs ∧ p place = some found
        · obtain ⟨place, found, hplace, hmatch⟩ := hany
          have hnone := hp.refuses hc (hplace.trans (List.suffix_cons c cs)) hmatch more
          rw [List.cons_append] at hnone ⊢
          rw [matchesFrom, matchesFrom, hc, hnone]
          exact ih 0
        · have hnil : matchesFrom p 0 cs = [] := by
            apply matchesFrom_eq_nil
            intro place hplace
            cases hmatch : p place with
            | none => rfl
            | some found => exact absurd ⟨place, found, hplace, hmatch⟩ hany
          rw [matchesFrom, hc]
          simp only [hnil]
          exact List.nil_prefix

/-- What the scan for one kind of primitives finds in a text. -/
def findings (cs : List Char) : Motif → List Primitive
  | .title => (titleOf cs).toList.map .title
  | .labelValue => (labelledRows cs).map fun (label, value) => .labelValue label value
  | .table => (tableOf cs).toList.map fun (headers, rows) => .table headers rows
  | .total => (totalOf cs).toList.map .total
  | .footer => (footerLines cs).map .footer

theorem motif_of_findings {motif : Motif} {primitive : Primitive}
    (h : primitive ∈ findings cs motif) : primitive.motif = motif := by
  cases motif
  all_goals
    obtain ⟨content, -, rfl⟩ := List.mem_map.mp h
    rfl

theorem ofMotif_findings (motif own : Motif) (cs : List Char) :
    ofMotif motif (findings cs own) = if own = motif then findings cs own else [] := by
  rw [ofMotif]
  split
  · rename_i hm
    rw [List.filter_eq_self]
    intro primitive hp
    simp [motif_of_findings hp, hm]
  · rename_i hm
    rw [List.filter_eq_nil_iff]
    intro primitive hp
    simp [motif_of_findings hp, hm]

theorem ofMotif_append (motif : Motif) (as bs : List Primitive) :
    ofMotif motif (as ++ bs) = ofMotif motif as ++ ofMotif motif bs :=
  List.filter_append ..

/-- The primitives of a kind in a document are those that the scan for them finds. -/
theorem ofMotif_extractFrom (motif : Motif) (cs : List Char) :
    ofMotif motif (extractFrom cs) = findings cs motif := by
  have hparts : extractFrom cs = findings cs .title ++ findings cs .labelValue ++ findings cs .table
      ++ findings cs .total ++ findings cs .footer := by
    simp only [extractFrom, findings, Option.toList_map]
  rw [hparts]
  simp only [ofMotif_append, ofMotif_findings]
  cases motif <;> simp

variable {see : α → β}

/-- What the first match shows is shown also when the text goes on. -/
theorem Stable.first_append (hp : Stable p) {b : β}
    (h : (firstMatch p cs).map (fun found => see found.1) = some b) (more : List Char) :
    (firstMatch p (cs ++ more)).map (fun found => see found.1) = some b := by
  obtain ⟨⟨a, rest⟩, hfirst, rfl⟩ := Option.map_eq_some_iff.mp h
  rw [hp.firstMatch_append hfirst more]
  rfl

/-- A motif that is shown once is shown alike also when the text goes on. -/
theorem findings_append {motif : Motif} (hm : motif ∈ [Motif.title, .table, .total])
    {primitive : Primitive} (h : primitive ∈ findings cs motif) (more : List Char) :
    findings (cs ++ more) motif = [primitive] := by
  have hkept {γ : Type} {before after : Option γ} {f : γ → Primitive}
      (hsame : ∀ content, before = some content → after = some content)
      (h : primitive ∈ before.toList.map f) : after.toList.map f = [primitive] := by
    obtain ⟨content, hcontent, rfl⟩ := List.mem_map.mp h
    rw [hsame content (Option.mem_toList.mp hcontent)]
    rfl
  simp only [List.mem_cons, List.not_mem_nil, or_false] at hm
  obtain rfl | rfl | rfl := hm
  · exact hkept (fun _ ht => stable_heading.first_append ht more) h
  · exact hkept (fun _ ht => stable_tableBlock.first_append ht more) h
  · exact hkept (fun _ ht => stable_totalLine.first_append ht more) h

theorem footerLines_append (h : firstMatch footerBlock cs ≠ none) (more : List Char) :
    footerLines (cs ++ more) = footerLines cs := by
  cases hf : firstMatch footerBlock cs with
  | none => exact absurd hf h
  | some first =>
    obtain ⟨raw, rest⟩ := first
    rw [footerLines, footerLines, stable_footerBlock.firstMatch_append hf more, hf]

theorem labelledRows_append (cs more : List Char) :
    labelledRows cs <+: labelledRows (cs ++ more) :=
  (stable_labelledParagraph.matchesFrom_append 0 cs more).map _

/-- The title, the table and the total of a text stay what they are when the text goes on, and so do
the footer lines once the footer is closed. The labelled rows come first among those of the longer
text. -/
theorem extract_append (text more : String) :
    (∀ p ∈ extract text, p.motif ∈ [Motif.title, .table, .total] →
      ofMotif p.motif (extract (text ++ more)) = [p]) ∧
    (firstMatch footerBlock text.toList ≠ none →
      ofMotif .footer (extract (text ++ more)) = ofMotif .footer (extract text)) ∧
    ofMotif .labelValue (extract text) <+: ofMotif .labelValue (extract (text ++ more)) := by
  simp only [extract, String.toList_append, ofMotif_extractFrom]
  refine ⟨?_, ?_, ?_⟩
  · intro p hp hm
    have hshown : p ∈ ofMotif p.motif (extractFrom text.toList) :=
      List.mem_filter.mpr ⟨hp, decide_eq_true rfl⟩
    rw [ofMotif_extractFrom] at hshown
    exact findings_append hm hshown more.toList
  · intro hfooter
    rw [findings, findings, footerLines_append hfooter]
  · exact (labelledRows_append text.toList more.toList).map _

/-- Openers that are left broken ahead of a title, and a text that completes a table and would close
them. -/
theorem brokenOpeners_kept :
    let text := "<h1 \n<h1>\n<h1>B</h1><div class=\"footer\"><p>x</p></div><table"
    let more := "><tr><td>1</td></tr></table></h1><div class=\"footer\"><p>y</p></div>"
    .title "B" ∈ extract text ∧ firstMatch footerBlock text.toList ≠ none ∧
    ofMotif .title (extract (text ++ more)) = [.title "B"] ∧
    ofMotif .footer (extract (text ++ more)) = [.footer "x"] := by
  intro text more
  have htitle : .title "B" ∈ extract text := by decide +kernel
  have hfooter : firstMatch footerBlock text.toList ≠ none := by decide +kernel
  have hlines : ofMotif .footer (extract text) = [.footer "x"] := by decide +kernel
  obtain ⟨hkept, hsame, -⟩ := extract_append text more
  have htitles := hkept (.title "B") htitle (by decide)
  refine ⟨htitle, hfooter, htitles, ?_⟩
  rw [hsame hfooter, hlines]

end Folio.Markup
