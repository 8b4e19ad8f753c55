import Folio.Page
import Folio.Proofs.Paragraphs

namespace Folio.Markup

variable {α γ : Type} {p : Pattern α} {see : α → γ} {w : List Char}

/-- The words with which the matches of the five scans begin. -/
def scanWords : List (List Char) :=
  ["<h1".toList, "<p".toList, "<table".toList, "<strong>Total:</strong>".toList, "<div".toList]

/-- The fixed parts of a page. -/
def shellParts : List (List Char) :=
  [Page.beforeTitle.toList, Page.beforeStyle.toList, Page.beforeSections.toList,
    Page.ending.toList]

theorem quiet_shell : ∀ w ∈ scanWords, ∀ part ∈ shellParts, quiet w part = true := by
  decide +kernel

theorem silent_shell (hw : w ∈ scanWords) (hp : Leads w p) {part : List Char}
    (h : part ∈ shellParts) : Silent p part :=
  silent_of_quiet hp (quiet_shell w hw part h)

theorem silent_plain (hw : w ∈ scanWords) (hp : Leads w p) {cs : List Char} (h : '<' ∉ cs) :
    Silent p cs := by
  obtain ⟨w', rfl⟩ : ∃ w', w = '<' :: w' := by
    simp only [scanWords, List.mem_cons, List.not_mem_nil, or_false] at hw
    rcases hw with rfl | rfl | rfl | rfl | rfl <;> exact ⟨_, rfl⟩
  exact silent_text hp h

/-- What stands on a page before its sections. -/
def pageHead (title css : String) : List Char :=
  Page.beforeTitle.toList ++ Text.escape title.toList ++ Page.beforeStyle.toList ++ css.toList
    ++ Page.beforeSections.toList

/-- No title makes a match ahead of the sections, nor does a style sheet without tags. -/
theorem silent_pageHead (hw : w ∈ scanWords) (hp : Leads w p) (title : String) {css : String}
    (hcss : '<' ∉ css.toList) : Silent p (pageHead title css) := by
  have hshell (part : List Char) (h : part ∈ shellParts) : Silent p part := silent_shell hw hp h
  have hbefore := hshell Page.beforeTitle.toList (by simp [shellParts])
  have hstyle := hshell Page.beforeStyle.toList (by simp [shellParts])
  have hstart := hshell Page.beforeSections.toList (by simp [shellParts])
  have htitle := silent_plain hw hp (Text.angle_not_mem_escape (.inl rfl) title.toList)
  exact (((hbefore.append htitle).append hstyle).append (silent_plain hw hp hcss)).append hstart

theorem shows_page (hw : w ∈ scanWords) (hp : Leads w p) (title css : String)
    (hcss : '<' ∉ css.toList) {header body footer : List Char} {as bs cs : List γ}
    (hheader : Shows p see header as) (hbody : Shows p see body bs)
    (hfooter : Shows p see footer cs) :
    Shows p see (Page.assemble title css header body footer) (as ++ bs ++ cs) := by
  have hhead := (silent_pageHead hw hp title hcss).shows see
  have hbreak := (silent_plain hw hp (by decide : '<' ∉ ['\n'])).shows see
  have hend : Silent p Page.ending.toList := silent_shell hw hp (by simp [shellParts])
  have hending := hend.shows see
  have hsections := ((hheader.append hbreak).append (hbody.append hbreak)).append
    (hfooter.append hbreak)
  have hall := (hhead.append hsections).append hending
  simpa [Page.assemble, pageHead] using hall

end Folio.Markup
