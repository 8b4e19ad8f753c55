import Folio.Engine
import Folio.Proofs.AtomicWrites
import Folio.Proofs.Directories

namespace Folio

namespace Drawing

theorem renditionOf_of_prepare {fonts : FontSource} {d : Disk} {document : List Primitive}
    {rendition : Rendition} (h : prepare fonts d document = .ok rendition) :
    renditionOf document = .ok rendition := by
  unfold prepare at h
  cases hf : fonts.load d with
  | error e =>
    rw [hf] at h
    cases h
  | ok _ =>
    rw [hf] at h
    cases hr : renditionOf document with
    | error e =>
      rw [hr] at h
      cases h
    | ok made =>
      rw [hr] at h
      exact congrArg Except.ok (Except.ok.inj h)

/-- Painting changes nothing, or it writes the rendition of the document to its path. -/
theorem paint_cases (fonts : FontSource) (d : Disk) (document : List Primitive) (path : String) :
    (∃ e, paint fonts d document path = (.error e, d)) ∨
    ∃ rendition place d', paint fonts d document path = (.ok (), d') ∧
      renditionOf document = .ok rendition ∧
      Disk.Written d rendition.fileBytes path place d' := by
  unfold paint
  cases hp : prepare fonts d document with
  | error e => exact .inl ⟨e, rfl⟩
  | ok rendition =>
    simp only
    obtain ⟨e, hw⟩ | ⟨place, d', hw, hwritten⟩ := d.writeAtomically_cases rendition.fileBytes path
    · rw [hw]
      exact .inl ⟨.notWritten e, rfl⟩
    · rw [hw]
      exact .inr ⟨rendition, place, d', rfl, renditionOf_of_prepare hp, hwritten⟩

end Drawing

theorem pageBackend_cases (fonts : Drawing.FontSource) (d : Disk) (document : List Primitive)
    (path : String) : (∃ reason, pageBackend fonts d document path = (.error reason, d)) ∨
      ∃ rendition place d', pageBackend fonts d document path = (.ok (), d') ∧
        Drawing.renditionOf document = .ok rendition ∧
        Disk.Written d rendition.fileBytes path place d' := by
  unfold pageBackend
  obtain ⟨e, hp⟩ | ⟨rendition, place, d', hp, hwritten⟩ := Drawing.paint_cases fonts d document path
  · exact .inl ⟨e.message, by rw [hp]⟩
  · exact .inr ⟨rendition, place, d', by rw [hp], hwritten⟩

namespace Engine
open Store Drawing

/-- A disk on which directories of the output may have been made, and nothing else has changed. -/
def Prepared (e : Engine) (d d' : Disk) : Prop :=
  Disk.Extends d (d.origin e.outputDirectory) (Disk.plainParts e.outputDirectory) d'

/-- A failed generation leaves a prepared disk behind; one that succeeds has written the rendition of
its document to the path it tells, and nothing else. -/
def LeavesWhole (e : Engine) (d : Disk) (document : List Primitive) (g : Generation) : Prop :=
  match g.result with
  | .error _ => e.Prepared d g.disk
  | .ok path => ∃ rendition prepared place, renditionOf document = .ok rendition ∧
      e.Prepared d prepared ∧ Disk.Written prepared rendition.fileBytes path place g.disk

/-- The backend is called at most once, and a report is where the backend was told to paint it. -/
def PaintsOnce (e : Engine) (document : List Primitive) (file : String) (g : Generation) : Prop :=
  match g.result with
  | .error _ => g.painted = [] ∨ g.painted = [(document, joinPath e.outputDirectory file)]
  | .ok path => path = joinPath e.outputDirectory file ∧ g.painted = [(document, path)]

variable (e : Engine) (d : Disk) (document : List Primitive) (file : String)

theorem makeOutput_prepared : e.Prepared d (e.makeOutput d).2 := by
  rw [makeOutput]
  split
  · exact Disk.Extends.refl _ _ _
  · exact d.makeDirectories_extends e.outputDirectory

theorem writeArtifact_paintsOnce : e.PaintsOnce document file (e.writeArtifact d document file) := by
  unfold writeArtifact
  obtain ⟨made, d⟩ := e.makeOutput d
  cases made with
  | error error => exact .inl rfl
  | ok _ =>
    simp only
    obtain ⟨painted, d⟩ := e.backend d document (joinPath e.outputDirectory file)
    cases painted with
    | error reason => exact .inr rfl
    | ok _ => exact ⟨rfl, rfl⟩

theorem writeArtifact_leavesWhole {fonts : FontSource} (hb : e.backend = pageBackend fonts) :
    e.LeavesWhole d document (e.writeArtifact d document file) := by
  have hprepared := e.makeOutput_prepared d
  unfold writeArtifact
  generalize e.makeOutput d = made at hprepared
  obtain ⟨result, prepared⟩ := made
  cases result with
  | error error => exact hprepared
  | ok _ =>
    simp only [hb]
    obtain ⟨reason, hp⟩ | ⟨rendition, place, d', hp, hr, hwritten⟩ :=
      pageBackend_cases fonts prepared document (joinPath e.outputDirectory file)
    · rw [hp]
      exact hprepared
    · rw [hp]
      exact ⟨rendition, prepared, place, hr, hprepared, hwritten⟩

/-- A generation fails as the preview does, and then does nothing else. The document of a preview is
handed to the backend at most once; with the backend that draws pages, the whole report is left
behind or no file at all. -/
theorem generate_agrees (db : Database) (now : DateTime) (name : String) :
    match e.preview db name with
    | .error error => e.generate db d now name = ⟨.error error, d, []⟩
    | .ok document =>
      e.PaintsOnce document (artifactName name now) (e.generate db d now name) ∧
      ∀ fonts, e.LeavesWhole d document
        ({ e with backend := pageBackend fonts }.generate db d now name) := by
  have hpages (fonts : FontSource) :
      { e with backend := pageBackend fonts }.preview db name = e.preview db name := rfl
  simp only [generate, hpages]
  cases e.preview db name with
  | error error => rfl
  | ok document =>
    refine ⟨e.writeArtifact_paintsOnce d document (artifactName name now), ?_⟩
    intro fonts
    exact writeArtifact_leavesWhole { e with backend := pageBackend fonts } d document
      (artifactName name now) rfl

end Engine

end Folio
