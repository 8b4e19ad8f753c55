import Folio.Proofs.AtomicWrites

namespace Folio

structure WriteCall where
  bytes : Bytes
  path : String

namespace Disk

/-- The tree that a write leaves behind, whether it succeeds or fails. -/
def afterWrite (d : Disk) (call : WriteCall) : Disk :=
  (d.writeAtomically call.bytes call.path).2

def afterWrites (d : Disk) (calls : List WriteCall) : Disk :=
  calls.foldl afterWrite d

/-- The place of the file that a write has left, if it succeeds. -/
def writtenPlace? (d : Disk) (call : WriteCall) : Option Location :=
  match d.writeAtomically call.bytes call.path with
  | (.ok (), after) => (after.resolve call.path).toOption
  | (.error _, _) => none

/-- The bytes of the last write that succeeded at a place. -/
def lastWrite? (d : Disk) (place : Location) : List WriteCall → Option Bytes
  | [] => none
  | call :: calls =>
    ((d.afterWrite call).lastWrite? place calls).or
      (if d.writtenPlace? call = some place then some call.bytes else none)

section Step

variable (d : Disk) (call : WriteCall)

/-- A write succeeds where its path names a file, and is then whole; otherwise nothing changes. -/
theorem writeAtomically_spec : match d.writeAtomically call.bytes call.path with
    | (.ok (), after) => ∃ place, d.destination? call.path = some place ∧
        Written d call.bytes call.path place after
    | (.error _, after) => d.destination? call.path = none ∧ after = d := by
  cases h : d.destination? call.path with
  | none =>
    obtain ⟨e, he⟩ := writeAtomically_of_no_destination h call.bytes
    rw [he]
    exact ⟨rfl, rfl⟩
  | some place =>
    rw [writeAtomically_of_destination h]
    exact ⟨place, rfl, written_put h call.bytes⟩

theorem writtenPlace?_eq : d.writtenPlace? call = d.destination? call.path := by
  cases h : d.destination? call.path with
  | none =>
    obtain ⟨e, he⟩ := writeAtomically_of_no_destination h call.bytes
    rw [writtenPlace?, he]
  | some place =>
    rw [writtenPlace?, writeAtomically_of_destination h]
    simp only
    rw [(written_put h call.bytes).leads]
    rfl

theorem entry?_afterWrite (place : Location) :
    Disk.entry? (d.afterWrite call) place =
      if d.writtenPlace? call = some place then some (.file call.bytes) else d.entry? place := by
  rw [writtenPlace?_eq, afterWrite]
  cases h : d.destination? call.path with
  | none =>
    obtain ⟨e, he⟩ := writeAtomically_of_no_destination h call.bytes
    rw [he, if_neg (by simp)]
  | some written =>
    rw [writeAtomically_of_destination h, (written_put h call.bytes).entry]
    simp only [Option.some.injEq, eq_comm]

theorem sameDirectories_afterWrite : SameDirectories d (d.afterWrite call) := by
  rw [afterWrite]
  cases h : d.destination? call.path with
  | none =>
    obtain ⟨e, he⟩ := writeAtomically_of_no_destination h call.bytes
    rw [he]
    exact .refl d
  | some place =>
    rw [writeAtomically_of_destination h]
    exact sameDirectories_put (written_put h call.bytes).file call.bytes

end Step

theorem sameDirectories_afterWrites (d : Disk) (calls : List WriteCall) :
    SameDirectories d (d.afterWrites calls) := by
  induction calls generalizing d with
  | nil => exact .refl d
  | cons call calls ih => exact (d.sameDirectories_afterWrite call).trans (ih _)

theorem entry?_afterWrites (d : Disk) (calls : List WriteCall) (place : Location) :
    Disk.entry? (d.afterWrites calls) place =
      match d.lastWrite? place calls with
      | some bytes => some (.file bytes)
      | none => d.entry? place := by
  induction calls generalizing d with
  | nil => rfl
  | cons call calls ih =>
    refine (ih (d.afterWrite call)).trans ?_
    rw [lastWrite?]
    cases (d.afterWrite call).lastWrite? place calls with
    | some bytes => rfl
    | none =>
      simp only [Option.none_or]
      rw [entry?_afterWrite]
      split <;> rfl

/-- After any writes, the next one is whole or changes nothing, and which of the two depends on its
path and on the directories that were there from the start. Every entry is then that of the last
write that succeeded at its place, or what it was, so that nothing else is left behind. -/
theorem writes_allOrNothing (d : Disk) (calls : List WriteCall) :
    (∀ call : WriteCall, match (d.afterWrites calls).writeAtomically call.bytes call.path with
      | (.ok (), after) => ∃ place, d.destination? call.path = some place ∧
          Written (d.afterWrites calls) call.bytes call.path place after
      | (.error _, after) => d.destination? call.path = none ∧ after = d.afterWrites calls) ∧
    ∀ place, Disk.entry? (d.afterWrites calls) place =
      match d.lastWrite? place calls with
      | some bytes => some (.file bytes)
      | none => d.entry? place := by
  refine ⟨fun call => ?_, d.entry?_afterWrites calls⟩
  rw [← (d.sameDirectories_afterWrites calls).destination?]
  exact writeAtomically_spec _ call

end Disk

end Folio
