import Folio.Proofs.Deliveries

namespace Folio.Jobs

theorem lastStatus?_eq_none_iff {updates : List Update} {job : String} :
    lastStatus? updates job = none ↔ ∀ u ∈ updates, u.job ≠ job := by
  constructor
  · intro h u hu he
    rw [lastStatus?, Option.map_eq_none_iff, List.getLast?_eq_none_iff,
      List.filter_eq_nil_iff] at h
    exact h u hu (beq_iff_eq.mpr he)
  · exact lastStatus?_eq_none

namespace Ledger

/-- What an act can do to the ids, the queue and the statuses of a board. -/
inductive Stepped (l : Ledger) : Act → Ledger → Prop
  | registered (job : String) : Stepped l (.register job)
      { l with board := l.board.register job, registered := l.registered ++ [job] }
  | accepted (u : Update) : Stepped l (.report u)
      { l with board := l.board.enqueue u, accepted := l.accepted ++ [u] }
  | applied {u : Update} {board : Board} (ht : l.board.takeNext? = some (u, board)) :
      Stepped l .update { l with board, applied := l.applied ++ [u] }
  /-- Updates may be lost, but nothing is written. -/
  | unwritten {act : Act} {after : Ledger} (hstatuses : after.board.statuses = l.board.statuses)
      (hqueue : ∀ u ∈ after.board.queue, u ∈ l.board.queue)
      (hregistered : after.registered = l.registered) (happlied : after.applied = l.applied) :
      Stepped l act after

theorem stepped (l : Ledger) (act : Act) : Stepped l act (l.step act) := by
  have hkept (act : Act) : Stepped l act l := .unwritten rfl (fun _ hu => hu) rfl rfl
  cases act with
  | register job =>
    rw [step]
    split
    · exact .registered job
    · exact hkept _
  | report u =>
    rw [step]
    split
    · have ho := Board.offered l.board u
      generalize l.board.offer u = result at ho
      cases ho with
      | lost hl =>
        simp only [hl, Bool.false_eq_true, ↓reduceIte]
        exact hkept _
      | queued hl hroom =>
        simp only [hl, ↓reduceIte]
        exact .accepted u
      | blocked hl hfull => exact hkept _
    · exact hkept _
  | start =>
    rw [step, Board.handOver]
    split
    · exact .unwritten rfl (fun _ hu => hu) rfl rfl
    · exact hkept _
  | update =>
    rw [step]
    split
    · rename_i u board ht
      exact .applied ht
    · exact hkept _
  | close =>
    rw [step, Board.close]
    split
    · exact .unwritten rfl (fun _ hu => absurd hu List.not_mem_nil) rfl rfl
    · exact .unwritten rfl (fun _ hu => hu) rfl rfl
  | drop => exact .unwritten rfl (fun _ hu => hu) rfl rfl
  | leave =>
    rw [step, Board.leave]
    split
    · exact .unwritten rfl (fun _ hu => hu) rfl rfl
    · exact hkept _

/-- A stranger shows the last update about it that was written. -/
def ShowsWritten (l : Ledger) : Prop :=
  ∀ job, job ∉ l.registered → l.board.status? job = lastStatus? l.applied job

/-- Every update that waits or was written is about a registered job. -/
structure Acquainted (l : Ledger) : Prop where
  waiting : ∀ u ∈ l.board.queue, u.job ∈ l.registered
  written : ∀ u ∈ l.applied, u.job ∈ l.registered

section Steps

variable {l after : Ledger} {act : Act} (hs : Stepped l act after)
include hs

theorem ShowsWritten.step (h : l.ShowsWritten) : after.ShowsWritten := by
  intro job hj
  cases hs with
  | registered other =>
    rw [List.mem_append, List.mem_singleton, not_or] at hj
    rw [Board.status?_register, if_neg (Ne.symm hj.2)]
    exact h job hj.1
  | accepted u => exact h job hj
  | applied ht => rw [Board.status?_takeNext ht, lastStatus?_concat, h job hj]
  | unwritten hstatuses hqueue hregistered happlied =>
    rw [hregistered] at hj
    rw [Board.status?, hstatuses, happlied]
    exact h job hj

/-- An update about a registered job makes no stranger known. -/
theorem Acquainted.step (h : l.Acquainted) (hact : ∀ u, act = .report u → u.job ∈ l.registered) :
    after.Acquainted := by
  cases hs with
  | registered job =>
    exact ⟨fun u hu => List.mem_append_left _ (h.waiting u hu),
      fun u hu => List.mem_append_left _ (h.written u hu)⟩
  | accepted u =>
    refine ⟨fun v hv => ?_, h.written⟩
    rcases List.mem_append.mp hv with hold | hnew
    · exact h.waiting v hold
    · rw [List.mem_singleton.mp hnew]
      exact hact u rfl
  | applied ht =>
    obtain ⟨-, queue, hq, rfl⟩ := Board.takeNext?_eq_some_iff.mp ht
    have hwaiting := h.waiting
    rw [hq, List.forall_mem_cons] at hwaiting
    refine ⟨hwaiting.2, fun v hv => ?_⟩
    rcases List.mem_append.mp hv with hold | hnew
    · exact h.written v hold
    · rw [List.mem_singleton.mp hnew]
      exact hwaiting.1
  | unwritten hstatuses hqueue hregistered happlied =>
    constructor
    · rw [hregistered]
      exact fun u hu => h.waiting u (hqueue u hu)
    · rw [hregistered, happlied]
      exact h.written

end Steps

/-- Nobody reports about an id before it has been handed out. -/
def ReportsKnown (board : Board) (acts : List Act) : Prop :=
  ∀ before u after, acts = before ++ .report u :: after →
    u.job ∈ ((ofBoard board).play before).registered

section Runs

variable {capacity : Nat} {board : Board} (hboard : Board.ofCapacity? capacity = some board)
include hboard

theorem showsWritten_play (acts : List Act) : ((ofBoard board).play acts).ShowsWritten := by
  induction acts using List.reverseRecOn with
  | nil =>
    obtain ⟨-, rfl⟩ := Board.ofCapacity?_eq_some_iff.mp hboard
    exact fun job _ => rfl
  | append_singleton acts act ih =>
    rw [play_concat]
    exact ih.step (stepped _ act)

theorem acquainted_play {acts : List Act} (hknown : ReportsKnown board acts) :
    ((ofBoard board).play acts).Acquainted := by
  induction acts using List.reverseRecOn with
  | nil =>
    obtain ⟨-, rfl⟩ := Board.ofCapacity?_eq_some_iff.mp hboard
    exact ⟨fun u hu => absurd hu List.not_mem_nil, fun u hu => absurd hu List.not_mem_nil⟩
  | append_singleton acts act ih =>
    have hearlier : ReportsKnown board acts := by
      rintro before u after rfl
      exact hknown before u (after ++ [act]) (by simp)
    rw [play_concat]
    refine (ih hearlier).step (stepped _ act) ?_
    rintro u rfl
    exact hknown acts u [] rfl

end Runs

end Ledger

/-- Registered jobs are all that a board shows exactly as long as no update about a stranger has
been written: a stranger shows the last one that was. None is ever written if nobody reports about
an id before it has been handed out. -/
theorem only_registered_iff {capacity : Nat} {board : Board}
    (hboard : Board.ofCapacity? capacity = some board) (acts : List Act) :
    let l := (Ledger.ofBoard board).play acts
    ((∀ job, job ∉ l.registered → l.board.status? job = none) ↔
      ∀ u ∈ l.applied, u.job ∈ l.registered) ∧
    (∀ job, job ∉ l.registered → l.board.status? job = lastStatus? l.applied job) ∧
    (Ledger.ReportsKnown board acts →
      ∀ job, job ∉ l.registered → l.board.status? job = none) := by
  intro l
  have hshown : l.ShowsWritten := Ledger.showsWritten_play hboard acts
  have hiff : (∀ job, job ∉ l.registered → l.board.status? job = none) ↔
      ∀ u ∈ l.applied, u.job ∈ l.registered := by
    constructor
    · intro hnone u hu
      by_contra hstranger
      have hlast := (hshown u.job hstranger).symm.trans (hnone u.job hstranger)
      exact lastStatus?_eq_none_iff.mp hlast u hu rfl
    · intro hwritten job hj
      rw [hshown job hj, lastStatus?_eq_none_iff]
      rintro u hu rfl
      exact hj (hwritten u hu)
  exact ⟨hiff, hshown, fun hknown => hiff.mpr (Ledger.acquainted_play hboard hknown).written⟩

/-- A report about a job and one about an id that nobody registered, of which the first is
written. -/
def strangerBehind : List Act :=
  [.register "a", .report ⟨"a", .inProgress 0⟩, .report ⟨"b", .pending⟩, .start, .update]

/-- While the update about the stranger waits, only the registered job is shown. -/
theorem stranger_unseen :
    let l := (Ledger.ofBoard ⟨[], [], 2, .idle, true⟩).play strangerBehind
    l.board.queue = [⟨"b", .pending⟩] ∧ ∀ job, job ∉ l.registered → l.board.status? job = none := by
  intro l
  have hboard : Board.ofCapacity? 2 = some ⟨[], [], 2, .idle, true⟩ := rfl
  refine ⟨rfl, (only_registered_iff hboard strangerBehind).1.mpr ?_⟩
  intro u hu
  obtain rfl := List.mem_singleton.mp (hu : u ∈ [(⟨"a", .inProgress 0⟩ : Update)])
  exact List.mem_singleton.mpr rfl

/-- The next step of the updater shows the stranger. -/
theorem stranger_shown :
    let l := (Ledger.ofBoard ⟨[], [], 2, .idle, true⟩).play (strangerBehind ++ [.update])
    l.registered = ["a"] ∧ l.board.status? "b" = some .pending ∧
      ¬ ∀ job, job ∉ l.registered → l.board.status? job = none := by
  intro l
  refine ⟨rfl, rfl, fun hnone => ?_⟩
  have hb : l.board.status? "b" = none := hnone "b" (by decide)
  cases hb

end Folio.Jobs
