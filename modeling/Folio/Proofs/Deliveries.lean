import Folio.Jobs.Board
import Mathlib.Data.List.Induction

namespace Folio.Jobs

namespace Board

theorem ofCapacity?_eq_some_iff {capacity : Nat} {b : Board} :
    ofCapacity? capacity = some b ↔ 0 < capacity ∧ b = ⟨[], [], capacity, .idle, true⟩ := by
  rw [ofCapacity?]
  split
  · rename_i hzero
    simp [hzero]
  · rename_i hne
    rw [Option.some.injEq, eq_comm]
    exact (and_iff_right (Nat.pos_of_ne_zero hne)).symm

theorem status?_register (b : Board) (job other : String) :
    (b.register job).status? other = if job = other then some .pending else b.status? other := by
  rw [status?, register]
  split
  · rename_i he
    rw [he]
    exact lookup_assign_self other .pending b.statuses
  · rename_i hne
    exact lookup_assign_ne (Ne.symm hne) .pending b.statuses

/-- The updater takes the head of the queue, and only while it runs. -/
theorem takeNext?_eq_some_iff {b after : Board} {u : Update} :
    b.takeNext? = some (u, after) ↔ b.receiver = .running ∧ ∃ queue, b.queue = u :: queue ∧
      after = { b with statuses := assign u.job u.status b.statuses, queue } := by
  rw [takeNext?]
  constructor
  · intro h
    split at h
    · rename_i v queue hr hq
      rw [Option.some.injEq, Prod.mk.injEq] at h
      obtain ⟨rfl, rfl⟩ := h
      exact ⟨hr, queue, hq, rfl⟩
    · cases h
  · rintro ⟨hr, queue, hq, rfl⟩
    rw [hr, hq]

theorem status?_takeNext {b after : Board} {u : Update} (h : b.takeNext? = some (u, after))
    (job : String) :
    after.status? job = if u.job = job then some u.status else b.status? job := by
  obtain ⟨-, queue, -, rfl⟩ := takeNext?_eq_some_iff.mp h
  rw [status?]
  split
  · rename_i he
    rw [← he]
    exact lookup_assign_self u.job u.status b.statuses
  · rename_i hne
    exact lookup_assign_ne (Ne.symm hne) u.status b.statuses

/-- Whether the receiving end is open. -/
def listening (b : Board) : Bool :=
  match b.receiver with
  | .idle | .running => true
  | .closed | .finished => false

/-- What becomes of an update that is offered. -/
inductive Offered (b : Board) (u : Update) : Delivery × Board → Prop
  | lost (hl : b.listening = false) : Offered b u (.sent, b)
  | queued (hl : b.listening = true) (hroom : b.queue.length < b.capacity) :
      Offered b u (.sent, b.enqueue u)
  | blocked (hl : b.listening = true) (hfull : b.capacity ≤ b.queue.length) :
      Offered b u (.blocked, b)

theorem offered (b : Board) (u : Update) : Offered b u (b.offer u) := by
  have hopen (hl : b.listening = true) :
      Offered b u (if b.hasRoom then (.sent, b.enqueue u) else (.blocked, b)) := by
    split
    · rename_i hroom
      exact .queued hl (of_decide_eq_true hroom)
    · rename_i hfull
      rw [hasRoom, decide_eq_true_eq, Nat.not_lt] at hfull
      exact .blocked hl hfull
  rw [offer]
  cases hr : b.receiver with
  | idle => exact hopen (by rw [listening, hr])
  | running => exact hopen (by rw [listening, hr])
  | closed => exact .lost (by rw [listening, hr])
  | finished => exact .lost (by rw [listening, hr])

/-- An update is taken over exactly if there is room or nobody listens any more. -/
theorem offer_sent_iff (b : Board) (u : Update) :
    (b.offer u).1 = .sent ↔ b.queue.length < b.capacity ∨ b.listening = false := by
  have ho := offered b u
  generalize b.offer u = result at ho
  cases ho with
  | lost hl => simp [hl]
  | queued hl hroom => simp [hroom]
  | blocked hl hfull => simp [hl, hfull]

end Board

/-- Something that happens to a board. -/
inductive Act where
  | register (job : String)
  | report (u : Update)
  | start
  /-- The updater takes one update. -/
  | update
  | close
  /-- The board is dropped, and with it the sending end. -/
  | drop
  /-- The updater ends. -/
  | leave

/-- The job that an act names. -/
def Act.job? : Act → Option String
  | register job => some job
  | report u => some u.job
  | _ => none

/-- Every registered id is new: no act before named it. -/
def FreshIds (acts : List Act) : Prop :=
  ∀ before job after, acts = before ++ .register job :: after → job ∉ before.filterMap Act.job?

theorem FreshIds.concat {acts : List Act} {act : Act} (h : FreshIds (acts ++ [act])) :
    FreshIds acts ∧ ∀ job, act = .register job → job ∉ acts.filterMap Act.job? := by
  constructor
  · rintro before job after rfl
    exact h before job (after ++ [act]) (by simp)
  · rintro job rfl
    exact h acts job [] rfl

/-- A board with an account of its updates. -/
structure Ledger where
  board : Board
  /-- The ids that registration has handed out. -/
  registered : List String
  /-- The updates that the queue took over while the receiving end was open. -/
  accepted : List Update
  /-- The updates that the updater has taken. -/
  applied : List Update
  /-- The updates that waited when the receiving end was closed. -/
  discarded : List Update

namespace Ledger

def ofBoard (board : Board) : Ledger :=
  ⟨board, [], [], [], []⟩

/-- An act and its entry in the account. Nobody registers or reports behind a dropped sending end,
and a blocked report is given up. -/
def step (l : Ledger) : Act → Ledger
  | .register job =>
    if l.board.open_ then
      { l with board := l.board.register job, registered := l.registered ++ [job] }
    else l
  | .report u =>
    if l.board.open_ then
      match l.board.offer u with
      | (.sent, board) =>
        { l with
          board
          accepted := if l.board.listening then l.accepted ++ [u] else l.accepted }
      | (.blocked, board) => { l with board }
    else l
  | .start => { l with board := l.board.handOver }
  | .update =>
    match l.board.takeNext? with
    | some (u, board) => { l with board, applied := l.applied ++ [u] }
    | none => l
  | .close =>
    { l with
      board := l.board.close
      discarded := if l.board.receiver = .idle then l.discarded ++ l.board.queue else l.discarded }
  | .drop => { l with board := l.board.dropSender }
  | .leave => { l with board := l.board.leave }

def play (l : Ledger) (acts : List Act) : Ledger :=
  acts.foldl step l

theorem play_concat (l : Ledger) (acts : List Act) (act : Act) :
    l.play (acts ++ [act]) = (l.play acts).step act := by
  rw [play, List.foldl_append]
  rfl

end Ledger

/-- The status in the last of some updates that is about a job. -/
def lastStatus? (updates : List Update) (job : String) : Option Status :=
  ((updates.filter (·.job == job)).getLast?).map Update.status

theorem lastStatus?_concat (updates : List Update) (u : Update) (job : String) :
    lastStatus? (updates ++ [u]) job
      = if u.job = job then some u.status else lastStatus? updates job := by
  rw [lastStatus?, List.filter_append]
  split
  · rename_i hj
    simp [hj]
  · rename_i hj
    simp [hj, lastStatus?]

theorem lastStatus?_eq_none {updates : List Update} {job : String}
    (h : ∀ u ∈ updates, u.job ≠ job) : lastStatus? updates job = none := by
  have hnone : updates.filter (·.job == job) = [] := by
    rw [List.filter_eq_nil_iff]
    intro u hu
    rw [beq_iff_eq]
    exact h u hu
  rw [lastStatus?, hnone]
  rfl

/-- The account of a board with a queue of some capacity, when its acts have named some jobs. -/
structure Balanced (capacity : Nat) (named : List String) (l : Ledger) : Prop where
  capacity_eq : l.board.capacity = capacity
  bounded : l.board.queue.length ≤ capacity
  accepted_eq : l.accepted = l.applied ++ l.discarded ++ l.board.queue
  idle : l.board.receiver = .idle → l.applied = []
  closed : l.board.receiver = .closed → l.applied = [] ∧ l.board.queue = []
  kept : l.board.receiver ≠ .closed → l.discarded = []
  finished : l.board.receiver = .finished → l.board.queue = []
  accepted_named : ∀ u ∈ l.accepted, u.job ∈ named
  status_eq : ∀ job, l.board.status? job
    = (lastStatus? l.applied job).or (if job ∈ l.registered then some .pending else none)

namespace Balanced

variable {capacity : Nat} {named : List String} {l : Ledger}

theorem ofBoard {board : Board} (h : Board.ofCapacity? capacity = some board) :
    Balanced capacity [] (Ledger.ofBoard board) := by
  obtain ⟨-, rfl⟩ := Board.ofCapacity?_eq_some_iff.mp h
  constructor
  case capacity_eq => rfl
  case bounded => exact Nat.zero_le capacity
  case accepted_eq => rfl
  case idle => exact fun _ => rfl
  case closed => exact fun hr => nomatch hr
  case kept => exact fun _ => rfl
  case finished => exact fun hr => nomatch hr
  case accepted_named => exact fun u hu => absurd hu List.not_mem_nil
  case status_eq => exact fun job => rfl

theorem more_named (hb : Balanced capacity named l) (more : List String) :
    Balanced capacity (named ++ more) l :=
  { hb with accepted_named := fun u hu => List.mem_append_left more (hb.accepted_named u hu) }

/-- Nothing waits behind an updater that has ended, and nothing was lost. -/
theorem all_applied (hb : Balanced capacity named l) (hr : l.board.receiver = .finished) :
    l.applied = l.accepted := by
  have hkept := hb.kept (by rw [hr]; exact Receiver.noConfusion)
  rw [hb.accepted_eq, hkept, hb.finished hr, List.append_nil, List.append_nil]

theorem register (hb : Balanced capacity named l) {job : String} (hnew : job ∉ named) :
    Balanced capacity (named ++ [job]) (l.step (.register job)) := by
  rw [Ledger.step]
  split
  · refine { hb.more_named [job] with status_eq := ?_ }
    intro other
    rw [Board.status?_register, hb.status_eq]
    by_cases he : job = other
    · -- No update names a new id, so that it shows what registration wrote.
      subst he
      have happlied : ∀ u ∈ l.applied, u.job ≠ job := by
        rintro u hu rfl
        refine hnew (hb.accepted_named u ?_)
        rw [hb.accepted_eq, List.append_assoc]
        exact List.mem_append_left _ hu
      simp [lastStatus?_eq_none happlied]
    · simp [he, Ne.symm he]
  · exact hb.more_named [job]

theorem report (hb : Balanced capacity named l) (u : Update) :
    Balanced capacity (named ++ [u.job]) (l.step (.report u)) := by
  have hmore := hb.more_named [u.job]
  rw [Ledger.step]
  split
  · have ho := Board.offered l.board u
    generalize l.board.offer u = result at ho
    cases ho with
    | lost hl =>
      simp only [hl, Bool.false_eq_true, ↓reduceIte]
      exact hmore
    | blocked hl hfull => exact hmore
    | queued hl hroom =>
      have hopen : l.board.receiver ≠ .closed ∧ l.board.receiver ≠ .finished := by
        constructor <;> intro hr <;> simp [Board.listening, hr] at hl
      simp only [hl, ↓reduceIte]
      refine { hmore with
        bounded := ?_, accepted_eq := ?_, closed := ?_, finished := ?_, accepted_named := ?_ }
      · rw [Board.enqueue, List.length_append, List.length_singleton]
        have hc := hb.capacity_eq
        omega
      · rw [Board.enqueue, hb.accepted_eq, List.append_assoc _ l.board.queue]
      · exact fun hr => absurd hr hopen.1
      · exact fun hr => absurd hr hopen.2
      · intro v hv
        rcases List.mem_append.mp hv with hv | hv
        · exact hmore.accepted_named v hv
        · rw [List.mem_singleton.mp hv]
          exact List.mem_append_right named (List.mem_singleton.mpr rfl)
  · exact hmore

theorem start (hb : Balanced capacity named l) : Balanced capacity named (l.step .start) := by
  rw [Ledger.step, Board.handOver]
  split
  · rename_i hr
    have hkept := hb.kept (by rw [hr]; exact Receiver.noConfusion)
    exact { hb with
      idle := fun h => (nomatch h), closed := fun h => (nomatch h), kept := fun _ => hkept
      finished := fun h => (nomatch h) }
  · exact hb

theorem update (hb : Balanced capacity named l) : Balanced capacity named (l.step .update) := by
  rw [Ledger.step]
  split
  · rename_i u board ht
    obtain ⟨hr, queue, hq, rfl⟩ := Board.takeNext?_eq_some_iff.mp ht
    have hkept := hb.kept (by rw [hr]; exact Receiver.noConfusion)
    have hbounded := hb.bounded
    have haccepted := hb.accepted_eq
    rw [hq] at hbounded haccepted
    refine { hb with
      bounded := ?_, accepted_eq := ?_, idle := ?_, closed := ?_, finished := ?_, status_eq := ?_ }
    · exact Nat.le_of_succ_le hbounded
    · simpa [hkept] using haccepted
    · exact fun h => absurd (hr.symm.trans h) Receiver.noConfusion
    · exact fun h => absurd (hr.symm.trans h) Receiver.noConfusion
    · exact fun h => absurd (hr.symm.trans h) Receiver.noConfusion
    · intro job
      rw [Board.status?_takeNext ht, hb.status_eq, lastStatus?_concat]
      split
      · rfl
      · rfl
  · exact hb

theorem close (hb : Balanced capacity named l) : Balanced capacity named (l.step .close) := by
  rw [Ledger.step, Board.close]
  cases hr : l.board.receiver with
  | idle =>
    have happlied := hb.idle hr
    have hkept := hb.kept (by rw [hr]; exact Receiver.noConfusion)
    have haccepted := hb.accepted_eq
    rw [happlied, hkept] at haccepted
    simp only [↓reduceIte]
    refine { hb with
      bounded := Nat.zero_le capacity, accepted_eq := ?_, idle := fun h => (nomatch h)
      closed := fun _ => ⟨happlied, rfl⟩, kept := fun h => absurd rfl h
      finished := fun h => (nomatch h) }
    simpa [happlied, hkept] using haccepted
  | running => simpa [hr] using hb
  | closed => simpa [hr] using hb
  | finished => simpa [hr] using hb

theorem leave (hb : Balanced capacity named l) : Balanced capacity named (l.step .leave) := by
  rw [Ledger.step, Board.leave]
  split
  · rename_i hends
    have hkept := hb.kept (by rw [hends.1]; exact Receiver.noConfusion)
    exact { hb with
      idle := fun h => (nomatch h), closed := fun h => (nomatch h), kept := fun _ => hkept
      finished := fun _ => hends.2.1 }
  · exact hb

theorem step (hb : Balanced capacity named l) {act : Act}
    (hnew : ∀ job, act = .register job → job ∉ named) :
    Balanced capacity (named ++ act.job?.toList) (l.step act) := by
  cases act with
  | register job => exact hb.register (hnew job rfl)
  | report u => exact hb.report u
  | start => simpa [Act.job?] using hb.start
  | update => simpa [Act.job?] using hb.update
  | close => simpa [Act.job?] using hb.close
  | drop => simpa [Act.job?, Ledger.step] using { hb with }
  | leave => simpa [Act.job?] using hb.leave

theorem play {board : Board} (hboard : Board.ofCapacity? capacity = some board) {acts : List Act}
    (hfresh : FreshIds acts) :
    Balanced capacity (acts.filterMap Act.job?) ((Ledger.ofBoard board).play acts) := by
  induction acts using List.reverseRecOn with
  | nil => exact ofBoard hboard
  | append_singleton acts act ih =>
    obtain ⟨hearlier, hnew⟩ := hfresh.concat
    have hjob : [act].filterMap Act.job? = act.job?.toList := rfl
    rw [Ledger.play_concat, List.filterMap_append, hjob]
    exact (ih hearlier).step hnew

/-- Acts that name no job keep the account in balance and bring nothing new into it. -/
theorem play_unnamed (hb : Balanced capacity named l) {acts : List Act}
    (hunnamed : ∀ act ∈ acts, act.job? = none) :
    Balanced capacity named (l.play acts) ∧ (l.play acts).accepted = l.accepted := by
  induction acts using List.reverseRecOn with
  | nil => exact ⟨hb, rfl⟩
  | append_singleton acts act ih =>
    obtain ⟨hbalanced, haccepted⟩ := ih fun a ha => hunnamed a (List.mem_append_left _ ha)
    have hnone : act.job? = none :=
      hunnamed act (List.mem_append_right _ (List.mem_singleton.mpr rfl))
    have hnew : ∀ job, act = .register job → job ∉ named := by
      rintro job rfl
      cases hnone
    have hstep := hbalanced.step hnew
    rw [hnone, Option.toList_none, List.append_nil] at hstep
    rw [Ledger.play_concat]
    refine ⟨hstep, ?_⟩
    rw [← haccepted]
    cases act with
    | register job => cases hnone
    | report u => cases hnone
    | update => rw [Ledger.step]; split <;> rfl
    | _ => rfl

end Balanced

namespace Ledger

variable (l : Ledger)

theorem play_append (acts more : List Act) : l.play (acts ++ more) = (l.play acts).play more :=
  List.foldl_append

/-- Step by step a running updater takes all that waits. -/
theorem play_updates (hr : l.board.receiver = .running) :
    (l.play (List.replicate l.board.queue.length .update)).board = l.board.drain := by
  generalize hq : l.board.queue = queue
  induction queue generalizing l with
  | nil =>
    simp only [List.length_nil, List.replicate_zero, play, List.foldl_nil, Board.drain, hq]
    rw [← hq]
  | cons u queue ih =>
    have ht : l.board.takeNext? = some (u,
        { l.board with statuses := assign u.job u.status l.board.statuses, queue }) :=
      Board.takeNext?_eq_some_iff.mpr ⟨hr, queue, hq, rfl⟩
    have hstep : (l.step .update).board
        = { l.board with statuses := assign u.job u.status l.board.statuses, queue } := by
      rw [step, ht]
    have hrest := ih (l.step .update) (by rw [hstep]; exact hr) (by rw [hstep])
    rw [hstep] at hrest
    rw [List.length_cons, List.replicate_succ]
    exact hrest.trans (by simp only [Board.drain, hq, List.foldl_cons])

/-- Whether the updater runs or not, some steps of it settle the board. -/
theorem settles : ∃ n, (l.play (List.replicate n .update)).board = l.board.settle := by
  rw [Board.settle]
  cases hr : l.board.receiver with
  | running => exact ⟨_, l.play_updates hr⟩
  | _ => exact ⟨0, rfl⟩

/-- A report with a running updater at its heels is a run of single steps. -/
theorem report_is_run (hopen : l.board.open_ = true) (u : Update) : ∃ before after,
    ((l.play (List.replicate before .update)).board.offer u).1 = (l.board.report u).1 ∧
    (l.play (List.replicate before .update ++ .report u :: List.replicate after .update)).board
      = (l.board.report u).2 := by
  obtain ⟨before, hbefore⟩ := l.settles
  have hstill : l.board.settle.open_ = true := by
    rw [Board.settle]
    split <;> exact hopen
  have hreported : ((l.play (List.replicate before .update)).step (.report u)).board
      = (l.board.settle.offer u).2 := by
    rw [step, hbefore, if_pos hstill]
    split
    · rename_i board ho
      rw [ho]
    · rename_i board ho
      rw [ho]
  obtain ⟨after, hafter⟩ := ((l.play (List.replicate before .update)).step (.report u)).settles
  have hreport : l.board.report u
      = ((l.board.settle.offer u).1, (l.board.settle.offer u).2.settle) := rfl
  refine ⟨before, after, by rw [hbefore, hreport], ?_⟩
  rw [play_append, hreport, ← hreported]
  exact hafter

theorem start_is_run : ∃ n,
    (l.play (.start :: List.replicate n .update)).board = l.board.start :=
  (l.step .start).settles

theorem finish_is_run : ∃ n,
    (l.play (.drop :: List.replicate n .update ++ [.leave])).board = l.board.finish.2 := by
  obtain ⟨n, hn⟩ := (l.step .drop).settles
  refine ⟨n, ?_⟩
  have hdropped : (l.play (.drop :: List.replicate n .update)).board = l.board.dropSender.settle :=
    hn
  rw [play_concat, step, hdropped, Board.finish]

end Ledger

/-- Never more updates wait than the queue can hold, and until the updater runs a report waits only
for room. What was accepted has been written on the board, was lost by closing it or still waits, in
the order of acceptance, and the board shows of each job what was written last. Once a running
updater has been waited for, all has been written. -/
theorem delivered_in_order {capacity : Nat} {board : Board}
    (hboard : Board.ofCapacity? capacity = some board) {acts : List Act} (hfresh : FreshIds acts) :
    let l := (Ledger.ofBoard board).play acts
    l.board.queue.length ≤ capacity ∧
    (l.board.receiver = .idle ∨ l.board.receiver = .closed → ∀ u, (l.board.offer u).1 = .sent ↔
      l.board.queue.length < capacity ∨ l.board.receiver = .closed) ∧
    l.accepted = l.applied ++ l.discarded ++ l.board.queue ∧
    (l.board.receiver ≠ .closed → l.discarded = []) ∧
    (l.board.receiver = .closed → l.applied = [] ∧ l.board.queue = []) ∧
    (∀ job, l.board.status? job = (lastStatus? l.applied job).or
      (if job ∈ l.registered then some .pending else none)) ∧
    (l.board.receiver = .finished → l.applied = l.accepted) ∧
    (l.board.finish.1 = true → ∃ later, (l.play later).board = l.board.finish.2 ∧
      (l.play later).board.receiver = .finished ∧ (l.play later).accepted = l.accepted ∧
      (l.play later).applied = l.accepted) := by
  intro l
  have hb : Balanced capacity (acts.filterMap Act.job?) l := Balanced.play hboard hfresh
  refine ⟨hb.bounded, ?_, hb.accepted_eq, hb.kept, hb.closed, hb.status_eq, hb.all_applied, ?_⟩
  · intro hr u
    rw [Board.offer_sent_iff, hb.capacity_eq]
    rcases hr with hr | hr
    · simp [Board.listening, hr]
    · simp [Board.listening, hr]
  · intro hwaited
    obtain ⟨n, hn⟩ := l.finish_is_run
    have hunnamed : ∀ act ∈ Act.drop :: List.replicate n .update ++ [.leave],
        act.job? = none := by
      intro act ha
      simp only [List.cons_append, List.mem_cons, List.mem_append, List.mem_replicate,
        List.not_mem_nil, or_false] at ha
      obtain rfl | ⟨-, rfl⟩ | rfl := ha
      all_goals rfl
    obtain ⟨hlater, haccepted⟩ := hb.play_unnamed hunnamed
    have hr : l.board.receiver = .running := of_decide_eq_true hwaited
    have hfinished : (l.play (.drop :: List.replicate n .update ++ [.leave])).board.receiver
        = .finished := by
      rw [hn, Board.finish]
      simp [Board.dropSender, Board.settle, Board.drain, Board.leave, hr]
    exact ⟨_, hn, hfinished, haccepted, (hlater.all_applied hfinished).trans haccepted⟩

/-- Acts on a board whose queue has room for one update. -/
def fullQueue : List Act :=
  [.register "a", .report ⟨"a", .inProgress 0⟩, .report ⟨"a", .failed "x"⟩, .start, .update,
    .report ⟨"a", .completed "p"⟩]

theorem fullQueue_fresh : FreshIds fullQueue := by
  intro before job after he
  cases before with
  | nil => exact List.not_mem_nil
  | cons act before =>
    have hm : Act.register job ∈ fullQueue.tail := by
      rw [he, List.cons_append, List.tail_cons]
      exact List.mem_append_right before List.mem_cons_self
    simp [fullQueue] at hm

/-- The report that found the queue full is never written, the one behind it is. -/
theorem fullQueue_delivered :
    let l := (Ledger.ofBoard ⟨[], [], 1, .idle, true⟩).play fullQueue
    l.accepted = [⟨"a", .inProgress 0⟩, ⟨"a", .completed "p"⟩] ∧
    l.applied = [⟨"a", .inProgress 0⟩] ∧
    ∃ later, (l.play later).board = l.board.finish.2 ∧ (l.play later).applied = l.accepted := by
  intro l
  have hboard : Board.ofCapacity? 1 = some ⟨[], [], 1, .idle, true⟩ := rfl
  obtain ⟨-, -, -, -, -, -, -, hwaited⟩ :=
    delivered_in_order hboard fullQueue_fresh
  obtain ⟨later, hlater, -, -, happlied⟩ := hwaited rfl
  exact ⟨rfl, rfl, later, hlater, happlied⟩

end Folio.Jobs
