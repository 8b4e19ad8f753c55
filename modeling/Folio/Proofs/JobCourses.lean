import Folio.Jobs.Worker
import Folio.Proofs.Deliveries
import Mathlib.Data.List.Nodup

namespace Folio.Jobs

namespace Status

/-- How far a job has come. -/
def stage : Status → Nat
  | pending => 1
  | inProgress _ => 2
  | completed _ | failed _ => 3

@[simp] theorem stage_pending : pending.stage = 1 := rfl

@[simp] theorem stage_inProgress (percent : Nat) : (inProgress percent).stage = 2 := rfl

@[simp] theorem stage_ofEnding (ending : Ending) : (ofEnding ending).stage = 3 := by
  cases ending with
  | returned result =>
    cases result with
    | ok path => rfl
    | error e => rfl
  | broken detail => rfl

theorem ofEnding_eq_completed_iff {ending : Ending} {path : String} :
    ofEnding ending = completed path ↔ ending = .returned (.ok path) := by
  cases ending with
  | returned result =>
    cases result with
    | ok other => simp [ofEnding]
    | error e => simp [ofEnding]
  | broken detail => simp [ofEnding]

theorem ofEnding_completed_or_failed (ending : Ending) :
    (∃ path, ending = .returned (.ok path)) ∨ ∃ message, ofEnding ending = failed message := by
  cases ending with
  | returned result =>
    cases result with
    | ok path => exact .inl ⟨path, rfl⟩
    | error e => exact .inr ⟨e.message, rfl⟩
  | broken detail => exact .inr ⟨_, rfl⟩

end Status

/-- How far an answer says that a job has come, an unknown one not at all. -/
def stageOf : Option Status → Nat
  | none => 0
  | some status => status.stage

/-- The second answer is the first again, or that of a later stage. -/
def Onward (earlier later : Option Status) : Prop :=
  earlier = later ∨ stageOf earlier < stageOf later

theorem Onward.trans {a b c : Option Status} (h : Onward a b) (h' : Onward b c) : Onward a c := by
  rcases h with rfl | h
  · exact h'
  · rcases h' with rfl | h'
    · exact .inr h
    · exact .inr (Nat.lt_trans h h')

theorem Onward.of_none {a : Option Status} (h : Onward a none) : a = none := by
  rcases h with h | h
  · exact h
  · exact absurd h (Nat.not_lt_zero _)

namespace Board

/-- The statuses that wait in the queue for a job, the oldest first. -/
def waiting (b : Board) (job : String) : List Status :=
  (b.queue.filter (·.job == job)).map Update.status

theorem waiting_enqueue (b : Board) (u : Update) (job : String) :
    (b.enqueue u).waiting job = if u.job = job then b.waiting job ++ [u.status]
      else b.waiting job := by
  rw [waiting, waiting, enqueue, List.filter_append, List.map_append]
  split
  · rename_i hj
    simp [hj]
  · rename_i hj
    simp [hj]

theorem waiting_takeNext {b after : Board} {u : Update} (h : b.takeNext? = some (u, after))
    (job : String) : b.waiting job = if u.job = job then u.status :: after.waiting job
      else after.waiting job := by
  obtain ⟨-, queue, hq, rfl⟩ := takeNext?_eq_some_iff.mp h
  rw [waiting, waiting, hq]
  split
  · rename_i hj
    simp [hj]
  · rename_i hj
    simp [hj]

end Board

/-- The id that a step hands out. -/
def Move.job? : Move → Option String
  | .schedule job _ => some job
  | _ => none

/-- The job whose generation a step ends, and how it ended. -/
def System.ended? (s : System) : Move → Option (String × Ending)
  | .generated i ending => (s.workers[i]?).map fun w => (w.job, ending)
  | _ => none

/-- What a step of the system can do. -/
inductive Moved (s : System) : Move → System → Prop
  | scheduled (job template : String) :
      Moved s (.schedule job template) (s.schedule job template)
  | sent {i : Nat} {w : Worker} {u : Update} {phase : Phase} {board : Board}
      (hw : s.workers[i]? = some w) (hu : w.sending? = some (u, phase))
      (ho : s.board.offer u = (.sent, board)) :
      Moved s (.send i) ⟨board, s.workers.set i { w with phase }⟩
  | generated {i : Nat} {w : Worker} {ending : Ending} (hw : s.workers[i]? = some w)
      (hp : w.phase = .generating) : Moved s (.generated i ending)
        { s with workers := s.workers.set i { w with phase := .ending (.ofEnding ending) } }
  | updated {u : Update} {board : Board} (ht : s.board.takeNext? = some (u, board)) :
      Moved s .update { s with board }

theorem moved {s s' : System} {m : Move} (h : s.move? m = some s') : Moved s m s' := by
  cases m with
  | schedule job template =>
    obtain rfl := Option.some.inj h
    exact .scheduled job template
  | send i =>
    simp only [System.move?, Option.bind_eq_bind, Option.bind_eq_some_iff] at h
    obtain ⟨w, hw, ⟨u, phase⟩, hu, h⟩ := h
    split at h
    · rename_i board ho
      obtain rfl := Option.some.inj h
      exact .sent hw hu ho
    · cases h
  | generated i ending =>
    simp only [System.move?, Option.bind_eq_bind, Option.bind_eq_some_iff] at h
    obtain ⟨w, hw, h⟩ := h
    split at h
    · rename_i hp
      obtain rfl := Option.some.inj h
      exact .generated hw hp
    · cases h
  | update =>
    simp only [System.move?, Option.bind_eq_bind, Option.bind_eq_some_iff] at h
    obtain ⟨⟨u, board⟩, ht, h⟩ := h
    obtain rfl := Option.some.inj h
    exact .updated ht

/-- The statuses that a job has been given so far, by registration and by its worker. -/
inductive Issued (ended : List (String × Ending)) (job : String) : Phase → List Status → Prop
  | starting (hopen : ∀ ending, (job, ending) ∉ ended) : Issued ended job .starting [.pending]
  | generating (hopen : ∀ ending, (job, ending) ∉ ended) :
      Issued ended job .generating [.pending, .inProgress 0]
  | ending {ending : Ending} (he : (job, ending) ∈ ended) :
      Issued ended job (.ending (.ofEnding ending)) [.pending, .inProgress 0]
  | done {ending : Ending} (he : (job, ending) ∈ ended) :
      Issued ended job .done [.pending, .inProgress 0, .ofEnding ending]

namespace Issued

variable {ended : List (String × Ending)} {job : String} {phase : Phase} {issued : List Status}

theorem increasing (h : Issued ended job phase issued) :
    issued.Pairwise fun a b => a.stage < b.stage := by
  cases h with
  | starting hopen => exact List.pairwise_singleton _ _
  | generating hopen => simp
  | ending he => simp
  | done he => simp

theorem mem_cases (h : Issued ended job phase issued) {status : Status} (hs : status ∈ issued) :
    status = .pending ∨ status = .inProgress 0 ∨
      ∃ ending, (job, ending) ∈ ended ∧ status = .ofEnding ending := by
  cases h with
  | starting hopen => exact .inl (List.mem_singleton.mp hs)
  | generating hopen =>
    simp only [List.mem_cons, List.not_mem_nil, or_false] at hs
    exact hs.imp_right .inl
  | ending he =>
    simp only [List.mem_cons, List.not_mem_nil, or_false] at hs
    exact hs.imp_right .inl
  | done he =>
    simp only [List.mem_cons, List.not_mem_nil, or_false] at hs
    exact hs.imp_right (Or.imp_right fun hs => ⟨_, he, hs⟩)

/-- The ending of another job makes no difference. -/
theorem other (h : Issued ended job phase issued) {entry : String × Ending}
    (hne : entry.1 ≠ job) : Issued (ended ++ [entry]) job phase issued := by
  have hiff (ending : Ending) : (job, ending) ∈ ended ++ [entry] ↔ (job, ending) ∈ ended := by
    rw [List.mem_append, List.mem_singleton, or_iff_left]
    rintro rfl
    exact hne rfl
  cases h with
  | starting hopen => exact .starting fun ending hm => hopen ending ((hiff ending).mp hm)
  | generating hopen => exact .generating fun ending hm => hopen ending ((hiff ending).mp hm)
  | ending he => exact .ending ((hiff _).mpr he)
  | done he => exact .done ((hiff _).mpr he)

end Issued

/-- A report adds its status to those issued. -/
theorem Issued.sent {ended : List (String × Ending)} {w : Worker} {issued : List Status}
    (h : Issued ended w.job w.phase issued) {u : Update} {phase : Phase}
    (hu : w.sending? = some (u, phase)) :
    u.job = w.job ∧ Issued ended w.job phase (issued ++ [u.status]) := by
  obtain ⟨job, template, before⟩ := w
  cases h with
  | starting hopen =>
    cases hu
    exact ⟨rfl, .generating hopen⟩
  | generating hopen => cases hu
  | ending he =>
    cases hu
    exact ⟨rfl, .done he⟩
  | done he => cases hu

/-- What can be answered about a job: nothing, pending, progress, or how its generation ended. -/
def Possible (ended : List (String × Ending)) (job : String) (answer : Option Status) : Prop :=
  answer = none ∨ answer = some .pending ∨ answer = some (.inProgress 0) ∨
    ∃ ending, (job, ending) ∈ ended ∧ answer = some (.ofEnding ending)

theorem Possible.later {ended : List (String × Ending)} {job : String} {answer : Option Status}
    (h : Possible ended job answer) (more : List (String × Ending)) :
    Possible (ended ++ more) job answer := by
  refine h.imp_right (Or.imp_right (Or.imp_right ?_))
  rintro ⟨ending, he, rfl⟩
  exact ⟨ending, List.mem_append_left more he, rfl⟩

/-- What a job shows and what waits for it is the last part of what it has been given. -/
def OnCourse (ended : List (String × Ending)) (b : Board) (w : Worker) : Prop :=
  ∃ shown issued, b.status? w.job = some shown ∧ Issued ended w.job w.phase issued ∧
    shown :: b.waiting w.job <:+ issued

/-- The system is in good order, when some generations have ended. -/
structure Tracked (s : System) (ended : List (String × Ending)) : Prop where
  running : s.board.receiver = .running
  room : 0 < s.board.capacity
  distinct : (s.workers.map Worker.job).Nodup
  unknown : ∀ job, job ∉ s.workers.map Worker.job →
    s.board.status? job = none ∧ s.board.waiting job = []
  onCourse : ∀ w ∈ s.workers, OnCourse ended s.board w
  endedOnce : (ended.map Prod.fst).Nodup
  endedKnown : ∀ entry ∈ ended, entry.1 ∈ s.workers.map Worker.job

namespace Tracked

variable {s : System} {ended : List (String × Ending)}

section Workers

variable (ht : Tracked s ended) {i : Nat} {w : Worker} (hw : s.workers[i]? = some w)
include hw

theorem map_job_set (phase : Phase) :
    (s.workers.set i { w with phase }).map Worker.job = s.workers.map Worker.job := by
  obtain ⟨hi, he⟩ := List.getElem?_eq_some_iff.mp hw
  apply List.ext_getElem
  · simp
  · intro j hj hj'
    rw [List.getElem_map, List.getElem_map, List.getElem_set]
    split
    · rename_i hij
      subst hij
      rw [he]
    · rfl

include ht in
/-- Of the workers after a step of one, that one has a new phase and the others have other jobs. -/
theorem mem_set_cases {phase : Phase} {x : Worker}
    (hx : x ∈ s.workers.set i { w with phase }) :
    x = { w with phase } ∨ (x ∈ s.workers ∧ x.job ≠ w.job) := by
  obtain ⟨hi, -⟩ := List.getElem?_eq_some_iff.mp hw
  have hdistinct : ((s.workers.set i { w with phase }).map Worker.job).Nodup := by
    rw [map_job_set hw]
    exact ht.distinct
  by_cases hj : x.job = w.job
  · exact .inl (List.inj_on_of_nodup_map hdistinct hx (List.mem_set hi _) hj)
  · rcases List.mem_or_eq_of_mem_set hx with hm | rfl
    · exact .inr ⟨hm, hj⟩
    · exact absurd rfl hj

end Workers

theorem schedule (ht : Tracked s ended) {job : String} (hnew : job ∉ s.workers.map Worker.job)
    (template : String) : Tracked (s.schedule job template) ended := by
  obtain ⟨hnone, hwaiting⟩ := ht.unknown job hnew
  have hother {other : String} (hne : job ≠ other) :
      (s.board.register job).status? other = s.board.status? other := by
    rw [Board.status?_register, if_neg hne]
  refine ⟨ht.running, ht.room, ?_, ?_, ?_, ht.endedOnce, ?_⟩
  · rw [System.schedule, List.map_append]
    refine List.nodup_append.mpr ⟨ht.distinct, List.nodup_singleton job, ?_⟩
    rintro a ha b hb rfl
    exact hnew ((List.mem_singleton.mp hb : a = job) ▸ ha)
  · intro other ho
    simp only [System.schedule, List.map_append, List.map_cons, List.map_nil, List.mem_append,
      List.mem_singleton, not_or] at ho
    obtain ⟨hunknown, hnothing⟩ := ht.unknown other ho.1
    exact ⟨(hother (Ne.symm ho.2)).trans hunknown, hnothing⟩
  · intro w hm
    rcases List.mem_append.mp hm with hold | hm
    · have hne : job ≠ w.job := by
        rintro rfl
        exact hnew (List.mem_map_of_mem hold)
      obtain ⟨shown, issued, hs, hi, hsuffix⟩ := ht.onCourse w hold
      exact ⟨shown, issued, (hother hne).trans hs, hi, hsuffix⟩
    · obtain rfl := List.mem_singleton.mp hm
      have hopen : ∀ ending, (job, ending) ∉ ended :=
        fun ending he => hnew (ht.endedKnown _ he)
      refine ⟨.pending, [.pending], ?_, .starting hopen, ?_⟩
      · exact (Board.status?_register _ _ _).trans (if_pos rfl)
      · have hissued : Status.pending :: s.board.waiting job = [.pending] := by rw [hwaiting]
        exact List.suffix_cons_iff.mpr (.inl hissued)
  · intro entry he
    rw [System.schedule, List.map_append]
    exact List.mem_append_left _ (ht.endedKnown entry he)

theorem send (ht : Tracked s ended) {i : Nat} {w : Worker} (hw : s.workers[i]? = some w)
    {u : Update} {phase : Phase} (hu : w.sending? = some (u, phase)) :
    Tracked ⟨s.board.enqueue u, s.workers.set i { w with phase }⟩ ended := by
  have hm := List.mem_of_getElem? hw
  have hjobs := map_job_set hw phase
  obtain ⟨shown, issued, hs, hi, hsuffix⟩ := ht.onCourse w hm
  obtain ⟨hjob, hsent⟩ := hi.sent hu
  refine ⟨ht.running, ht.room, ?_, ?_, ?_, ht.endedOnce, ?_⟩
  · rw [hjobs]
    exact ht.distinct
  · intro job hunknown
    rw [hjobs] at hunknown
    have hne : u.job ≠ job := by
      rintro rfl
      exact hunknown (hjob ▸ List.mem_map_of_mem hm)
    rw [Board.waiting_enqueue, if_neg hne]
    exact ht.unknown job hunknown
  · intro x hx
    rcases ht.mem_set_cases hw hx with rfl | ⟨hx, hne⟩
    · -- The status goes to the end of the queue and to the end of what was issued.
      refine ⟨shown, issued ++ [u.status], hs, hsent, ?_⟩
      rw [Board.waiting_enqueue, if_pos hjob, ← List.cons_append]
      exact List.suffix_append_self_iff.mpr hsuffix
    · obtain ⟨shown', issued', hs', hi', hsuffix'⟩ := ht.onCourse x hx
      refine ⟨shown', issued', hs', hi', ?_⟩
      rw [Board.waiting_enqueue, if_neg (by rw [hjob]; exact Ne.symm hne)]
      exact hsuffix'
  · rw [hjobs]
    exact ht.endedKnown

theorem generated (ht : Tracked s ended) {i : Nat} {w : Worker} (hw : s.workers[i]? = some w)
    (hp : w.phase = .generating) (ending : Ending) :
    Tracked { s with workers := s.workers.set i { w with phase := .ending (.ofEnding ending) } }
      (ended ++ [(w.job, ending)]) := by
  have hm := List.mem_of_getElem? hw
  have hjobs := map_job_set hw (.ending (.ofEnding ending))
  obtain ⟨shown, issued, hs, hi, hsuffix⟩ := ht.onCourse w hm
  rw [hp] at hi
  obtain ⟨hopen, rfl⟩ : (∀ other, (w.job, other) ∉ ended) ∧ issued = [.pending, .inProgress 0] := by
    cases hi with
    | generating hopen => exact ⟨hopen, rfl⟩
  refine ⟨ht.running, ht.room, ?_, ?_, ?_, ?_, ?_⟩
  · rw [hjobs]
    exact ht.distinct
  · rw [hjobs]
    exact ht.unknown
  · intro x hx
    rcases ht.mem_set_cases hw hx with rfl | ⟨hx, hne⟩
    · exact ⟨shown, _, hs, .ending (List.mem_append_right _ (List.mem_singleton.mpr rfl)), hsuffix⟩
    · obtain ⟨shown', issued', hs', hi', hsuffix'⟩ := ht.onCourse x hx
      exact ⟨shown', issued', hs', hi'.other (Ne.symm hne), hsuffix'⟩
  · rw [List.map_append]
    refine List.nodup_append.mpr ⟨ht.endedOnce, List.nodup_singleton _, ?_⟩
    rintro job hj _ hj' rfl
    obtain rfl := List.mem_singleton.mp hj'
    obtain ⟨⟨job, other⟩, he, rfl⟩ := List.mem_map.mp hj
    exact hopen other he
  · intro entry he
    rw [hjobs]
    rcases List.mem_append.mp he with he | he
    · exact ht.endedKnown entry he
    · rw [List.mem_singleton.mp he]
      exact List.mem_map_of_mem hm

/-- The update that the updater takes is for a known job, and what that job shows comes before it
in what it has been given. -/
theorem taken (ht : Tracked s ended) {u : Update} {board : Board}
    (hu : s.board.takeNext? = some (u, board)) {w : Worker} (hw : w ∈ s.workers)
    (hj : u.job = w.job) : ∃ shown issued, s.board.status? w.job = some shown ∧
      Issued ended w.job w.phase issued ∧
      shown :: u.status :: board.waiting w.job <:+ issued := by
  obtain ⟨shown, issued, hs, hi, hsuffix⟩ := ht.onCourse w hw
  rw [Board.waiting_takeNext hu, if_pos hj] at hsuffix
  exact ⟨shown, issued, hs, hi, hsuffix⟩

theorem known_of_takeNext (ht : Tracked s ended) {u : Update} {board : Board}
    (hu : s.board.takeNext? = some (u, board)) : u.job ∈ s.workers.map Worker.job := by
  by_contra hunknown
  have hnothing := (ht.unknown u.job hunknown).2
  rw [Board.waiting_takeNext hu, if_pos rfl] at hnothing
  cases hnothing

theorem update (ht : Tracked s ended) {u : Update} {board : Board}
    (hu : s.board.takeNext? = some (u, board)) : Tracked { s with board } ended := by
  have hknown := ht.known_of_takeNext hu
  obtain ⟨hr, queue, hq, hboard⟩ := Board.takeNext?_eq_some_iff.mp hu
  refine ⟨?_, ?_, ht.distinct, ?_, ?_, ht.endedOnce, ht.endedKnown⟩
  · rw [hboard]
    exact ht.running
  · rw [hboard]
    exact ht.room
  · intro job hunknown
    have hne : u.job ≠ job := by
      rintro rfl
      exact hunknown hknown
    obtain ⟨hnone, hnothing⟩ := ht.unknown job hunknown
    rw [Board.waiting_takeNext hu, if_neg hne] at hnothing
    rw [Board.status?_takeNext hu, if_neg hne]
    exact ⟨hnone, hnothing⟩
  · intro w hw
    rw [OnCourse, Board.status?_takeNext hu]
    by_cases hj : u.job = w.job
    · -- What was shown falls off the front; what was taken is shown in its place.
      obtain ⟨shown, issued, -, hi, hsuffix⟩ := ht.taken hu hw hj
      exact ⟨u.status, issued, if_pos hj, hi, (List.suffix_cons shown _).trans hsuffix⟩
    · obtain ⟨shown, issued, hs, hi, hsuffix⟩ := ht.onCourse w hw
      rw [Board.waiting_takeNext hu, if_neg hj] at hsuffix
      exact ⟨shown, issued, (if_neg hj).trans hs, hi, hsuffix⟩

/-- A running updater and room in the queue: an offer is taken over exactly by enqueueing it. -/
theorem eq_enqueue_of_sent (ht : Tracked s ended) {u : Update} {board : Board}
    (ho : s.board.offer u = (.sent, board)) : board = s.board.enqueue u := by
  have hoffered := Board.offered s.board u
  rw [ho] at hoffered
  cases hoffered with
  | lost hl => simp [Board.listening, ht.running] at hl
  | queued hl hroom => rfl

/-- A step keeps the good order, and the workers are for the ids that were handed out. -/
theorem move (ht : Tracked s ended) {m : Move} {s' : System} (hm : Moved s m s')
    (hnew : ∀ job, m.job? = some job → job ∉ s.workers.map Worker.job) :
    Tracked s' (ended ++ (s.ended? m).toList) ∧
      s'.workers.map Worker.job = s.workers.map Worker.job ++ m.job?.toList := by
  have hended (h : s.ended? m = none) : ended ++ (s.ended? m).toList = ended := by
    rw [h, Option.toList_none, List.append_nil]
  have hjobs (h : m.job? = none) :
      s.workers.map Worker.job ++ m.job?.toList = s.workers.map Worker.job := by
    rw [h, Option.toList_none, List.append_nil]
  cases hm with
  | scheduled job template =>
    rw [hended rfl]
    exact ⟨ht.schedule (hnew job rfl) template, List.map_append⟩
  | sent hw hu ho =>
    rw [hended rfl, hjobs rfl, ht.eq_enqueue_of_sent ho]
    exact ⟨ht.send hw hu, map_job_set hw _⟩
  | generated hw hp =>
    rw [System.ended?, hw, hjobs rfl]
    exact ⟨ht.generated hw hp _, map_job_set hw _⟩
  | updated hu =>
    rw [hended rfl, hjobs rfl]
    exact ⟨ht.update hu, rfl⟩

/-- The status of a job on the board stays, or that of a later stage takes its place. -/
theorem onward (ht : Tracked s ended) {m : Move} {s' : System} (hm : Moved s m s')
    (hnew : ∀ job, m.job? = some job → job ∉ s.workers.map Worker.job) (job : String) :
    Onward (s.board.status? job) (s'.board.status? job) := by
  cases hm with
  | scheduled registered template =>
    rw [System.schedule, Board.status?_register]
    split
    · rename_i he
      subst he
      rw [(ht.unknown registered (hnew registered rfl)).1]
      exact .inr Nat.one_pos
    · exact .inl rfl
  | sent hw hu ho =>
    rw [ht.eq_enqueue_of_sent ho]
    exact .inl rfl
  | generated hw hp => exact .inl rfl
  | @updated u board hu =>
    rw [Board.status?_takeNext hu]
    split
    · rename_i hj
      subst hj
      obtain ⟨w, hw, hj⟩ := List.mem_map.mp (ht.known_of_takeNext hu)
      obtain ⟨shown, issued, hs, hi, hsuffix⟩ := ht.taken hu hw hj.symm
      have hpair := hi.increasing.sublist hsuffix.sublist
      rw [← hj, hs]
      exact .inr (List.rel_of_pairwise_cons hpair List.mem_cons_self)
    · exact .inl rfl

theorem possible (ht : Tracked s ended) (job : String) :
    Possible ended job (s.board.status? job) := by
  by_cases hknown : job ∈ s.workers.map Worker.job
  · obtain ⟨w, hw, rfl⟩ := List.mem_map.mp hknown
    obtain ⟨shown, issued, hs, hi, hsuffix⟩ := ht.onCourse w hw
    rw [hs]
    right
    rcases hi.mem_cases (hsuffix.subset List.mem_cons_self) with rfl | rfl | ⟨ending, he, rfl⟩
    · exact .inl rfl
    · exact .inr (.inl rfl)
    · exact .inr (.inr ⟨ending, he, rfl⟩)
  · exact .inl (ht.unknown job hknown).1

theorem status?_eq_none_iff (ht : Tracked s ended) (job : String) :
    s.board.status? job = none ↔ job ∉ s.workers.map Worker.job := by
  refine ⟨?_, fun hunknown => (ht.unknown job hunknown).1⟩
  intro hnone hknown
  obtain ⟨w, hw, rfl⟩ := List.mem_map.mp hknown
  obtain ⟨shown, issued, hs, -, -⟩ := ht.onCourse w hw
  rw [hnone] at hs
  cases hs

/-- When a worker has done its part and nothing waits, its job shows how it ended. -/
theorem status?_of_done (ht : Tracked s ended) {w : Worker} (hw : w ∈ s.workers)
    (hdone : w.phase = .done) (hempty : s.board.queue = []) :
    ∃ ending, (w.job, ending) ∈ ended ∧ s.board.status? w.job = some (.ofEnding ending) := by
  obtain ⟨shown, issued, hs, hi, hsuffix⟩ := ht.onCourse w hw
  rw [Board.waiting, hempty] at hsuffix
  rw [hdone] at hi
  cases hi with
  | @done ending he =>
    have hlast := List.singleton_suffix_iff_getLast?_eq_some.mp hsuffix
    obtain rfl : Status.ofEnding ending = shown := Option.some.inj hlast
    exact ⟨ending, he, hs⟩

/-- Unless all is done, the updater or a worker has a step to take. -/
theorem can_go_on (ht : Tracked s ended) :
    ((∀ w ∈ s.workers, w.phase = .done) ∧ s.board.queue = []) ∨
      s.move? .update ≠ none ∨
      ∃ i, s.move? (.send i) ≠ none ∨ ∀ ending, s.move? (.generated i ending) ≠ none := by
  cases hq : s.board.queue with
  | cons u queue =>
    have hu := Board.takeNext?_eq_some_iff.mpr ⟨ht.running, queue, hq, rfl⟩
    refine .inr (.inl ?_)
    simp [System.move?, hu]
  | nil =>
    by_cases hdone : ∀ w ∈ s.workers, w.phase = .done
    · exact .inl ⟨hdone, rfl⟩
    · simp only [not_forall] at hdone
      obtain ⟨w, hm, hphase⟩ := hdone
      obtain ⟨i, hw⟩ := List.mem_iff_getElem?.mp hm
      have hroom : s.board.queue.length < s.board.capacity := by
        rw [hq]
        exact ht.room
      have hsend {u : Update} {phase : Phase} (hu : w.sending? = some (u, phase)) :
          s.move? (.send i) ≠ none := by
        have hsent : (s.board.offer u).1 = .sent := (Board.offer_sent_iff _ u).mpr (.inl hroom)
        cases ho : s.board.offer u with
        | mk delivery board =>
          rw [ho] at hsent
          obtain rfl : delivery = .sent := hsent
          simp [System.move?, hw, hu, ho]
      refine .inr (.inr ⟨i, ?_⟩)
      cases hp : w.phase with
      | starting => exact .inl (hsend (by rw [Worker.sending?, hp]))
      | generating =>
        refine .inr fun ending => ?_
        simp [System.move?, hw, hp]
      | ending status => exact .inl (hsend (by rw [Worker.sending?, hp]))
      | done => exact absurd hp hphase

end Tracked

/-- Something that happens while jobs run: a step of one of the parties, or a look at the board. -/
inductive Turn where
  | move (m : Move)
  | poll (job : String)

/-- The step in a turn. -/
def Turn.move? : Turn → Option Move
  | .move m => some m
  | .poll _ => none

/-- The id that a turn hands out. -/
def Turn.job? : Turn → Option String
  | .move m => m.job?
  | .poll _ => none

/-- A system with a record of how generations ended and of the answers that were given. -/
structure Watch where
  system : System
  ended : List (String × Ending)
  answers : List (String × Option Status)

namespace Watch

/-- A board whose updater runs, before the first job. -/
def ofBoard (board : Board) : Watch :=
  ⟨⟨board.handOver, []⟩, [], []⟩

/-- A step that cannot be taken leaves all as it is. -/
def turn (v : Watch) : Turn → Watch
  | .move m =>
    match v.system.move? m with
    | some system => { v with system, ended := v.ended ++ (v.system.ended? m).toList }
    | none => v
  | .poll job => { v with answers := v.answers ++ [(job, v.system.board.status? job)] }

def play (v : Watch) (turns : List Turn) : Watch :=
  turns.foldl turn v

theorem play_concat (v : Watch) (turns : List Turn) (t : Turn) :
    v.play (turns ++ [t]) = (v.play turns).turn t := by
  rw [play, List.foldl_append]
  rfl

/-- Looking at the board does not disturb the parties. -/
theorem play_system (v : Watch) (turns : List Turn) :
    (v.play turns).system = v.system.run (turns.filterMap Turn.move?) := by
  induction turns generalizing v with
  | nil => rfl
  | cons t turns ih =>
    rw [play, List.foldl_cons]
    refine (ih (v.turn t)).trans ?_
    cases t with
    | poll job => rfl
    | move m =>
      have hturned : (v.turn (.move m)).system = (v.system.move? m).getD v.system := by
        rw [turn]
        cases v.system.move? m with
        | none => rfl
        | some system => rfl
      rw [hturned]
      rfl

/-- The answers about a job, the oldest first. -/
def about (v : Watch) (job : String) : List (Option Status) :=
  (v.answers.filter (·.1 == job)).map Prod.snd

theorem about_poll (v : Watch) (polled job : String) :
    (v.turn (.poll polled)).about job
      = if polled = job then v.about job ++ [v.system.board.status? job] else v.about job := by
  rw [turn, about, about, List.filter_append, List.map_append]
  split
  · rename_i he
    simp [he]
  · rename_i hne
    simp [hne]

/-- A status tells how the one generation of a job ended. -/
structure Final (v : Watch) (job : String) (status : Status) (ending : Ending) : Prop where
  own : ∀ other, (job, other) ∈ v.ended ↔ other = ending
  status_eq : status = .ofEnding ending
  completed : ∀ path, status = .completed path ↔ ending = .returned (.ok path)
  failed : (∀ path, ending ≠ .returned (.ok path)) → ∃ message, status = .failed message

/-- The system is in good order, and what has been answered agrees with what the board shows. -/
structure Faithful (v : Watch) (handed : List String) : Prop where
  tracked : Tracked v.system v.ended
  handed_eq : v.system.workers.map Worker.job = handed
  ordered : ∀ job, (v.about job).Pairwise Onward
  behind : ∀ job, ∀ answer ∈ v.about job, Onward answer (v.system.board.status? job)
  possible : ∀ job, ∀ answer ∈ v.about job, Possible v.ended job answer

namespace Faithful

variable {v : Watch} {handed : List String}

theorem ofBoard {capacity : Nat} {board : Board} (h : Board.ofCapacity? capacity = some board) :
    Faithful (Watch.ofBoard board) [] := by
  obtain ⟨hpos, rfl⟩ := Board.ofCapacity?_eq_some_iff.mp h
  constructor
  case tracked =>
    constructor
    case running => rfl
    case room => exact hpos
    case distinct => exact List.nodup_nil
    case unknown => exact fun job _ => ⟨rfl, rfl⟩
    case onCourse => exact fun _ hw => absurd hw List.not_mem_nil
    case endedOnce => exact List.nodup_nil
    case endedKnown => exact fun _ he => absurd he List.not_mem_nil
  case handed_eq => rfl
  case ordered => exact fun job => List.Pairwise.nil
  case behind => exact fun _ _ ha => absurd ha List.not_mem_nil
  case possible => exact fun _ _ ha => absurd ha List.not_mem_nil

theorem move (hf : Faithful v handed) {m : Move}
    (hnew : ∀ job, m.job? = some job → job ∉ handed) :
    Faithful (v.turn (.move m)) (handed ++ m.job?.toList) := by
  rw [← hf.handed_eq] at hnew ⊢
  rw [turn]
  split
  · rename_i system hs
    obtain ⟨htracked, hjobs⟩ := hf.tracked.move (moved hs) hnew
    refine { hf with tracked := htracked, handed_eq := hjobs, behind := ?_, possible := ?_ }
    · intro job answer ha
      exact (hf.behind job answer ha).trans (hf.tracked.onward (moved hs) hnew job)
    · exact fun job answer ha => (hf.possible job answer ha).later _
  · rename_i hnone
    have hjob : m.job? = none := by
      cases m with
      | schedule job template => cases hnone
      | _ => rfl
    rw [hjob, Option.toList_none, List.append_nil]
    exact { hf with handed_eq := rfl }

theorem poll (hf : Faithful v handed) (polled : String) :
    Faithful (v.turn (.poll polled)) handed := by
  refine { hf with ordered := ?_, behind := ?_, possible := ?_ }
  · intro job
    rw [about_poll]
    split
    · refine List.pairwise_append.mpr ⟨hf.ordered job, List.pairwise_singleton _ _, ?_⟩
      intro answer ha last hlast
      rw [List.mem_singleton.mp hlast]
      exact hf.behind job answer ha
    · exact hf.ordered job
  · intro job answer ha
    rw [about_poll] at ha
    split at ha
    · rcases List.mem_append.mp ha with ha | ha
      · exact hf.behind job answer ha
      · exact .inl (List.mem_singleton.mp ha)
    · exact hf.behind job answer ha
  · intro job answer ha
    rw [about_poll] at ha
    split at ha
    · rcases List.mem_append.mp ha with ha | ha
      · exact hf.possible job answer ha
      · rw [List.mem_singleton.mp ha]
        exact hf.tracked.possible job
    · exact hf.possible job answer ha

theorem turn (hf : Faithful v handed) {t : Turn} (hnew : ∀ job, t.job? = some job → job ∉ handed) :
    Faithful (v.turn t) (handed ++ t.job?.toList) := by
  cases t with
  | move m => exact hf.move hnew
  | poll job =>
    rw [Turn.job?, Option.toList_none, List.append_nil]
    exact hf.poll job

theorem play {capacity : Nat} {board : Board} (h : Board.ofCapacity? capacity = some board)
    {turns : List Turn} (hids : (turns.filterMap Turn.job?).Nodup) :
    Faithful ((Watch.ofBoard board).play turns) (turns.filterMap Turn.job?) := by
  induction turns using List.reverseRecOn with
  | nil => exact ofBoard h
  | append_singleton turns t ih =>
    have hjob : [t].filterMap Turn.job? = t.job?.toList := rfl
    rw [List.filterMap_append, hjob] at hids
    obtain ⟨hearlier, -, hnew⟩ := List.nodup_append.mp hids
    rw [play_concat, List.filterMap_append, hjob]
    refine (ih hearlier).turn fun job hj hm => ?_
    exact hnew job hm job (Option.mem_toList.mpr hj) rfl

/-- A job that has an ending has no other. -/
theorem final (hf : Faithful v handed) {job : String} {ending : Ending}
    (he : (job, ending) ∈ v.ended) : v.Final job (.ofEnding ending) ending where
  own other := by
    refine ⟨fun ho => ?_, fun ho => ho ▸ he⟩
    exact congrArg Prod.snd (List.inj_on_of_nodup_map hf.tracked.endedOnce ho he rfl)
  status_eq := rfl
  completed _ := Status.ofEnding_eq_completed_iff
  failed hne := by
    rcases Status.ofEnding_completed_or_failed ending with ⟨path, hpath⟩ | hfailed
    · exact absurd hpath (hne path)
    · exact hfailed

end Faithful

end Watch

/-- However full the queue has become, some party can go on until all is done. -/
theorem never_stuck {capacity : Nat} {board : Board}
    (hboard : Board.ofCapacity? capacity = some board) {turns : List Turn}
    (hids : (turns.filterMap Turn.job?).Nodup) :
    let s := ((Watch.ofBoard board).play turns).system
    ((∀ w ∈ s.workers, w.phase = .done) ∧ s.board.queue = []) ∨
      s.move? .update ≠ none ∨
      ∃ i, s.move? (.send i) ≠ none ∨ ∀ ending, s.move? (.generated i ending) ≠ none :=
  (Watch.Faithful.play hboard hids).tracked.can_go_on

/-- What is answered about a job goes from pending through progress to the status of its own ending
and never back. Nothing is known of an id that was not handed out, and when all workers are through
and nothing waits, every job shows how it ended. -/
theorem job_course {capacity : Nat} {board : Board}
    (hboard : Board.ofCapacity? capacity = some board) {turns : List Turn}
    (hids : (turns.filterMap Turn.job?).Nodup) :
    let v := (Watch.ofBoard board).play turns
    (∀ job, (v.about job).Pairwise Onward) ∧
    (∀ job, ∀ answer ∈ v.about job, answer = none ∨ answer = some .pending ∨
      answer = some (.inProgress 0) ∨
        ∃ status ending, answer = some status ∧ v.Final job status ending) ∧
    (∀ job, v.system.board.status? job = none ↔ job ∉ turns.filterMap Turn.job?) ∧
    (∀ job, job ∉ turns.filterMap Turn.job? → ∀ answer ∈ v.about job, answer = none) ∧
    ((∀ w ∈ v.system.workers, w.phase = .done) → v.system.board.queue = [] →
      ∀ job ∈ turns.filterMap Turn.job?, ∃ status ending,
        v.system.board.status? job = some status ∧ v.Final job status ending) := by
  intro v
  have hf : v.Faithful (turns.filterMap Turn.job?) := Watch.Faithful.play hboard hids
  have hnone (job : String) :
      v.system.board.status? job = none ↔ job ∉ turns.filterMap Turn.job? := by
    rw [← hf.handed_eq]
    exact hf.tracked.status?_eq_none_iff job
  refine ⟨hf.ordered, ?_, hnone, ?_, ?_⟩
  · intro job answer ha
    refine (hf.possible job answer ha).imp_right (Or.imp_right (Or.imp_right ?_))
    rintro ⟨ending, he, rfl⟩
    exact ⟨_, ending, rfl, hf.final he⟩
  · intro job hunknown answer ha
    have hbehind := hf.behind job answer ha
    rw [(hnone job).mpr hunknown] at hbehind
    exact hbehind.of_none
  · intro hdone hempty job hj
    rw [← hf.handed_eq] at hj
    obtain ⟨w, hw, rfl⟩ := List.mem_map.mp hj
    obtain ⟨ending, he, hs⟩ := hf.tracked.status?_of_done hw (hdone w hw) hempty
    exact ⟨_, ending, hs, hf.final he⟩

/-- Two jobs on a queue with room for one update; each has a report that first has to wait. -/
def twoJobs : List Turn :=
  [.move (.schedule "a" "t"), .move (.schedule "b" "t"), .poll "a", .poll "c", .move (.send 0),
    .move (.send 1), .move .update, .move (.send 1), .poll "a",
    .move (.generated 0 (.returned (.ok "p"))), .move (.send 0), .move .update, .move (.send 0),
    .move (.generated 1 (.broken "x")), .move .update, .poll "a", .move (.send 1), .poll "b",
    .move .update, .poll "b"]

theorem twoJobs_course :
    let v := (Watch.ofBoard ⟨[], [], 1, .idle, true⟩).play twoJobs
    v.about "a" = [some .pending, some (.inProgress 0), some (.completed "p")] ∧
    v.about "b" = [some (.inProgress 0), some (.ofEnding (.broken "x"))] ∧
    v.about "c" = [none] ∧
    (v.about "a").Pairwise Onward ∧
    ∀ job ∈ ["a", "b"], ∃ status ending,
      v.system.board.status? job = some status ∧ v.Final job status ending := by
  intro v
  have hboard : Board.ofCapacity? 1 = some ⟨[], [], 1, .idle, true⟩ := rfl
  have hids : (twoJobs.filterMap Turn.job?).Nodup := by decide
  have hworkers : v.system.workers = [⟨"a", "t", .done⟩, ⟨"b", "t", .done⟩] := rfl
  have hdone : ∀ w ∈ v.system.workers, w.phase = .done := by simp [hworkers]
  obtain ⟨hordered, -, -, -, hfinal⟩ := job_course hboard hids
  exact ⟨rfl, rfl, rfl, hordered "a", hfinal hdone rfl⟩

end Folio.Jobs
