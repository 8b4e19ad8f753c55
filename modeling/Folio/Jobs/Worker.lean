import Folio.Engine
import Folio.Jobs.Board

namespace Folio.Jobs

/-- How the generation of a job ended. -/
inductive Ending where
  | returned (result : Except ReportError String)
  /-- Its task broke off before there was a result. -/
  | broken (detail : String)

/-- The status in which an ending leaves its job. -/
def Status.ofEnding : Ending → Status
  | .returned (.ok path) => .completed path
  | .returned (.error e) => .failed e.message
  | .broken detail => .failed ("Task join error: " ++ detail)

inductive Phase where
  /-- About to report the start. -/
  | starting
  | generating
  /-- About to report the end. -/
  | ending (status : Status)
  | done
deriving DecidableEq, Repr

structure Worker where
  job : String
  template : String
  phase : Phase

structure System where
  board : Board
  workers : List Worker

/-- One step of one of the parties. -/
inductive Move where
  /-- A job with a new id is registered and its worker set up. -/
  | schedule (job template : String)
  /-- A worker puts the update it is about to report into the queue. -/
  | send (worker : Nat)
  /-- A worker's generation ends. -/
  | generated (worker : Nat) (ending : Ending)
  /-- The updater takes one update. -/
  | update

namespace Worker

/-- The update that the worker waits to report, and its phase afterwards. -/
def sending? (w : Worker) : Option (Update × Phase) :=
  match w.phase with
  | .starting => some (⟨w.job, .inProgress 0⟩, .generating)
  | .ending status => some (⟨w.job, status⟩, .done)
  | _ => none

end Worker

namespace System

def schedule (s : System) (job template : String) : System :=
  ⟨s.board.register job, s.workers ++ [⟨job, template, .starting⟩]⟩

/-- The system after a step, if that step can be taken. A report waits while the queue is full. -/
def move? (s : System) : Move → Option System
  | .schedule job template => some (s.schedule job template)
  | .send i => do
    let w ← s.workers[i]?
    let (u, phase) ← w.sending?
    match s.board.offer u with
    | (.sent, board) => return ⟨board, s.workers.set i { w with phase }⟩
    | (.blocked, _) => none
  | .generated i ending => do
    let w ← s.workers[i]?
    if w.phase = .generating then
      return { s with workers := s.workers.set i { w with phase := .ending (.ofEnding ending) } }
    else none
  | .update => do
    let (_, board) ← s.board.takeNext?
    return { s with board }

/-- Takes steps one after the other, as far as they can be taken. -/
def run (s : System) : List Move → System
  | [] => s
  | m :: ms => ((s.move? m).getD s).run ms

/-- The steps of one worker from beginning to end, with the updater at its heels. -/
def workerMoves (worker : Nat) (ending : Ending) : List Move :=
  [.send worker, .update, .generated worker ending, .send worker, .update]

/-- Schedules a job and lets it come to its end. -/
def runJob (s : System) (job template : String) (ending : Ending) : System :=
  (s.schedule job template).run (workerMoves s.workers.length ending)

end System

end Folio.Jobs
