import Folio.Data
import Folio.Json.Writer

namespace Folio.Jobs

inductive Status where
  | pending
  | inProgress (percent : Nat)
  | completed (path : String)
  | failed (message : String)
deriving DecidableEq, Repr

namespace Status
open Json

def toJson : Status → List Char
  | pending => writeString "Pending"
  | inProgress percent => writeObject [("InProgress", writeInt percent)]
  | completed path => writeObject [("Completed", writeString path)]
  | failed message => writeObject [("Failed", writeString message)]

end Status

structure Update where
  job : String
  status : Status
deriving DecidableEq

/-- Who holds the receiving end of the queue. -/
inductive Receiver where
  /-- Nobody takes updates yet. -/
  | idle
  /-- The updater takes them as they come. -/
  | running
  /-- The receiving end was closed; updates are lost. -/
  | closed
  /-- The updater has ended after the last update. -/
  | finished
deriving DecidableEq, Repr

structure Board where
  statuses : List (String × Status)
  queue : List Update
  capacity : Nat
  receiver : Receiver
  /-- Whether the sending end is still held. -/
  open_ : Bool

inductive Delivery where
  | sent
  /-- The queue is full and nobody drains it; the update was given up. -/
  | blocked
deriving DecidableEq, Repr

namespace Board

/-- A queue has room for at least one update. -/
def ofCapacity? (capacity : Nat) : Option Board :=
  if capacity = 0 then none else some ⟨[], [], capacity, .idle, true⟩

def status? (b : Board) (job : String) : Option Status :=
  b.statuses.lookup job

def size (b : Board) : Nat :=
  b.statuses.length

/-- Puts a job whose id is new on the board. -/
def register (b : Board) (job : String) : Board :=
  { b with statuses := assign job .pending b.statuses }

/-- A running updater takes the oldest waiting update and writes it on the board. -/
def takeNext? (b : Board) : Option (Update × Board) :=
  match b.receiver, b.queue with
  | .running, u :: queue =>
    some (u, { b with statuses := assign u.job u.status b.statuses, queue })
  | _, _ => none

/-- The updater takes all waiting updates. -/
def drain (b : Board) : Board :=
  { b with
    statuses := b.queue.foldl (fun statuses u => assign u.job u.status statuses) b.statuses
    queue := [] }

/-- A running updater takes all waiting updates. -/
def settle (b : Board) : Board :=
  match b.receiver with
  | .running => b.drain
  | _ => b

/-- Room in the queue for one more update. -/
def hasRoom (b : Board) : Bool :=
  b.queue.length < b.capacity

def enqueue (b : Board) (u : Update) : Board :=
  { b with queue := b.queue ++ [u] }

/-- Puts an update into the queue if there is room. Behind a closed receiving end it is lost. -/
def offer (b : Board) (u : Update) : Delivery × Board :=
  match b.receiver with
  | .closed | .finished => (.sent, b)
  | .idle | .running => if b.hasRoom then (.sent, b.enqueue u) else (.blocked, b)

/-- Reports a status while a running updater keeps up: it has taken everything before and takes
this at once. -/
def report (b : Board) (u : Update) : Delivery × Board :=
  let (delivery, b) := b.settle.offer u
  (delivery, b.settle)

/-- Hands the receiving end to the updater, once and not after it was closed. -/
def handOver (b : Board) : Board :=
  match b.receiver with
  | .idle => { b with receiver := .running }
  | _ => b

/-- Starts the updater and lets it take what waits. -/
def start (b : Board) : Board :=
  b.handOver.settle

/-- Drops the receiving end if the updater does not have it; waiting updates are lost. -/
def close (b : Board) : Board :=
  match b.receiver with
  | .idle => { b with queue := [], receiver := .closed }
  | _ => b

/-- Drops the sending end. -/
def dropSender (b : Board) : Board :=
  { b with open_ := false }

/-- The updater ends when nothing waits and nobody can send any more. -/
def leave (b : Board) : Board :=
  if b.receiver = .running ∧ b.queue = [] ∧ b.open_ = false then { b with receiver := .finished }
  else b

/-- Drops the sending end and waits for the updater; tells whether there was one to wait for. -/
def finish (b : Board) : Bool × Board :=
  (b.receiver = .running, b.dropSender.settle.leave)

end Board

end Folio.Jobs
