import ChangeLens.Diagnostic

/-!
# `ChangeLens.Pool`: a batch of tasks in a bounded number of workers

Every task runs in a worker of its own, and at most `limit` workers run at a time. The pool is a
state with three places for a task: it waits in the queue, it runs, or it has its outcome. One turn
of the pool first starts waiting tasks and then attends to every running worker, by what can be seen
of the workers at that moment: an envelope may have arrived, the worker may have ended, its task may
be cancelled or overdue. What is seen is an argument of the turn, so every order of events is some
sequence of turns. Once an envelope is there, it decides the outcome.
-/

set_option autoImplicit false

namespace ChangeLens.Pool

universe u

/-! ### Tasks, envelopes and outcomes -/

/-- A task by its place in the batch and its name. -/
structure Job where
  /-- The place in the batch. -/
  index : Nat
  /-- The name in outcomes. -/
  key : String
deriving Repr, DecidableEq

/-- What a task leads to: a value or a message. A worker sends it once, and the pool reports it. -/
inductive Envelope (α : Type u) where
  /-- The task has a value. -/
  | success (payload : α)
  /-- The task failed. -/
  | failure (message : String)
deriving Repr, DecidableEq

/-- Whether a task has a value. -/
def Envelope.isSuccess {α : Type u} : Envelope α → Bool
  | success _ => true
  | failure _ => false

/-- The tasks of a batch with these names, in the order in which they are submitted. -/
def batch (keys : List String) : List Job :=
  keys.zipIdx.map fun (key, index) => ⟨index, key⟩

/-- The outcome of a task. -/
structure Outcome (α : Type u) where
  /-- The task. -/
  job : Job
  /-- What it led to. -/
  result : Envelope α
deriving Repr, DecidableEq

/-- The message of a task that was cancelled. -/
def cancelledMessage : String :=
  "Task cancelled"

/-- The message of a task that needed too much memory. -/
def memoryMessage : String :=
  "Worker ran out of memory"

/-! ### Workers -/

/-- A running worker. -/
structure Worker (α : Type u) where
  /-- Its task. -/
  job : Job
  /-- The envelope it sent, once it arrived. -/
  envelope : Option (Envelope α) := none
  /-- Nothing more will arrive, although no envelope did. -/
  closed : Bool := false
deriving Repr, DecidableEq

/-- What arrives from a worker in one turn. -/
inductive Arrival (α : Type u) where
  /-- Nothing. -/
  | nothing
  /-- Its envelope. -/
  | envelope (sent : Envelope α)
  /-- The news that nothing will arrive any more. -/
  | closed
deriving Repr, DecidableEq

/-- What can be seen of a worker in one turn. -/
structure Sighting (α : Type u) where
  /-- What arrives from it. -/
  arrival : Arrival α := .nothing
  /-- The worker has ended. -/
  ended : Bool := false
  /-- What is found in its pipe after it has ended. -/
  leftover : Option (Envelope α) := none
  /-- The worker ends while the pool waits a moment for it after its envelope arrived. -/
  endsSoon : Bool := false
  /-- The exit code of a worker that has ended. -/
  exitCode : Option Int := none
  /-- The task is cancelled. -/
  cancelled : Bool := false
  /-- The task ran longer than it may. -/
  overdue : Bool := false

namespace Worker

variable {α : Type u}

/-- Takes in what arrives. Only the first envelope counts. -/
def receive (worker : Worker α) (arrival : Arrival α) : Worker α :=
  match worker.envelope, arrival with
  | none, .envelope sent => { worker with envelope := some sent }
  | none, .closed => { worker with closed := true }
  | _, _ => worker

/-- The envelope of a worker that has ended; one may still be found in its pipe. -/
def lastEnvelope (worker : Worker α) (leftover : Option (Envelope α)) : Option (Envelope α) :=
  match worker.envelope with
  | some sent => some sent
  | none => if worker.closed then none else leftover

/-- The outcome of a worker that has ended: its envelope decides, and without one it crashed. -/
def finish (worker : Worker α) (seen : Sighting α) : Outcome α :=
  match worker.lastEnvelope seen.leftover with
  | some sent => ⟨worker.job, sent⟩
  | none => ⟨worker.job, .failure (Diagnostic.crashReason seen.exitCode)⟩

/-- The outcome of a worker that is stopped. -/
def abort (worker : Worker α) (message : String) : Outcome α :=
  ⟨worker.job, .failure message⟩

/-- Attends to a worker that has taken in what arrived: either it has its outcome or it goes on. -/
def settle (timeoutMs : Int) (seen : Sighting α) (worker : Worker α) : Outcome α ⊕ Worker α :=
  if seen.ended then .inl (worker.finish seen)
  -- With its envelope in, a worker is neither cancelled nor overdue any more.
  else if worker.envelope.isSome then
    if seen.endsSoon then .inl (worker.finish seen) else .inr worker
  else if seen.cancelled then .inl (worker.abort cancelledMessage)
  else if seen.overdue then .inl (worker.abort (Diagnostic.timeoutReason timeoutMs))
  else .inr worker

/-- Attends to a worker. -/
def attend (timeoutMs : Int) (seen : Sighting α) (worker : Worker α) : Outcome α ⊕ Worker α :=
  (worker.receive seen.arrival).settle timeoutMs seen

end Worker

/-! ### Turns -/

/-- The state of a pool. Each task is in one of three places. -/
structure State (α : Type u) where
  /-- The tasks that wait, in order. -/
  queue : List Job
  /-- The running workers. -/
  running : List (Worker α)
  /-- The outcomes so far. -/
  outcomes : List (Outcome α)
deriving Repr, DecidableEq

/-- What can be seen in one turn. -/
structure Turn (α : Type u) where
  /-- Whether a waiting task is cancelled when its time has come. -/
  isCancelled : Job → Bool
  /-- What can be seen of a worker, by its task. -/
  sighting : Job → Sighting α

namespace State

variable {α : Type u}

/-- The state before the first turn. -/
def initial (jobs : List Job) : State α :=
  ⟨jobs, [], []⟩

/-- Nothing waits and nothing runs. -/
def isDone (state : State α) : Bool :=
  state.queue.isEmpty && state.running.isEmpty

/-- Starts waiting tasks as long as a worker is free. A cancelled task gets its outcome instead. -/
def fill (limit : Nat) (isCancelled : Job → Bool) :
    List Job → List (Worker α) → List (Outcome α) → State α
  | [], running, outcomes => ⟨[], running, outcomes⟩
  | job :: queue, running, outcomes =>
    if running.length < limit then
      if isCancelled job then
        fill limit isCancelled queue running
          (outcomes ++ [⟨job, .failure cancelledMessage⟩])
      else fill limit isCancelled queue (running ++ [{ job }]) outcomes
    else ⟨job :: queue, running, outcomes⟩

/-- The first half of a turn: waiting tasks are started. -/
def filled (limit : Nat) (turn : Turn α) (state : State α) : State α :=
  fill limit turn.isCancelled state.queue state.running state.outcomes

/-- Attends to all running workers. -/
def attendAll (timeoutMs : Int) (sighting : Job → Sighting α) (state : State α) : State α :=
  let attended := state.running.map fun worker =>
    worker.attend timeoutMs (sighting worker.job)
  { queue := state.queue
    running := attended.filterMap Sum.getRight?
    outcomes := state.outcomes ++ attended.filterMap Sum.getLeft? }

/-- One turn. -/
def step (limit : Nat) (timeoutMs : Int) (turn : Turn α) (state : State α) : State α :=
  (state.filled limit turn).attendAll timeoutMs turn.sighting

/-- Several turns. A pool that is done stays as it is. -/
def run (limit : Nat) (timeoutMs : Int) (turns : List (Turn α)) (state : State α) : State α :=
  turns.foldl (fun state turn => state.step limit timeoutMs turn) state

/-- The outcomes of some tasks, in their order. -/
def results (state : State α) (jobs : List Job) : List (Outcome α) :=
  jobs.filterMap fun job => state.outcomes.find? fun outcome => outcome.job.index == job.index

end State

end ChangeLens.Pool
