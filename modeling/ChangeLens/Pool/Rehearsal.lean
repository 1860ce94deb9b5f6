import ChangeLens.Pool

/-!
# `ChangeLens.Pool.Rehearsal`: batches whose workers behave in a known way

When it is known how each task behaves, the turns of the pool can be played through. Workers that
end on their own do so before time passes; then late cancellations come in, and after them the
time limits.
-/

set_option autoImplicit false

namespace ChangeLens.Pool

universe u

/-- How a worker ends on its own. -/
inductive Ending (α : Type u) where
  /-- The task has a value. -/
  | returns (payload : α)
  /-- The task fails with an error of some kind; its text may be empty. -/
  | fails (kind text : String)
  /-- The task needs too much memory. -/
  | exhausts
  /-- The worker ends without an answer. -/
  | exits (code : Int)
  /-- A signal ends the worker. -/
  | killed (signal : Nat)
deriving Repr, DecidableEq

/-- What a worker sends before it ends: an error without a text goes by its kind. -/
def Ending.envelope? {α : Type u} : Ending α → Option (Envelope α)
  | returns payload => some (.success payload)
  | fails kind text => some (.failure (if text.isEmpty then kind else text))
  | exhausts => some (.failure memoryMessage)
  | exits _ | killed _ => none

/-- The exit code of a worker: the low octet of the code it ends with, or the number of the signal
that ends it, as a negative number. -/
def Ending.exitCode {α : Type u} : Ending α → Int
  | exits code => code % 256
  | killed signal => -(signal : Int)
  | returns _ | fails _ _ | exhausts => 0

/-- What a task with this ending leads to. -/
def Ending.result {α : Type u} (ending : Ending α) : Envelope α :=
  ending.envelope?.getD (.failure (Diagnostic.crashReason (some ending.exitCode)))

/-- How a task behaves. -/
inductive Behaviour (α : Type u) where
  /-- It ends on its own. -/
  | ends (how : Ending α)
  /-- It never ends on its own. -/
  | hangs
deriving Repr, DecidableEq

/-- When a task is cancelled. -/
inductive Cancellation where
  /-- Never. -/
  | never
  /-- Before the batch begins. -/
  | before
  /-- While workers hang. -/
  | later
deriving Repr, DecidableEq

/-- The stretches of a rehearsal. -/
inductive Phase where
  /-- Workers end on their own. -/
  | quick
  /-- Late cancellations are in. -/
  | late
  /-- The time limit has passed. -/
  | overdue
deriving Repr, DecidableEq

/-- A task with its name and its behaviour. -/
structure Act (α : Type u) where
  /-- Its name in outcomes. -/
  key : String
  /-- How it behaves. -/
  behaviour : Behaviour α
  /-- When it is cancelled. -/
  cancellation : Cancellation := .never

namespace Act

variable {α : Type u}

/-- A task that ends on its own and is never cancelled. -/
def alone (key : String) (how : Ending α) : Act α :=
  { key, behaviour := .ends how }

/-- Whether a task is cancelled in a phase. -/
def isCancelled (act : Act α) (phase : Phase) : Bool :=
  match act.cancellation with
  | .never => false
  | .before => true
  | .later => phase != .quick

/-- What can be seen of the worker of a task in a phase. -/
def sighting (act : Act α) (hasLimit : Bool) (phase : Phase) : Sighting α :=
  match act.behaviour with
  | .ends how =>
    { arrival := how.envelope?.elim .closed .envelope
      ended := true
      exitCode := some how.exitCode }
  | .hangs =>
    { cancelled := act.isCancelled phase
      overdue := hasLimit && phase == .overdue }

end Act

/-- What can be seen in a phase. -/
def turnOf {α : Type u} (acts : List (Act α)) (hasLimit : Bool) (phase : Phase) : Turn α where
  isCancelled job := acts[job.index]?.any (·.isCancelled phase)
  sighting job := acts[job.index]?.elim {} (·.sighting hasLimit phase)

/-- The tasks of a batch, in order. -/
def jobsOf {α : Type u} (acts : List (Act α)) : List Job :=
  batch (acts.map (·.key))

/-- The turns of a rehearsal. Each phase lasts as many turns as there are tasks, which is enough,
because a turn settles every worker that its phase can settle. -/
def turnsOf {α : Type u} (acts : List (Act α)) (hasLimit : Bool) : List (Turn α) :=
  -- Under a time limit every turn of the last phase settles at least one task that is left.
  [Phase.quick, .late, .overdue].flatMap fun phase =>
    List.replicate acts.length (turnOf acts hasLimit phase)

/-- The outcomes of a batch. -/
def rehearse {α : Type u} (limit : Nat) (timeoutMs : Option Int) (acts : List (Act α)) :
    List (Outcome α) :=
  ((State.initial (jobsOf acts)).run limit (timeoutMs.getD 0)
    (turnsOf acts timeoutMs.isSome)).results (jobsOf acts)

/-- The number of workers: at least one, and as many as there are processors when no number is
given. -/
def workerLimit (processors : Nat) (asked : Option Int) : Nat :=
  match asked with
  | none | some 0 => max 1 processors
  | some count => max 1 count.toNat

end ChangeLens.Pool
