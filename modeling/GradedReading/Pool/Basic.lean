import GradedReading.Error
import GradedReading.Pool.Clock

/-!
# GradedReading.Pool.Basic

Pools of workers: a fixed number of them takes tasks from a queue, the oldest first.

**Key idea:** the life of a task is a walk through *phases*, and its outcome is kept apart from its
phase. Worker, watchdog and shutdown all try to give a task its outcome; the first one succeeds,
and whatever comes later is dropped.

Design points:

* a pool does not know what its tasks do: a body ends when someone says how it ended;
* a worker that took a task looks at the pool first and then at the task's flag, and only then runs
  its body: what was abandoned or cancelled before it looked is not run;
* a deadline that the clock cannot tell takes the worker's attempt down, and the task is lost;
* each function answers `none` where the step is not possible.
-/

namespace GradedReading

open Number

/-- How a task ended. -/
inductive TaskOutcome (ρ : Type) where
  | completed (value : ρ)
  | failed (error : TaskError)
  /-- The task was cancelled before its body ran. -/
  | discarded
deriving Repr, Inhabited

/-- Where a task stands. -/
inductive Phase (ρ : Type) where
  | queued
  /-- A worker took the task and has not looked at the pool. -/
  | taken
  /-- The pool was not abandoned, and the worker has not looked at the task. -/
  | cleared
  /-- The body runs. -/
  | running (deadline : Option Moment)
  /-- The body ended and nobody was told. -/
  | returned (deadline : Option Moment) (outcome : TaskOutcome ρ)
  /-- The outcome was given, or had been given before, and the worker tells whom it concerns. -/
  | settling
  /-- The worker is done with the task. -/
  | done
  /-- The worker dropped the task before it was settled. -/
  | lost
deriving Repr, Inhabited

/-- A worker is busy with a task in this phase. -/
def Phase.isBusy {ρ : Type} : Phase ρ → Bool
  | .taken | .cleared | .running _ | .returned .. | .settling => true
  | _ => false

/-- The task waits for a worker. -/
def Phase.isQueued {ρ : Type} : Phase ρ → Bool
  | .queued => true
  | _ => false

/-- The deadline of a task whose body was begun. -/
def Phase.deadline? {ρ : Type} : Phase ρ → Option Moment
  | .running d => d
  | .returned d _ => d
  | _ => none

/-- A task that a pool accepted. -/
structure PoolTask (τ ρ : Type) where
  /-- The number under which it was submitted. -/
  number : Nat
  task : τ
  phase : Phase ρ
  /-- The outcome that was given to it. -/
  outcome : Option (TaskOutcome ρ)
deriving Repr, Inhabited

/-- A pool of workers for one stage. -/
structure Pool (τ ρ : Type) where
  stage : Stage
  /-- The number of workers. -/
  size : Nat
  size_pos : 0 < size
  /-- How long one body may run. -/
  limit : Option Duration
  /-- The pool takes tasks. -/
  accepts : Bool
  /-- What waits is not run any more. -/
  abandoned : Bool
  /-- The number of tasks that were submitted, refused ones included. -/
  submitted : Nat
  /-- The tasks that were accepted, the oldest first. -/
  tasks : List (PoolTask τ ρ)
  /-- The places of the tasks that have an outcome, in the order in which they got it. -/
  order : List Nat

namespace Pool

variable {τ ρ : Type}

/-- A pool with so many workers, but at least one. -/
def ofSize (stage : Stage) (size : Nat) (limit : Option Duration) : Pool τ ρ :=
  { stage, size := max size 1, size_pos := by omega, limit, accepts := true, abandoned := false
    submitted := 0, tasks := [], order := [] }

/-- The number of busy workers. -/
def busy (p : Pool τ ρ) : Nat := p.tasks.countP (·.phase.isBusy)

/-- The number of bodies that run. -/
def running (p : Pool τ ρ) : Nat :=
  p.tasks.countP fun t => match t.phase with
    | .running _ => true
    | _ => false

/-- No task waits and no worker is busy. -/
def isQuiet (p : Pool τ ρ) : Bool :=
  p.tasks.all fun t => !t.phase.isQueued && !t.phase.isBusy

/-- The place of the task that has waited longest. -/
def oldestQueued (p : Pool τ ρ) : Option Nat := p.tasks.findIdx? (·.phase.isQueued)

/-- The phase of the task at a place. -/
def phase? (p : Pool τ ρ) (i : Nat) : Option (Phase ρ) := p.tasks[i]?.map PoolTask.phase

/-- Change the task at a place. -/
def modify (i : Nat) (f : PoolTask τ ρ → PoolTask τ ρ) (p : Pool τ ρ) : Pool τ ρ :=
  { p with tasks := p.tasks.modify i f }

/-- Move the task at a place to a phase. -/
def setPhase (i : Nat) (phase : Phase ρ) : Pool τ ρ → Pool τ ρ := modify i ({ · with phase })

/-- Change what the task at a place is. -/
def setTask (i : Nat) (task : τ) : Pool τ ρ → Pool τ ρ := modify i ({ · with task })

/-- Give the task at a place its outcome, unless it has one. The answer is the outcome if it was
given. -/
def deliver (i : Nat) (o : TaskOutcome ρ) (p : Pool τ ρ) : Option (TaskOutcome ρ) × Pool τ ρ :=
  match p.tasks[i]? with
  | some ⟨_, _, _, none⟩ =>
    (some o, { p.modify i ({ · with outcome := some o }) with order := p.order ++ [i] })
  | _ => (none, p)

/-! ### What users of a pool do -/

/-- Submit a task. The answer is the task's number. -/
def submit (task : τ) (p : Pool τ ρ) : Except TaskError Nat × Pool τ ρ :=
  let number := p.submitted
  let p := { p with submitted := number + 1 }
  if p.accepts then
    (.ok number, { p with tasks := p.tasks ++ [⟨number, task, .queued, none⟩] })
  else (.error (.poolClosed p.stage), p)

/-- Take no more tasks. What waits is still run if `drain` is set; else it is given up. Closing a
second time changes nothing. -/
def close (drain : Bool) (p : Pool τ ρ) : Pool τ ρ :=
  if p.accepts then { p with accepts := false, abandoned := p.abandoned || !drain } else p

/-! ### What workers do -/

/-- A free worker takes the task that has waited longest. -/
def take (p : Pool τ ρ) : Option (Pool τ ρ) :=
  if p.busy < p.size then p.oldestQueued.map fun i => p.setPhase i .taken else none

/-- A worker that took a task looks at the pool, and gives the task up if the pool was abandoned. The
first answer is the outcome, if one was given. -/
def look (i : Nat) (p : Pool τ ρ) : Option (Option (TaskOutcome ρ) × Pool τ ρ) :=
  match p.phase? i with
  | some .taken =>
    if p.abandoned then some ((p.setPhase i .settling).deliver i (.failed (.poolClosed p.stage)))
    else some (none, p.setPhase i .cleared)
  | _ => none

/-- A worker looks at the task itself, and discards it or begins its body. -/
def start (i : Nat) (flagged : Bool) (now : Moment) (p : Pool τ ρ) :
    Option (Option (TaskOutcome ρ) × Pool τ ρ) :=
  match p.phase? i with
  | some .cleared =>
    if flagged then some ((p.setPhase i .settling).deliver i .discarded)
    else
      match p.limit with
      | none => some (none, p.setPhase i (.running none))
      | some d =>
        match now.after? d with
        | some m => some (none, p.setPhase i (.running (some m)))
        | none => some (none, p.setPhase i .lost)
  | _ => none

/-- The body of a task ended like this. -/
def finish (i : Nat) (o : TaskOutcome ρ) (p : Pool τ ρ) : Option (Pool τ ρ) :=
  match p.phase? i with
  | some (.running d) => some (p.setPhase i (.returned d o))
  | _ => none

/-- A worker gives a task the outcome of its body, unless it has one already. -/
def settle (i : Nat) (p : Pool τ ρ) : Option (Option (TaskOutcome ρ) × Pool τ ρ) :=
  match p.phase? i with
  | some (.returned _ o) => some ((p.setPhase i .settling).deliver i o)
  | _ => none

/-- A worker is done with a task. -/
def letGo (i : Nat) (p : Pool τ ρ) : Option (Pool τ ρ) :=
  match p.phase? i with
  | some .settling => some (p.setPhase i .done)
  | _ => none

/-! ### What the watchdog does -/

/-- The task can time out: its body was begun, its deadline has come and it has no outcome. -/
def isDue (now : Moment) (t : PoolTask τ ρ) : Bool :=
  t.outcome.isNone && t.phase.deadline?.any (·.atMost now)

/-- The watchdog gives a task whose deadline has passed its outcome. -/
def expire (i : Nat) (now : Moment) (p : Pool τ ρ) :
    Option (Option (TaskOutcome ρ) × Pool τ ρ) :=
  match p.tasks[i]?, p.limit with
  | some t, some d => if isDue now t then some (p.deliver i (.failed (.timedOut d))) else none
  | _, _ => none

/-- The deadlines of the tasks that have no outcome. -/
def deadlines (p : Pool τ ρ) : List Moment :=
  p.tasks.filterMap fun t => if t.outcome.isNone then t.phase.deadline? else none

/-! ### Runs -/

/-- One thing that happens to a pool. -/
inductive Act (τ ρ : Type) where
  | submit (task : τ)
  | close (drain : Bool)
  | take
  | look (i : Nat)
  | start (i : Nat) (flagged : Bool) (now : Moment)
  | finish (i : Nat) (o : TaskOutcome ρ)
  | settle (i : Nat)
  | letGo (i : Nat)
  | expire (i : Nat) (now : Moment)
deriving Repr

/-- What happens to a pool, if it can happen. -/
def act? (p : Pool τ ρ) : Act τ ρ → Option (Pool τ ρ)
  | .submit task => some (p.submit task).2
  | .close drain => some (p.close drain)
  | .take => p.take
  | .look i => (p.look i).map (·.2)
  | .start i flagged now => (p.start i flagged now).map (·.2)
  | .finish i o => p.finish i o
  | .settle i => (p.settle i).map (·.2)
  | .letGo i => p.letGo i
  | .expire i now => (p.expire i now).map (·.2)

/-- All of it happens, one after the other. -/
def run? (p : Pool τ ρ) (acts : List (Act τ ρ)) : Option (Pool τ ρ) := acts.foldlM act? p

end Pool

end GradedReading
