import GradedReading.Pool.Bench

/-!
# GradedReading.Pool.Crew

A bench with tasks whose callbacks panic, run in a fixed order.

**Key idea:** when a callback panics, the panic goes no further, whether it is a worker or the
watchdog that tells whom the task concerns. There is one exception. A worker that gives a task up,
since the pool was abandoned, does so without a guard, and the panic takes it down: it *falls*. It
never lets go of the task that it gave up, and so it takes no other one.
-/

namespace GradedReading

/-- A bench and what becomes of its workers. -/
structure Crew (ρ : Type) where
  bench : Bench ρ
  /-- The numbers of the tasks whose callbacks panic. -/
  touchy : List Nat
  /-- The places of the tasks at which a worker fell. -/
  fallen : List Nat

namespace Crew

variable {ρ : Type}

/-- Nothing submitted yet. -/
def ofPool (touchy : List Nat) (pool : Pool (BenchBody ρ) ρ) : Crew ρ := ⟨.ofPool pool, touchy, []⟩

/-- The callback of the task at a place panics. -/
def isTouchy (c : Crew ρ) (i : Nat) : Bool :=
  (c.bench.pool.tasks[i]?.map PoolTask.number).any c.touchy.contains

/-- The worker of the task at a place gives the task up on the way to this bench. -/
def givesUp (c : Crew ρ) (i : Nat) (bench : Bench ρ) : Bool :=
  match c.bench.pool.phase? i, bench.pool.phase? i with
  | some .taken, some .settling => true
  | _, _ => false

/-- The worker of the task at a place has brought the bench here, and falls if it gave up a task
whose callback panics. -/
def goOn (i : Nat) (bench : Bench ρ) (c : Crew ρ) : Crew ρ :=
  { c with
    bench
    fallen := if c.givesUp i bench && c.isTouchy i then c.fallen ++ [i] else c.fallen }

/-- The worker of the task at a place goes on, unless it fell. -/
def worker (i : Nat) (c : Crew ρ) : Option (Crew ρ) :=
  if c.fallen.contains i then none else (c.bench.worker i).map fun bench => c.goOn i bench

/-- The next step: a busy worker goes on, or a free one takes a task. -/
def next (c : Crew ρ) : Option (Crew ρ) :=
  Schedule.firstOf
    ((List.range c.bench.pool.tasks.length).map worker ++
      [fun c => (c.bench.withPool c.bench.pool.take).map fun bench => { c with bench }]) c

/-- Time passes until the next deadline, and what is due times out. -/
def passTime (c : Crew ρ) : Option (Crew ρ) := c.bench.passTime.map fun bench => { c with bench }

/-- Go on until the goal is reached. -/
def goUntil (goal : Crew ρ → Bool) (c : Crew ρ) : Crew ρ :=
  let tasks := c.bench.pool.tasks.length + 1
  Schedule.goUntil next passTime goal (8 * tasks) tasks c

/-- No worker is busy but those that fell, and none is left that could take what waits. -/
def isQuiet (c : Crew ρ) : Bool :=
  c.bench.pool.tasks.zipIdx.all fun (t, i) =>
    (!t.phase.isBusy || c.fallen.contains i) &&
      (!t.phase.isQueued || c.bench.pool.size ≤ c.fallen.length)

/-- Wait for the task at a place. -/
def waitFor (i : Nat) (c : Crew ρ) : Crew ρ := c.goUntil fun c => (c.bench.outcome? i).isSome

/-- Close the pool, and wait for its workers if it is drained. -/
def shutDown (drain : Bool) (c : Crew ρ) : Crew ρ :=
  let c := { c with bench := { c.bench with pool := c.bench.pool.close drain } }
  if drain then c.goUntil isQuiet else c.goUntil fun _ => true

/-- Open all gates and go on until nobody is busy. -/
def finish (c : Crew ρ) : Crew ρ :=
  { c with bench := { c.bench with gates := c.bench.gates.openAll } }.goUntil isQuiet

end Crew

end GradedReading
