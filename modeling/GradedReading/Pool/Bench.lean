import GradedReading.Pool.Basic
import GradedReading.Pool.Gate
import GradedReading.Pool.Schedule

/-!
# GradedReading.Pool.Bench

A pool at work on bodies that are known beforehand.

A body may wait at a gate, and then ends as it was told. A task may have a flag, by name, that
cancels it.
-/

namespace GradedReading

/-- A body with a known end. -/
structure BenchBody (ρ : Type) where
  gate : Option String
  outcome : TaskOutcome ρ
  /-- The flag that cancels the task. -/
  flag : Option String
  arrived : Bool
deriving Repr, Inhabited

/-- A pool at work. -/
structure Bench (ρ : Type) where
  pool : Pool (BenchBody ρ) ρ
  gates : Gates
  /-- The flags that were set. -/
  flags : List String
  now : Moment

namespace Bench

variable {ρ : Type}

/-- Nothing submitted yet. -/
def ofPool (pool : Pool (BenchBody ρ) ρ) : Bench ρ := ⟨pool, .closed, [], ⟨0⟩⟩

/-- Go on with a step of the pool. -/
def withPool (b : Bench ρ) (p : Option (Pool (BenchBody ρ) ρ)) : Option (Bench ρ) :=
  p.map fun pool => { b with pool }

/-- The body at a place goes on. -/
def advance (i : Nat) (b : Bench ρ) : Option (Bench ρ) := do
  let t ← b.pool.tasks[i]?
  match t.phase with
  | .running _ =>
    match b.gates.approach t.task.gate t.task.arrived with
    | .arrives gates =>
      some { b with gates, pool := b.pool.setTask i { t.task with arrived := true } }
    | .waits => none
    | .passes => b.withPool (b.pool.finish i t.task.outcome)
  | _ => none

/-- The flag of the task at a place is set. -/
def isFlagged (b : Bench ρ) (i : Nat) : Bool :=
  match b.pool.tasks[i]?.bind fun t => t.task.flag with
  | some f => b.flags.contains f
  | none => false

/-- The worker of the task at a place goes on. -/
def worker (i : Nat) (b : Bench ρ) : Option (Bench ρ) :=
  Schedule.firstOf
    [fun b => b.withPool (b.pool.letGo i),
     fun b => b.withPool ((b.pool.settle i).map (·.2)),
     advance i,
     fun b => b.withPool ((b.pool.look i).map (·.2)),
     fun b => b.withPool ((b.pool.start i (b.isFlagged i) b.now).map (·.2))] b

/-- Time passes until the next deadline, and what is due times out. -/
def passTime (b : Bench ρ) : Option (Bench ρ) :=
  (b.pool.deadlines.map (·.nanos)).min?.map fun n =>
    let now := b.now.max ⟨n⟩
    let pool := (List.range b.pool.tasks.length).foldl
      (fun p i => ((p.expire i now).map (·.2)).getD p) b.pool
    { b with pool, now }

/-- The task at a place has an outcome. -/
def isSettled (b : Bench ρ) (i : Nat) : Option Bool := b.pool.tasks[i]?.map (·.outcome.isSome)

/-- The outcome of the task at a place. -/
def outcome? (b : Bench ρ) (i : Nat) : Option (TaskOutcome ρ) :=
  b.pool.tasks[i]?.bind (·.outcome)

end Bench

end GradedReading
