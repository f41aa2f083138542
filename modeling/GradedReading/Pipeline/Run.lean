import GradedReading.Pipeline.Basic
import GradedReading.Pool.Schedule

/-!
# GradedReading.Pipeline.Run

A pipeline run in a fixed order.

Scripts come first, then the tasks of each pool from the oldest on, then free workers; time passes
only when nothing else can happen. Every step is a move of the pipeline, so a run is one of the ways
in which things may go.
-/

namespace GradedReading

namespace Stage

/-- All stages, in the order in which work goes through them. -/
def all : List Stage := [.search, .crawl, .parse]

end Stage

namespace Pipeline

/-- The moves of whoever has the task at a place, those that come late in its life first. -/
def taskMoves (s : Stage) (i : Nat) : List Move :=
  [.letGo s i, .settle s i, .body s i, .start s i, .look s i]

/-- The places of the tasks of a stage. -/
def places (p : Pipeline) (s : Stage) : List Nat := List.range (p.pools.get s).tasks.length

/-- The moves that come before time passes, in their order. -/
def moves (p : Pipeline) : List Move :=
  (List.range p.scripts.length).map .advance ++
    Stage.all.flatMap (fun s => (p.places s).flatMap (taskMoves s)) ++ Stage.all.map .take

/-- The first move that is possible. -/
def next (sv : Services) (p : Pipeline) : Option Pipeline :=
  p.moves.findSome? fun m => p.move? sv m

/-- The deadlines that lie ahead. -/
def deadlines (p : Pipeline) : List Moment :=
  if p.watching then Stage.all.flatMap fun s => (p.pools.get s).deadlines else []

/-- Time passes until the next deadline, and what is due times out. -/
def passTime (sv : Services) (p : Pipeline) : Option Pipeline :=
  (p.deadlines.map (·.nanos)).min?.map fun n =>
    let moves := .tick ⟨n⟩ :: Stage.all.flatMap fun s => (p.places s).map (Move.expire s)
    moves.foldl (fun p m => (p.move? sv m).getD p) p

/-- The number of steps after which a run is given up. -/
def patience : Nat := Nat.pow 2 20

/-- Go on until the goal is reached and nothing is left to do. -/
def goUntil (sv : Services) (goal : Pipeline → Bool) (p : Pipeline) : Pipeline :=
  Schedule.goUntil (next sv) (passTime sv) goal patience patience p

/-- Go on until nothing is left to do. -/
def settleDown (sv : Services) (p : Pipeline) : Pipeline :=
  Schedule.settleDown (next sv) patience p

/-- The operation has an outcome. -/
def hasOutcome (p : Pipeline) (n : Nat) : Bool := (p.job? n).any (·.outcome.isSome)

/-- Wait until an operation is over. -/
def waitFor (sv : Services) (n : Nat) (p : Pipeline) : Pipeline :=
  p.goUntil sv fun p => p.hasOutcome n

end Pipeline

end GradedReading
