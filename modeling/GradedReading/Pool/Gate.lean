/-!
# GradedReading.Pool.Gate

Gates: places where work waits until somebody opens them.

A gate stands for whatever a piece of work may wait for. Work arrives at a gate once, and passes as
soon as the gate is open.
-/

namespace GradedReading

/-- Which gates are open, and what has arrived where. -/
structure Gates where
  opened : List String
  /-- All gates are open. -/
  allOpen : Bool
  /-- The gates at which something has arrived, once for each arrival. -/
  arrivals : List String
deriving DecidableEq, Repr, Inhabited

namespace Gates

/-- No gate is open. -/
def closed : Gates := ⟨[], false, []⟩

/-- The gate is open. -/
def isOpen (g : Gates) (name : String) : Bool := g.allOpen || g.opened.contains name

/-- Open a gate for good. -/
def openGate (name : String) (g : Gates) : Gates := { g with opened := g.opened ++ [name] }

/-- Open all gates for good. -/
def openAll (g : Gates) : Gates := { g with allOpen := true }

/-- A piece of work arrives at a gate. -/
def arrive (name : String) (g : Gates) : Gates := { g with arrivals := g.arrivals ++ [name] }

/-- The number of arrivals at a gate. -/
def count (g : Gates) (name : String) : Nat := g.arrivals.count name

end Gates

/-- What a piece of work does at a gate. -/
inductive AtGate where
  /-- It arrives. -/
  | arrives (gates : Gates)
  /-- It waits. -/
  | waits
  /-- It goes on. -/
  | passes
deriving DecidableEq, Repr

/-- A piece of work that has to pass a gate, or none, and may have arrived there. -/
def Gates.approach (g : Gates) (gate : Option String) (arrived : Bool) : AtGate :=
  match gate with
  | none => .passes
  | some name =>
    if !arrived then .arrives (g.arrive name)
    else if g.isOpen name then .passes
    else .waits

end GradedReading
