import GradedReading.Pool.Clock

/-!
# GradedReading.Pool.Watchdog

Actions that run when their deadlines pass.

**Key idea:** deadlines wait in a heap, and actions in a dictionary under the same keys. To
withdraw an action is to drop it from the dictionary; its deadline stays in the heap as a stale
entry. When too many entries are stale, the heap is rebuilt from those that are live.

Design points:

* one *turn* takes in at most one command and then runs everything that is due;
* what is due runs in the order of deadlines, and of keys where deadlines are the same;
* an action that panics takes nothing down with it: the panic is caught, and the sweep goes on.
-/

namespace GradedReading

/-- A deadline with the key of its action. -/
structure Deadline where
  moment : Moment
  key : Nat
deriving DecidableEq, Repr, Inhabited

/-- The order in which deadlines are due. -/
def Deadline.atMost (a b : Deadline) : Bool :=
  a.moment.nanos < b.moment.nanos || (a.moment.nanos == b.moment.nanos && a.key ≤ b.key)

/-- How an action ends once it is run. -/
inductive ActionEnd where
  | done
  | panicked
deriving DecidableEq, Repr, Inhabited

/-- What a watchdog runs. -/
structure Action (α : Type) where
  label : α
  ending : ActionEnd
deriving DecidableEq, Repr, Inhabited

/-- What a watchdog can be told. -/
inductive WatchCommand (α : Type) where
  | register (key : Nat) (moment : Moment) (action : Action α)
  /-- Withdraw an action. -/
  | cancel (key : Nat)
deriving Repr

/-- Deadlines and actions. -/
structure Watch (α : Type) where
  /-- The deadlines, those that are due first in front. Some may be stale. -/
  heap : List Deadline
  /-- The actions that wait, with their keys. -/
  actions : List (Nat × Action α)
deriving Repr, Inhabited

namespace Watch

variable {α : Type}

/-- Nothing waits. -/
def empty : Watch α := ⟨[], []⟩

/-- Stale deadlines that are always tolerated. -/
def staleSlack : Nat := 64

/-- Put a deadline in its place. -/
def insert (d : Deadline) : List Deadline → List Deadline
  | [] => [d]
  | d' :: rest => if d'.atMost d then d' :: insert d rest else d :: d' :: rest

/-- The action with this key waits. -/
def isLive (w : Watch α) (key : Nat) : Bool := w.actions.any (·.1 == key)

/-- Drop an action. -/
def drop (key : Nat) (w : Watch α) : Watch α :=
  { w with actions := w.actions.filter (·.1 != key) }

/-- Drop the stale deadlines if there are too many. -/
def rebuild (w : Watch α) : Watch α :=
  if 2 * w.actions.length + staleSlack < w.heap.length then
    { w with heap := w.heap.filter fun d => w.isLive d.key }
  else w

/-- Take a command in. -/
def receive : WatchCommand α → Watch α → Watch α
  | .register key moment action, w =>
    { heap := insert ⟨moment, key⟩ w.heap, actions := (w.drop key).actions ++ [(key, action)] }
  | .cancel key, w => (w.drop key).rebuild

/-- Run what is due at `now`, given the deadlines in order; the result starts with what was run. How
an action ends is not asked: whoever panicked was run like any other. -/
def sweep (now : Moment) :
    List Deadline → List (Nat × Action α) → List (Nat × Action α) × Watch α
  | [], actions => ([], ⟨[], actions⟩)
  | d :: rest, actions =>
    if d.moment.atMost now then
      let (run, w) := sweep now rest (actions.filter (·.1 != d.key))
      (actions.filter (·.1 == d.key) ++ run, w)
    else ([], ⟨d :: rest, actions⟩)

/-- One turn: take in a command, if there is one, and run what is due. -/
def turn (command? : Option (WatchCommand α)) (now : Moment) (w : Watch α) :
    List (Nat × Action α) × Watch α :=
  let w := match command? with
    | some c => w.receive c
    | none => w
  sweep now w.heap w.actions

/-- The number of actions that wait. -/
def pending (w : Watch α) : Nat := w.actions.length

/-- When something is due next. -/
def next? (w : Watch α) : Option Moment := w.heap.head?.map (·.moment)

end Watch

/-- A watchdog as its users see it: it gives out keys, and can be stopped. -/
structure Watchdog (α : Type) where
  watch : Watch α
  nextKey : Nat
  running : Bool
  /-- What was run, the oldest first. -/
  ran : List (Action α)

namespace Watchdog

variable {α : Type}

/-- A watchdog that has nothing to do yet. -/
def start : Watchdog α := ⟨.empty, 0, true, []⟩

/-- One turn, unless the watchdog was stopped. -/
def turn (command? : Option (WatchCommand α)) (now : Moment) (w : Watchdog α) : Watchdog α :=
  if w.running then
    let (ran, watch) := w.watch.turn command? now
    { w with watch, ran := w.ran ++ ran.map (·.2) }
  else w

/-- Register an action; the answer is its key. A watchdog that was stopped still gives out keys. -/
def register (moment : Moment) (action : Action α) (now : Moment) (w : Watchdog α) :
    Nat × Watchdog α :=
  (w.nextKey,
    { w.turn (some (.register w.nextKey moment action)) now with nextKey := w.nextKey + 1 })

/-- Withdraw an action. -/
def cancel (key : Nat) (now : Moment) (w : Watchdog α) : Watchdog α :=
  w.turn (some (.cancel key)) now

/-- Stop. What waits is never run. -/
def stop (w : Watchdog α) : Watchdog α := { w with running := false }

/-- Let time pass until `n` actions have run or nothing is due any more. `steps` bounds the
turns. -/
def waitFor (n : Nat) : (steps : Nat) → Watchdog α → Watchdog α
  | 0, w => w
  | steps + 1, w =>
    if n ≤ w.ran.length || !w.running then w
    else
      match w.watch.next? with
      | none => w
      | some m => waitFor n steps (w.turn none m)

end Watchdog

end GradedReading
