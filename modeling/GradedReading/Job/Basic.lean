import GradedReading.Job.Event

/-!
# GradedReading.Job.Basic

The books of a job: its state, the work that is still out, and the documents so far.

**Key idea:** a *slot* is reserved for each result or source, and settled by a document or a
failure. A job completes once no more slots will be reserved and none is out. A fetched page keeps
the slot of its result for the parse that follows.

Design points:

* each operation is one step; whatever runs at the same time runs before or after it;
* a job that is over or whose flag is set takes nothing in any more, and says so;
* states only move forward;
* the number of slots that are out is a machine word, and more of them than a word can count wrap
  around; failures and documents are counted one at a time, and no run lasts until a word is too
  small for that.
-/

namespace GradedReading

open Search

/-- Slots are counted in machine words, which are below this limit. -/
def slotLimit : Nat := UInt64.size

/-- `n` more slots than `p`. Words are added as words. A number that is no word, which no list in
memory has as its length, is added as it is. -/
def addSlots (p n : Nat) : Nat :=
  if p < slotLimit ∧ n < slotLimit then (p + n) % slotLimit else p + n

@[simp] theorem addSlots_zero (p : Nat) : addSlots p 0 = p := by
  unfold addSlots
  split
  · next h => exact Nat.mod_eq_of_lt h.1
  · rfl

@[simp] theorem zero_addSlots (n : Nat) : addSlots 0 n = n := by
  unfold addSlots
  split
  · next h => rw [Nat.zero_add, Nat.mod_eq_of_lt h.2]
  · exact Nat.zero_add n

theorem addSlots_of_lt {p n : Nat} (h : p + n < slotLimit) : addSlots p n = p + n := by
  rw [addSlots, if_pos ⟨by omega, by omega⟩, Nat.mod_eq_of_lt h]

/-- The books of a job. -/
structure Job where
  kind : JobKind
  language : Language
  state : JobState
  /-- The flag that stops the job's work; every task of the job can see it. -/
  flag : Bool
  /-- Slots that are out. -/
  pending : Nat
  /-- No more slots will be reserved. -/
  fanOutDone : Bool
  collection : Collection
  /-- Slots that were settled without a document. -/
  failures : Nat
  outcome : Option JobOutcome
  /-- Everything that was reported, the oldest first. -/
  events : List JobEvent
deriving Repr, Inhabited

namespace Job

/-- A job before it begins. -/
def create (kind : JobKind) (language : Language) : Job :=
  { kind, language, state := .created, flag := false, pending := 0, fanOutDone := false
    collection := .empty language, failures := 0, outcome := none, events := [] }

/-- The job still takes results in. -/
def isLive (j : Job) : Bool := !j.flag && !j.state.isTerminal

/-- Report an event. -/
def report (e : JobEvent) (j : Job) : Job := { j with events := j.events ++ [e] }

/-- End the job. -/
def finish (state : JobState) (o : JobOutcome) (j : Job) : Job :=
  { j.report o.event with state, outcome := some o }

/-- Complete the job if no slot is out and none will be reserved. -/
def tryFinish (j : Job) : Job :=
  if j.isLive && j.fanOutDone && j.pending = 0 then
    j.finish .complete (.completed j.collection j.failures)
  else j

/-- Settle a slot without a document. -/
def loseSlot (j : Job) : Job :=
  tryFinish { j with pending := j.pending - 1, failures := j.failures + 1 }

/-! ### Operations

An operation answers whether the job was live. -/

/-- Run `f` if the job is live. -/
def whenLive (f : Job → Job) (j : Job) : Bool × Job := if j.isLive then (true, f j) else (false, j)

/-- Move on to a stage. A stage that the job is past leaves it where it is. -/
def enter (stage : JobState) : Job → Bool × Job :=
  whenLive fun j => if j.state.place < stage.place then { j with state := stage } else j

/-- Report an event that is not about results. -/
def announce (e : JobEvent) : Job → Bool × Job := whenLive (report e)

/-- Reserve `n` slots. -/
def reserve (n : Nat) : Job → Bool × Job :=
  whenLive fun j => { j with pending := addSlots j.pending n }

/-- No more slots will be reserved. -/
def finishFanOut (j : Job) : Bool × Job := (j.isLive, tryFinish { j with fanOutDone := true })

/-- A result was fetched, with or without text. Without text its slot is settled. -/
def crawlComplete (r : SearchResult) (extracted : Bool) : Job → Bool × Job :=
  whenLive fun j =>
    let j := j.report (.crawled r extracted)
    if extracted then j else j.loseSlot

/-- A document settles a slot; one of another language counts as a failure. -/
def parseComplete (d : Document) : Job → Bool × Job :=
  whenLive fun j =>
    match j.collection.add d with
    | .ok c => tryFinish { j.report (.parsed d) with collection := c, pending := j.pending - 1 }
    | .error _ => j.loseSlot

/-- Settle a slot that gave no document. -/
def settleFailed : Job → Bool × Job := whenLive loseSlot

/-- The job failed as a whole. -/
def fail (e : OperationError) : Job → Bool × Job := whenLive (finish .failed (.failed e))

/-- Cancel the job, unless it is over. -/
def cancel (j : Job) : Bool × Job :=
  if j.state.isTerminal then (false, j)
  else (true, finish .cancelled .cancelled { j with flag := true })

/-- Set the flag alone. -/
def setFlag (j : Job) : Job := { j with flag := true }

/-- The operations as data. -/
inductive Op where
  | enter (stage : JobState)
  | announce (e : JobEvent)
  | reserve (n : Nat)
  | finishFanOut
  | crawlComplete (r : SearchResult) (extracted : Bool)
  | parseComplete (d : Document)
  | settleFailed
  | fail (e : OperationError)
  | cancel
deriving Repr, Inhabited

/-- Carry out an operation. -/
def apply : Op → Job → Bool × Job
  | .enter stage => enter stage
  | .announce e => announce e
  | .reserve n => reserve n
  | .finishFanOut => finishFanOut
  | .crawlComplete r x => crawlComplete r x
  | .parseComplete d => parseComplete d
  | .settleFailed => settleFailed
  | .fail e => fail e
  | .cancel => cancel

/-- Carry out operations one after the other. -/
def applyAll (ops : List Op) (j : Job) : Job := ops.foldl (fun j op => (j.apply op).2) j

@[simp] theorem whenLive_of_not_isLive {f : Job → Job} {j : Job} (h : j.isLive = false) :
    whenLive f j = (false, j) := by simp [whenLive, h]

@[simp] theorem applyAll_nil (j : Job) : applyAll [] j = j := rfl

@[simp] theorem applyAll_append (a b : List Op) (j : Job) :
    applyAll (a ++ b) j = applyAll b (applyAll a j) := by simp [applyAll]

end Job

end GradedReading
