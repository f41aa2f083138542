import GradedReading.Pipeline.Basic
import GradedReading.Ranking.Order
import GradedReading.Session.Message

/-!
# GradedReading.Session.Basic

One client's view of a pipeline: at most one operation at a time, messages to fetch, and the
collection that the client ranks.

**Key idea:** each operation of a session has a *relay*, which takes its events one by one, oldest
first. An event of the current operation becomes a message; events of an operation that was
released or replaced are passed over.

Design points:

* a session has one lock. It is held while an operation is begun, and needed by everything but
  fetching messages;
* a new operation waits until the relay of the last one has finished, so that no message comes late;
* a search leaves its cursor behind, and what it finds later is added to what was found before.
-/

namespace GradedReading

open Search

/-- Whoever takes the events of one operation. -/
structure Relay where
  operation : Nat
  /-- The number of events that were taken. -/
  position : Nat
  /-- The last event was taken. -/
  finished : Bool
deriving DecidableEq, Repr, Inhabited

/-- A relay that has taken nothing. -/
def Relay.ofOperation (n : Nat) : Relay := ⟨n, 0, false⟩

/-- One client's view of a pipeline. -/
structure Session where
  pipeline : Pipeline
  /-- The current operation, over or not. -/
  active : Option Nat
  /-- The documents to rank. -/
  collection : Option Collection
  /-- The documents to which the current operation adds. -/
  base : Option Collection
  /-- Where the last search can be continued. -/
  cursor : Option Cursor
  keywords : KeywordSet
  queue : MessageQueue
  /-- The relays of all operations. -/
  relays : List Relay

namespace Session

/-- A session that has done nothing. -/
def ofPipeline (p : Pipeline) : Session :=
  { pipeline := p, active := none, collection := none, base := none, cursor := none
    keywords := .ofList [], queue := .empty, relays := [] }

/-- Change the pipeline. -/
def withPipeline (s : Session) (p : Pipeline) : Session := { s with pipeline := p }

/-! ### Where things stand -/

/-- The number under which clients know an operation. -/
def numberOf (operation : Nat) : Nat := operation + 1

/-- Somebody holds the lock: the current operation is being begun. -/
def isLocked (s : Session) : Bool := s.active.any fun n => s.pipeline.isAtWork (.beginning n)

/-- The current operation is not over. -/
def isRunning (s : Session) : Bool := s.active.any fun n => !s.pipeline.isOver n

/-- The relay of an operation. -/
def relay? (s : Session) (n : Nat) : Option Relay := s.relays.find? (·.operation == n)

/-- The relay of the current operation has not finished. -/
def isRelaying (s : Session) : Bool := (s.active.bind s.relay?).any (!·.finished)

/-- The current operation runs, or not everything about it was passed on. -/
def isBusy (s : Session) : Bool := s.isRunning || s.isRelaying

/-! ### Relays -/

/-- Keep the documents of an operation: added to those that it was to be added to, or in place of
those that were kept. -/
def keep (c : Collection) (s : Session) : Session :=
  let kept := match s.base with
    | some base => base.addAll c.documents
    | none => c
  { s with base := none, collection := some kept }

/-- Pass on an event of the current operation. -/
def pass (n : Nat) (e : JobEvent) (s : Session) : Session :=
  let s := match e with
    | .completed c _ => s.keep c
    | _ => s
  let documents := (s.collection.map Collection.size).getD 0
  { s with queue := s.queue.push (.ofEvent (numberOf n) documents e) }

/-- The relay at a place takes an event. -/
def relay (k : Nat) (s : Session) : Option Session := do
  let r ← s.relays[k]?
  if r.finished || s.isLocked then none
  else
    let j ← s.pipeline.job? r.operation
    let e ← j.events[r.position]?
    let r' : Relay := { r with position := r.position + 1, finished := e.isTerminal }
    let s' := if s.active = some r.operation then s.pass r.operation e else s
    some { s' with relays := s'.relays.set k r' }

/-! ### Beginning operations -/

/-- Take over the cursor of the current operation if it is over and its cursor is there. -/
def stash (s : Session) : Session :=
  match s.active with
  | some n =>
    if s.pipeline.isOver n then
      match s.pipeline.takeCursor n with
      | (some c, p) => { s with pipeline := p, cursor := some c }
      | (none, _) => s
    else s
  | none => s

/-- Let go of the current operation, which is over. -/
def retire (s : Session) : Session := { s.stash with active := none }

/-- Make room for a new operation. There is no answer as long as somebody holds the lock, or the
last operation is over and its relay has not finished. -/
def makeRoom (s : Session) : Option (Except OperationError Session) :=
  if s.isLocked then none
  else if s.isRunning then some (.error .previousStateNotCleared)
  else if s.isRelaying then none
  else some (.ok s.retire)

/-- Make an operation the current one and begin it. `obstacle` says why its relay cannot be started,
if it cannot. -/
def launch (obstacle : Option String) (n : Nat) (s : Session) :
    Except OperationError Nat × Session :=
  let s := { s with queue := .empty }
  match obstacle with
  | some reason => (.error (.relayStart reason), s)
  | none =>
    let s := { s with active := some n, relays := s.relays ++ [Relay.ofOperation n] }
    match s.pipeline.begin n with
    | .error e => (.error e, s)
    | .ok p => (.ok n, s.withPipeline p)

/-- Begin an operation once there is room for it: `create` adds it to the pipeline, and `prepare`
gets the session ready if that went well. -/
def enter (create : Session → Except OperationError Nat × Session) (prepare : Session → Session)
    (obstacle : Option String) (s : Session) : Option (Except OperationError Nat × Session) :=
  s.makeRoom.map fun room =>
    match room with
    | .error e => (.error e, s)
    | .ok s =>
      match create s with
      | (.error e, s) => (.error e, s)
      | (.ok n, s) => (prepare s).launch obstacle n

/-- Search. The answer is the number of the operation in the pipeline. -/
def search (sv : Services) (q : Query) (target : Nat) (keywords : KeywordSet)
    (obstacle : Option String) : Session → Option (Except OperationError Nat × Session) :=
  enter (fun s =>
      let (answer, p) := s.pipeline.search sv q target keywords
      (answer, s.withPipeline p))
    ({ · with base := none, keywords }) obstacle

/-- Parse sources. -/
def parse (sv : Services) (l : Language) (sources : List Source) (keywords : KeywordSet)
    (obstacle : Option String) : Session → Option (Except OperationError Nat × Session) :=
  enter (fun s =>
      let (answer, p) := s.pipeline.parse sv l sources keywords
      (answer, s.withPipeline p))
    ({ · with base := none, cursor := none, keywords }) obstacle

/-- Continue the last search. What it finds is added to the collection. -/
def more (sv : Services) (target : Nat) (obstacle : Option String) :
    Session → Option (Except OperationError Nat × Session) :=
  enter (fun s =>
      match s.cursor with
      | none => (.error .noCursor, s)
      | some c =>
        let (answer, p) := s.pipeline.searchMore sv c target s.keywords
        (answer, { s with cursor := none, pipeline := p }))
    (fun s => { s with base := s.collection }) obstacle

/-! ### Everything else -/

/-- Cancel the current operation. The answer is whether there was something to cancel. -/
def cancel (s : Session) : Bool × Session :=
  match s.active with
  | some n =>
    let (answer, p) := s.pipeline.cancel n
    (answer, s.withPipeline p)
  | none => (false, s)

/-- What an interruption from outside does. -/
inductive Interruption where
  /-- The current operation was cancelled. -/
  | cancelled
  /-- There was nothing to cancel, and the program ends. -/
  | exit
deriving DecidableEq, Repr, Inhabited

/-- The word for what an interruption does. -/
def Interruption.name : Interruption → String
  | .cancelled => "cancelled"
  | .exit => "exit"

/-- An interruption from outside. -/
def interrupt (s : Session) : Interruption × Session :=
  let (cancelled, s) := s.cancel
  (if cancelled then .cancelled else .exit, s)

/-- Cancel the current operation and forget everything. -/
def release (s : Session) : Session :=
  let s := s.cancel.2
  { ofPipeline s.pipeline with relays := s.relays }

/-- Take all messages. -/
def fetch (s : Session) : List Message × Session :=
  let (messages, queue) := s.queue.drain
  (messages, { s with queue })

/-- The last search can be continued. -/
def canLoadMore (s : Session) : Bool × Session :=
  let s := s.stash
  (s.cursor.any (!·.isDone), s)

/-- Begin to wait for the current operation. -/
def beginWait (s : Session) : Except OperationError Nat :=
  match s.active with
  | some n => .ok n
  | none => .error .notBegun

/-- The wait for an operation ends when it is over and its relay has finished. -/
def endWait (n : Nat) (s : Session) : Option (JobOutcome × Session) := do
  let o ← (← s.pipeline.job? n).outcome
  if (s.relay? n).any (!·.finished) then none
  else
    match o with
    | .completed .. => if s.isLocked then none else some (o, s.stash)
    | _ => some (o, s)

/-- Rank the collection. -/
def rerank (config : Ranking.Config Float) (s : Session) :
    Except OperationError (Ranking.Ranked Float) :=
  match s.collection with
  | some c => .ok (Ranking.rerank config c)
  | none => .error .noCollection

/-! ### Runs -/

/-- One thing that happens to a session. Clients may make their calls at any time. -/
inductive Act where
  | move (m : Pipeline.Move)
  | relay (k : Nat)
  | search (q : Query) (target : Nat) (keywords : KeywordSet) (obstacle : Option String)
  | parse (l : Language) (sources : List Source) (keywords : KeywordSet) (obstacle : Option String)
  | more (target : Nat) (obstacle : Option String)
  | cancel
  | release
  | fetch
  | canLoadMore
  | endWait (n : Nat)
  | shutDown (drain : Bool)
deriving Repr

/-- Do something that needs the lock. -/
def withLock (s : Session) (f : Session → Session) : Option Session :=
  if s.isLocked then none else some (f s)

/-- What happens, if it can happen. -/
def act? (sv : Services) (s : Session) : Act → Option Session
  | .move m => (s.pipeline.move? sv m).map s.withPipeline
  | .relay k => s.relay k
  | .search q target keywords obstacle => (s.search sv q target keywords obstacle).map (·.2)
  | .parse l sources keywords obstacle => (s.parse sv l sources keywords obstacle).map (·.2)
  | .more target obstacle => (s.more sv target obstacle).map (·.2)
  | .cancel => s.withLock (·.cancel.2)
  | .release => s.withLock release
  | .fetch => some s.fetch.2
  | .canLoadMore => s.withLock (·.canLoadMore.2)
  | .endWait n => (s.endWait n).map (·.2)
  | .shutDown drain => some (s.withPipeline (s.pipeline.shutDown drain))

/-- All of it happens, one after the other. -/
def run? (sv : Services) (s : Session) (acts : List Act) : Option Session :=
  acts.foldlM (act? sv) s

@[simp] theorem run?_nil (sv : Services) (s : Session) : s.run? sv [] = some s := rfl

@[simp] theorem run?_cons (sv : Services) (s : Session) (a : Act) (acts : List Act) :
    s.run? sv (a :: acts) = (s.act? sv a).bind fun s' => s'.run? sv acts := rfl

end Session

end GradedReading
