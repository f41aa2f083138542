import GradedReading.Job.Event

/-!
# GradedReading.Session.Message

What a session tells its client, and the queue in which messages wait to be fetched.
-/

namespace GradedReading

open Search

/-- A message about the operation with this number. -/
inductive Message where
  | begins (operation : Nat) (sources : List SourceInfo)
  | crawled (operation : Nat) (result : SearchResult) (extracted : Bool)
  | parsed (operation rank : Nat) (title : String) (words : Nat) (level : Level)
  | completed (operation documents failures : Nat)
  | error (operation : Nat) (message : String)
  | cancelled (operation : Nat)
deriving DecidableEq, Repr, Inhabited

namespace Message

/-- The number of the operation. -/
def operation : Message → Nat
  | .begins n _ => n
  | .crawled n _ _ => n
  | .parsed n _ _ _ _ => n
  | .completed n _ _ => n
  | .error n _ => n
  | .cancelled n => n

/-- The message is the last one about its operation. -/
def isTerminal : Message → Bool
  | .completed .. | .error .. | .cancelled _ => true
  | _ => false

/-- The place of a message in an orderly account of an operation: what is begun, what was fetched
by rank, what was parsed by rank, and the end. -/
def place : Message → Nat × Nat
  | .begins .. => (0, 0)
  | .crawled _ r _ => (1, r.rank)
  | .parsed _ rank _ _ _ => (2, rank)
  | _ => (3, 0)

/-- The message about an event; `documents` is the size of the collection that the client sees
when the operation is complete. -/
def ofEvent (operation documents : Nat) : JobEvent → Message
  | .begins sources => .begins operation sources
  | .crawled r extracted => .crawled operation r extracted
  | .parsed d => .parsed operation d.rank d.source.title d.length d.level
  | .completed _ failures => .completed operation documents failures
  | .failed e => .error operation e.message
  | .cancelled => .cancelled operation

@[simp] theorem operation_ofEvent (operation documents : Nat) (e : JobEvent) :
    (ofEvent operation documents e).operation = operation := by cases e <;> rfl

@[simp] theorem isTerminal_ofEvent (operation documents : Nat) (e : JobEvent) :
    (ofEvent operation documents e).isTerminal = e.isTerminal := by cases e <;> rfl

end Message

/-- Messages that wait, the oldest first. -/
structure MessageQueue where
  messages : List Message
deriving DecidableEq, Repr, Inhabited

namespace MessageQueue

/-- No message waits. -/
def empty : MessageQueue := ⟨[]⟩

/-- Append a message. -/
def push (m : Message) (q : MessageQueue) : MessageQueue := ⟨q.messages ++ [m]⟩

/-- Take all messages out. -/
def drain (q : MessageQueue) : List Message × MessageQueue := (q.messages, empty)

/-- The number of messages. -/
def size (q : MessageQueue) : Nat := q.messages.length

@[simp] theorem messages_push (m : Message) (q : MessageQueue) :
    (q.push m).messages = q.messages ++ [m] := rfl

end MessageQueue

end GradedReading
