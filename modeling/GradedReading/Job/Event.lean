import GradedReading.Document.Collection
import GradedReading.Search.Provider

/-!
# GradedReading.Job.Event

What a job goes through, what it reports on the way, and how it ends.
-/

namespace GradedReading

open Search

/-- What a job does. -/
inductive JobKind where
  /-- Search, fetch each result, and parse each page that has text. -/
  | searchAndParse
  /-- Parse sources that were given. -/
  | parseSources
deriving DecidableEq, Repr, Inhabited

/-- The word for a kind of job. -/
def JobKind.name : JobKind → String
  | .searchAndParse => "search_crawl_parse"
  | .parseSources => "custom_parse"

/-- Where a job stands. -/
inductive JobState where
  | created
  | searching
  | crawling
  | parsing
  | complete
  | cancelled
  | failed
deriving DecidableEq, Repr, Inhabited

namespace JobState

/-- All states, in the order in which a job goes through them. -/
def all : List JobState :=
  [.created, .searching, .crawling, .parsing, .complete, .cancelled, .failed]

/-- The word for a state. -/
def name : JobState → String
  | .created => "created"
  | .searching => "searching"
  | .crawling => "crawling"
  | .parsing => "parsing"
  | .complete => "complete"
  | .cancelled => "cancelled"
  | .failed => "failed"

/-- The state with this name. -/
def ofName? (s : String) : Option JobState := all.find? (·.name == s)

/-- The place of a state in the order. -/
def place : JobState → Nat
  | .created => 0
  | .searching => 1
  | .crawling => 2
  | .parsing => 3
  | .complete => 4
  | .cancelled => 5
  | .failed => 6

/-- No job leaves this state. -/
def isTerminal : JobState → Bool
  | .complete | .cancelled | .failed => true
  | _ => false

end JobState

/-- What a job reports, in the order in which it happens. -/
inductive JobEvent where
  /-- The sources that are about to be parsed. -/
  | begins (sources : List SourceInfo)
  /-- A result was fetched; no document follows if it gave no text. -/
  | crawled (result : SearchResult) (extracted : Bool)
  | parsed (document : Document)
  /-- All work is settled. -/
  | completed (collection : Collection) (failures : Nat)
  | failed (error : OperationError)
  | cancelled
deriving Repr, Inhabited

/-- The event is the last one of its job. -/
def JobEvent.isTerminal : JobEvent → Bool
  | .completed .. | .failed _ | .cancelled => true
  | _ => false

/-- The place of an event in an orderly account of a job: what is begun, what was fetched by rank,
what was parsed by rank, and the end. -/
def JobEvent.place : JobEvent → Nat × Nat
  | .begins _ => (0, 0)
  | .crawled r _ => (1, r.rank)
  | .parsed d => (2, d.rank)
  | _ => (3, 0)

/-- Put things in the order of their places; things with the same place keep their order. -/
def inPlace {α : Type} (place : α → Nat × Nat) (xs : List α) : List α :=
  xs.mergeSort fun a b =>
    (place a).1 < (place b).1 || ((place a).1 == (place b).1 && (place a).2 ≤ (place b).2)

/-- How a job ended. -/
inductive JobOutcome where
  /-- With these documents, and this many results or sources that gave none. -/
  | completed (collection : Collection) (failures : Nat)
  | cancelled
  | failed (error : OperationError)
deriving Repr, Inhabited

/-- The event that tells of an outcome. -/
def JobOutcome.event : JobOutcome → JobEvent
  | .completed c n => .completed c n
  | .cancelled => .cancelled
  | .failed e => .failed e

@[simp] theorem JobOutcome.isTerminal_event (o : JobOutcome) : o.event.isTerminal = true := by
  cases o <;> rfl

end GradedReading
