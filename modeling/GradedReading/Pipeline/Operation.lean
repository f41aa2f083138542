import GradedReading.Keyword.Set
import GradedReading.Pipeline.Task

/-!
# GradedReading.Pipeline.Operation

One operation of a pipeline: its job and what the job is to do.

The cursor of a search lives in its operation. The search takes hold of it while it fetches results,
and anybody may take it for good whenever the search does not hold it.
-/

namespace GradedReading

open Search

/-- Where the cursor of an operation is. -/
inductive CursorPlace where
  | here (cursor : Cursor)
  /-- The search has it. -/
  | held
  | gone
deriving Repr, Inhabited

/-- What an operation is to do. -/
inductive Plan where
  /-- Fetch up to `target` results, and every page among them. -/
  | search (place : CursorPlace) (target : Nat)
  | parse (sources : List Source)
deriving Repr, Inhabited

/-- One operation. -/
structure Operation where
  job : Job
  begun : Bool
  keywords : KeywordSet
  plan : Plan
deriving Inhabited

namespace Operation

/-- An operation that continues a cursor. -/
def ofCursor (c : Cursor) (target : Nat) (keywords : KeywordSet) : Operation :=
  { job := .create .searchAndParse c.query.language, begun := false, keywords
    plan := .search (.here c) target }

/-- An operation that parses sources. -/
def ofSources (l : Language) (sources : List Source) (keywords : KeywordSet) : Operation :=
  { job := .create .parseSources l, begun := false, keywords, plan := .parse sources }

/-- The script that begins the operation with this number. -/
def script (n : Nat) (o : Operation) : List Instr :=
  match o.plan with
  | .search .. => Instr.beginSearch n
  | .parse sources => Instr.beginParses n sources

/-- The operation is over. -/
def isOver (o : Operation) : Bool := o.job.state.isTerminal

/-- The cursor, if it is here. -/
def cursor? (o : Operation) : Option Cursor :=
  match o.plan with
  | .search (.here c) _ => some c
  | _ => none

/-- Put the cursor somewhere else. -/
def moveCursor (place : CursorPlace) (o : Operation) : Operation :=
  match o.plan with
  | .search _ target => { o with plan := .search place target }
  | .parse _ => o

/-- How the operation ended. Nobody can wait for an operation that was neither begun nor
cancelled. -/
def outcome (o : Operation) : Except OperationError (Option JobOutcome) :=
  if o.begun || o.job.flag then .ok o.job.outcome else .error .notBegun

end Operation

end GradedReading
