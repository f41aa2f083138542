import GradedReading.Pipeline.Run
import GradedReading.Session.Basic

/-!
# GradedReading.Session.Run

A session run in a fixed order: the pipeline first, then the relays, and time only when nothing
else can happen. A call that has to wait is made as soon as it is possible.
-/

namespace GradedReading

open Search

namespace Session

/-- The first step that is possible. -/
def next (sv : Services) (s : Session) : Option Session :=
  match s.pipeline.next sv with
  | some p => some (s.withPipeline p)
  | none => (List.range s.relays.length).findSome? s.relay

/-- Time passes until the next deadline, and what is due times out. -/
def passTime (sv : Services) (s : Session) : Option Session :=
  (s.pipeline.passTime sv).map s.withPipeline

/-- Go on until the goal is reached and nothing is left to do. -/
def goUntil (sv : Services) (goal : Session → Bool) (s : Session) : Session :=
  Schedule.goUntil (next sv) (passTime sv) goal Pipeline.patience Pipeline.patience s

/-- Go on until nothing is left to do. -/
def settleDown (sv : Services) (s : Session) : Session :=
  Schedule.settleDown (next sv) Pipeline.patience s

/-- Go on until a call is possible, and make it. -/
def await {α : Type} (sv : Services) (call : Session → Option (α × Session)) (s : Session) :
    Option α × Session :=
  let s := s.goUntil sv fun s => (call s).isSome
  match call s with
  | some (answer, s) => (some answer, s.settleDown sv)
  | none => (none, s)

/-- Wait for the current operation. -/
def wait (sv : Services) (s : Session) : Except OperationError (Option JobOutcome) × Session :=
  match s.beginWait with
  | .error e => (.error e, s)
  | .ok n =>
    let (outcome, s) := s.await sv (endWait n)
    (.ok outcome, s)

end Session

end GradedReading
