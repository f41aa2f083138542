import GradedReading.Job.Basic
import GradedReading.Pool.Basic
import GradedReading.Search.Cursor
import GradedReading.Settings.Basic
import GradedReading.Web.Crawler

/-!
# GradedReading.Pipeline.Task

The tasks of the three stages, and what is done when one of them is settled.

**Key idea:** what is done is a *script*, a list of instructions. Each instruction happens at once,
and between two of them anything else may happen.

Design points:

* a search submits a crawl for each result, and a crawl a parse for its page, in the slot of the
  result;
* what a pool refuses is settled by whoever submitted it;
* a script that finds its job over ends where it is.
-/

namespace GradedReading

open Search Web

/-- The search of an operation. -/
structure SearchTask where
  /-- The operation, by its number. -/
  operation : Nat
  /-- The call for results, once the task has the operation's cursor. -/
  fetch : Option Fetch
  /-- The task has arrived at the gate of its next call. -/
  arrived : Bool
deriving Repr, Inhabited

/-- Fetching the page of a search result. -/
structure CrawlTask where
  operation : Nat
  result : SearchResult
  arrived : Bool
deriving Repr, Inhabited

/-- How far a parse has come. -/
inductive ParseProgress where
  | fresh
  /-- The language's parser may be at work for somebody else. -/
  | waiting
  /-- The parser is at work for this task, after so many earlier calls. -/
  | parsing (calls : Nat)
deriving DecidableEq, Repr, Inhabited

/-- Parsing one source. -/
structure ParseTask where
  operation : Nat
  source : Source
  progress : ParseProgress
  arrived : Bool
deriving Repr, Inhabited

namespace Stage

/-- The tasks of a stage. -/
abbrev Task : Stage → Type
  | .search => SearchTask
  | .crawl => CrawlTask
  | .parse => ParseTask

/-- What the tasks of a stage give. -/
abbrev Yield : Stage → Type
  | .search => List SearchResult
  | .crawl => CrawledPage
  | .parse => Document

/-- The operation that a task belongs to. -/
def operationOf : (s : Stage) → s.Task → Nat
  | .search, t => t.operation
  | .crawl, t => t.operation
  | .parse, t => t.operation

end Stage

/-- The search of an operation before it begins. -/
def SearchTask.ofOperation (n : Nat) : SearchTask := ⟨n, none, false⟩

/-- The crawl of a result before it begins. -/
def CrawlTask.ofResult (n : Nat) (r : SearchResult) : CrawlTask := ⟨n, r, false⟩

/-- The parse of a source before it begins. -/
def ParseTask.ofSource (n : Nat) (s : Source) : ParseTask := ⟨n, s, .fresh, false⟩

/-- One step of a script. -/
inductive Instr where
  /-- Tell the job of an operation, whatever it answers. -/
  | tell (operation : Nat) (op : Job.Op)
  /-- Tell the job of an operation, and go on only if it was live. -/
  | require (operation : Nat) (op : Job.Op)
  | submit (stage : Stage) (task : stage.Task)
  /-- Close the pool of a stage, and wait for its workers if it is drained. -/
  | close (stage : Stage) (drain : Bool)
  /-- Wait until the workers of a stage are done. -/
  | join (stage : Stage)
  | stopWatchdog

namespace Instr

/-- Submit a task for each thing and then declare that no more slots will be reserved. -/
def fanOut {α : Type} (operation : Nat) (stage : Stage) (task : α → stage.Task) (xs : List α) :
    List Instr :=
  xs.map (fun x => submit stage (task x)) ++ [tell operation .finishFanOut]

/-- What is done about a task that its pool refused. -/
def refused : (s : Stage) → s.Task → TaskError → Instr
  | .search, t, e => tell t.operation (.fail (.searchStage e))
  | .crawl, t, _ => tell t.operation (.crawlComplete t.result false)
  | .parse, t, _ => tell t.operation .settleFailed

/-- The script that begins a search. -/
def beginSearch (n : Nat) : List Instr :=
  [require n (.enter .searching), submit .search (.ofOperation n)]

/-- The script that begins the parses of given sources. -/
def beginParses (n : Nat) (sources : List Source) : List Instr :=
  [require n (.announce (.begins (sources.map (·.toSourceInfo)))), require n (.enter .parsing),
    require n (.reserve sources.length)] ++ fanOut n .parse (.ofSource n) sources

/-- The script that follows a search. -/
def afterSearch (n : Nat) : TaskOutcome (List SearchResult) → List Instr
  | .completed rs =>
    [require n (.enter .crawling), require n (.reserve rs.length)] ++
      fanOut n .crawl (.ofResult n) rs
  | .failed e => [tell n (.fail (.searchStage e))]
  | .discarded => []

/-- The script that follows the crawl of a result. -/
def afterCrawl (n : Nat) (r : SearchResult) : TaskOutcome CrawledPage → List Instr
  | .completed page =>
    [require n (.crawlComplete r true), require n (.enter .parsing),
      submit .parse (.ofSource n (page.source r.rank))]
  | .failed _ => [tell n (.crawlComplete r false)]
  | .discarded => []

/-- The script that follows a parse. -/
def afterParse (n : Nat) : TaskOutcome Document → List Instr
  | .completed d => [tell n (.parseComplete d)]
  | .failed _ => [tell n .settleFailed]
  | .discarded => []

/-- The script that follows a task. -/
def after : (s : Stage) → s.Task → TaskOutcome s.Yield → List Instr
  | .search, t, o => afterSearch t.operation o
  | .crawl, t, o => afterCrawl t.operation t.result o
  | .parse, t, o => afterParse t.operation o

/-- The script that shuts all pools down. -/
def shutDown (drain : Bool) : List Instr :=
  [close .search drain, close .crawl drain, close .parse drain, stopWatchdog]

end Instr

/-- Who works through a script. -/
inductive Owner where
  /-- Whoever began the operation with this number. -/
  | beginning (operation : Nat)
  /-- The worker that has the task at this place of a pool. -/
  | worker (stage : Stage) (place : Nat)
  | watchdog
  /-- Whoever shuts the pools down. -/
  | shutdown (drain : Bool)
deriving DecidableEq, Repr, Inhabited

/-- A script that somebody works through. -/
structure Script where
  owner : Owner
  rest : List Instr

/-- The pools of the three stages. -/
structure Pools where
  search : Pool SearchTask (List SearchResult)
  crawl : Pool CrawlTask CrawledPage
  parse : Pool ParseTask Document

namespace Pools

/-- The pools that the settings ask for. -/
def ofSettings (s : Settings) : Pools :=
  { search := .ofSize .search s.threads.search s.timeLimits.search
    crawl := .ofSize .crawl s.threads.crawl s.timeLimits.crawl
    parse := .ofSize .parse s.threads.parse s.timeLimits.parse }

/-- The pool of a stage. -/
def get (ps : Pools) : (s : Stage) → Pool s.Task s.Yield
  | .search => ps.search
  | .crawl => ps.crawl
  | .parse => ps.parse

/-- Replace the pool of a stage. -/
def set (ps : Pools) : (s : Stage) → Pool s.Task s.Yield → Pools
  | .search, p => { ps with search := p }
  | .crawl, p => { ps with crawl := p }
  | .parse, p => { ps with parse := p }

@[simp] theorem get_set_same (ps : Pools) (s : Stage) (p : Pool s.Task s.Yield) :
    (ps.set s p).get s = p := by cases s <;> rfl

theorem get_set_of_ne (ps : Pools) {s s' : Stage} (h : s' ≠ s) (p : Pool s.Task s.Yield) :
    (ps.set s p).get s' = ps.get s' := by cases s <;> cases s' <;> first | rfl | exact absurd rfl h

end Pools

end GradedReading
