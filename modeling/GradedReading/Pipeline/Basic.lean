import GradedReading.Keyword.Search
import GradedReading.Pipeline.Operation
import GradedReading.Pipeline.Services
import GradedReading.Pool.Gate

/-!
# GradedReading.Pipeline.Basic

Operations at work in three pools.

**Key idea:** a pipeline moves by small steps of its workers, its watchdog, the clock and those who
work through scripts, in any order; `move?` says which steps are possible and what they do. What
its clients do is told by the functions of the last section.

Design points:

* the provider, the crawler and a parser are called in the middle of a task, and the answer counts
  whatever happened to the task meanwhile;
* a parser works for one task at a time, whatever the number of workers;
* a search gives its cursor back however it ends.
-/

namespace GradedReading

open Search Web

/-- Operations at work. -/
structure Pipeline where
  pools : Pools
  operations : List Operation
  /-- The scripts that somebody works through. -/
  scripts : List Script
  parsers : Parser.Cache
  /-- The languages whose parsers are at work. -/
  engaged : List Language
  /-- The calls of the provider, the oldest first. -/
  searchCalls : List PageRequest
  /-- The number of calls of the crawler. -/
  crawlCalls : Nat
  gates : Gates
  now : Moment
  /-- The watchdog was not stopped. -/
  watching : Bool

namespace Pipeline

/-- Nothing has happened yet. -/
def ofSettings (s : Settings) : Pipeline :=
  { pools := .ofSettings s, operations := [], scripts := [], parsers := .empty, engaged := []
    searchCalls := [], crawlCalls := 0, gates := .closed, now := ⟨0⟩, watching := true }

/-! ### Operations and scripts -/

/-- Change the operation with this number. -/
def modifyOperation (n : Nat) (f : Operation → Operation) (p : Pipeline) : Pipeline :=
  { p with operations := p.operations.modify n f }

/-- The job of the operation with this number. -/
def job? (p : Pipeline) (n : Nat) : Option Job := p.operations[n]?.map (·.job)

/-- The flag of an operation is set. -/
def isFlagged (p : Pipeline) (n : Nat) : Bool := (p.job? n).any (·.flag)

/-- The operation is over. -/
def isOver (p : Pipeline) (n : Nat) : Bool := p.operations[n]?.any Operation.isOver

/-- Tell the job of an operation something; the answer is the job's. -/
def tell (n : Nat) (op : Job.Op) (p : Pipeline) : Bool × Pipeline :=
  match p.job? n with
  | some j =>
    let (answer, job) := j.apply op
    (answer, p.modifyOperation n ({ · with job }))
  | none => (false, p)

/-- Somebody begins to work through a script. -/
def work (owner : Owner) (script : List Instr) (p : Pipeline) : Pipeline :=
  { p with scripts := p.scripts ++ [⟨owner, script⟩] }

/-- The owner works through a script. -/
def isAtWork (p : Pipeline) (owner : Owner) : Bool := p.scripts.any (·.owner == owner)

/-- Carry out the first instruction of a script. The answer is the rest of the script; there is
none if the instruction has to wait. -/
def carryOut (p : Pipeline) : List Instr → Option (List Instr × Pipeline)
  | [] => some ([], p)
  | .tell n op :: rest => some (rest, (p.tell n op).2)
  | .require n op :: rest =>
    let (live, p) := p.tell n op
    some (if live then rest else [], p)
  | .submit s t :: rest =>
    let (answer, pool) := (p.pools.get s).submit t
    let p := { p with pools := p.pools.set s pool }
    match answer with
    | .ok _ => some (rest, p)
    | .error e => some (Instr.refused s t e :: rest, p)
  | .close s drain :: rest =>
    let pool := p.pools.get s
    let rest := if pool.accepts && drain then .join s :: rest else rest
    some (rest, { p with pools := p.pools.set s (pool.close drain) })
  | .join s :: rest => if (p.pools.get s).isQuiet then some (rest, p) else none
  | .stopWatchdog :: rest =>
    if p.isAtWork .watchdog then none else some (rest, { p with watching := false })

/-- The script at a place goes on. -/
def advance (k : Nat) (p : Pipeline) : Option Pipeline := do
  let script ← p.scripts[k]?
  let (rest, p) ← p.carryOut script.rest
  let scripts :=
    if rest.isEmpty then p.scripts.eraseIdx k else p.scripts.set k { script with rest }
  some { p with scripts }

/-! ### Bodies -/

/-- Replace what the task at a place is. -/
def setTask (s : Stage) (i : Nat) (t : s.Task) (p : Pipeline) : Pipeline :=
  { p with pools := p.pools.set s ((p.pools.get s).setTask i t) }

/-- The body of a task ends. -/
def finish (s : Stage) (i : Nat) (o : TaskOutcome s.Yield) (p : Pipeline) : Option Pipeline :=
  ((p.pools.get s).finish i o).map fun pool => { p with pools := p.pools.set s pool }

/-- Pass a gate, or arrive at it. `arrive` records the arrival and `pass` goes on. -/
def passGate (gate : Option String) (arrived : Bool) (arrive : Pipeline → Pipeline)
    (pass : Pipeline → Option Pipeline) (p : Pipeline) : Option Pipeline :=
  match p.gates.approach gate arrived with
  | .arrives gates => some (arrive { p with gates })
  | .waits => none
  | .passes => pass p

/-- What the end of a call for results means for its task. -/
def searchOutcome : Reply SearchError (List SearchResult) → TaskOutcome (List SearchResult)
  | .value rs => .completed rs
  | .error e => .failed (.search e)
  | .panic m => .failed (.panicked m)

/-- The body of a search goes on: it takes the cursor, asks for pages and gives the cursor back. -/
def searchBody (sv : Services) (i : Nat) (t : SearchTask) (p : Pipeline) : Option Pipeline :=
  match t.fetch with
  | none =>
    match p.operations[t.operation]?.map Operation.plan with
    | some (.search (.here c) target) =>
      some ((p.modifyOperation t.operation (·.moveCursor .held)).setTask .search i
        { t with fetch := some (.start sv.blocked target c) })
    | some (.search .held _) => none
    | _ => p.finish .search i (.failed (.failed "search cursor already taken"))
  | some f =>
    match f.verdict with
    | some verdict =>
      (p.modifyOperation t.operation (·.moveCursor (.here f.cursor))).finish .search i
        (searchOutcome verdict)
    | none =>
      p.passGate sv.waits.search t.arrived (setTask .search i { t with arrived := true }) fun p =>
        let request := f.cursor.request
        let reply := sv.provider.answer p.searchCalls f.cursor.query request
        some { p.setTask .search i { t with fetch := some (f.step sv.blocked reply), arrived := false }
          with searchCalls := p.searchCalls ++ [request] }

/-- What the end of a crawl means for its task. -/
def crawlOutcome : Reply CrawlError CrawledPage → TaskOutcome CrawledPage
  | .value page => .completed page
  | .error e => .failed (.crawl e)
  | .panic m => .failed (.panicked m)

/-- The body of a crawl goes on. -/
def crawlBody (sv : Services) (i : Nat) (t : CrawlTask) (p : Pipeline) : Option Pipeline :=
  p.passGate (sv.waits.crawl t.result) t.arrived (setTask .crawl i { t with arrived := true })
    fun p =>
      { p with crawlCalls := p.crawlCalls + 1 }.finish .crawl i
        (crawlOutcome (sv.crawler.crawl p.crawlCalls t.result))

/-- A document leaves its parser: it is marked, and searched for the keywords. -/
def complete (keywords : KeywordSet) (d : Document) : TaskOutcome Document :=
  match d.markParsed with
  | .error e => .failed (.failed e.message)
  | .ok d =>
    .completed (if keywords.isEmpty then d else d.setHits (KeywordSearch.find keywords d.source.text))

/-- What the end of a parse means for its task. -/
def parseOutcome (keywords : KeywordSet) : Reply ParseError Document → TaskOutcome Document
  | .value d => complete keywords d
  | .error e => .failed (.parse e)
  | .panic m => .failed (.panicked m)

/-- The body of a parse goes on: it gets the language's parser, waits for it and calls it. -/
def parseBody (sv : Services) (i : Nat) (t : ParseTask) (p : Pipeline) : Option Pipeline := do
  let operation ← p.operations[t.operation]?
  let l := operation.job.language
  match t.progress with
  | .fresh =>
    let (parser, parsers) := p.parsers.get sv.parsers l
    let p := { p with parsers }
    match parser with
    | .error e => p.finish .parse i (.failed (.parse e))
    | .ok _ =>
      if Text.isAllBlank t.source.text then
        p.finish .parse i (.failed (.parse (.empty t.source.rank)))
      else some (p.setTask .parse i { t with progress := .waiting })
  | .waiting =>
    if p.engaged.contains l then none
    else
      let calls := ((p.parsers.get? l).map (·.calls)).getD 0
      some { p.setTask .parse i { t with progress := .parsing calls } with
        parsers := p.parsers.countCall l, engaged := p.engaged ++ [l] }
  | .parsing calls =>
    p.passGate (sv.waits.parse t.source) t.arrived (setTask .parse i { t with arrived := true })
      fun p => do
        let parser ← p.parsers.get? l
        { p with engaged := p.engaged.erase l }.finish .parse i
          (parseOutcome operation.keywords (parser.engine.parse calls t.source))

/-- The body of the task at a place goes on. -/
def body (sv : Services) (s : Stage) (i : Nat) (p : Pipeline) : Option Pipeline := do
  let t ← (p.pools.get s).tasks[i]?
  match t.phase with
  | .running _ =>
    match s, t.task with
    | .search, t => p.searchBody sv i t
    | .crawl, t => p.crawlBody sv i t
    | .parse, t => p.parseBody sv i t
  | _ => none

/-! ### Moves -/

/-- Go on with a step of a pool that may have given a task its outcome; if so, the owner follows
it up. -/
def withPool (s : Stage) (i : Nat) (owner : Owner)
    (r : Option (Option (TaskOutcome s.Yield) × Pool s.Task s.Yield)) (p : Pipeline) :
    Option Pipeline :=
  r.map fun (outcome, pool) =>
    let p := { p with pools := p.pools.set s pool }
    match outcome, pool.tasks[i]? with
    | some o, some t => p.work owner (Instr.after s t.task o)
    | _, _ => p

/-- The steps that a pipeline makes by itself. -/
inductive Move where
  /-- Somebody goes on with the script at a place. -/
  | advance (k : Nat)
  /-- A free worker takes a task. -/
  | take (s : Stage)
  /-- A worker that took a task looks at the pool. -/
  | look (s : Stage) (i : Nat)
  /-- A worker looks at the task itself, and may begin its body. -/
  | start (s : Stage) (i : Nat)
  /-- The body of a task goes on. -/
  | body (s : Stage) (i : Nat)
  /-- A worker gives a task the outcome of its body. -/
  | settle (s : Stage) (i : Nat)
  /-- A worker is done with a task. -/
  | letGo (s : Stage) (i : Nat)
  /-- The watchdog gives up on a task. -/
  | expire (s : Stage) (i : Nat)
  /-- Time passes. -/
  | tick (moment : Moment)
  /-- Whatever a call waited for comes true. -/
  | openGate (name : String)
deriving DecidableEq, Repr

/-- One step, if it is possible. -/
def move? (sv : Services) (m : Move) (p : Pipeline) : Option Pipeline :=
  match m with
  | .advance k => p.advance k
  | .take s => ((p.pools.get s).take).map fun pool => { p with pools := p.pools.set s pool }
  | .look s i => p.withPool s i (.worker s i) ((p.pools.get s).look i)
  | .start s i =>
    let flagged := ((p.pools.get s).tasks[i]?).any fun t => p.isFlagged (s.operationOf t.task)
    p.withPool s i (.worker s i) ((p.pools.get s).start i flagged p.now)
  | .body s i => p.body sv s i
  | .settle s i => p.withPool s i (.worker s i) ((p.pools.get s).settle i)
  | .letGo s i =>
    if p.isAtWork (.worker s i) then none
    else ((p.pools.get s).letGo i).map fun pool => { p with pools := p.pools.set s pool }
  | .expire s i =>
    if p.watching then p.withPool s i .watchdog ((p.pools.get s).expire i p.now) else none
  | .tick moment => some { p with now := p.now.max moment }
  | .openGate name => some { p with gates := p.gates.openGate name }

/-! ### What clients do -/

/-- Add an operation, if its language is supported. The answer is its number. -/
def add (sv : Services) (l : Language) (o : Operation) (p : Pipeline) :
    Except OperationError Nat × Pipeline :=
  if sv.parsers.supports l then
    (.ok p.operations.length, { p with operations := p.operations ++ [o] })
  else (.error (.unsupportedLanguage l), p)

/-- A new operation that continues a cursor. -/
def searchMore (sv : Services) (c : Cursor) (target : Nat) (keywords : KeywordSet) (p : Pipeline) :
    Except OperationError Nat × Pipeline :=
  p.add sv c.query.language (.ofCursor c target keywords)

/-- A new operation that searches, fetches up to `target` results and parses their pages. -/
def search (sv : Services) (q : Query) (target : Nat) (keywords : KeywordSet) (p : Pipeline) :
    Except OperationError Nat × Pipeline :=
  p.searchMore sv (.start q) target keywords

/-- A new operation that parses sources. -/
def parse (sv : Services) (l : Language) (sources : List Source) (keywords : KeywordSet)
    (p : Pipeline) : Except OperationError Nat × Pipeline :=
  p.add sv l (.ofSources l sources keywords)

/-- Begin an operation. It can be begun once. -/
def begin (n : Nat) (p : Pipeline) : Except OperationError Pipeline :=
  match p.operations[n]? with
  | some o =>
    if o.begun then .error .alreadyBegun
    else .ok ((p.modifyOperation n ({ · with begun := true })).work (.beginning n) (o.script n))
  | none => .ok p

/-- Cancel an operation. The answer is whether it was not over yet. -/
def cancel (n : Nat) (p : Pipeline) : Bool × Pipeline := p.tell n .cancel

/-- Take the cursor of an operation for good, if it is there. -/
def takeCursor (n : Nat) (p : Pipeline) : Option Cursor × Pipeline :=
  match (p.operations[n]?).bind Operation.cursor? with
  | some c => (some c, p.modifyOperation n (·.moveCursor .gone))
  | none => (none, p)

/-- Shut all pools down. What waits is still run if `drain` is set; else it is given up. -/
def shutDown (drain : Bool) (p : Pipeline) : Pipeline :=
  p.work (.shutdown drain) (Instr.shutDown drain)

/-- The parser of a language, built if it is needed for the first time. -/
def parserFor (sv : Services) (l : Language) (p : Pipeline) :
    Except OperationError Parser.Shared × Pipeline :=
  let (parser, parsers) := p.parsers.get sv.parsers l
  (parser.mapError fun _ => .unsupportedLanguage l, { p with parsers })

/-- What clients do, as data. -/
inductive Call where
  | search (q : Query) (target : Nat) (keywords : KeywordSet)
  | searchMore (c : Cursor) (target : Nat) (keywords : KeywordSet)
  | parse (l : Language) (sources : List Source) (keywords : KeywordSet)
  | begin (n : Nat)
  | cancel (n : Nat)
  | takeCursor (n : Nat)
  | shutDown (drain : Bool)
  | parserFor (l : Language)
deriving Repr

/-- The pipeline after a call. -/
def call (sv : Services) (c : Call) (p : Pipeline) : Pipeline :=
  match c with
  | .search q target keywords => (p.search sv q target keywords).2
  | .searchMore c target keywords => (p.searchMore sv c target keywords).2
  | .parse l sources keywords => (p.parse sv l sources keywords).2
  | .begin n => (p.begin n).toOption.getD p
  | .cancel n => (p.cancel n).2
  | .takeCursor n => (p.takeCursor n).2
  | .shutDown drain => p.shutDown drain
  | .parserFor l => (p.parserFor sv l).2

/-- One thing that happens to a pipeline. -/
inductive Act where
  | call (c : Call)
  | move (m : Move)
deriving Repr

/-- What happens, if it can happen. -/
def act? (sv : Services) (p : Pipeline) : Act → Option Pipeline
  | .call c => some (p.call sv c)
  | .move m => p.move? sv m

/-- All of it happens, one after the other. -/
def run? (sv : Services) (p : Pipeline) (acts : List Act) : Option Pipeline :=
  acts.foldlM (act? sv) p

@[simp] theorem run?_nil (sv : Services) (p : Pipeline) : p.run? sv [] = some p := rfl

@[simp] theorem run?_cons (sv : Services) (p : Pipeline) (a : Act) (acts : List Act) :
    p.run? sv (a :: acts) = (p.act? sv a).bind fun p' => p'.run? sv acts := rfl

end Pipeline

end GradedReading
