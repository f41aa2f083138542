import GradedReading.Search.Provider
import GradedReading.Web.Blacklist

/-!
# GradedReading.Search.Cursor

A position in the results of a search, from which more can be fetched at any time.

**Key idea:** pages are fetched in order, and what a page holds beyond the number asked for waits
in the cursor. Results with a blocked URL, and all but the first with the same URL, are dropped as
they are handed out; the others are numbered from zero without gaps.

Design points:

* an error is reported only if nothing was collected; else the call ends early with what it has;
* one call fetches a limited number of pages;
* a panic of the provider tears the call down. What it had collected is lost, the cursor stays.
-/

namespace GradedReading.Search

open Web

/-- Results on a page. -/
def resultsPerPage : Nat := 10

/-- Pages that one call fetches at most. -/
def maxPagesPerFetch : Nat := 10

/-- A position in the results of a search. -/
structure Cursor where
  query : Query
  /-- The page that is fetched next. -/
  nextPage : Nat
  /-- The rank of the next result. -/
  nextRank : Nat
  /-- The last page was fetched. -/
  exhausted : Bool
  /-- Results that were fetched and not handed out. -/
  buffered : List SearchResult
  /-- URLs that were handed out, the latest first. -/
  seen : List String
deriving DecidableEq, Repr, Inhabited

namespace Cursor

/-- Before the first result. -/
def start (query : Query) : Cursor :=
  { query, nextPage := 0, nextRank := 0, exhausted := false, buffered := [], seen := [] }

/-- Nothing is left to fetch or to hand out. -/
def isDone (c : Cursor) : Bool := c.exhausted && c.buffered.isEmpty

/-- Hand out up to `n` waiting results. -/
def take (blacklist : Blacklist) (n : Nat) (c : Cursor) : List SearchResult × Cursor :=
  go n c.buffered { c with buffered := [] }
where
  /-- Hand out up to `n` of the results `waiting`, which are not in the cursor. -/
  go : Nat → List SearchResult → Cursor → List SearchResult × Cursor
    | 0, waiting, c => ([], { c with buffered := waiting })
    | _, [], c => ([], c)
    | n + 1, r :: waiting, c =>
      if blacklist.blocks r.url || c.seen.contains r.url then go (n + 1) waiting c
      else
        let (out, c') :=
          go n waiting { c with nextRank := c.nextRank + 1, seen := r.url :: c.seen }
        ({ r with rank := c.nextRank } :: out, c')
  termination_by n waiting => n + waiting.length

/-- Take in the page that was asked for. -/
def receive (c : Cursor) (p : Page) : Cursor :=
  { c with
    nextPage := c.nextPage + 1
    exhausted := p.last || p.results.isEmpty
    buffered := c.buffered ++ p.results }

/-- The next page to ask for. -/
def request (c : Cursor) : PageRequest := ⟨c.nextPage, resultsPerPage⟩

end Cursor

/-- A call of `fetch` under way. -/
structure Fetch where
  /-- The cursor, with everything that was taken in. -/
  cursor : Cursor
  /-- What the call has collected. -/
  out : List SearchResult
  /-- How many more results it wants. -/
  need : Nat
  /-- How many more pages it may fetch. -/
  pages : Nat
  /-- How the call ends, once that is known. -/
  verdict : Option (Reply SearchError (List SearchResult))
deriving Repr, Inhabited

namespace Fetch

/-- Decide whether the call is over: it has enough, or there is nothing more it could fetch. -/
def decide (f : Fetch) : Fetch :=
  if f.need = 0 || f.cursor.exhausted || f.pages = 0 then
    { f with verdict := some (.value f.out) }
  else f

/-- Begin a call for up to `target` results. -/
def start (blacklist : Blacklist) (target : Nat) (c : Cursor) : Fetch :=
  let (out, cursor) := c.take blacklist target
  decide { cursor, out, need := target - out.length, pages := maxPagesPerFetch, verdict := none }

/-- Go on with the provider's reply to the request for the next page. -/
def step (blacklist : Blacklist) (reply : Reply SearchError Page) (f : Fetch) : Fetch :=
  match reply with
  | .panic m => { f with verdict := some (.panic m) }
  | .error e => { f with verdict := some (if f.out.isEmpty then .error e else .value f.out) }
  | .value p =>
    let (more, cursor) := (f.cursor.receive p).take blacklist f.need
    decide { cursor, out := f.out ++ more, need := f.need - more.length, pages := f.pages - 1
             verdict := none }

/-- Ask for pages until the call is over, or `steps` times. The result goes with the calls to the
provider so far. -/
def run (provider : Provider) (blacklist : Blacklist) :
    (steps : Nat) → List PageRequest → Fetch → Fetch × List PageRequest
  | 0, calls, f => (f, calls)
  | steps + 1, calls, f =>
    if f.verdict.isSome then (f, calls)
    else
      let request := f.cursor.request
      run provider blacklist steps (calls ++ [request])
        (f.step blacklist (provider.answer calls f.cursor.query request))

end Fetch

namespace Cursor

/-- What a call of `fetch` leaves behind: its answer, the cursor and the calls to the provider. -/
structure Fetched where
  answer : Reply SearchError (List SearchResult)
  cursor : Cursor
  calls : List PageRequest
deriving Repr

/-- Fetch up to `target` results that were not handed out before. `calls` are the calls to the
provider so far. -/
def fetch (provider : Provider) (blacklist : Blacklist) (target : Nat) (c : Cursor)
    (calls : List PageRequest) : Fetched :=
  let (f, calls) := Fetch.run provider blacklist maxPagesPerFetch calls (.start blacklist target c)
  ⟨f.verdict.getD (.value f.out), f.cursor, calls⟩

end Cursor

end GradedReading.Search
