import GradedReading.Proofs.Search.Stream

/-!
# GradedReading.Proofs.Search.Visits

Calls of `fetch`, one after the other, with everything that was asked and answered.

**Key idea:** each call of the provider is an *exchange*, a request with its reply. All that a
cursor ever took in are the pages among the exchanges, so what it has handed out, and what waits in
it, can be compared with them: put together, the two are the results of all pages, tidied. `Serves`
says so of one call under way, together with how the call got to where it is, and every reply keeps
it.

Design points:

* the provider may reply to each call as it likes, but does not panic;
* others may have called the provider before, so its replies are told from all calls so far.
-/

namespace GradedReading.Search

open Web

/-! ### Exchanges -/

/-- The provider replies to every request with a page or an error. -/
def Provider.NeverPanics (provider : Provider) : Prop :=
  ∀ calls q request message, provider.answer calls q request ≠ .panic message

/-- A request with the reply to it. -/
structure Exchange where
  request : PageRequest
  reply : Reply SearchError Page
deriving DecidableEq, Repr, Inhabited

namespace Exchange

/-- The page, if the reply is one. -/
def page? (x : Exchange) : Option Page :=
  match x.reply with
  | .value p => some p
  | .error _ | .panic _ => none

/-- The pages among the replies. -/
def pagesOf (xs : List Exchange) : List Page := xs.filterMap page?

/-- The results on all pages among the replies. -/
def resultsOf (xs : List Exchange) : List SearchResult := (pagesOf xs).flatMap (·.results)

/-- Page after page is asked for, from page `k` on, and a page again only after it failed. -/
def InOrder : (k : Nat) → List Exchange → Prop
  | _, [] => True
  | k, x :: xs =>
    x.request = ⟨k, resultsPerPage⟩ ∧ InOrder (if x.page?.isSome then k + 1 else k) xs

/-- The last reply was this error. -/
def EndsIn (e : SearchError) (xs : List Exchange) : Prop :=
  ∃ x, xs.getLast? = some x ∧ x.reply = .error e

/-- The last page was fetched, as far as these exchanges tell; `known` is what was known before. -/
def saysLast (known : Bool) (xs : List Exchange) : Bool :=
  match (pagesOf xs).getLast? with
  | some p => p.last || p.results.isEmpty
  | none => known

@[simp] theorem pagesOf_nil : pagesOf [] = [] := rfl

@[simp] theorem pagesOf_append (xs ys : List Exchange) :
    pagesOf (xs ++ ys) = pagesOf xs ++ pagesOf ys := List.filterMap_append

@[simp] theorem resultsOf_nil : resultsOf [] = [] := rfl

@[simp] theorem resultsOf_append (xs ys : List Exchange) :
    resultsOf (xs ++ ys) = resultsOf xs ++ resultsOf ys := by
  rw [resultsOf, pagesOf_append, List.flatMap_append]
  rfl

/-- The next request is for the page after those that were got. -/
theorem inOrder_append (k : Nat) (xs ys : List Exchange) :
    InOrder k (xs ++ ys) ↔ InOrder k xs ∧ InOrder (k + (pagesOf xs).length) ys := by
  induction xs generalizing k with
  | nil => simp [InOrder]
  | cons x xs ih =>
      rw [List.cons_append, InOrder, InOrder, ih, and_assoc]
      rcases hpage : x.page? with _ | p
      · simp [pagesOf, hpage]
      · have hlen : (pagesOf (x :: xs)).length = (pagesOf xs).length + 1 := by
          simp [pagesOf, hpage]
        have hnext : k + 1 + (pagesOf xs).length = k + (pagesOf (x :: xs)).length := by omega
        simp only [Option.isSome_some, if_true, hnext]

end Exchange

namespace Provider

/-- The exchanges about a query when these requests follow those calls. -/
def exchanges (provider : Provider) (q : Query) :
    (calls requests : List PageRequest) → List Exchange
  | _, [] => []
  | calls, r :: requests =>
    ⟨r, provider.answer calls q r⟩ :: provider.exchanges q (calls ++ [r]) requests

theorem exchanges_append (provider : Provider) (q : Query)
    (calls requests more : List PageRequest) :
    provider.exchanges q calls (requests ++ more) =
      provider.exchanges q calls requests ++ provider.exchanges q (calls ++ requests) more := by
  induction requests generalizing calls with
  | nil => simp [exchanges]
  | cons r requests ih =>
      rw [List.cons_append, exchanges, exchanges, ih, List.cons_append, List.append_assoc]
      rfl

end Provider

/-! ### Tidying results -/

/-- The results without those that are blocked and those whose URL came before, numbered from
zero. -/
def tidied (blacklist : Blacklist) (rs : List SearchResult) : List SearchResult :=
  ((rs.filter fun r => !blacklist.blocks r.url).eraseDupsBy fun r r' => r.url == r'.url).zipIdx.map
    fun (r, rank) => { r with rank }

/-- Handing out one by one is tidying what was not seen, numbered from `rank` on. -/
theorem handOut_eq (blacklist : Blacklist) (seen : List String) (rank : Nat)
    (rs : List SearchResult) :
    handOut blacklist seen rank rs =
      (((rs.filter fun r => !(blacklist.blocks r.url || seen.contains r.url)).eraseDupsBy
        fun r r' => r.url == r'.url).zipIdx rank).map fun (r, rank) => { r with rank } := by
  induction rs generalizing seen rank with
  | nil => rfl
  | cons r rs ih =>
      rw [handOut]
      split
      · next hskip =>
        rw [ih, List.filter_cons_of_neg (by rw [hskip]; decide)]
      · next hkeep =>
        -- a result with the same URL is dropped later, whether it was seen or comes twice
        have hlater :
            (rs.filter fun x => !(blacklist.blocks x.url || (r.url :: seen).contains x.url)) =
            (rs.filter fun x => !(blacklist.blocks x.url || seen.contains x.url)).filter
              fun x => decide ((x.url == r.url) = false) := by
          rw [List.filter_filter]
          refine List.filter_congr fun x _ => ?_
          rw [List.contains_cons]
          cases x.url == r.url <;> simp
        rw [ih, hlater, List.filter_cons_of_pos (by simpa using hkeep), List.eraseDupsBy_cons,
          List.zipIdx_cons, List.map_cons]

theorem handOut_nil (blacklist : Blacklist) (rs : List SearchResult) :
    handOut blacklist [] 0 rs = tidied blacklist rs := by
  rw [handOut_eq]
  simp [tidied]

theorem length_handOut_le (blacklist : Blacklist) (seen : List String) (rank : Nat)
    (rs : List SearchResult) : (handOut blacklist seen rank rs).length ≤ rs.length := by
  induction rs generalizing seen rank with
  | nil => exact Nat.le_refl 0
  | cons r rs ih =>
      rw [handOut]
      split
      · exact Nat.le_succ_of_le (ih seen rank)
      · exact Nat.succ_le_succ (ih (r.url :: seen) (rank + 1))

/-! ### One call under way -/

namespace Cursor

/-- What waits in the cursor and will be handed out. -/
def waiting (blacklist : Blacklist) (c : Cursor) : List SearchResult :=
  handOut blacklist c.seen c.nextRank c.buffered

/-- A cursor that handed out less than it was asked for has nothing left that waits. -/
theorem buffered_go (blacklist : Blacklist) (n : Nat) (waiting : List SearchResult) (c : Cursor)
    (hc : c.buffered = []) (h : (take.go blacklist n waiting c).1.length < n) :
    (take.go blacklist n waiting c).2.buffered = [] := by
  fun_induction take.go blacklist n waiting c with
  | case1 => exact absurd h (Nat.lt_irrefl 0)
  | case2 => exact hc
  | case3 n r waiting c hskip ih => exact ih hc h
  | case4 n r waiting c hskip out c' hgo ih =>
      rw [hgo] at ih
      exact ih hc (Nat.lt_of_succ_lt_succ h)

/-- What is handed out now comes before what will be handed out of the rest. -/
theorem handOut_take (blacklist : Blacklist) (more : List SearchResult) (n : Nat) (c : Cursor) :
    handOut blacklist c.seen c.nextRank (c.buffered ++ more) =
      (c.take blacklist n).1 ++ handOut blacklist (c.take blacklist n).2.seen
        (c.take blacklist n).2.nextRank ((c.take blacklist n).2.buffered ++ more) :=
  handOut_go blacklist more n c.buffered { c with buffered := [] } rfl

/-- What is handed out does not wait any more. -/
theorem size_go (blacklist : Blacklist) (n : Nat) (waiting : List SearchResult) (c : Cursor)
    (hc : c.buffered = []) : (take.go blacklist n waiting c).1.length +
      (take.go blacklist n waiting c).2.buffered.length ≤ waiting.length := by
  fun_induction take.go blacklist n waiting c with
  | case1 => simp
  | case2 => simp [hc]
  | case3 n r waiting c hskip ih => exact Nat.le_succ_of_le (ih hc)
  | case4 n r waiting c hskip out c' hgo ih =>
      rw [hgo] at ih
      have hle : out.length + c'.buffered.length ≤ waiting.length := ih hc
      simp only [List.length_cons]
      omega

theorem size_take (blacklist : Blacklist) (n : Nat) (c : Cursor) :
    (c.take blacklist n).1.length + (c.take blacklist n).2.buffered.length ≤ c.buffered.length :=
  size_go blacklist n c.buffered { c with buffered := [] } rfl

theorem buffered_take {blacklist : Blacklist} {n : Nat} {c : Cursor}
    (h : (c.take blacklist n).1.length < n) : (c.take blacklist n).2.buffered = [] :=
  buffered_go blacklist n c.buffered { c with buffered := [] } rfl h

end Cursor

namespace Fetch

open Exchange

variable {blacklist : Blacklist} {c : Cursor} {target : Nat} {f : Fetch} {xs : List Exchange}

/-- A call for `target` results has gone on from this cursor with these exchanges. -/
structure Takes (blacklist : Blacklist) (c : Cursor) (target : Nat) (xs : List Exchange)
    (f : Fetch) : Prop where
  query : f.cursor.query = c.query
  /-- Nothing that was taken in is lost, and whatever comes later follows it. -/
  stream : ∀ more, handOut blacklist c.seen c.nextRank (c.buffered ++ resultsOf xs ++ more) =
    f.out ++ handOut blacklist f.cursor.seen f.cursor.nextRank (f.cursor.buffered ++ more)
  order : InOrder c.nextPage xs
  nextPage : f.cursor.nextPage = c.nextPage + (pagesOf xs).length
  exhausted : f.cursor.exhausted = saysLast c.exhausted xs
  pages : f.pages + (pagesOf xs).length = maxPagesPerFetch
  need : f.out.length + f.need = target
  /-- What was left out is in neither. -/
  size : f.out.length + f.cursor.buffered.length ≤ c.buffered.length + (resultsOf xs).length
  short : 0 < f.need → f.cursor.buffered = []

/-- Why a call with this much left to do may end well. -/
def MayEnd (xs : List Exchange) (f : Fetch) : Prop :=
  f.need = 0 ∨ f.cursor.exhausted = true ∨ f.pages = 0 ∨ (∃ e, EndsIn e xs) ∧ f.out ≠ []

/-- The call has not ended without reason, and goes on only if it has reason to. -/
structure Serves (blacklist : Blacklist) (c : Cursor) (target : Nat) (xs : List Exchange)
    (f : Fetch) : Prop extends f.Takes blacklist c target xs where
  pending : f.verdict = none → 0 < f.need ∧ f.cursor.exhausted = false ∧ 0 < f.pages
  value : ∀ rs, f.verdict = some (.value rs) → rs = f.out ∧ f.MayEnd xs
  error : ∀ e, f.verdict = some (.error e) → f.out = [] ∧ EndsIn e xs
  proper : ∀ message, f.verdict ≠ some (.panic message)

/-- A verdict takes nothing in. -/
theorem Takes.conclude (h : f.Takes blacklist c target xs)
    (verdict : Option (Reply SearchError (List SearchResult))) :
    ({ f with verdict } : Fetch).Takes blacklist c target xs :=
  ⟨h.query, h.stream, h.order, h.nextPage, h.exhausted, h.pages, h.need, h.size, h.short⟩

/-- A call without a verdict gets one if it has enough or may ask for no more. -/
theorem Takes.decide (h : f.Takes blacklist c target xs) (hnone : f.verdict = none) :
    f.decide.Serves blacklist c target xs := by
  unfold Fetch.decide
  split
  · next hover =>
    simp only [Bool.or_eq_true, decide_eq_true_eq] at hover
    have hend : f.MayEnd xs := by
      rcases hover with (hneed | hlast) | hpages
      · exact .inl hneed
      · exact .inr (.inl hlast)
      · exact .inr (.inr (.inl hpages))
    refine ⟨h.conclude _, by simp, ?_, by simp, by simp⟩
    rintro rs ⟨⟩
    exact ⟨rfl, hend⟩
  · next hopen =>
    simp only [Bool.or_eq_true, decide_eq_true_eq, not_or, Bool.not_eq_true] at hopen
    obtain ⟨⟨hneed, hlast⟩, hpages⟩ := hopen
    exact ⟨h, fun _ => ⟨Nat.pos_of_ne_zero hneed, hlast, Nat.pos_of_ne_zero hpages⟩,
      by simp [hnone], by simp [hnone], by simp [hnone]⟩

theorem serves_start (blacklist : Blacklist) (target : Nat) (c : Cursor) :
    (start blacklist target c).Serves blacklist c target [] := by
  have hle := length_take blacklist target c
  obtain ⟨hpage, hexhausted⟩ := Cursor.pages_take blacklist target c
  refine Takes.decide (f := { cursor := _, out := _, need := _, pages := _, verdict := none })
    ⟨query_take blacklist target c, fun more => ?_, trivial, hpage, hexhausted, rfl,
      Nat.add_sub_of_le hle, Cursor.size_take blacklist target c,
      fun hneed => Cursor.buffered_take (Nat.lt_of_sub_pos hneed)⟩ rfl
  rw [resultsOf_nil, List.append_nil]
  exact Cursor.handOut_take blacklist more target c

/-- What a page that is taken in adds. -/
theorem Takes.receive (h : f.Takes blacklist c target xs) (hpages : 0 < f.pages) (p : Page) :
    ({ cursor := ((f.cursor.receive p).take blacklist f.need).2
       out := f.out ++ ((f.cursor.receive p).take blacklist f.need).1
       need := f.need - ((f.cursor.receive p).take blacklist f.need).1.length
       pages := f.pages - 1, verdict := none } : Fetch).Takes blacklist c target
      (xs ++ [⟨f.cursor.request, .value p⟩]) := by
  have hle := length_take blacklist f.need (f.cursor.receive p)
  obtain ⟨hnext, hexhausted⟩ := Cursor.pages_take blacklist f.need (f.cursor.receive p)
  have hnew : pagesOf [⟨f.cursor.request, .value p⟩] = [p] := rfl
  have hresults : resultsOf [⟨f.cursor.request, .value p⟩] = p.results := by
    simp [resultsOf, hnew]
  refine ⟨(query_take blacklist f.need (f.cursor.receive p)).trans h.query, fun more => ?_, ?_, ?_,
    ?_, ?_, ?_, ?_, ?_⟩
  · have htaken := Cursor.handOut_take blacklist more f.need (f.cursor.receive p)
    rw [show (f.cursor.receive p).buffered ++ more = f.cursor.buffered ++ (p.results ++ more) from
      List.append_assoc ..] at htaken
    rw [resultsOf_append, hresults, ← List.append_assoc, List.append_assoc, h.stream,
      List.append_assoc f.out]
    exact congrArg (f.out ++ ·) htaken
  · rw [inOrder_append]
    exact ⟨h.order, by rw [Cursor.request, h.nextPage], trivial⟩
  · rw [hnext, pagesOf_append, List.length_append, hnew, ← Nat.add_assoc, ← h.nextPage]
    rfl
  · rw [hexhausted, saysLast, pagesOf_append, hnew, List.getLast?_concat]
    rfl
  · have hsum := h.pages
    rw [pagesOf_append, List.length_append, hnew]
    simp only [List.length_singleton]
    omega
  · have hsum := h.need
    show (f.out ++ ((f.cursor.receive p).take blacklist f.need).1).length +
      (f.need - ((f.cursor.receive p).take blacklist f.need).1.length) = target
    rw [List.length_append]
    omega
  · have hsize := h.size
    have htaken := Cursor.size_take blacklist f.need (f.cursor.receive p)
    rw [show (f.cursor.receive p).buffered = f.cursor.buffered ++ p.results from rfl,
      List.length_append] at htaken
    show (f.out ++ ((f.cursor.receive p).take blacklist f.need).1).length +
      ((f.cursor.receive p).take blacklist f.need).2.buffered.length ≤ _
    rw [resultsOf_append, hresults, List.length_append, List.length_append]
    omega
  · exact fun hmore => Cursor.buffered_take (Nat.lt_of_sub_pos hmore)

/-- An error adds nothing. -/
theorem Takes.fail (h : f.Takes blacklist c target xs) (e : SearchError) :
    f.Takes blacklist c target (xs ++ [⟨f.cursor.request, .error e⟩]) := by
  have hnew : pagesOf [⟨f.cursor.request, .error e⟩] = [] := rfl
  have hresults : resultsOf [⟨f.cursor.request, .error e⟩] = [] := rfl
  refine ⟨h.query, ?_, ?_, ?_, ?_, ?_, h.need, ?_, h.short⟩
  · rw [resultsOf_append, hresults, List.append_nil]
    exact h.stream
  · rw [inOrder_append]
    exact ⟨h.order, by rw [Cursor.request, h.nextPage], trivial⟩
  · rw [pagesOf_append, hnew, List.append_nil, h.nextPage]
  · rw [saysLast, pagesOf_append, hnew, List.append_nil]
    exact h.exhausted
  · rw [pagesOf_append, hnew, List.append_nil, h.pages]
  · rw [resultsOf_append, hresults, List.append_nil]
    exact h.size

/-- The call goes on with the reply to its request. -/
theorem Serves.step (h : f.Serves blacklist c target xs) (hopen : f.verdict = none)
    {reply : Reply SearchError Page} (hreply : ∀ message, reply ≠ .panic message) :
    (f.step blacklist reply).Serves blacklist c target (xs ++ [⟨f.cursor.request, reply⟩]) := by
  cases reply with
  | panic message => exact absurd rfl (hreply message)
  | value p => exact (h.toTakes.receive (h.pending hopen).2.2 p).decide rfl
  | error e =>
      have hends : EndsIn e (xs ++ [⟨f.cursor.request, .error e⟩]) :=
        ⟨_, List.getLast?_concat, rfl⟩
      have htakes := h.toTakes.fail e
      by_cases hempty : f.out = []
      · have hstep : f.step blacklist (.error e) = { f with verdict := some (.error e) } := by
          simp [Fetch.step, hempty]
        rw [hstep]
        refine ⟨htakes.conclude _, by simp, by simp, ?_, by simp⟩
        rintro e' ⟨⟩
        exact ⟨hempty, hends⟩
      · have hstep : f.step blacklist (.error e) = { f with verdict := some (.value f.out) } := by
          simp [Fetch.step, hempty]
        rw [hstep]
        refine ⟨htakes.conclude _, by simp, ?_, by simp, by simp⟩
        rintro rs ⟨⟩
        exact ⟨rfl, .inr (.inr (.inr ⟨⟨e, hends⟩, hempty⟩))⟩

theorem pages_decide (f : Fetch) : f.decide.pages = f.pages := by
  unfold Fetch.decide
  split <;> rfl

/-- A call that goes on may fetch one page less. -/
theorem pages_step {reply : Reply SearchError Page} (h : (f.step blacklist reply).verdict = none) :
    (f.step blacklist reply).pages = f.pages - 1 := by
  cases reply with
  | panic message | error e => simp [Fetch.step] at h
  | value p => exact pages_decide _

/-- All that a call does until it ends. It ends, since it fetches so many pages at most. -/
theorem Serves.run {provider : Provider} (hpanic : provider.NeverPanics)
    (calls requests : List PageRequest) (steps : Nat)
    (h : f.Serves blacklist c target (provider.exchanges c.query calls requests))
    (hsteps : f.verdict = none → f.pages ≤ steps) :
    ∃ more f', Fetch.run provider blacklist steps (calls ++ requests) f =
        (f', calls ++ (requests ++ more)) ∧
      f'.Serves blacklist c target (provider.exchanges c.query calls (requests ++ more)) ∧
      f'.verdict.isSome = true := by
  induction steps generalizing f requests with
  | zero =>
      refine ⟨[], f, by rw [Fetch.run, List.append_nil], by rwa [List.append_nil], ?_⟩
      rcases hverdict : f.verdict with _ | verdict
      · have hpages := (h.pending hverdict).2.2
        exact absurd (hsteps hverdict) (Nat.not_le_of_lt hpages)
      · rfl
  | succ steps ih =>
      rw [Fetch.run]
      split
      · next hsome => exact ⟨[], f, by rw [List.append_nil], by rwa [List.append_nil], hsome⟩
      · next hopen =>
        have hnone : f.verdict = none := by simpa using hopen
        have hpages := (h.pending hnone).2.2
        have hstep := h.step hnone (hpanic (calls ++ requests) f.cursor.query f.cursor.request)
        -- the exchanges so far and the new one are the exchanges of one more request
        have hexchanges : provider.exchanges c.query calls requests ++
            [⟨f.cursor.request,
              provider.answer (calls ++ requests) f.cursor.query f.cursor.request⟩] =
            provider.exchanges c.query calls (requests ++ [f.cursor.request]) := by
          rw [Provider.exchanges_append, h.query]
          rfl
        rw [hexchanges] at hstep
        obtain ⟨more, f', hrun, hserves, hover⟩ := ih _ hstep fun hgoesOn => by
          have hbudget := hsteps hnone
          rw [pages_step hgoesOn]
          omega
        rw [List.append_assoc requests] at hrun hserves
        refine ⟨[f.cursor.request] ++ more, f', ?_, hserves, hover⟩
        rw [← hrun, ← List.append_assoc]

end Fetch

/-! ### One call after the other -/

namespace Cursor

open Exchange

/-- A call of `fetch` with all that came of it. -/
structure Visit where
  target : Nat
  /-- What the call asked the provider, and the replies. -/
  exchanges : List Exchange
  answer : Reply SearchError (List SearchResult)
  /-- The cursor afterwards. -/
  cursor : Cursor
  /-- All calls of the provider by then. -/
  calls : List PageRequest
deriving Repr

/-- The results that a call handed out. -/
def Visit.handed (v : Visit) : List SearchResult :=
  match v.answer with
  | .value rs => rs
  | .error _ | .panic _ => []

/-- A call of `fetch` for so many results. `calls` are the calls of the provider before. -/
def visit (provider : Provider) (blacklist : Blacklist) (target : Nat) (c : Cursor)
    (calls : List PageRequest) : Visit :=
  let fetched := c.fetch provider blacklist target calls
  { target, exchanges := provider.exchanges c.query calls (fetched.calls.drop calls.length)
    answer := fetched.answer, cursor := fetched.cursor, calls := fetched.calls }

/-- Calls of `fetch` for so many results each, one after the other. -/
def visits (provider : Provider) (blacklist : Blacklist) :
    (targets : List Nat) → Cursor → (calls : List PageRequest) → List Visit
  | [], _, _ => []
  | target :: targets, c, calls =>
    let v := c.visit provider blacklist target calls
    v :: visits provider blacklist targets v.cursor v.calls

/-- The cursor after some calls. -/
def after (c : Cursor) (vs : List Visit) : Cursor := (vs.getLast?.map Visit.cursor).getD c

/-- All calls of the provider by then. -/
def callsAfter (calls : List PageRequest) (vs : List Visit) : List PageRequest :=
  (vs.getLast?.map Visit.calls).getD calls

/-- All exchanges of some calls. -/
def exchangesOf (vs : List Visit) : List Exchange := vs.flatMap (·.exchanges)

/-- All results that some calls handed out. -/
def handedOf (vs : List Visit) : List SearchResult := vs.flatMap Visit.handed

/-- What one call promises. -/
structure Visit.Keeps (v : Visit) : Prop where
  /-- It hands out no more than it was asked for. -/
  length_le : v.handed.length ≤ v.target
  /-- It ends well, or with the error that the provider replied last. -/
  ends : v.answer = .value v.handed ∨ ∃ e, v.answer = .error e ∧ EndsIn e v.exchanges
  /-- It hands out less only if nothing is left, or it has fetched as many pages as one call may, or
  the provider failed when something had been collected. -/
  short : v.answer = .value v.handed → v.handed.length < v.target →
    v.cursor.isDone = true ∨ (pagesOf v.exchanges).length = maxPagesPerFetch ∨
      (∃ e, EndsIn e v.exchanges) ∧ v.handed ≠ []

section Visit

variable {provider : Provider} {blacklist : Blacklist} {calls : List PageRequest} {c : Cursor}
  {targets : List Nat}

@[simp] theorem after_singleton (c : Cursor) (v : Visit) : c.after [v] = v.cursor := rfl

@[simp] theorem after_concat (c : Cursor) (vs : List Visit) (v : Visit) :
    c.after (vs ++ [v]) = v.cursor := by
  rw [after, List.getLast?_concat]
  rfl

@[simp] theorem handedOf_concat (vs : List Visit) (v : Visit) :
    handedOf (vs ++ [v]) = handedOf vs ++ v.handed := by
  rw [handedOf, List.flatMap_append, List.flatMap_singleton]
  rfl

theorem after_cons (c : Cursor) (v : Visit) (vs : List Visit) :
    c.after (v :: vs) = v.cursor.after vs := by
  rw [after, List.getLast?_cons, after]
  cases vs.getLast? <;> rfl

theorem callsAfter_cons (calls : List PageRequest) (v : Visit) (vs : List Visit) :
    callsAfter calls (v :: vs) = callsAfter v.calls vs := by
  rw [callsAfter, List.getLast?_cons, callsAfter]
  cases vs.getLast? <;> rfl

/-- What calls of `fetch` from this cursor do together. -/
structure Tours (provider : Provider) (blacklist : Blacklist) (c : Cursor)
    (calls : List PageRequest) (vs : List Visit) : Prop where
  query : (c.after vs).query = c.query
  /-- The exchanges are what was asked since. -/
  asked : ∃ requests, callsAfter calls vs = calls ++ requests ∧
    exchangesOf vs = provider.exchanges c.query calls requests
  stream : ∀ more,
    handOut blacklist c.seen c.nextRank (c.buffered ++ resultsOf (exchangesOf vs) ++ more) =
      handedOf vs ++ handOut blacklist (c.after vs).seen (c.after vs).nextRank
        ((c.after vs).buffered ++ more)
  order : InOrder c.nextPage (exchangesOf vs)
  nextPage : (c.after vs).nextPage = c.nextPage + (pagesOf (exchangesOf vs)).length
  exhausted : (c.after vs).exhausted = saysLast c.exhausted (exchangesOf vs)
  size : (handedOf vs).length + (c.after vs).buffered.length ≤
    c.buffered.length + (resultsOf (exchangesOf vs)).length

/-- A call of `fetch` is a call under way that has ended. -/
theorem exists_serves_visit (hpanic : provider.NeverPanics) (blacklist : Blacklist) (target : Nat)
    (c : Cursor) (calls : List PageRequest) :
    ∃ requests, ∃ f : Fetch, ∃ verdict, f.verdict = some verdict ∧
      f.Serves blacklist c target (provider.exchanges c.query calls requests) ∧
      c.visit provider blacklist target calls =
        { target, exchanges := provider.exchanges c.query calls requests, answer := verdict
          cursor := f.cursor, calls := calls ++ requests } := by
  have hstart := Fetch.serves_start blacklist target c
  obtain ⟨requests, f, hrun, hserves, hover⟩ := hstart.run hpanic calls [] maxPagesPerFetch
    fun _ => Nat.le_of_eq hstart.pages
  rw [List.append_nil, List.nil_append] at hrun
  rw [List.nil_append] at hserves
  obtain ⟨verdict, hverdict⟩ := Option.isSome_iff_exists.1 hover
  refine ⟨requests, f, verdict, hverdict, hserves, ?_⟩
  simp only [visit, fetch, hrun, hverdict, Option.getD_some, List.drop_left]

/-- What a call hands out is what it has collected, whether it ends well or not. -/
theorem handed_eq {target : Nat} {xs : List Exchange} {f : Fetch}
    (h : f.Serves blacklist c target xs) {v : Visit} (hv : f.verdict = some v.answer) :
    v.handed = f.out := by
  rcases hanswer : v.answer with rs | e | message
  · rw [Visit.handed, hanswer]
    exact (h.value rs (hv.trans (congrArg some hanswer))).1
  · rw [Visit.handed, hanswer]
    exact (h.error e (hv.trans (congrArg some hanswer))).1.symm
  · exact absurd (hv.trans (congrArg some hanswer)) (h.proper message)

/-- **One call of `fetch` keeps its promise.** -/
theorem keeps_visit (hpanic : provider.NeverPanics) (target : Nat) (c : Cursor)
    (calls : List PageRequest) : (c.visit provider blacklist target calls).Keeps := by
  obtain ⟨requests, f, verdict, hverdict, hserves, hvisit⟩ :=
    exists_serves_visit hpanic blacklist target c calls
  obtain ⟨v, hv⟩ : ∃ v, c.visit provider blacklist target calls = v := ⟨_, rfl⟩
  rw [hv] at hvisit ⊢
  have hanswer : f.verdict = some v.answer := by rw [hvisit, hverdict]
  have hhanded := handed_eq hserves hanswer
  have hneed := hserves.need
  refine ⟨?_, ?_, fun hvalue hless => ?_⟩
  · rw [hhanded, hvisit]
    exact Nat.le.intro hneed
  · rcases hcase : v.answer with rs | e | message
    · left
      rw [hhanded, (hserves.value rs (by rw [hanswer, hcase])).1]
    · right
      refine ⟨e, rfl, ?_⟩
      rw [hvisit]
      exact (hserves.error e (by rw [hanswer, hcase])).2
    · exact absurd (hanswer.trans (congrArg some hcase)) (hserves.proper message)
  · have htarget : v.target = target := by rw [hvisit]
    have hwants : 0 < f.need := by
      rw [hhanded, htarget] at hless
      omega
    have hempty := hserves.short hwants
    rw [hhanded, hvisit]
    rcases (hserves.value _ (hanswer.trans (congrArg some hvalue))).2 with
      hdone | hlast | hpages | hfailed
    · exact absurd hdone (Nat.ne_of_gt hwants)
    · left
      simp [isDone, hlast, hempty]
    · have hsum := hserves.pages
      have hmost : (pagesOf (provider.exchanges c.query calls requests)).length =
          maxPagesPerFetch := by omega
      exact .inr (.inl hmost)
    · exact .inr (.inr hfailed)

/-- A call that hands out less than it was asked for leaves nothing waiting. -/
theorem buffered_visit (hpanic : provider.NeverPanics) {target : Nat}
    (h : (c.visit provider blacklist target calls).handed.length < target) :
    (c.visit provider blacklist target calls).cursor.buffered = [] := by
  obtain ⟨requests, f, verdict, hverdict, hserves, hvisit⟩ :=
    exists_serves_visit hpanic blacklist target c calls
  rw [hvisit] at h ⊢
  rw [handed_eq hserves hverdict] at h
  have hneed := hserves.need
  exact hserves.short (by omega)

theorem tours_visit (hpanic : provider.NeverPanics) (blacklist : Blacklist) (target : Nat)
    (c : Cursor) (calls : List PageRequest) :
    c.Tours provider blacklist calls [c.visit provider blacklist target calls] := by
  obtain ⟨requests, f, verdict, hverdict, hserves, hvisit⟩ :=
    exists_serves_visit hpanic blacklist target c calls
  rw [hvisit]
  have hhanded : handedOf [{ target, exchanges := provider.exchanges c.query calls requests
                             answer := verdict, cursor := f.cursor
                             calls := calls ++ requests }] = f.out := by
    rw [handedOf, List.flatMap_singleton]
    exact handed_eq hserves hverdict
  have hexchanges : exchangesOf [{ target, exchanges := provider.exchanges c.query calls requests
                                   answer := verdict, cursor := f.cursor
                                   calls := calls ++ requests }] =
      provider.exchanges c.query calls requests := List.flatMap_singleton ..
  refine ⟨hserves.query, ⟨requests, rfl, hexchanges⟩, ?_, ?_, ?_, ?_, ?_⟩
  · rw [hhanded, hexchanges]
    exact hserves.stream
  · rw [hexchanges]
    exact hserves.order
  · rw [hexchanges]
    exact hserves.nextPage
  · rw [hexchanges]
    exact hserves.exhausted
  · rw [hhanded, hexchanges]
    exact hserves.size

theorem saysLast_append (known : Bool) (xs ys : List Exchange) :
    saysLast known (xs ++ ys) = saysLast (saysLast known xs) ys := by
  rw [saysLast, pagesOf_append, List.getLast?_append, saysLast]
  cases (pagesOf ys).getLast? <;> rfl

/-- Calls that follow a call. -/
theorem Tours.cons {v : Visit} {vs : List Visit} (h : c.Tours provider blacklist calls [v])
    (hrest : v.cursor.Tours provider blacklist v.calls vs) :
    c.Tours provider blacklist calls (v :: vs) := by
  have hexchanges : exchangesOf (v :: vs) = exchangesOf [v] ++ exchangesOf vs := by
    simp [exchangesOf]
  have hhanded : handedOf (v :: vs) = handedOf [v] ++ handedOf vs := by simp [handedOf]
  have hquery : v.cursor.query = c.query := h.query
  obtain ⟨requests, hcalls, hasked⟩ := h.asked
  obtain ⟨more, hcalls', hasked'⟩ := hrest.asked
  have hv : v.calls = calls ++ requests := hcalls
  refine ⟨?_, ⟨requests ++ more, ?_, ?_⟩, fun later => ?_, ?_, ?_, ?_, ?_⟩
  · rw [after_cons, hrest.query, hquery]
  · rw [callsAfter_cons, hcalls', hv, List.append_assoc]
  · rw [hexchanges, hasked, hasked', hquery, hv, provider.exchanges_append]
  · have hfirst := h.stream (resultsOf (exchangesOf vs) ++ later)
    have hsecond := hrest.stream later
    rw [after_cons, hexchanges, hhanded, resultsOf_append, List.append_assoc _ _ (handOut ..),
      ← hsecond]
    simpa only [List.append_assoc, after_singleton] using hfirst
  · rw [hexchanges, inOrder_append, ← h.nextPage]
    exact ⟨h.order, hrest.order⟩
  · have hfirst : v.cursor.nextPage = _ := h.nextPage
    rw [after_cons, hrest.nextPage, hfirst, hexchanges, pagesOf_append, List.length_append,
      Nat.add_assoc]
  · have hfirst : v.cursor.exhausted = _ := h.exhausted
    rw [after_cons, hrest.exhausted, hfirst, hexchanges, saysLast_append]
  · have hfirst := h.size
    have hsecond := hrest.size
    rw [after_singleton] at hfirst
    rw [after_cons, hexchanges, hhanded, resultsOf_append, List.length_append, List.length_append]
    omega

theorem tours_nil (c : Cursor) : c.Tours provider blacklist calls [] where
  query := rfl
  asked := ⟨[], (List.append_nil calls).symm, rfl⟩
  stream more := by
    rw [exchangesOf, List.flatMap_nil, resultsOf_nil, List.append_nil]
    rfl
  order := trivial
  nextPage := rfl
  exhausted := rfl
  size := Nat.le_of_eq (Nat.add_comm ..)

theorem tours_visits (hpanic : provider.NeverPanics) (blacklist : Blacklist) (targets : List Nat)
    (c : Cursor) (calls : List PageRequest) :
    c.Tours provider blacklist calls (visits provider blacklist targets c calls) := by
  induction targets generalizing c calls with
  | nil => exact tours_nil c
  | cons target targets ih => exact (tours_visit hpanic blacklist target c calls).cons (ih _ _)

/-- A cursor that is done hands out nothing and asks for nothing. -/
theorem visit_of_isDone (hdone : c.isDone = true) (target : Nat) :
    c.visit provider blacklist target calls =
      { target, exchanges := [], answer := .value [], cursor := c, calls } := by
  obtain ⟨hlast, hempty⟩ : c.exhausted = true ∧ c.buffered = [] := by simpa [isDone] using hdone
  have htake : c.take blacklist target = ([], c) := by
    rw [take, hempty]
    cases target <;> simp only [take.go] <;> rw [← hempty]
  have hstart : Fetch.start blacklist target c =
      { cursor := c, out := [], need := target, pages := maxPagesPerFetch
        verdict := some (.value []) } := by
    rw [Fetch.start, htake]
    simp [Fetch.decide, hlast]
  simp only [visit, fetch, hstart, maxPagesPerFetch, Fetch.run, Option.isSome_some, if_true,
    List.drop_length, Option.getD_some]
  rfl

/-- Nothing comes of calls after the last result. -/
theorem visits_of_isDone (hdone : c.isDone = true) {v : Visit}
    (hv : v ∈ visits provider blacklist targets c calls) :
    v.answer = .value [] ∧ v.exchanges = [] := by
  induction targets with
  | nil => simp [visits] at hv
  | cons target targets ih =>
      rw [visits, visit_of_isDone hdone] at hv
      rcases List.mem_cons.1 hv with rfl | hlater
      · exact ⟨rfl, rfl⟩
      · exact ih hlater

@[simp] theorem length_visits (targets : List Nat) (c : Cursor) (calls : List PageRequest) :
    (visits provider blacklist targets c calls).length = targets.length := by
  induction targets generalizing c calls with
  | nil => rfl
  | cons target targets ih => rw [visits, List.length_cons, List.length_cons, ih]

/-- One more call. -/
theorem visits_concat (targets : List Nat) (target : Nat) (c : Cursor) (calls : List PageRequest) :
    visits provider blacklist (targets ++ [target]) c calls =
      visits provider blacklist targets c calls ++
        [(c.after (visits provider blacklist targets c calls)).visit provider blacklist target
          (callsAfter calls (visits provider blacklist targets c calls))] := by
  induction targets generalizing c calls with
  | nil => rfl
  | cons t targets ih =>
      rw [List.cons_append, visits, visits, ih, after_cons, callsAfter_cons]
      rfl

/-- The calls after one of the calls. -/
theorem visits_append {before later : List Visit} {v : Visit}
    (h : visits provider blacklist targets c calls = before ++ v :: later) :
    ∃ targets', later = visits provider blacklist targets' v.cursor v.calls := by
  induction targets generalizing before c calls with
  | nil => simp [visits] at h
  | cons target targets ih =>
      rw [visits] at h
      cases before with
      | nil =>
          obtain ⟨rfl, rfl⟩ := List.cons.inj h
          exact ⟨targets, rfl⟩
      | cons w before => exact ih (List.cons.inj h).2

theorem keeps_of_mem (hpanic : provider.NeverPanics) {v : Visit}
    (hv : v ∈ visits provider blacklist targets c calls) : v.Keeps := by
  induction targets generalizing c calls with
  | nil => simp [visits] at hv
  | cons target targets ih =>
      rcases List.mem_cons.1 hv with rfl | hlater
      · exact keeps_visit hpanic target c calls
      · exact ih hlater

end Visit

/-! ### All calls for a query -/

/-- What the calls of `fetch` for a query promise together, when `calls` were made before. -/
structure Faithful (provider : Provider) (blacklist : Blacklist) (q : Query)
    (calls : List PageRequest) (vs : List Visit) : Prop where
  /-- The exchanges are everything that the provider was asked. -/
  asked : ∃ requests, callsAfter calls vs = calls ++ requests ∧
    exchangesOf vs = provider.exchanges q calls requests
  /-- What was handed out is the first part of the tidied results of all pages, and the rest of them
  waits in the cursor. -/
  complete : tidied blacklist (resultsOf (exchangesOf vs)) =
    handedOf vs ++ ((start q).after vs).waiting blacklist
  order : InOrder 0 (exchangesOf vs)
  each : ∀ v ∈ vs, v.Keeps
  /-- Once nothing is left, nothing is asked for and nothing comes. -/
  idle : ∀ before v later, vs = before ++ v :: later → v.cursor.isDone = true →
    ∀ w ∈ later, w.answer = .value [] ∧ w.exchanges = []

/-- **A cursor loses no result and hands none out twice.** Whatever the provider replies to each
call, short of a panic, and however many results are asked for each time: what was handed out is the
first part of what all pages give, blocked results and repeated URLs left out and numbered from
zero, and what is not handed out yet waits in the cursor. -/
theorem faithful_visits (provider : Provider) (blacklist : Blacklist) (q : Query)
    (calls : List PageRequest) (targets : List Nat) (hpanic : provider.NeverPanics) :
    Faithful provider blacklist q calls (visits provider blacklist targets (start q) calls) := by
  have htours := tours_visits hpanic blacklist targets (start q) calls
  refine ⟨htours.asked, ?_, htours.order, fun v hv => keeps_of_mem hpanic hv,
    fun before v later hvs hdone w hw => ?_⟩
  · have hstream := htours.stream []
    rw [List.append_nil, List.append_nil] at hstream
    rw [← handOut_nil]
    exact hstream
  · obtain ⟨targets', rfl⟩ := visits_append hvs
    exact visits_of_isDone hdone hw

/-- A result with this URL, of a provider that ranks nothing. -/
def found (url : String) : SearchResult := ⟨"", url, "", "", 0⟩

/-- Three pages with results, some of them twice. The second page fails when it is first asked for,
and the last one is empty. -/
def moody : Provider where
  answer calls _ r :=
    match r.page with
    | 0 =>
      .value ⟨["https://a.org", "https://spam.org", "https://a.org", "https://b.org"].map found,
        false⟩
    | 1 =>
      if calls.contains r then .value ⟨["https://b.org", "https://c.org"].map found, false⟩
      else .error (.unreachable "down")
    | _ => .value ⟨[], false⟩

/-- The error costs nothing: what follows it is handed out by the next call. -/
theorem faithful_moody : moody.NeverPanics ∧
    (visits moody ⟨["spam.org"]⟩ [1, 1, 1, 5, 3] (start default) []).map
      (fun v => v.handed.map fun r => (r.rank, r.url)) =
        [[(0, "https://a.org")], [(1, "https://b.org")], [], [(2, "https://c.org")], []] ∧
    Faithful moody ⟨["spam.org"]⟩ default []
      (visits moody ⟨["spam.org"]⟩ [1, 1, 1, 5, 3] (start default) []) := by
  have hpanic : moody.NeverPanics := by
    intro calls q request message
    simp only [moody]
    split
    · simp
    · split <;> simp
    · simp
  exact ⟨hpanic, by decide +kernel, faithful_visits moody _ default [] _ hpanic⟩

end Cursor

end GradedReading.Search
