import GradedReading.Proofs.Search.Ranks

/-!
# GradedReading.Proofs.Search.Stream

What a cursor has yet to hand out.

**Key idea:** if the provider answers each page always in the same way, everything that a cursor will
ever hand out can be read off the cursor and the pages: it is the *stream* of the cursor. A call of
`fetch` takes the first part of the stream away and leaves the rest, in order and with its ranks,
however the call ends.

A stream may be endless, so it is looked at page by page: `upTo m` is what the pages before page `m`
hold of it.
-/

namespace GradedReading.Search

open Web

/-- The provider answers this query page by page, and always in the same way. -/
def Provider.IsFixed (provider : Provider) (q : Query) (page : Nat → Reply SearchError Page) :
    Prop :=
  ∀ calls k, provider.answer calls q ⟨k, resultsPerPage⟩ = page k

/-- The results on so many pages from page `k` on. There are none after the last page, and none
after a page that cannot be fetched. -/
def resultsFrom (page : Nat → Reply SearchError Page) : (pages k : Nat) → List SearchResult
  | 0, _ => []
  | pages + 1, k =>
    match page k with
    | .value p =>
      p.results ++ if p.last || p.results.isEmpty then [] else resultsFrom page pages (k + 1)
    | .error _ | .panic _ => []

/-- What is handed out of the results: those that are not blocked, each URL once, numbered from
`rank` on. -/
def handOut (blacklist : Blacklist) : (seen : List String) → (rank : Nat) →
    List SearchResult → List SearchResult
  | _, _, [] => []
  | seen, rank, r :: rs =>
    if blacklist.blocks r.url || seen.contains r.url then handOut blacklist seen rank rs
    else { r with rank } :: handOut blacklist (r.url :: seen) (rank + 1) rs

namespace Cursor

variable {blacklist : Blacklist} {page : Nat → Reply SearchError Page}

/-- What the cursor has yet to hand out, as far as it is on a page before page `m`. -/
def upTo (blacklist : Blacklist) (page : Nat → Reply SearchError Page) (m : Nat) (c : Cursor) :
    List SearchResult :=
  handOut blacklist c.seen c.nextRank
    (c.buffered ++ if c.exhausted then [] else resultsFrom page (m - c.nextPage) c.nextPage)

/-! ### Handing out -/

theorem pages_go (blacklist : Blacklist) (n : Nat) (waiting : List SearchResult) (c : Cursor) :
    (take.go blacklist n waiting c).2.nextPage = c.nextPage ∧
      (take.go blacklist n waiting c).2.exhausted = c.exhausted := by
  fun_induction take.go blacklist n waiting c with
  | case1 | case2 => exact ⟨rfl, rfl⟩
  | case3 n r waiting c hskip ih => exact ih
  | case4 n r waiting c hskip out c' hgo ih =>
      rw [hgo] at ih
      exact ih

/-- Handing out fetches nothing. -/
theorem pages_take (blacklist : Blacklist) (n : Nat) (c : Cursor) :
    (c.take blacklist n).2.nextPage = c.nextPage ∧
      (c.take blacklist n).2.exhausted = c.exhausted :=
  pages_go blacklist n c.buffered { c with buffered := [] }

/-- What is handed out is the first part of what there is, and the rest is what there is then. -/
theorem handOut_go (blacklist : Blacklist) (more : List SearchResult) (n : Nat)
    (waiting : List SearchResult) (c : Cursor) (hc : c.buffered = []) :
    handOut blacklist c.seen c.nextRank (waiting ++ more) =
      (take.go blacklist n waiting c).1 ++
        handOut blacklist (take.go blacklist n waiting c).2.seen
          (take.go blacklist n waiting c).2.nextRank
          ((take.go blacklist n waiting c).2.buffered ++ more) := by
  fun_induction take.go blacklist n waiting c with
  | case1 waiting c => rfl
  | case2 n c => simp [hc]
  | case3 n r waiting c hskip ih =>
      rw [List.cons_append, handOut, if_pos hskip]
      exact ih hc
  | case4 n r waiting c hskip out c' hgo ih =>
      rw [hgo] at ih
      rw [List.cons_append, handOut, if_neg hskip, List.cons_append]
      exact congrArg _ (ih hc)

/-- **What a cursor hands out is the first part of its stream.** -/
theorem upTo_take (n m : Nat) (c : Cursor) : c.upTo blacklist page m =
    (c.take blacklist n).1 ++ (c.take blacklist n).2.upTo blacklist page m := by
  obtain ⟨hpage, hexhausted⟩ := pages_take blacklist n c
  rw [upTo, upTo, hpage, hexhausted]
  exact handOut_go blacklist _ n c.buffered { c with buffered := [] } rfl

/-- A page that is taken in is no longer to be fetched, and the stream is the same. -/
theorem upTo_receive {c : Cursor} {p : Page} (hpage : page c.nextPage = .value p)
    (hopen : c.exhausted = false) {m : Nat} (hm : c.nextPage < m) :
    (c.receive p).upTo blacklist page m = c.upTo blacklist page m := by
  obtain ⟨pages, hpages⟩ : ∃ pages, m - c.nextPage = pages + 1 :=
    Nat.exists_eq_succ_of_ne_zero (Nat.sub_ne_zero_of_lt hm)
  have hrest : m - (c.nextPage + 1) = pages := by omega
  simp only [upTo, receive, hopen, hpages, hrest, Bool.false_eq_true, if_false, resultsFrom, hpage,
    List.append_assoc]

end Cursor

theorem length_go (blacklist : Blacklist) (n : Nat) (waiting : List SearchResult) (c : Cursor) :
    (Cursor.take.go blacklist n waiting c).1.length ≤ n := by
  fun_induction Cursor.take.go blacklist n waiting c with
  | case1 => exact Nat.le_refl 0
  | case2 => exact Nat.zero_le _
  | case3 n r waiting c hskip ih => exact ih
  | case4 n r waiting c hskip out c' hgo ih =>
      rw [hgo] at ih
      exact Nat.succ_le_succ ih

/-- A cursor hands out no more than is asked for. -/
theorem length_take (blacklist : Blacklist) (n : Nat) (c : Cursor) :
    (c.take blacklist n).1.length ≤ n :=
  length_go blacklist n c.buffered { c with buffered := [] }

namespace Fetch

variable {blacklist : Blacklist} {page : Nat → Reply SearchError Page} {c : Cursor} {f : Fetch}

/-- The call takes the first part of the stream of this cursor away. -/
structure Draws (blacklist : Blacklist) (page : Nat → Reply SearchError Page) (c : Cursor)
    (f : Fetch) : Prop where
  query : f.cursor.query = c.query
  nextPage_le : c.nextPage ≤ f.cursor.nextPage
  stream : ∀ m, f.cursor.nextPage ≤ m →
    c.upTo blacklist page m = f.out ++ f.cursor.upTo blacklist page m
  /-- The next page is asked for only if there may be one. -/
  pending : f.verdict = none → f.cursor.exhausted = false
  /-- What was collected is what is answered. -/
  value : ∀ rs, f.verdict = some (.value rs) → rs = f.out
  /-- An error is reported only if nothing was collected. -/
  error : ∀ e, f.verdict = some (.error e) → f.out = []

theorem draws_decide (hquery : f.cursor.query = c.query)
    (hle : c.nextPage ≤ f.cursor.nextPage) (hnone : f.verdict = none)
    (hstream : ∀ m, f.cursor.nextPage ≤ m →
      c.upTo blacklist page m = f.out ++ f.cursor.upTo blacklist page m) :
    f.decide.Draws blacklist page c := by
  unfold Fetch.decide
  split
  · exact ⟨hquery, hle, hstream, by simp, by simp, by simp⟩
  · next hgoesOn =>
    refine ⟨hquery, hle, hstream, fun _ => ?_, by simp [hnone], by simp [hnone]⟩
    simp only [Bool.or_eq_true, not_or] at hgoesOn
    simpa using hgoesOn.1.2

theorem draws_start (blacklist : Blacklist) (page : Nat → Reply SearchError Page) (target : Nat)
    (c : Cursor) : (start blacklist target c).Draws blacklist page c :=
  draws_decide (query_take blacklist target c)
    (Nat.le_of_eq (Cursor.pages_take blacklist target c).1.symm) rfl
    fun m _ => Cursor.upTo_take target m c

/-- The call goes on with the page that it asked for. -/
theorem Draws.step (h : f.Draws blacklist page c) (hopen : f.verdict = none) :
    (f.step blacklist (page f.cursor.nextPage)).Draws blacklist page c := by
  rcases hpage : page f.cursor.nextPage with p | e | message
  · have hnext : ((f.cursor.receive p).take blacklist f.need).2.nextPage = f.cursor.nextPage + 1 :=
      (Cursor.pages_take blacklist f.need (f.cursor.receive p)).1
    refine draws_decide ((query_take blacklist f.need (f.cursor.receive p)).trans h.query)
      (hnext ▸ Nat.le_succ_of_le h.nextPage_le) rfl fun m hm => ?_
    have hlt : f.cursor.nextPage < m := Nat.lt_of_succ_le (Nat.le_trans (Nat.le_of_eq hnext.symm) hm)
    calc c.upTo blacklist page m
        = f.out ++ (f.cursor.receive p).upTo blacklist page m := by
          rw [h.stream m (Nat.le_of_lt hlt), Cursor.upTo_receive hpage (h.pending hopen) hlt]
      _ = f.out ++ ((f.cursor.receive p).take blacklist f.need).1 ++
            ((f.cursor.receive p).take blacklist f.need).2.upTo blacklist page m := by
          rw [Cursor.upTo_take f.need m (f.cursor.receive p), List.append_assoc]
  · by_cases hempty : f.out = []
    · exact ⟨h.query, h.nextPage_le, h.stream, by simp [Fetch.step], by simp [Fetch.step, hempty],
        fun _ _ => hempty⟩
    · refine ⟨h.query, h.nextPage_le, h.stream, by simp [Fetch.step], fun rs hrs => ?_,
        by simp [Fetch.step, hempty]⟩
      obtain rfl : f.out = rs := by simpa [Fetch.step, hempty] using hrs
      rfl
  · exact ⟨h.query, h.nextPage_le, h.stream, by simp [Fetch.step], by simp [Fetch.step],
      by simp [Fetch.step]⟩

/-- The call has not collected more than this, and will not. -/
def IsWithin (target : Nat) (f : Fetch) : Prop := f.out.length + f.need ≤ target

theorem IsWithin.decide {target : Nat} (h : f.IsWithin target) : f.decide.IsWithin target := by
  unfold Fetch.decide
  split <;> exact h

theorem isWithin_start (blacklist : Blacklist) (target : Nat) (c : Cursor) :
    (start blacklist target c).IsWithin target := by
  have hle := length_take blacklist target c
  exact IsWithin.decide (Nat.le_of_eq (Nat.add_sub_of_le hle))

theorem IsWithin.step {target : Nat} (h : f.IsWithin target) (blacklist : Blacklist)
    (reply : Reply SearchError Page) : (f.step blacklist reply).IsWithin target := by
  rcases reply with p | e | message
  · obtain ⟨more, hmore⟩ : ∃ more, ((f.cursor.receive p).take blacklist f.need).1 = more := ⟨_, rfl⟩
    have hle : more.length ≤ f.need := hmore ▸ length_take blacklist f.need (f.cursor.receive p)
    have hsum : (f.out ++ more).length + (f.need - more.length) = f.out.length + f.need := by
      rw [List.length_append]
      omega
    refine IsWithin.decide ?_
    subst hmore
    exact Nat.le_trans (Nat.le_of_eq hsum) h
  · exact h
  · exact h

theorem Draws.run {provider : Provider} (hfixed : provider.IsFixed c.query page)
    (h : f.Draws blacklist page c) (steps : Nat) (calls : List PageRequest) :
    (run provider blacklist steps calls f).1.Draws blacklist page c := by
  induction steps generalizing calls f with
  | zero => exact h
  | succ steps ih =>
      rw [Fetch.run]
      split
      · exact h
      · next hopen =>
        have hreply : provider.answer calls f.cursor.query f.cursor.request =
            page f.cursor.nextPage := by
          rw [h.query]
          exact hfixed calls f.cursor.nextPage
        simp only [hreply]
        exact ih (h.step (by simpa using hopen)) _

end Fetch

/-- **A call of `fetch` takes off the stream what it hands out.** An error takes nothing off. -/
theorem Cursor.upTo_fetch {provider : Provider} {blacklist : Blacklist} {c : Cursor}
    {page : Nat → Reply SearchError Page} (hfixed : provider.IsFixed c.query page) (target : Nat)
    (calls : List PageRequest) {fetched : Fetched}
    (hfetched : c.fetch provider blacklist target calls = fetched) {m : Nat}
    (hm : fetched.cursor.nextPage ≤ m) :
    ∃ drawn, c.upTo blacklist page m = drawn ++ fetched.cursor.upTo blacklist page m ∧
      (∀ rs, fetched.answer = .value rs → drawn = rs) ∧
      ∀ e, fetched.answer = .error e → drawn = [] := by
  obtain ⟨f, hf⟩ : ∃ f, (Fetch.run provider blacklist maxPagesPerFetch calls
    (.start blacklist target c)).1 = f := ⟨_, rfl⟩
  have h : f.Draws blacklist page c :=
    hf ▸ (Fetch.draws_start blacklist page target c).run hfixed maxPagesPerFetch calls
  have hcursor : fetched.cursor = f.cursor := by
    rw [← hfetched, ← hf]
    rfl
  have hanswer : fetched.answer = f.verdict.getD (.value f.out) := by
    rw [← hfetched, ← hf]
    rfl
  rw [hcursor] at hm ⊢
  refine ⟨f.out, h.stream m hm, fun rs hrs => ?_, fun e he => ?_⟩
  · rcases hverdict : f.verdict with _ | verdict
    · simpa [hanswer, hverdict] using hrs
    · exact (h.value rs (by simpa [hanswer, hverdict] using hrs)).symm
  · rcases hverdict : f.verdict with _ | verdict
    · simp [hanswer, hverdict] at he
    · exact h.error e (by simpa [hanswer, hverdict] using he)

end GradedReading.Search
