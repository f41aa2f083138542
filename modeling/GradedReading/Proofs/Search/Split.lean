import GradedReading.Proofs.Search.Visits

/-!
# GradedReading.Proofs.Search.Split

Loading more is the same as having asked for more at once.

**Key idea:** `Yields` says, without a word about replies that fail or about how many pages a call
may fetch, that a cursor hands out so many results after so many pages. Such a yield can be cut
anywhere: where the first part of the results ends, the cursor has some position, from which the
other part follows. A call of `fetch` that gets all it was asked for is a yield within the limit of
pages, and the other way round, so calls can be cut where yields can.
-/

namespace GradedReading.Search

open Web

variable {provider : Provider} {blacklist : Blacklist} {page : Nat → Reply SearchError Page}

namespace Cursor

/-! ### Handing out in two parts -/

theorem setBuffered_nil {c : Cursor} (h : c.buffered = []) : { c with buffered := [] } = c := by
  rw [← h]

theorem take_of_buffered_eq_nil {c : Cursor} (h : c.buffered = []) (n : Nat) :
    c.take blacklist n = ([], c) := by
  rw [take, h, setBuffered_nil h]
  cases n <;> simp only [take.go, setBuffered_nil h]

theorem go_add (m n : Nat) (waiting : List SearchResult) (c : Cursor) (hc : c.buffered = []) :
    take.go blacklist (m + n) waiting c =
      ((take.go blacklist m waiting c).1 ++ ((take.go blacklist m waiting c).2.take blacklist n).1,
        ((take.go blacklist m waiting c).2.take blacklist n).2) := by
  fun_induction take.go blacklist m waiting c with
  | case1 waiting c =>
      rw [Nat.zero_add, take, List.nil_append]
      exact congrArg (take.go blacklist n waiting) (setBuffered_nil hc).symm
  | case2 m c =>
      rw [take_of_buffered_eq_nil hc, List.nil_append]
      cases h : m + n <;> simp only [take.go, setBuffered_nil hc]
  | case3 m r waiting c hskip ih =>
      have hsum : m + 1 + n = m + n + 1 := Nat.succ_add m n
      rw [hsum, take.go, if_pos hskip, ← hsum]
      exact ih hc
  | case4 m r waiting c hskip out c' hgo ih =>
      rw [Nat.succ_add, take.go, if_neg hskip, ih hc]
      simp only [hgo, List.cons_append]

/-- **To hand out `m + n` results is to hand out `m` and then `n`.** -/
theorem take_add (blacklist : Blacklist) (m n : Nat) (c : Cursor) : c.take blacklist (m + n) =
    ((c.take blacklist m).1 ++ ((c.take blacklist m).2.take blacklist n).1,
      ((c.take blacklist m).2.take blacklist n).2) :=
  go_add m n c.buffered { c with buffered := [] } rfl

/-- A cursor with too few results hands out all that it has, however many more are asked for. -/
theorem take_add_of_short {m : Nat} {c : Cursor} (h : (c.take blacklist m).1.length < m) (n : Nat) :
    c.take blacklist (m + n) = c.take blacklist m := by
  rw [take_add, take_of_buffered_eq_nil (buffered_take h), List.append_nil]

/-! ### What a cursor yields -/

/-- Asked for `n` results, the cursor hands out exactly these after these requests, and is that
cursor then. -/
inductive Yields (blacklist : Blacklist) (page : Nat → Reply SearchError Page) :
    Cursor → (n : Nat) → List SearchResult → List PageRequest → Cursor → Prop where
  /-- Enough results wait. -/
  | enough {c : Cursor} {n : Nat} (hfull : (c.take blacklist n).1.length = n) :
      Yields blacklist page c n (c.take blacklist n).1 [] (c.take blacklist n).2
  /-- The next page is fetched for what is missing. -/
  | more {c c' : Cursor} {n : Nat} {p : Page} {rs : List SearchResult}
      {requests : List PageRequest} (hshort : (c.take blacklist n).1.length < n)
      (hopen : (c.take blacklist n).2.exhausted = false)
      (hpage : page (c.take blacklist n).2.nextPage = .value p)
      (hrest : Yields blacklist page ((c.take blacklist n).2.receive p)
        (n - (c.take blacklist n).1.length) rs requests c') :
      Yields blacklist page c n ((c.take blacklist n).1 ++ rs)
        ((c.take blacklist n).2.request :: requests) c'

variable {c c' : Cursor} {m n : Nat} {rs : List SearchResult} {requests : List PageRequest}

theorem Yields.length_eq (h : c.Yields blacklist page n rs requests c') : rs.length = n := by
  induction h with
  | enough hfull => exact hfull
  | more hshort hopen hpage hrest ih =>
      rw [List.length_append, ih]
      exact Nat.add_sub_of_le (Nat.le_of_lt hshort)

theorem Yields.query_eq (h : c.Yields blacklist page n rs requests c') : c'.query = c.query := by
  induction h with
  | enough => exact query_take ..
  | more hshort hopen hpage hrest ih => exact ih.trans (query_take ..)

/-- **A yield can be cut anywhere.** -/
theorem Yields.split (h : c.Yields blacklist page (m + n) rs requests c') :
    ∃ xs ys before after between, c.Yields blacklist page m xs before between ∧
      between.Yields blacklist page n ys after c' ∧ rs = xs ++ ys ∧ requests = before ++ after := by
  generalize hsum : m + n = target at h
  induction h generalizing m with
  | @enough c target hfull =>
      subst hsum
      have htake := take_add blacklist m n c
      have hm := length_take blacklist m c
      have hn := length_take blacklist n (c.take blacklist m).2
      rw [htake] at hfull ⊢
      rw [List.length_append] at hfull
      have hfirst : (c.take blacklist m).1.length = m := by omega
      have hsecond : ((c.take blacklist m).2.take blacklist n).1.length = n := by omega
      exact ⟨_, _, [], [], _, .enough hfirst, .enough hsecond, rfl, rfl⟩
  | @more c c' target p rs requests hshort hopen hpage hrest ih =>
      subst hsum
      rcases Nat.lt_or_eq_of_le (length_take blacklist m c) with hless | hfull
      · -- the first part needs the page, too
        rw [take_add_of_short hless] at hshort hopen hpage hrest ih ⊢
        obtain ⟨xs, ys, before, after, between, hxs, hys, rfl, rfl⟩ :=
          ih (m := m - (c.take blacklist m).1.length) (by omega)
        exact ⟨_, ys, _, after, between, .more hless hopen hpage hxs, hys,
          (List.append_assoc ..).symm, rfl⟩
      · -- the first part waits in the cursor, and the page is fetched for the other one
        have htake := take_add blacklist m n c
        rw [htake] at hshort hopen hpage hrest ⊢
        rw [List.length_append, hfull] at hshort hrest
        rw [Nat.add_sub_add_left] at hrest
        have hshort' : ((c.take blacklist m).2.take blacklist n).1.length < n := by omega
        exact ⟨_, _, [], _, _, .enough hfull, .more hshort' hopen hpage hrest,
          List.append_assoc .., rfl⟩

end Cursor

/-! ### Calls and yields -/

namespace Fetch

/-- A call that has collected `out` and goes on with what waits in the cursor, to get `n` more. -/
def serve (blacklist : Blacklist) (c : Cursor) (n : Nat) (out : List SearchResult) (pages : Nat) :
    Fetch :=
  decide
    { cursor := (c.take blacklist n).2, out := out ++ (c.take blacklist n).1
      need := n - (c.take blacklist n).1.length, pages, verdict := none }

theorem start_eq_serve (blacklist : Blacklist) (n : Nat) (c : Cursor) :
    start blacklist n c = serve blacklist c n [] maxPagesPerFetch := rfl

theorem step_value_eq_serve (blacklist : Blacklist) (p : Page) (f : Fetch) :
    f.step blacklist (.value p) =
      serve blacklist (f.cursor.receive p) f.need f.out (f.pages - 1) := rfl

variable {c c' : Cursor} {n pages steps : Nat} {out rs : List SearchResult}
  {calls requests : List PageRequest}

/-- With enough in the cursor the call is over. -/
theorem serve_of_full (h : (c.take blacklist n).1.length = n) : serve blacklist c n out pages =
    { cursor := (c.take blacklist n).2, out := out ++ (c.take blacklist n).1
      need := n - (c.take blacklist n).1.length, pages
      verdict := some (.value (out ++ (c.take blacklist n).1)) } := by
  rw [serve, Fetch.decide, if_pos (by simp [h])]

/-- With too little in the cursor the call goes on if there may be a page that it may fetch. -/
theorem serve_of_short (hshort : (c.take blacklist n).1.length < n)
    (hopen : (c.take blacklist n).2.exhausted = false) (hpages : 0 < pages) :
    serve blacklist c n out pages =
      { cursor := (c.take blacklist n).2, out := out ++ (c.take blacklist n).1
        need := n - (c.take blacklist n).1.length, pages, verdict := none } := by
  rw [serve, Fetch.decide, if_neg]
  simp only [hopen, Bool.or_eq_true, decide_eq_true_eq, Bool.false_eq_true, or_false]
  omega

/-- With too little in the cursor and no page to fetch, the call ends with too little. -/
theorem serve_of_stuck (hstuck : (c.take blacklist n).2.exhausted = true ∨ pages = 0) :
    (serve blacklist c n out pages).verdict =
      some (.value (out ++ (c.take blacklist n).1)) := by
  rw [serve, Fetch.decide, if_pos]
  simpa [or_assoc] using Or.inr hstuck

theorem run_of_isSome {f : Fetch} (h : f.verdict.isSome = true) :
    run provider blacklist steps calls f = (f, calls) := by
  cases steps with
  | zero => rfl
  | succ steps => rw [run, if_pos h]

theorem run_of_none {f : Fetch} (h : f.verdict = none)
    (hfixed : provider.IsFixed f.cursor.query page) :
    run provider blacklist (steps + 1) calls f =
      run provider blacklist steps (calls ++ [f.cursor.request])
        (f.step blacklist (page f.cursor.nextPage)) := by
  have hreply : provider.answer calls f.cursor.query f.cursor.request = page f.cursor.nextPage :=
    hfixed calls f.cursor.nextPage
  rw [run, if_neg (by simp [h])]
  simp only [hreply]

/-- A call that gets no page is over, and answers at most with what it has. -/
theorem exists_verdict_step {reply : Reply SearchError Page} (h : ∀ p, reply ≠ .value p)
    (f : Fetch) : ∃ verdict, (f.step blacklist reply).verdict = some verdict ∧
      ∀ rs, verdict = .value rs → rs = f.out := by
  rcases reply with p | e | message
  · exact absurd rfl (h p)
  · refine ⟨_, rfl, fun rs hrs => ?_⟩
    split at hrs
    · exact nomatch hrs
    · exact (Reply.value.inj hrs).symm
  · exact ⟨_, rfl, nofun⟩

/-- **A call gets what the cursor yields**, if it may fetch so many pages. -/
theorem run_serve_of_yields (h : c.Yields blacklist page n rs requests c')
    (hfixed : provider.IsFixed c.query page) (hpages : requests.length ≤ pages)
    (hsteps : requests.length ≤ steps) :
    ∃ f, run provider blacklist steps calls (serve blacklist c n out pages) =
      (f, calls ++ requests) ∧ f.verdict = some (.value (out ++ rs)) ∧ f.cursor = c' := by
  induction h generalizing out pages steps calls with
  | enough hfull =>
      rw [serve_of_full hfull, run_of_isSome rfl, List.append_nil]
      exact ⟨_, rfl, rfl, rfl⟩
  | @more c c' n p rs requests hshort hopen hpage hrest ih =>
      rw [List.length_cons] at hpages hsteps
      obtain ⟨steps, rfl⟩ : ∃ k, steps = k + 1 := ⟨steps - 1, by omega⟩
      have hquery : (c.take blacklist n).2.query = c.query := query_take blacklist n c
      rw [serve_of_short hshort hopen (by omega), run_of_none rfl (hquery.symm ▸ hfixed), hpage,
        step_value_eq_serve]
      rw [List.append_cons calls _ requests, ← List.append_assoc out]
      refine ih (hquery.symm ▸ hfixed) ?_ (Nat.le_of_succ_le_succ hsteps)
      exact Nat.le_sub_one_of_lt hpages

/-- **What a call gets is what the cursor yields**, if it gets all that it asks for. -/
theorem yields_of_run_serve {f : Fetch} {calls' : List PageRequest}
    (hfixed : provider.IsFixed c.query page)
    (hrun : run provider blacklist steps calls (serve blacklist c n out pages) = (f, calls'))
    (hanswer : f.verdict.getD (.value f.out) = .value rs) (hlength : rs.length = out.length + n) :
    ∃ rs' requests, c.Yields blacklist page n rs' requests f.cursor ∧ rs = out ++ rs' ∧
      calls' = calls ++ requests ∧ requests.length ≤ steps := by
  induction steps using Nat.strongRecOn generalizing c n out pages calls with
  | ind steps ih =>
  rcases Nat.lt_or_eq_of_le (length_take blacklist n c) with hshort | hfull
  · have hless : rs ≠ out ++ (c.take blacklist n).1 := by
      rintro rfl
      rw [List.length_append] at hlength
      omega
    by_cases hstuck : (c.take blacklist n).2.exhausted = true ∨ pages = 0
    · have hverdict : (serve blacklist c n out pages).verdict =
          some (.value (out ++ (c.take blacklist n).1)) := serve_of_stuck hstuck
      rw [run_of_isSome (by rw [hverdict]; rfl)] at hrun
      obtain ⟨rfl, -⟩ := Prod.mk.inj hrun
      rw [hverdict] at hanswer
      exact absurd (Reply.value.inj hanswer).symm hless
    · obtain ⟨hopen, hpages⟩ := not_or.1 hstuck
      rw [serve_of_short hshort (by simpa using hopen) (Nat.pos_of_ne_zero hpages)] at hrun
      cases steps with
      | zero =>
          obtain ⟨rfl, -⟩ := Prod.mk.inj hrun
          exact absurd (Reply.value.inj hanswer).symm hless
      | succ steps =>
          have hquery : (c.take blacklist n).2.query = c.query := query_take blacklist n c
          rw [run_of_none rfl (hquery.symm ▸ hfixed)] at hrun
          by_cases hpage : ∃ p, page (c.take blacklist n).2.nextPage = .value p
          · obtain ⟨p, hpage⟩ := hpage
            rw [hpage, step_value_eq_serve] at hrun
            obtain ⟨rs', requests, hyields, rfl, rfl, hsteps⟩ :=
              ih steps (Nat.lt_succ_self steps) (hquery.symm ▸ hfixed) hrun
                (by simp only [List.length_append]; omega)
            exact ⟨_, _, .more hshort (by simpa using hopen) hpage hyields, List.append_assoc ..,
              List.append_assoc .., Nat.succ_le_succ hsteps⟩
          · obtain ⟨verdict, hverdict, hvalue⟩ := exists_verdict_step (not_exists.1 hpage) _
            rw [run_of_isSome (by rw [hverdict]; rfl)] at hrun
            obtain ⟨rfl, -⟩ := Prod.mk.inj hrun
            rw [hverdict] at hanswer
            exact absurd (hvalue rs hanswer) hless
  · rw [serve_of_full hfull, run_of_isSome rfl] at hrun
    obtain ⟨rfl, rfl⟩ := Prod.mk.inj hrun
    exact ⟨_, [], .enough hfull, (Reply.value.inj hanswer).symm, (List.append_nil _).symm,
      Nat.zero_le _⟩

end Fetch

namespace Cursor

variable {c c' : Cursor} {n : Nat} {rs : List SearchResult} {requests : List PageRequest}

/-- **Calls and yields are the same**, as far as a call fetches pages. -/
theorem fetch_eq_iff (hfixed : provider.IsFixed c.query page) (calls calls' : List PageRequest)
    (hlength : rs.length = n) :
    c.fetch provider blacklist n calls = ⟨.value rs, c', calls'⟩ ↔
      ∃ requests, c.Yields blacklist page n rs requests c' ∧ calls' = calls ++ requests ∧
        requests.length ≤ maxPagesPerFetch := by
  rcases hrun : Fetch.run provider blacklist maxPagesPerFetch calls
    (Fetch.serve blacklist c n [] maxPagesPerFetch) with ⟨f, asked⟩
  have hfetch : c.fetch provider blacklist n calls =
      ⟨f.verdict.getD (.value f.out), f.cursor, asked⟩ := by
    rw [fetch, Fetch.start_eq_serve, hrun]
  rw [hfetch]
  constructor
  · intro h
    obtain ⟨hanswer, rfl, rfl⟩ := Fetched.mk.inj h
    obtain ⟨rs', requests, hyields, hrs, hcalls, hle⟩ :=
      Fetch.yields_of_run_serve hfixed hrun hanswer (by rw [hlength, List.length_nil, Nat.zero_add])
    exact ⟨requests, hrs ▸ hyields, hcalls, hle⟩
  · rintro ⟨requests, hyields, rfl, hle⟩
    obtain ⟨f', hrun', hverdict, rfl⟩ : ∃ f', Fetch.run provider blacklist maxPagesPerFetch calls
        (Fetch.serve blacklist c n [] maxPagesPerFetch) = (f', calls ++ requests) ∧
          f'.verdict = some (.value ([] ++ rs)) ∧ f'.cursor = c' :=
      Fetch.run_serve_of_yields hyields hfixed hle hle
    obtain ⟨rfl, rfl⟩ := Prod.mk.inj (hrun.symm.trans hrun')
    rw [hverdict, List.nil_append, Option.getD_some]

/-- **Loading more is the same as having asked for more at once.** If a call for `m + n` results
gets all of them, then a call for `m` and another one for `n` get them, too: the same results in the
same order and with the same ranks, from the same pages; and the cursor is the same then. -/
theorem fetch_fetch (provider : Provider) (blacklist : Blacklist) (c : Cursor) (m n : Nat)
    (calls : List PageRequest) {page : Nat → Reply SearchError Page}
    (hfixed : provider.IsFixed c.query page) {rs : List SearchResult}
    (hanswer : (c.fetch provider blacklist (m + n) calls).answer = .value rs)
    (hlength : rs.length = m + n) :
    let all := c.fetch provider blacklist (m + n) calls
    let first := c.fetch provider blacklist m calls
    let second := first.cursor.fetch provider blacklist n first.calls
    ∃ xs ys, first.answer = .value xs ∧ second.answer = .value ys ∧ xs ++ ys = rs ∧
      xs.length = m ∧ ys.length = n ∧ second.cursor = all.cursor ∧ second.calls = all.calls := by
  intro all first second
  have hall : all = ⟨.value rs, all.cursor, all.calls⟩ := by rw [← hanswer]
  obtain ⟨requests, hyields, hcalls, hle⟩ := (fetch_eq_iff hfixed calls all.calls hlength).1 hall
  obtain ⟨xs, ys, before, after, between, hxs, hys, rfl, rfl⟩ := hyields.split
  rw [List.length_append] at hle
  have hfirst : first = ⟨.value xs, between, calls ++ before⟩ :=
    (fetch_eq_iff hfixed calls _ hxs.length_eq).2 ⟨before, hxs, rfl, by omega⟩
  have hquery : between.query = c.query := hxs.query_eq
  have hsecond : second = ⟨.value ys, all.cursor, calls ++ before ++ after⟩ := by
    simp only [second, hfirst]
    exact (fetch_eq_iff (hquery.symm ▸ hfixed) _ _ hys.length_eq).2 ⟨after, hys, rfl, by omega⟩
  refine ⟨xs, ys, ?_, ?_, rfl, hxs.length_eq, hys.length_eq, ?_, ?_⟩
  · rw [hfirst]
  · rw [hsecond]
  · rw [hsecond]
  · rw [hsecond, hcalls, List.append_assoc]

/-- Two pages with results, and an empty one. Some results come twice, also from page to page. -/
def pile : Provider where
  answer _ _ r :=
    match r.page with
    | 0 =>
      .value ⟨["https://a.org", "https://spam.org", "https://a.org", "https://b.org"].map found,
        false⟩
    | 1 => .value ⟨["https://b.org", "https://c.org", "https://d.org"].map found, false⟩
    | _ => .value ⟨[], true⟩

/-- The first result that the second call hands out was left over by the first call. -/
theorem fetch_fetch_pile :
    let rs := [⟨"", "https://a.org", "", "", 0⟩, ⟨"", "https://b.org", "", "", 1⟩,
      ⟨"", "https://c.org", "", "", 2⟩]
    let all := (start default).fetch pile ⟨["spam.org"]⟩ (1 + 2) []
    let first := (start default).fetch pile ⟨["spam.org"]⟩ 1 []
    let second := first.cursor.fetch pile ⟨["spam.org"]⟩ 2 first.calls
    pile.IsFixed default (fun k => pile.answer [] default ⟨k, resultsPerPage⟩) ∧
    all.answer = .value rs ∧ rs.length = 1 + 2 ∧
    ∃ xs ys, first.answer = .value xs ∧ second.answer = .value ys ∧ xs ++ ys = rs ∧
      xs.length = 1 ∧ ys.length = 2 ∧ second.cursor = all.cursor ∧ second.calls = all.calls := by
  intro rs all first second
  have hfixed : pile.IsFixed default (fun k => pile.answer [] default ⟨k, resultsPerPage⟩) :=
    fun _ _ => rfl
  have hanswer : all.answer = .value rs := by decide +kernel
  exact ⟨hfixed, hanswer, rfl,
    fetch_fetch pile ⟨["spam.org"]⟩ (start default) 1 2 [] hfixed hanswer rfl⟩

end Cursor

end GradedReading.Search
