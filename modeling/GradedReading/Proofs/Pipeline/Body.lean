import GradedReading.Proofs.Pipeline.Simulation

/-!
# GradedReading.Proofs.Pipeline.Body

The body of a task goes on, and no operation notices.

**Key idea:** a step of a body changes what its own task knows, or ends the body with an outcome
that nobody is told yet. Besides it may move a cursor, build a parser, pass a gate or count a call;
none of these is part of a course. What has to be shown is that the outcome is one that the services
may give.
-/

namespace GradedReading.Pipeline

open Search Instr Web

variable {sv : Services} {told : Prop} {p p₁ p' : Pipeline} {s : Stage} {i : Nat}

/-- The second pipeline differs from the first in nothing that a course is made of. -/
structure Beside (sv : Services) (p p₁ : Pipeline) : Prop where
  operations : SameOperations p p₁
  scripts : p₁.scripts = p.scripts
  pools : p₁.pools = p.pools
  parsers : p₁.parsers.BuiltBy sv.parsers

theorem Sound.beside (h : p.Sound sv told) (hops : p₁.operations = p.operations)
    (hscripts : p₁.scripts = p.scripts) (hpools : p₁.pools = p.pools)
    (hparsers : p₁.parsers = p.parsers) : Beside sv p p₁ :=
  ⟨.of_eq hops, hscripts, hpools, hparsers ▸ h.parsers⟩

theorem Sound.of_beside (h : p.Sound sv told) (hb : Beside sv p p₁) : p₁.Sound sv told where
  scripts x hx := hb.operations.length ▸ h.scripts x (hb.scripts ▸ hx)
  tasks s t ht := hb.operations.length ▸ h.tasks s t (hb.pools ▸ ht)
  parsers := hb.parsers

/-- A task that stands for the same as before takes the place of another. -/
theorem follows_task (h : p.Sound sv told) (hb : Beside sv p p₁) {t t' : PoolTask s.Task s.Yield}
    (ht : (p.pools.get s).tasks[i]? = some t) (ht' : t'.Sound sv told s p.operations.length)
    (hfresh : s.fresh t'.task = s.fresh t.task) (hout : t'.outcome = t.outcome)
    {pool : Pool s.Task s.Yield} (hpool : pool.tasks = (p.pools.get s).tasks.set i t') :
    Follows sv told p { p₁ with pools := p₁.pools.set s pool } := by
  refine .of_eq ?_ fun n => ?_
  · have htasks : pool.tasks = (p₁.pools.get s).tasks.set i t' := hb.pools ▸ hpool
    exact (h.of_beside hb).setTask (hb.operations.length ▸ ht') htasks
  · have hsame : SameOperations p { p₁ with pools := p₁.pools.set s pool } :=
      ⟨hb.operations.length, hb.operations.course⟩
    refine hsame.course?_eq ?_
    obtain ⟨others, hold, hnew⟩ := Pools.exists_share_set_task ht n
    simp only [share, hb.scripts, hb.pools, hold, hnew t' pool hpool,
      PoolTask.share_congr hfresh hout]

/-- The task knows more. -/
theorem follows_setTask (h : p.Sound sv told) (hb : Beside sv p p₁)
    {t : PoolTask s.Task s.Yield} (ht : (p.pools.get s).tasks[i]? = some t) {d : Option Moment}
    (hrun : t.phase = .running d) {u : s.Task} (hfresh : s.fresh u = s.fresh t.task)
    (hnum : s.IsNumbered u) : Follows sv told p (p₁.setTask s i u) := by
  have hop : s.operationOf u = s.operationOf t.task := by
    rw [← s.operationOf_fresh u, hfresh, s.operationOf_fresh]
  have htask := h.tasks s t (List.mem_of_getElem? ht)
  refine follows_task h hb ht (htask.of_task hop hnum hrun) hfresh rfl ?_
  rw [hb.pools]
  exact Pool.tasks_modify ht _

/-- The body ends. -/
theorem follows_finish (h : p.Sound sv told) (hb : Beside sv p p₁) {t : PoolTask s.Task s.Yield}
    (ht : (p.pools.get s).tasks[i]? = some t) {o : TaskOutcome s.Yield} (ho : o.Fits sv s t.task)
    (hp : p₁.finish s i o = some p') : Follows sv told p p' := by
  obtain ⟨pool, hpool, rfl⟩ := Option.map_eq_some_iff.1 hp
  rw [hb.pools] at hpool
  obtain ⟨t', d, ht', hrun, htasks⟩ := Pool.tasks_finish hpool
  obtain rfl : t = t' := Option.some.inj (ht.symm.trans ht')
  have htask := h.tasks s t (List.mem_of_getElem? ht)
  exact follows_task h hb ht (htask.of_returned ho d) rfl rfl htasks

/-- The body arrives at its gate, or passes it. -/
theorem passGate_cases {gate : Option String} {arrived : Bool} {arrive : Pipeline → Pipeline}
    {pass : Pipeline → Option Pipeline} (hp : p.passGate gate arrived arrive pass = some p') :
    (∃ gates, p' = arrive { p with gates }) ∨ pass p = some p' := by
  unfold passGate at hp
  split at hp
  · next gates _ => exact Or.inl ⟨gates, (Option.some.inj hp).symm⟩
  · simp at hp
  · exact Or.inr hp

/-! ### The three bodies -/

theorem fits_searchOutcome {f : Fetch} (hf : f.Numbered)
    {verdict : Reply SearchError (List SearchResult)} (hv : f.verdict = some verdict)
    (t : SearchTask) : (searchOutcome verdict).Fits sv .search t := by
  cases verdict with
  | value rs =>
      refine ⟨by simp [searchOutcome], ?_⟩
      rintro y ⟨⟩
      exact hf.ranksFrom hv
  | error e | panic m => exact TaskOutcome.fits_failed _

theorem follows_searchBody (h : p.Sound sv told) {t : PoolTask SearchTask (List SearchResult)}
    (ht : (p.pools.get .search).tasks[i]? = some t) {d : Option Moment}
    (hrun : t.phase = .running d) (hp : p.searchBody sv i t.task = some p') :
    Follows sv told p p' := by
  have hsame : Beside sv p p := h.beside rfl rfl rfl rfl
  have hmoved : ∀ place, Beside sv p (p.modifyOperation t.task.operation (·.moveCursor place)) :=
    fun place => ⟨sameOperations_moveCursor _ _ _, rfl, rfl, h.parsers⟩
  have hnumbered : ∀ f, t.task.fetch = some f → f.Numbered :=
    (h.tasks .search t (List.mem_of_getElem? ht)).numbered
  unfold searchBody at hp
  split at hp
  · split at hp
    · -- the task takes the cursor
      obtain rfl := Option.some.inj hp
      refine follows_setTask (s := .search) h (hmoved _) ht hrun rfl ?_
      rintro f ⟨⟩
      exact Fetch.numbered_start _ _ _
    · simp at hp
    · exact follows_finish h hsame ht (TaskOutcome.fits_failed _) hp
  · next f hfetch =>
    split at hp
    · next verdict hv =>
      exact follows_finish h (hmoved _) ht (fits_searchOutcome (hnumbered f hfetch) hv _) hp
    · rcases passGate_cases hp with ⟨gates, rfl⟩ | hpass
      · have hgate : Beside sv p { p with gates } := h.beside rfl rfl rfl rfl
        exact follows_setTask (s := .search) (u := { t.task with arrived := true }) h hgate ht hrun
          rfl hnumbered
      · -- a page arrives
        obtain rfl := Option.some.inj hpass
        have hcall : Beside sv p { p with searchCalls := p.searchCalls ++ [f.cursor.request] } :=
          h.beside rfl rfl rfl rfl
        refine follows_setTask (s := .search) h hcall ht hrun rfl ?_
        rintro f' ⟨⟩
        exact (hnumbered f hfetch).step _ _

theorem follows_crawlBody (h : p.Sound sv told) {t : PoolTask CrawlTask CrawledPage}
    (ht : (p.pools.get .crawl).tasks[i]? = some t) {d : Option Moment}
    (hrun : t.phase = .running d) (hp : p.crawlBody sv i t.task = some p') :
    Follows sv told p p' := by
  rcases passGate_cases hp with ⟨gates, rfl⟩ | hpass
  · have hgate : Beside sv p { p with gates } := h.beside rfl rfl rfl rfl
    exact follows_setTask (s := .crawl) (u := { t.task with arrived := true }) h hgate ht hrun rfl
      trivial
  · have hcall : Beside sv p { p with crawlCalls := p.crawlCalls + 1 } :=
      h.beside rfl rfl rfl rfl
    refine follows_finish h hcall ht ?_ hpass
    cases sv.crawler.crawl p.crawlCalls t.task.result with
    | value page => exact ⟨by simp [crawlOutcome], fun _ _ => trivial⟩
    | error e | panic m => exact TaskOutcome.fits_failed _

theorem fits_parseOutcome {l : Language} {engine : Parser.Engine}
    (hcreate : sv.parsers.create l = .ok engine) (keywords : KeywordSet) (calls : Nat)
    (t : ParseTask) :
    (parseOutcome keywords (engine.parse calls t.source)).Fits sv .parse t := by
  cases hparse : engine.parse calls t.source with
  | value d =>
      refine ⟨?_, fun y hy => ⟨l, engine, calls, d, keywords, hcreate, hparse, hy⟩⟩
      simp only [parseOutcome, complete]
      split <;> simp
  | error e | panic m => exact TaskOutcome.fits_failed _

section Cache

open GradedReading.Parser

variable {factory : Factory} {c : Cache} (hc : c.BuiltBy factory) (l : Language)
include hc

theorem builtBy_get : (c.get factory l).2.BuiltBy factory := by
  intro l' q hq
  unfold Cache.get at hq
  split at hq
  · exact hc l' q hq
  · split at hq
    · exact hc l' q hq
    · split at hq
      · exact hc l' q hq
      · next engine hcreate =>
        rcases List.mem_append.1 hq with hold | hnew
        · exact hc l' q hold
        · obtain ⟨rfl, rfl⟩ : l' = l ∧ q = ⟨engine, 0⟩ := by simpa using hnew
          exact hcreate

theorem builtBy_countCall : (c.countCall l).BuiltBy factory := by
  intro l' q hq
  obtain ⟨⟨l₀, q₀⟩, hold, hmap⟩ := List.mem_map.1 hq
  have hcreate := hc l₀ q₀ hold
  simp only at hmap
  split at hmap <;>
  · obtain ⟨rfl, rfl⟩ := Prod.mk.inj hmap
    exact hcreate

theorem create_of_get? {q : Shared} (hq : c.get? l = some q) : factory.create l = .ok q.engine := by
  obtain ⟨before, after, hparsers, -⟩ := List.lookup_eq_some_iff.1 hq
  exact hc l q (by simp [hparsers])

end Cache

theorem follows_parseBody (h : p.Sound sv told) {t : PoolTask ParseTask Document}
    (ht : (p.pools.get .parse).tasks[i]? = some t) {d : Option Moment}
    (hrun : t.phase = .running d) (hp : p.parseBody sv i t.task = some p') :
    Follows sv told p p' := by
  simp only [parseBody, Option.bind_eq_bind, Option.bind_eq_some_iff] at hp
  obtain ⟨o, ho, hp⟩ := hp
  split at hp
  · -- the parser is built if need be
    have hbuilt : Beside sv p { p with parsers := (p.parsers.get sv.parsers o.job.language).2 } :=
      ⟨.of_eq rfl, rfl, rfl, builtBy_get h.parsers _⟩
    split at hp
    · exact follows_finish h hbuilt ht (TaskOutcome.fits_failed _) hp
    · split at hp
      · exact follows_finish h hbuilt ht (TaskOutcome.fits_failed _) hp
      · obtain rfl := Option.some.inj hp
        exact follows_setTask (s := .parse) (u := { t.task with progress := .waiting }) h hbuilt ht
          hrun rfl trivial
  · -- the parser is free
    split at hp
    · simp at hp
    · obtain rfl := Option.some.inj hp
      have hengaged : Beside sv p { p with
          parsers := p.parsers.countCall o.job.language
          engaged := p.engaged ++ [o.job.language] } :=
        ⟨.of_eq rfl, rfl, rfl, builtBy_countCall h.parsers _⟩
      exact follows_setTask (s := .parse) h hengaged ht hrun rfl trivial
  · rcases passGate_cases hp with ⟨gates, rfl⟩ | hpass
    · have hgate : Beside sv p { p with gates } := h.beside rfl rfl rfl rfl
      exact follows_setTask (s := .parse) (u := { t.task with arrived := true }) h hgate ht hrun rfl
        trivial
    · -- the parser answers
      obtain ⟨q, hq, hfinish⟩ := Option.bind_eq_some_iff.1 hpass
      have hfree : Beside sv p { p with engaged := p.engaged.erase o.job.language } :=
        h.beside rfl rfl rfl rfl
      exact follows_finish h hfree ht
        (fits_parseOutcome (create_of_get? h.parsers _ hq) o.keywords _ t.task) hfinish

/-- The body of a task goes on. -/
theorem follows_body (h : p.Sound sv told) (hp : p.body sv s i = some p') :
    Follows sv told p p' := by
  simp only [body, Option.bind_eq_bind, Option.bind_eq_some_iff] at hp
  obtain ⟨t, ht, hp⟩ := hp
  split at hp
  · next d hrun =>
    cases s with
    | search => exact follows_searchBody h ht hrun hp
    | crawl => exact follows_crawlBody h ht hrun hp
    | parse => exact follows_parseBody h ht hrun hp
  · simp at hp

end GradedReading.Pipeline
