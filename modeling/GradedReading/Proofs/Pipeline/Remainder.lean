import GradedReading.Proofs.Pipeline.Blame
import GradedReading.Proofs.Pipeline.Target
import GradedReading.Proofs.Search.Stream

/-!
# GradedReading.Proofs.Pipeline.Remainder

What a failed operation leaves of its search.

**Key idea:** the search of an operation takes the first part of the cursor's stream away, and what
it has taken it has collected. So whenever the cursor is there, what was collected and what the
cursor still hands out are together the stream with which the operation began, in order and with
its ranks. If the operation failed, what was collected is lost. But most failures come when nothing
was collected: a provider's error counts only then. It is otherwise if the provider panics after
some pages, or if the watchdog gives the search up and the search goes on and finds something.

The provider is taken to answer each page always in the same way; else there would be no stream.
-/

namespace GradedReading

open Search Instr

/-- The error tears a call down, whatever the call has collected. -/
def TaskError.tearsDown : TaskError → Bool
  | .timedOut _ | .panicked _ => true
  | _ => false

/-! ### One search -/

namespace PoolTask

variable {blacklist : Web.Blacklist} {page : Nat → Reply SearchError Page} {target : Nat}
  {c₀ : Cursor} {t : PoolTask SearchTask (List SearchResult)} {d : Option Moment} {f : Fetch}

/-- What a search has collected. -/
def collected (t : PoolTask SearchTask (List SearchResult)) : List SearchResult :=
  match t.task.fetch with
  | some f => f.out
  | none => []

theorem collected_of_some (h : t.task.fetch = some f) : t.collected = f.out := by
  simp [collected, h]

theorem collected_of_none (h : t.task.fetch = none) : t.collected = [] := by simp [collected, h]

/-- A search for so many results that draws on this cursor. It fails with nothing collected, unless
it is torn down. -/
structure Drains (blacklist : Web.Blacklist) (page : Nat → Reply SearchError Page) (target : Nat)
    (c₀ : Cursor) (t : PoolTask SearchTask (List SearchResult)) : Prop where
  draws : ∀ f, t.task.fetch = some f → f.Draws blacklist page c₀ ∧ f.IsWithin target
  /-- The watchdog may have given up on a search whose body runs. -/
  running : ∀ d e, t.phase = .running d → t.outcome = some (.failed e) → e.tearsDown = true
  returned : ∀ d e, t.phase = .returned d (.failed e) → e.tearsDown = true ∨ t.collected = []
  outcome : ∀ e, t.outcome = some (.failed e) → e.tearsDown = true ∨ t.collected = []

theorem drains_queued (blacklist : Web.Blacklist) (page : Nat → Reply SearchError Page)
    (target : Nat) (c₀ : Cursor) (number : Nat) {u : SearchTask} (hu : u.fetch = none) :
    (PoolTask.mk number u .queued none : PoolTask _ (List SearchResult)).Drains blacklist page
      target c₀ :=
  ⟨by simp [hu], by simp, by simp, by simp⟩

theorem Drains.turn (h : t.Drains blacklist page target c₀) (hcollects : t.Collects)
    {flagged untold : Prop} {phase : Phase (List SearchResult)}
    {offer : Option (TaskOutcome (List SearchResult))}
    (hturn : t.phase.Turn flagged untold phase offer) :
    (t.turn phase offer).Drains blacklist page target c₀ := by
  obtain ⟨number, task, before, outcome⟩ := t
  refine ⟨h.draws, fun d e hrun ho => ?_, fun d e hreturned => ?_, fun e ho => ?_⟩
  · rcases Option.or_eq_some_iff.1 ho with hold | ⟨-, hoffer⟩
    · cases hturn with
      | run =>
          obtain rfl : outcome = none := (hcollects.ahead rfl).2
          simp at hold
      | expire => exact h.running d e hrun hold
      | _ => simp [PoolTask.turn] at hrun
    · cases hturn with
      | expire _ e' _ hlate =>
          obtain ⟨limit, rfl⟩ := hlate
          obtain rfl : .timedOut limit = e := by simpa using hoffer
          rfl
      | _ => simp [PoolTask.turn] at hrun hoffer
  · cases hturn with
    | expire => exact h.returned d e hreturned
    | _ => simp [PoolTask.turn] at hreturned
  · rcases Option.or_eq_some_iff.1 ho with hold | ⟨-, hoffer⟩
    · exact h.outcome e hold
    · cases hturn with
      | giveUp =>
          -- a search that has not begun has collected nothing
          exact .inr (collected_of_none (hcollects.ahead rfl).1)
      | settle d o =>
          obtain rfl := Option.some.inj hoffer
          exact h.returned d e rfl
      | expire _ e' _ hlate =>
          obtain ⟨limit, rfl⟩ := hlate
          obtain rfl : .timedOut limit = e := by simpa using hoffer
          exact .inl rfl
      | _ => simp at hoffer

/-- A search whose body runs learns more. -/
theorem Drains.of_running (h : t.Drains blacklist page target c₀) (hrun : t.phase = .running d)
    {u : SearchTask}
    (hu : ∀ f, u.fetch = some f → f.Draws blacklist page c₀ ∧ f.IsWithin target) :
    ({ t with task := u } : PoolTask _ _).Drains blacklist page target c₀ where
  draws := hu
  running := h.running
  returned d' e hreturned := by simp [hrun] at hreturned
  outcome e ho := .inl (h.running d e hrun ho)

/-- The body of a search ends. -/
theorem Drains.of_returned (h : t.Drains blacklist page target c₀)
    {o : TaskOutcome (List SearchResult)}
    (ho : ∀ e, o = .failed e → e.tearsDown = true ∨ t.collected = []) :
    ({ t with phase := .returned d o } : PoolTask _ _).Drains blacklist page target c₀ where
  draws := h.draws
  running := by simp
  returned d' e hreturned := by
    obtain ⟨-, rfl⟩ : d = d' ∧ o = .failed e := by simpa using hreturned
    exact ho e rfl
  outcome := h.outcome

/-- An error of the provider comes with nothing collected. -/
theorem Drains.of_verdict (h : t.Drains blacklist page target c₀) (hfetch : t.task.fetch = some f)
    {verdict : Reply SearchError (List SearchResult)} (hverdict : f.verdict = some verdict)
    (d : Option Moment) : ({ t with phase := .returned d (Pipeline.searchOutcome verdict) } :
      PoolTask _ _).Drains blacklist page target c₀ := by
  refine h.of_returned fun e he => ?_
  cases verdict with
  | value rs => simp [Pipeline.searchOutcome] at he
  | error cause =>
      have hnone : f.out = [] := (h.draws f hfetch).1.error cause hverdict
      exact .inr ((collected_of_some hfetch).trans hnone)
  | panic m =>
      obtain rfl : .panicked m = e := by simpa [Pipeline.searchOutcome] using he
      exact .inl rfl

end PoolTask

namespace Pipeline

variable {sv : Services} {p p' p₁ : Pipeline} {a : Act} {i n : Nat}
  {page : Nat → Reply SearchError Page} {target : Nat} {c₀ c : Cursor}
  {t t' : PoolTask SearchTask (List SearchResult)}

/-- What the search of an operation has collected. -/
def collected (n : Nat) (p : Pipeline) : List SearchResult :=
  match p.searches.find? (·.task.operation == n) with
  | some t => t.collected
  | none => []

theorem Sole.collected_eq (h : p.Sole sv) (ht : t ∈ p.searches) (hop : t.task.operation = n) :
    p.collected n = t.collected := by
  unfold collected
  split
  · next u hu =>
    have hmem := List.mem_of_find?_eq_some hu
    have huop : u.task.operation = n := by simpa using List.find?_some hu
    rw [h.eq_of_operation hmem ht (huop.trans hop.symm)]
  · next hnone =>
    have hne := List.find?_eq_none.1 hnone t ht
    simp [hop] at hne

theorem collected_eq_nil (h : ∀ t ∈ p.searches, t.task.operation = n → t.collected = []) :
    p.collected n = [] := by
  unfold collected
  split
  · next u hu => exact h u (List.mem_of_find?_eq_some hu) (by simpa using List.find?_some hu)
  · rfl

/-- The search of the operation draws on this cursor, and gives it back as it leaves it. -/
structure Drains (sv : Services) (page : Nat → Reply SearchError Page) (target n : Nat)
    (c₀ : Cursor) (p : Pipeline) : Prop where
  searches : ∀ t ∈ p.searches, t.task.operation = n → t.Drains sv.blocked page target c₀
  here : ∀ c, p.place? n = some (.here c) →
    c = c₀ ∧ (∀ t ∈ p.searches, t.task.operation = n → t.task.fetch = none) ∨
      ∃ t ∈ p.searches, t.task.operation = n ∧ ∃ f, t.task.fetch = some f ∧ f.cursor = c

/-- Nothing changes for the operation. -/
theorem Drains.of_same (h : p.Drains sv page target n c₀) (hsearches : p'.searches = p.searches)
    (hplace : p'.place? n = p.place? n) : p'.Drains sv page target n c₀ := by
  refine ⟨fun t ht => h.searches t (hsearches ▸ ht), fun c hc => ?_⟩
  rw [hsearches]
  exact h.here c (hplace ▸ hc)

/-- One search changes. Either the cursor is not here afterwards, or the search knows what it knew,
or it is the search that gives the cursor back. -/
theorem Drains.set (h : p.Drains sv page target n c₀) (ht : p.searches[i]? = some t)
    (htasks : p'.searches = p.searches.set i t') (hop : t'.task.operation = t.task.operation)
    (ht' : t.task.operation = n → t'.Drains sv.blocked page target c₀)
    (hhere : ∀ c, p'.place? n = some (.here c) →
      p.place? n = some (.here c) ∧ (t.task.operation = n → t'.task.fetch = t.task.fetch) ∨
        t.task.operation = n ∧ ∃ f, t'.task.fetch = some f ∧ f.cursor = c) :
    p'.Drains sv page target n c₀ := by
  have hmem' : t' ∈ p'.searches := htasks ▸ List.mem_set (List.getElem?_eq_some_iff.1 ht).1 t'
  refine ⟨fun u hu huop => ?_, fun c hc => ?_⟩
  · rw [htasks] at hu
    rcases List.mem_or_eq_of_mem_set hu with hold | rfl
    · exact h.searches u hold huop
    · exact ht' (hop.symm.trans huop)
  · rcases hhere c hc with ⟨hbefore, hsame⟩ | ⟨hn, hback⟩
    · rcases h.here c hbefore with ⟨hc₀, hnone⟩ | ⟨u, hu, huop, f, hf, hcursor⟩
      · refine .inl ⟨hc₀, fun u hu huop => ?_⟩
        rw [htasks] at hu
        rcases List.mem_or_eq_of_mem_set hu with hold | rfl
        · exact hnone u hold huop
        · have hn := hop.symm.trans huop
          exact (hsame hn).trans (hnone t (List.mem_of_getElem? ht) hn)
      · refine .inr ?_
        rcases mem_set_or_eq ht hu t' with hstays | rfl
        · exact ⟨u, htasks ▸ hstays, huop, f, hf, hcursor⟩
        · exact ⟨t', hmem', hop.trans huop, f, (hsame huop).trans hf, hcursor⟩
    · exact .inr ⟨t', hmem', hop.trans hn, hback⟩

/-- **Every step leaves the stream of the operation whole.** -/
theorem Drains.step (h : p.Drains sv page target n c₀) (hpursues : p.Pursues n c₀) (hsole : p.Sole sv)
    (hcollects : ∀ t ∈ p.searches, t.Collects) (hfixed : sv.provider.IsFixed c₀.query page)
    (htarget : p.target? n = some target) (hstep : CursorStep sv p a p') :
    p'.Drains sv page target n c₀ := by
  obtain ⟨place, hplace⟩ := Option.isSome_iff_exists.1 hpursues.known
  have hsame : SamePlaces p p' → p'.place? n = p.place? n := fun hp => hp n (lt_of_place? hplace)
  cases hstep with
  | rest htasks hplaces => exact h.of_same htasks (hsame hplaces)
  | @submit _ _ x u number hx hu htasks hplaces =>
      have hnone : u.fetch = none := by
        rw [← (hsole.sound.scripts x hx).submits .search u hu]
        rfl
      refine ⟨fun t ht hop => ?_, fun c hc => ?_⟩
      · rw [htasks] at ht
        rcases List.mem_append.1 ht with hold | hnew
        · exact h.searches t hold hop
        · rw [List.mem_singleton.1 hnew]
          exact PoolTask.drains_queued sv.blocked page target c₀ number hnone
      · rw [htasks]
        rcases h.here c (hsame hplaces ▸ hc) with ⟨hc₀, hall⟩ | ⟨t, ht, hback⟩
        · refine .inl ⟨hc₀, fun t ht hop => ?_⟩
          rcases List.mem_append.1 ht with hold | hnew
          · exact hall t hold hop
          · rw [List.mem_singleton.1 hnew]
            exact hnone
        · exact .inr ⟨t, List.mem_append_left _ ht, hback⟩
  | turn ht hturn htasks hplaces =>
      have hmem := List.mem_of_getElem? ht
      exact h.set ht htasks rfl (fun hop => (h.searches _ hmem hop).turn (hcollects _ hmem) hturn)
        fun c hc => .inl ⟨hsame hplaces ▸ hc, fun _ => rfl⟩
  | @hold _ _ i t d c target' ht hrun hfetch hhere htasks hplaces htarget' =>
      have hmem := List.mem_of_getElem? ht
      refine h.set ht htasks rfl (fun hop => ?_) fun c' hc' => ?_
      · -- the first search of the operation finds the cursor as it was
        subst hop
        obtain rfl : c = c₀ := by
          rcases h.here c hhere with ⟨hc₀, -⟩ | ⟨u, hu, huop, f, hf, -⟩
          · exact hc₀
          · obtain rfl := hsole.eq_of_operation hu hmem huop
            simp [hfetch] at hf
        obtain rfl : target = target' := Option.some.inj (htarget.symm.trans htarget')
        refine (h.searches t hmem rfl).of_running hrun ?_
        rintro f ⟨⟩
        exact ⟨Fetch.draws_start sv.blocked page target c,
          Fetch.isWithin_start sv.blocked target c⟩
      · by_cases hop : n = t.task.operation
        · subst hop
          simp [hplaces.of_some hhere] at hc'
        · exact .inl ⟨hplaces.of_ne hop ▸ hc', fun hn => absurd hn.symm hop⟩
  | @goOn _ _ i t d f f' arrived ht hrun hfetch hf' htasks hplaces =>
      have hmem := List.mem_of_getElem? ht
      refine h.set ht htasks rfl (fun hop => ?_) fun c' hc' => ?_
      · have hdrains := h.searches t hmem hop
        refine hdrains.of_running hrun ?_
        rintro g ⟨⟩
        rcases hf' with rfl | ⟨hopen, calls, rfl⟩
        · exact hdrains.draws _ hfetch
        · obtain ⟨hdraws, hwithin⟩ := hdrains.draws f hfetch
          have hreply : sv.provider.answer calls f.cursor.query f.cursor.request =
              page f.cursor.nextPage := by
            rw [hdraws.query]
            exact hfixed calls f.cursor.nextPage
          rw [hreply]
          exact ⟨hdraws.step hopen, hwithin.step sv.blocked _⟩
      · refine .inl ⟨hsame hplaces ▸ hc', fun hop => ?_⟩
        -- the cursor is not here as long as the search has it
        have hheld := (hpursues.holder ht ⟨hop, hfetch, d, hrun⟩).1
        simp [hsame hplaces, hheld] at hc'
  | @giveBack _ _ i t d f verdict ht hrun hfetch hverdict htasks hplaces =>
      have hmem := List.mem_of_getElem? ht
      refine h.set ht htasks rfl
        (fun hop => (h.searches t hmem hop).of_verdict hfetch hverdict d) fun c' hc' => ?_
      by_cases hop : n = t.task.operation
      · subst hop
        have hheld := (hpursues.holder ht ⟨rfl, hfetch, d, hrun⟩).1
        obtain rfl : f.cursor = c' := by simpa [hplaces.of_some hheld] using hc'
        exact .inr ⟨rfl, f, hfetch, rfl⟩
      · exact .inl ⟨hplaces.of_ne hop ▸ hc', fun hn => absurd hn.symm hop⟩
  | miss e ht hrun hfetch htasks hplaces =>
      have hmem := List.mem_of_getElem? ht
      exact h.set ht htasks rfl
        (fun hop => (h.searches _ hmem hop).of_returned fun _ _ =>
          .inr (PoolTask.collected_of_none hfetch))
        fun c hc => .inl ⟨hsame hplaces ▸ hc, fun _ => rfl⟩
  | @leave m c _ hhere htasks hplaces =>
      by_cases hm : n = m
      · subst hm
        refine ⟨fun t ht => h.searches t (htasks ▸ ht), fun c' hc' => ?_⟩
        simp [hplaces.of_some hhere] at hc'
      · exact h.of_same htasks (hplaces.of_ne hm)

/-! ### Every operation that continues a cursor -/

/-- The operation was to fetch so many results from this cursor. -/
structure Draining (sv : Services) (page : Nat → Reply SearchError Page) (target n : Nat)
    (c₀ : Cursor) (p : Pipeline) : Prop where
  collects : ∀ t ∈ p.searches, t.Collects
  pursues : p.Pursues n c₀
  aim : p.target? n = some target
  drains : p.Drains sv page target n c₀

theorem Draining.act (h : p.Draining sv page target n c₀) (hsole : p.Sole sv)
    (hfixed : sv.provider.IsFixed c₀.query page) (hp : p.act? sv a = some p') :
    p'.Draining sv page target n c₀ := by
  have hstep := cursorStep_act hp
  obtain ⟨place, hplace⟩ := Option.isSome_iff_exists.1 h.pursues.known
  exact ⟨collects_step hsole.sound h.collects hstep,
    h.pursues.step hsole.sound h.collects hstep,
    (sameTargets_act hp n (lt_of_place? hplace)).trans h.aim,
    h.drains.step h.pursues hsole h.collects hfixed h.aim hstep⟩

theorem Draining.run (h : p.Draining sv page target n c₀) (hblamed : p.Blamed sv)
    (hfixed : sv.provider.IsFixed c₀.query page) {acts : List Act}
    (hrun : p.run? sv acts = some p') : p'.Blamed sv ∧ p'.Draining sv page target n c₀ :=
  run_induction (I := fun p => p.Blamed sv ∧ p.Draining sv page target n c₀)
    (fun hp ⟨hblamed, h⟩ => ⟨hblamed.act hp, h.act hblamed.toSole hfixed hp⟩) ⟨hblamed, h⟩ hrun

/-- An operation that was just added has its cursor, and no search. -/
theorem draining_of_searchMore (hsole : p.Sole sv) (hcollects : ∀ t ∈ p.searches, t.Collects)
    (page : Nat → Reply SearchError Page) {keywords : KeywordSet}
    (hmore : p.searchMore sv c₀ target keywords = (.ok n, p₁)) :
    p₁.Draining sv page target n c₀ := by
  unfold searchMore add at hmore
  split at hmore
  · obtain ⟨hn, rfl⟩ := Prod.mk.inj hmore
    obtain rfl : p.operations.length = n := Except.ok.inj hn
    have hnone : ∀ t ∈ p.searches, t.task.operation ≠ p.operations.length := fun t ht =>
      Nat.ne_of_lt (hsole.sound.tasks .search t ht).operation
    have hplace : place? p.operations.length
        { p with operations := p.operations ++ [.ofCursor c₀ target keywords] } =
          some (.here c₀) := by simp [place?, Operation.ofCursor, Operation.place?]
    refine ⟨hcollects, pursues_new hplace hnone, ?_, fun t ht hop => absurd hop (hnone t ht),
      fun c hc => .inl ⟨?_, fun t ht hop => absurd hop (hnone t ht)⟩⟩
    · simp [target?, Operation.ofCursor, Operation.target?]
    · simpa [hplace, eq_comm] using hc
  · simp at hmore

/-- What a failed operation leaves of the stream of its cursor. -/
structure Remains (sv : Services) (page : Nat → Reply SearchError Page) (target n : Nat)
    (c₀ c : Cursor) (e : OperationError) (p : Pipeline) : Prop where
  query : c.query = c₀.query
  /-- What its search has collected is missing, and nothing else. -/
  stream : ∀ m, c.nextPage ≤ m →
    c₀.upTo sv.blocked page m = p.collected n ++ c.upTo sv.blocked page m
  /-- The search has not collected more than was asked for. -/
  length_le : (p.collected n).length ≤ target
  /-- It has collected nothing, unless it was torn down by the watchdog or by a panic. -/
  spared : (∀ e', e = .searchStage e' → e'.tearsDown = false) → p.collected n = []

theorem Draining.remains (h : p.Draining sv page target n c₀) (hblamed : p.Blamed sv) {j : Job}
    (hj : p.job? n = some j) {e : OperationError} (hfailed : j.outcome = some (.failed e))
    (hplace : p.place? n = some (.here c)) : Remains sv page target n c₀ c e p := by
  refine ⟨(h.pursues.query c (.here hplace)).1, fun m hm => ?_, ?_, fun hspared => ?_⟩
  · rcases h.drains.here c hplace with ⟨rfl, hnone⟩ | ⟨t, ht, hop, f, hf, rfl⟩
    · have hnil : p.collected n = [] := collected_eq_nil fun t ht hop =>
        PoolTask.collected_of_none (hnone t ht hop)
      rw [hnil, List.nil_append]
    · rw [hblamed.collected_eq ht hop, PoolTask.collected_of_some hf]
      exact ((h.drains.searches t ht hop).draws f hf).1.stream m hm
  · rcases h.drains.here c hplace with ⟨-, hnone⟩ | ⟨t, ht, hop, f, hf, -⟩
    · have hnil : p.collected n = [] := collected_eq_nil fun t ht hop =>
        PoolTask.collected_of_none (hnone t ht hop)
      simp [hnil]
    · rw [hblamed.collected_eq ht hop, PoolTask.collected_of_some hf]
      exact Nat.le_trans (Nat.le_add_right _ _) ((h.drains.searches t ht hop).draws f hf).2
  · rcases hblamed.failed n j e hj hfailed with ⟨t, ht, hop, e', ho, rfl⟩ | hnone
    · rw [hblamed.collected_eq ht hop]
      refine ((h.drains.searches t ht hop).outcome e' ho).resolve_left ?_
      simp [hspared e' rfl]
    · exact collected_eq_nil fun t ht hop => absurd hop (hnone.searches t ht)

/-- **A failed operation leaves its stream to whoever takes the cursor, but for what its search has
collected.** Whatever calls and moves a pipeline went through before the operation was added and
after: if the provider answers each page always in the same way, the operation failed, and its
cursor can be taken, then this cursor will hand out what the first one would have handed out, but
for what the search of the operation has collected. That is nothing, unless the search was given up
by the watchdog or torn down by a panic. -/
theorem remains_of_run (sv : Services) (settings : Settings) {before : List Act}
    (hbefore : (ofSettings settings).run? sv before = some p) {keywords : KeywordSet}
    (hmore : p.searchMore sv c₀ target keywords = (.ok n, p₁))
    (hfixed : sv.provider.IsFixed c₀.query page) {after : List Act}
    (hafter : p₁.run? sv after = some p') {j : Job} (hj : p'.job? n = some j)
    {e : OperationError} (hfailed : j.outcome = some (.failed e))
    (hcursor : (p'.takeCursor n).1 = some c) : Remains sv page target n c₀ c e p' := by
  have hblamed := (blamed_ofSettings sv settings).run hbefore
  have hcollects := ((steady_ofSettings sv settings).reaches ⟨before, hbefore⟩).searches
  have hnew := draining_of_searchMore hblamed.toSole hcollects page hmore
  have hadded : p.act? sv (.call (.searchMore c₀ target keywords)) = some p₁ := by
    rw [act?, call, hmore]
  obtain ⟨hblamed', hdraining⟩ := hnew.run (hblamed.act hadded) hfixed hafter
  exact hdraining.remains hblamed' hj hfailed (place?_of_takeCursor hcursor).1

/-! ### Two searches that are lost -/

/-- The error with which the job of an operation failed. -/
def failure? (n : Nat) (p : Pipeline) : Option OperationError :=
  match (p.job? n).bind (·.outcome) with
  | some (.failed e) => some e
  | _ => none

theorem failure?_eq_some {e : OperationError} (h : p.failure? n = some e) :
    ∃ j, p.job? n = some j ∧ j.outcome = some (.failed e) := by
  unfold failure? at h
  split at h
  · next e' hout =>
    obtain rfl := Option.some.inj h
    exact Option.bind_eq_some_iff.1 hout
  · simp at h

/-- There is a first page, and no second one. -/
def halfBook (k : Nat) : Reply SearchError Page :=
  if k = 0 then .value ⟨[{ (default : SearchResult) with url := "a" }, default], false⟩
  else .panic "no page"

/-- Services that find what is on these pages. -/
def reading (page : Nat → Reply SearchError Page) : Services :=
  { fruitful with provider := ⟨fun _ _ request => page request.page⟩ }

theorem isFixed_reading (page : Nat → Reply SearchError Page) (q : Query) :
    (reading page).provider.IsFixed q page := fun _ _ => rfl

/-- The cursor with which everything begins. -/
def outset : Cursor := .start ⟨.english, "river", false⟩

/-- The provider panics when it is asked for the second page. -/
def torn : List Act := .call (.begin 0) :: advances 2 ++ serves .search 0 4 1

/-- What was on the first page is lost. -/
theorem remains_torn : ∃ p₁ p' j e c,
    (ofSettings (.standard 1)).searchMore (reading halfBook) outset 3 default = (.ok 0, p₁) ∧
      p₁.run? (reading halfBook) torn = some p' ∧ p'.job? 0 = some j ∧
      j.outcome = some (.failed e) ∧ e = .searchStage (.panicked "no page") ∧
      (p'.takeCursor 0).1 = some c ∧ (p'.collected 0).map (·.url) = ["a", ""] ∧
      Remains (reading halfBook) halfBook 3 0 outset c e p' := by
  have hend : (((ofSettings (.standard 1)).searchMore (reading halfBook) outset 3 default).2.run?
      (reading halfBook) torn).any (fun p' =>
        p'.failure? 0 == some (.searchStage (.panicked "no page")) &&
          (p'.takeCursor 0).1.isSome && (p'.collected 0).map (·.url) == ["a", ""]) = true := by
    decide +kernel
  obtain ⟨p', hafter, hend⟩ := (Option.any_eq_true ..).1 hend
  simp only [Bool.and_eq_true, beq_iff_eq, Option.isSome_iff_exists] at hend
  obtain ⟨⟨hfailure, c, hcursor⟩, hlost⟩ := hend
  obtain ⟨j, hj, hfailed⟩ := failure?_eq_some hfailure
  exact ⟨_, p', j, _, c, rfl, hafter, hj, hfailed, rfl, hcursor, hlost,
    remains_of_run _ (.standard 1) (run?_nil ..) rfl (isFixed_reading halfBook _) hafter hj hfailed
      hcursor⟩

/-- There is one page. -/
def leaflet (_ : Nat) : Reply SearchError Page :=
  .value ⟨[{ (default : SearchResult) with url := "a" }, default], true⟩

/-- The watchdog gives a search up while the provider is asked for its page. -/
def outlived : List Act :=
  .call (.begin 0) :: advances 2 ++
    [.move (.take .search), .move (.look .search 0), .move (.start .search 0),
      .move (.body .search 0), .move (.tick ⟨30000000000⟩), .move (.expire .search 0)] ++
    advances 1 ++
    [.move (.body .search 0), .move (.body .search 0), .move (.settle .search 0),
      .move (.letGo .search 0)]

/-- A search that was given up has consumed a result. -/
theorem not_spared_outlived : ∃ p₁ p' c, (reading leaflet).provider.IsFixed outset.query leaflet ∧
    (ofSettings (.standard 1)).searchMore (reading leaflet) outset 1 default = (.ok 0, p₁) ∧
      p₁.run? (reading leaflet) outlived = some p' ∧
      p'.failure? 0 = some (.searchStage (.timedOut (.ofSeconds 30))) ∧
      (p'.takeCursor 0).1 = some c ∧
      (outset.upTo (reading leaflet).blocked leaflet 1).map (·.url) = ["a", ""] ∧
      (c.upTo (reading leaflet).blocked leaflet 1).map (·.url) = [""] := by
  have hend : (((ofSettings (.standard 1)).searchMore (reading leaflet) outset 1 default).2.run?
      (reading leaflet) outlived).any (fun p' =>
        p'.failure? 0 == some (.searchStage (.timedOut (.ofSeconds 30))) &&
          (p'.takeCursor 0).1.any fun c =>
            (outset.upTo (reading leaflet).blocked leaflet 1).map (·.url) == ["a", ""] &&
              (c.upTo (reading leaflet).blocked leaflet 1).map (·.url) == [""]) = true := by
    decide +kernel
  obtain ⟨p', hafter, hend⟩ := (Option.any_eq_true ..).1 hend
  simp only [Bool.and_eq_true, beq_iff_eq, Option.any_eq_true] at hend
  obtain ⟨hfailure, c, hcursor, hbefore, hleft⟩ := hend
  exact ⟨_, p', c, isFixed_reading leaflet _, rfl, hafter, hfailure, hcursor, hbefore, hleft⟩

end Pipeline

end GradedReading
