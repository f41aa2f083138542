import GradedReading.Proofs.Pipeline.Onward

/-!
# GradedReading.Proofs.Pipeline.Custody

Who has the cursor of a search.

**Key idea:** the cursor of an operation is in the operation, or one task at work for the operation
has it, or it was taken for good; it is never lost and never in two places. `CursorStep` is the
table of what an act may do to searches and cursors. Whatever the tasks of an operation have
collected is ranked between the cursor with which the operation began and the cursor that there is
now, because that is so for each task that takes the cursor, asks for pages and gives it back.

Design points:

* the watchdog may have given up on a task that still has the cursor, so the task gives it back when
  nobody asks for results any more;
* once the cursor was taken for good, a task that comes for it fails.
-/

namespace GradedReading

open Search Instr

/-- Where the cursor of an operation is, if it searches. -/
def Operation.place? (o : Operation) : Option CursorPlace :=
  match o.plan with
  | .search place _ => some place
  | .parse _ => none

/-- How many results an operation is to fetch, if it searches. -/
def Operation.target? (o : Operation) : Option Nat :=
  match o.plan with
  | .search _ target => some target
  | .parse _ => none

theorem Operation.place?_moveCursor (place : CursorPlace) (o : Operation) :
    (o.moveCursor place).place? = o.place?.map fun _ => place := by
  obtain ⟨job, begun, keywords, plan⟩ := o
  cases plan <;> rfl

namespace Pipeline

/-- Where the cursor of the operation with this number is, if it searches. -/
def place? (n : Nat) (p : Pipeline) : Option CursorPlace := p.operations[n]?.bind Operation.place?

/-- How many results the operation with this number is to fetch, if it searches. -/
def target? (n : Nat) (p : Pipeline) : Option Nat := p.operations[n]?.bind Operation.target?

/-- The searches that the pool accepted. -/
def searches (p : Pipeline) : List (PoolTask SearchTask (List SearchResult)) :=
  p.pools.search.tasks

variable {sv : Services} {p p' p₁ : Pipeline} {a : Act} {s : Stage} {i n : Nat}

/-- No cursor is moved. New operations may come. -/
def SamePlaces (p p' : Pipeline) : Prop := ∀ n < p.operations.length, p'.place? n = p.place? n

/-- The cursor of one operation is moved. -/
def Puts (n : Nat) (place : CursorPlace) (p p' : Pipeline) : Prop :=
  ∀ m, p'.place? m = if m = n then (p.place? m).map fun _ => place else p.place? m

theorem lt_of_place? {place : CursorPlace} (h : p.place? n = some place) :
    n < p.operations.length := by
  obtain ⟨o, ho, -⟩ := Option.bind_eq_some_iff.1 h
  exact (List.getElem?_eq_some_iff.1 ho).1

theorem SamePlaces.of_eq (h : p'.operations = p.operations) : SamePlaces p p' := fun n _ => by
  rw [place?, h, place?]

/-- A change of an operation that leaves its plan as it is. -/
theorem samePlaces_modifyOperation (n : Nat) (f : Operation → Operation)
    (hf : ∀ o, (f o).plan = o.plan) (p : Pipeline) : SamePlaces p (p.modifyOperation n f) := by
  intro m _
  have hplace : ∀ o, (f o).place? = o.place? := fun o => by
    rw [Operation.place?, hf, Operation.place?]
  simp only [place?, modifyOperation, List.getElem?_modify]
  rcases p.operations[m]? with _ | o
  · simp
  · by_cases hn : n = m <;> simp [hn, hplace]

theorem samePlaces_tell (n : Nat) (op : Job.Op) (p : Pipeline) : SamePlaces p (p.tell n op).2 := by
  rcases ho : p.operations[n]? with _ | o
  · rw [tell, job?, ho]
    exact .of_eq rfl
  · rw [tell_eq ho]
    exact samePlaces_modifyOperation n ({ · with job := (o.job.apply op).2 }) (fun _ => rfl) p

theorem samePlaces_added (o : Operation) (p : Pipeline) :
    SamePlaces p { p with operations := p.operations ++ [o] } := fun n hn => by
  rw [place?, place?, List.getElem?_append_left hn]

theorem puts_moveCursor (n : Nat) (place : CursorPlace) (p : Pipeline) :
    Puts n place p (p.modifyOperation n (·.moveCursor place)) := by
  intro m
  simp only [place?, modifyOperation, List.getElem?_modify]
  by_cases hn : n = m
  · subst hn
    rcases p.operations[n]? with _ | o
    · simp
    · simp [Operation.place?_moveCursor]
  · simp [hn, Ne.symm hn]

/-- Taking a cursor for good takes it from its operation. -/
theorem place?_of_takeCursor {c : Cursor} (h : (p.takeCursor n).1 = some c) :
    p.place? n = some (.here c) ∧ Puts n .gone p (p.takeCursor n).2 := by
  unfold takeCursor at h ⊢
  split
  · next c' hcursor =>
    obtain ⟨o, ho, hc⟩ := Option.bind_eq_some_iff.1 hcursor
    refine ⟨?_, puts_moveCursor n .gone p⟩
    rw [place?, ho, Option.bind_some]
    unfold Operation.cursor? at hc
    split at hc
    · next c'' _ hplan =>
      rw [Operation.place?, hplan, Option.some.inj hc]
      simpa [hcursor] using h
    · simp at hc
  · next hnone => simp [hnone] at h

/-- Nobody takes a cursor that is not there. -/
theorem takeCursor_of_none (h : (p.takeCursor n).1 = none) :
    (p.takeCursor n).2 = p ∧ ∀ c, p.place? n ≠ some (.here c) := by
  unfold takeCursor at h ⊢
  split
  · next c hcursor => simp [hcursor] at h
  · next hnone =>
    refine ⟨rfl, fun c hplace => ?_⟩
    obtain ⟨o, ho, hsearch⟩ := Option.bind_eq_some_iff.1 hplace
    rw [ho, Option.bind_some] at hnone
    unfold Operation.place? at hsearch
    split at hsearch
    · next hplan => simp_all [Operation.cursor?]
    · simp at hsearch

/-! ### What an act may do to searches and cursors -/

/-- What an act may do to searches and cursors. -/
inductive CursorStep (sv : Services) (p : Pipeline) : Act → Pipeline → Prop
  | rest {a : Act} {p' : Pipeline} (htasks : p'.searches = p.searches)
      (hplaces : SamePlaces p p') : CursorStep sv p a p'
  /-- A script hands a search to the pool. -/
  | submit {a : Act} {p' : Pipeline} {x : Script} {u : SearchTask} {number : Nat}
      (hx : x ∈ p.scripts) (hu : submit .search u ∈ x.rest)
      (htasks : p'.searches = p.searches ++ [⟨number, u, .queued, none⟩])
      (hplaces : SamePlaces p p') : CursorStep sv p a p'
  /-- A search takes a turn. If it gets an outcome, somebody follows it up. -/
  | turn {a : Act} {p' : Pipeline} {i : Nat} {t : PoolTask SearchTask (List SearchResult)}
      {flagged untold : Prop} {phase : Phase (List SearchResult)}
      {offer : Option (TaskOutcome (List SearchResult))} (ht : p.searches[i]? = some t)
      (hturn : t.phase.Turn flagged untold phase offer)
      (htasks : p'.searches = p.searches.set i (t.turn phase offer))
      (hplaces : SamePlaces p p')
      (hscript : ∀ o, t.accepted offer = some o →
        ∃ owner, ⟨owner, after .search t.task o⟩ ∈ p'.scripts) : CursorStep sv p a p'
  /-- A search takes the cursor. -/
  | hold {a : Act} {p' : Pipeline} {i : Nat} {t : PoolTask SearchTask (List SearchResult)}
      {d : Option Moment} {c : Cursor} (target : Nat) (ht : p.searches[i]? = some t)
      (hrun : t.phase = .running d) (hfetch : t.task.fetch = none)
      (hplace : p.place? t.task.operation = some (.here c))
      (htasks : p'.searches = p.searches.set i
        { t with task := { t.task with fetch := some (.start sv.blocked target c) } })
      (hplaces : Puts t.task.operation .held p p')
      (htarget : p.target? t.task.operation = some target) : CursorStep sv p a p'
  /-- A search that has the cursor goes on. -/
  | goOn {a : Act} {p' : Pipeline} {i : Nat} {t : PoolTask SearchTask (List SearchResult)}
      {d : Option Moment} {f f' : Fetch} {arrived : Bool} (ht : p.searches[i]? = some t)
      (hrun : t.phase = .running d) (hfetch : t.task.fetch = some f)
      (hf' : f' = f ∨ f.verdict = none ∧ ∃ calls, f' = f.step sv.blocked
        (sv.provider.answer calls f.cursor.query f.cursor.request))
      (htasks : p'.searches = p.searches.set i
        { t with task := { t.task with fetch := some f', arrived } })
      (hplaces : SamePlaces p p') : CursorStep sv p a p'
  /-- A search gives the cursor back. -/
  | giveBack {a : Act} {p' : Pipeline} {i : Nat} {t : PoolTask SearchTask (List SearchResult)}
      {d : Option Moment} {f : Fetch} {verdict : Reply SearchError (List SearchResult)}
      (ht : p.searches[i]? = some t) (hrun : t.phase = .running d)
      (hfetch : t.task.fetch = some f) (hverdict : f.verdict = some verdict)
      (htasks : p'.searches =
        p.searches.set i { t with phase := .returned d (searchOutcome verdict) })
      (hplaces : Puts t.task.operation (.here f.cursor) p p') : CursorStep sv p a p'
  /-- A search finds that the cursor was taken for good. -/
  | miss {a : Act} {p' : Pipeline} {i : Nat} {t : PoolTask SearchTask (List SearchResult)}
      {d : Option Moment} (e : TaskError) (ht : p.searches[i]? = some t)
      (hrun : t.phase = .running d) (hfetch : t.task.fetch = none)
      (htasks : p'.searches = p.searches.set i { t with phase := .returned d (.failed e) })
      (hplaces : SamePlaces p p') : CursorStep sv p a p'
  /-- Somebody takes a cursor for good. -/
  | leave {n : Nat} {c : Cursor} {p' : Pipeline} (hplace : p.place? n = some (.here c))
      (htasks : p'.searches = p.searches) (hplaces : Puts n .gone p p') :
      CursorStep sv p (.call (.takeCursor n)) p'

/-! ### Every act is in the table -/

theorem searches_set_of_ne (hs : s ≠ .search) (pool : Pool s.Task s.Yield) (p : Pipeline) :
    ({ p with pools := p.pools.set s pool } : Pipeline).searches = p.searches := by
  have hget : (p.pools.set s pool).get .search = p.pools.get .search :=
    p.pools.get_set_of_ne hs.symm pool
  exact congrArg Pool.tasks hget

/-- Neither operations nor searches have changed. -/
structure Apart (p p' : Pipeline) : Prop where
  operations : p'.operations = p.operations
  searches : p'.searches = p.searches

theorem Apart.step (h : Apart p p') : CursorStep sv p a p' := .rest h.searches (.of_eq h.operations)

theorem apart_set (hs : s ≠ .search) (pool : Pool s.Task s.Yield) (p : Pipeline) :
    Apart p { p with pools := p.pools.set s pool } := ⟨rfl, searches_set_of_ne hs pool p⟩

theorem apart_finish (hs : s ≠ .search) {o : TaskOutcome s.Yield}
    (hp : p.finish s i o = some p') : Apart p p' := by
  obtain ⟨pool, -, rfl⟩ := Option.map_eq_some_iff.1 hp
  exact apart_set hs pool p

theorem apart_crawlBody {t : CrawlTask} (hp : p.crawlBody sv i t = some p') : Apart p p' := by
  have hcrawl : Stage.crawl ≠ .search := by simp
  rcases passGate_cases hp with ⟨gates, rfl⟩ | hpass
  · exact ⟨rfl, rfl⟩
  · obtain ⟨hops, hsearches⟩ := apart_finish hcrawl hpass
    exact ⟨hops, hsearches⟩

theorem apart_parseBody {t : ParseTask} (hp : p.parseBody sv i t = some p') : Apart p p' := by
  have hparse : Stage.parse ≠ .search := by simp
  -- whatever a parse changes beside its task is neither an operation nor a search
  have hfinish : ∀ {p₁ : Pipeline} {o : TaskOutcome Document}, p₁.finish .parse i o = some p' →
      p₁.operations = p.operations → p₁.searches = p.searches → Apart p p' := by
    intro p₁ o hend hops hsearches
    have hapart := apart_finish (s := .parse) hparse hend
    exact ⟨hapart.operations.trans hops, hapart.searches.trans hsearches⟩
  simp only [parseBody, Option.bind_eq_bind, Option.bind_eq_some_iff] at hp
  obtain ⟨o, -, hp⟩ := hp
  split at hp
  · split at hp
    · exact hfinish hp rfl rfl
    · split at hp
      · exact hfinish hp rfl rfl
      · obtain rfl := Option.some.inj hp
        exact ⟨rfl, rfl⟩
  · split at hp
    · simp at hp
    · obtain rfl := Option.some.inj hp
      exact ⟨rfl, rfl⟩
  · rcases passGate_cases hp with ⟨gates, rfl⟩ | hpass
    · exact ⟨rfl, rfl⟩
    · obtain ⟨q, -, hend⟩ := Option.bind_eq_some_iff.1 hpass
      exact hfinish hend rfl rfl

/-- The end of the body of a search. -/
theorem searches_finish {o : TaskOutcome (List SearchResult)} (hp : p.finish .search i o = some p')
    {t : PoolTask SearchTask (List SearchResult)} (ht : p.searches[i]? = some t) :
    p'.operations = p.operations ∧ ∃ d, t.phase = .running d ∧
      p'.searches = p.searches.set i { t with phase := .returned d o } := by
  obtain ⟨pool, hpool, rfl⟩ := Option.map_eq_some_iff.1 hp
  obtain ⟨t', d, ht', hrun, htasks⟩ := Pool.tasks_finish hpool
  obtain rfl : t = t' := Option.some.inj (ht.symm.trans ht')
  exact ⟨rfl, d, hrun, htasks⟩

/-- What a search knows changes. -/
theorem searches_setTask {t : PoolTask SearchTask (List SearchResult)}
    (ht : p.searches[i]? = some t) (u : SearchTask) :
    (p.setTask .search i u).searches = p.searches.set i { t with task := u } :=
  Pool.tasks_modify (p := p.pools.search) ht _

theorem cursorStep_searchBody {t : PoolTask SearchTask (List SearchResult)}
    (ht : p.searches[i]? = some t) {d : Option Moment} (hrun : t.phase = .running d)
    (hp : p.searchBody sv i t.task = some p') : CursorStep sv p a p' := by
  unfold searchBody at hp
  split at hp
  · next hfetch =>
    split at hp
    · next c target hplan =>
      obtain rfl := Option.some.inj hp
      obtain ⟨o, ho, hplan⟩ := Option.map_eq_some_iff.1 hplan
      have hplace : p.place? t.task.operation = some (.here c) := by
        rw [place?, ho, Option.bind_some, Operation.place?, hplan]
      have htarget : p.target? t.task.operation = some target := by
        rw [target?, ho, Option.bind_some, Operation.target?, hplan]
      exact .hold target ht hrun hfetch hplace (searches_setTask (p := p.modifyOperation _ _) ht _)
        (puts_moveCursor _ _ p) htarget
    · simp at hp
    · obtain ⟨hops, d', hrun', htasks⟩ := searches_finish hp ht
      exact .miss _ ht hrun' hfetch htasks (.of_eq hops)
  · next f hfetch =>
    split at hp
    · next verdict hverdict =>
      obtain ⟨hops, d', hrun', htasks⟩ := searches_finish (p := p.modifyOperation _ _) hp ht
      refine .giveBack ht hrun' hfetch hverdict htasks fun m => ?_
      rw [place?, hops]
      exact puts_moveCursor _ _ p m
    · next hopen =>
      rcases passGate_cases hp with ⟨gates, rfl⟩ | hpass
      · exact .goOn ht hrun hfetch (.inl rfl)
          ((searches_setTask (p := { p with gates }) ht _).trans (by rw [← hfetch]; rfl))
          (.of_eq rfl)
      · obtain rfl := Option.some.inj hpass
        exact .goOn ht hrun hfetch (.inr ⟨hopen, _, rfl⟩) (searches_setTask ht _) (.of_eq rfl)

theorem cursorStep_body (hp : p.body sv s i = some p') : CursorStep sv p a p' := by
  simp only [body, Option.bind_eq_bind, Option.bind_eq_some_iff] at hp
  obtain ⟨t, ht, hp⟩ := hp
  split at hp
  · next d hrun =>
    cases s with
    | search => exact cursorStep_searchBody ht hrun hp
    | crawl => exact (apart_crawlBody hp).step
    | parse => exact (apart_parseBody hp).step
  · simp at hp

/-- A task takes a turn without an outcome. -/
theorem cursorStep_turn {flagged untold : Prop} {pool : Pool s.Task s.Yield}
    (hturn : Pool.Turns flagged untold i (p.pools.get s) none pool) :
    CursorStep sv p a { p with pools := p.pools.set s pool } := by
  by_cases hs : s = .search
  · subst hs
    obtain ⟨t, phase, offer, ht, hphase, hanswer, htasks⟩ := hturn
    exact .turn ht hphase htasks (.of_eq rfl) fun o ho => by simp [ho] at hanswer
  · exact (apart_set hs pool p).step

/-- A task may get its outcome. -/
theorem cursorStep_withPool {flagged untold : Prop} {owner : Owner}
    {r : Option (Option (TaskOutcome s.Yield) × Pool s.Task s.Yield)}
    (hturn : ∀ answer pool, r = some (answer, pool) →
      Pool.Turns flagged untold i (p.pools.get s) answer pool)
    (hp : p.withPool s i owner r = some p') : CursorStep sv p a p' := by
  obtain ⟨⟨answer, pool⟩, hr, rfl⟩ := Option.map_eq_some_iff.1 hp
  have hturns := hturn answer pool hr
  rcases answer with _ | o
  · exact cursorStep_turn hturns
  · obtain ⟨t, phase, offer, ht, hphase, hanswer, htasks⟩ := hturns
    have hget : pool.tasks[i]? = some (t.turn phase offer) := by
      obtain ⟨hi, -⟩ := List.getElem?_eq_some_iff.1 ht
      simp [htasks, hi]
    simp only [hget]
    by_cases hs : s = .search
    · subst hs
      refine .turn ht hphase htasks (.of_eq rfl) fun o' ho' => ⟨owner, ?_⟩
      obtain rfl : o = o' := Option.some.inj (hanswer.trans ho')
      exact List.mem_append_right _ (List.mem_singleton.2 rfl)
    · have hapart := apart_set hs pool p
      exact .rest hapart.searches (.of_eq rfl)

theorem cursorStep_advance {k : Nat} (hp : p.advance k = some p') : CursorStep sv p a p' := by
  obtain ⟨x, rest, p₁, hx, hcarry, rfl⟩ := advance_eq_some hp
  have hmem := List.mem_of_getElem? hx
  have hkeep : Apart p p₁ →
      CursorStep sv p a { p₁ with scripts := putBack k x rest p₁.scripts } :=
    fun h => .rest h.searches (.of_eq h.operations)
  rcases hrest : x.rest with _ | ⟨i, tail⟩
  · rw [hrest] at hcarry
    obtain ⟨-, rfl⟩ : [] = rest ∧ p = p₁ := by simpa [carryOut] using hcarry
    exact hkeep ⟨rfl, rfl⟩
  rw [hrest] at hcarry
  cases i with
  | tell m op | require m op =>
      obtain ⟨-, rfl⟩ : _ = rest ∧ (p.tell m op).2 = p₁ := by simpa [carryOut] using hcarry
      have hsearches : (p.tell m op).2.searches = p.searches := by
        unfold tell
        split <;> rfl
      exact .rest hsearches (samePlaces_tell m op p)
  | submit s u =>
      by_cases hs : s = .search
      · subst hs
        rcases Pool.submit_cases u p.pools.search with ⟨number, hanswer, htasks⟩ |
          ⟨e, hanswer, htasks⟩
        all_goals
          simp only [carryOut, Pools.get, hanswer, Option.some.injEq, Prod.mk.injEq] at hcarry
          obtain ⟨rfl, rfl⟩ := hcarry
        · exact .submit hmem (hrest ▸ List.mem_cons_self ..) htasks (.of_eq rfl)
        · exact .rest htasks (.of_eq rfl)
      · refine hkeep ?_
        simp only [carryOut] at hcarry
        split at hcarry <;>
        · obtain ⟨-, rfl⟩ := Prod.mk.inj (Option.some.inj hcarry)
          exact apart_set hs _ p
  | close s drain =>
      obtain ⟨-, rfl⟩ := Prod.mk.inj (Option.some.inj hcarry)
      refine hkeep ⟨rfl, ?_⟩
      by_cases hs : s = .search
      · subst hs
        exact Pool.tasks_close drain p.pools.search
      · exact searches_set_of_ne hs _ p
  | join s =>
      obtain ⟨-, -, rfl⟩ : _ ∧ tail = rest ∧ p = p₁ := by simpa [carryOut] using hcarry
      exact hkeep ⟨rfl, rfl⟩
  | stopWatchdog =>
      obtain ⟨-, -, rfl⟩ : _ ∧ tail = rest ∧ _ = p₁ := by simpa [carryOut] using hcarry
      exact hkeep ⟨rfl, rfl⟩

theorem cursorStep_move {m : Move} (hp : p.move? sv m = some p') : CursorStep sv p a p' := by
  cases m with
  | advance k => exact cursorStep_advance hp
  | take s =>
      obtain ⟨pool, hpool, rfl⟩ := Option.map_eq_some_iff.1 hp
      obtain ⟨i, hturn⟩ := Pool.turns_take hpool
      exact cursorStep_turn hturn
  | look s i => exact cursorStep_withPool (fun _ _ hr => Pool.turns_look hr) hp
  | start s i => exact cursorStep_withPool (fun _ _ hr => Pool.turns_start hr) hp
  | body s i => exact cursorStep_body hp
  | settle s i => exact cursorStep_withPool (fun _ _ hr => Pool.turns_settle hr) hp
  | letGo s i =>
      simp only [move?] at hp
      split at hp
      · simp at hp
      · obtain ⟨pool, hpool, rfl⟩ := Option.map_eq_some_iff.1 hp
        exact cursorStep_turn (Pool.turns_letGo hpool)
  | expire s i =>
      simp only [move?] at hp
      split at hp
      · exact cursorStep_withPool (fun _ _ hr => Pool.turns_expire hr) hp
      · simp at hp
  | tick moment | openGate name =>
      obtain rfl := Option.some.inj hp
      exact .rest rfl (.of_eq rfl)

theorem cursorStep_add (l : Language) (o : Operation) : CursorStep sv p a (p.add sv l o).2 := by
  unfold add
  split
  · exact .rest rfl (samePlaces_added o p)
  · exact .rest rfl (.of_eq rfl)

/-- **Every act is in the table.** -/
theorem cursorStep_act (hp : p.act? sv a = some p') : CursorStep sv p a p' := by
  cases a with
  | move m => exact cursorStep_move hp
  | call c =>
      obtain rfl := Option.some.inj hp
      cases c with
      | search q target keywords => exact cursorStep_add _ _
      | searchMore c target keywords => exact cursorStep_add _ _
      | parse l sources keywords => exact cursorStep_add _ _
      | begin n =>
          simp only [call, begin]
          split
          · split
            · exact .rest rfl (.of_eq rfl)
            · exact .rest rfl (samePlaces_modifyOperation n ({ · with begun := true })
                (fun _ => rfl) p)
          · exact .rest rfl (.of_eq rfl)
      | cancel n =>
          refine .rest ?_ (samePlaces_tell n .cancel p)
          simp only [call, cancel, tell]
          split <;> rfl
      | takeCursor n =>
          rcases hcursor : (p.takeCursor n).1 with _ | c
          · rw [call, (takeCursor_of_none hcursor).1]
            exact .rest rfl (.of_eq rfl)
          · obtain ⟨hplace, hputs⟩ := place?_of_takeCursor hcursor
            refine .leave hplace ?_ hputs
            rw [call, takeCursor]
            split <;> rfl
      | shutDown drain | parserFor l => exact .rest rfl (.of_eq rfl)

/-- An operation searches or does not, whatever happens to it. -/
theorem CursorStep.isSome_place? (h : CursorStep sv p a p') (hn : n < p.operations.length) :
    (p'.place? n).isSome = (p.place? n).isSome := by
  have hputs : ∀ {m place}, Puts m place p p' → (p'.place? n).isSome = (p.place? n).isSome := by
    intro m place hputs
    rw [hputs n]
    split <;> simp
  cases h with
  | rest _ hplaces | submit _ _ _ hplaces | turn _ _ _ hplaces | goOn _ _ _ _ _ hplaces
  | miss _ _ _ _ _ hplaces => rw [hplaces n hn]
  | hold _ _ _ _ _ _ hplaces | giveBack _ _ _ _ _ hplaces | leave _ _ hplaces =>
      exact hputs hplaces

end Pipeline

end GradedReading
