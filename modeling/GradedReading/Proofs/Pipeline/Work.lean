import GradedReading.Proofs.Pipeline.Pursuit
import GradedReading.Proofs.Pool.Door

/-!
# GradedReading.Proofs.Pipeline.Work

What happens to the tasks of a stage.

**Key idea:** an act changes one task at most, or hands a new one to a pool. `TaskStep` is the table
of what it may do to the tasks of one stage, like the table of custody, which is about searches and
their cursors. Here it counts when a body begins: only in the turn of a worker who has found that
the operation was not cancelled.
-/

namespace GradedReading

open Search Instr Web

/-- The body of the task runs, or it has ended and nobody was told. -/
def Phase.isBegun {ρ : Type} : Phase ρ → Bool
  | .running _ | .returned .. => true
  | _ => false

theorem Phase.isBegun_of_isAhead {ρ : Type} {phase : Phase ρ} (h : phase.isAhead = true) :
    phase.isBegun = false := by
  cases phase <;> first | rfl | simp [isAhead] at h

namespace Pool

variable {τ ρ : Type} {p p' : Pool τ ρ} {i : Nat} {answer : Option (TaskOutcome ρ)}

/-- The body of the task at a place runs, or it has ended and nobody was told. -/
def isBegunAt (i : Nat) (p : Pool τ ρ) : Bool := (p.phase? i).any Phase.isBegun

theorem isBegunAt_eq {t : PoolTask τ ρ} (ht : p.tasks[i]? = some t) :
    p.isBegunAt i = t.phase.isBegun := by simp [isBegunAt, phase?, ht]

theorem isBegunAt_setPhase {ph : Phase ρ} (h : ph.isBegun = false) (i j : Nat) (p : Pool τ ρ) :
    (p.setPhase i ph).isBegunAt j = true → p.isBegunAt j = true := by
  simp only [isBegunAt, phase?, setPhase, modify, List.getElem?_modify]
  rcases p.tasks[j]? with _ | t
  · simp
  · by_cases hij : i = j <;> simp [hij, h]

theorem isBegunAt_deliver (i : Nat) (o : TaskOutcome ρ) (j : Nat) (p : Pool τ ρ) :
    (p.deliver i o).2.isBegunAt j = p.isBegunAt j := by
  unfold deliver
  split
  · simp only [isBegunAt, phase?, modify, List.getElem?_modify]
    rcases p.tasks[j]? with _ | t
    · simp
    · by_cases hij : i = j <;> simp [hij]
  · rfl

/-- No body begins: whatever was begun in the second pool was begun in the first. -/
def BeginsNone (p p' : Pool τ ρ) : Prop := ∀ j, p'.isBegunAt j = true → p.isBegunAt j = true

theorem beginsNone_setPhase {ph : Phase ρ} (h : ph.isBegun = false) (i : Nat) (p : Pool τ ρ) :
    p.BeginsNone (p.setPhase i ph) := fun j => isBegunAt_setPhase h i j p

theorem beginsNone_deliver {ph : Phase ρ} (h : ph.isBegun = false) {o : TaskOutcome ρ}
    (hdeliver : (p.setPhase i ph).deliver i o = (answer, p')) : p.BeginsNone p' := by
  intro j hj
  have hsame := isBegunAt_deliver i o j (p.setPhase i ph)
  rw [hdeliver] at hsame
  exact isBegunAt_setPhase h i j p (hsame ▸ hj)

theorem beginsNone_take (h : p.take = some p') : p.BeginsNone p' := by
  unfold take at h
  split at h
  · obtain ⟨i, -, rfl⟩ := Option.map_eq_some_iff.1 h
    exact beginsNone_setPhase rfl i p
  · simp at h

theorem beginsNone_look (h : p.look i = some (answer, p')) : p.BeginsNone p' := by
  unfold look at h
  split at h
  · split at h
    · exact beginsNone_deliver rfl (Option.some.inj h)
    · obtain ⟨-, rfl⟩ := Prod.mk.inj (Option.some.inj h)
      exact beginsNone_setPhase rfl i p
  · simp at h

/-- A worker who finds that the task was cancelled does not begin its body. -/
theorem beginsNone_start {now : Moment} (h : p.start i true now = some (answer, p')) :
    p.BeginsNone p' := by
  unfold start at h
  split at h
  · exact beginsNone_deliver rfl (Option.some.inj h)
  · simp at h

theorem beginsNone_settle (h : p.settle i = some (answer, p')) : p.BeginsNone p' := by
  unfold settle at h
  split at h
  · exact beginsNone_deliver rfl (Option.some.inj h)
  · simp at h

theorem beginsNone_letGo (h : p.letGo i = some p') : p.BeginsNone p' := by
  unfold letGo at h
  split at h
  · obtain rfl := Option.some.inj h
    exact beginsNone_setPhase rfl i p
  · simp at h

theorem beginsNone_expire {now : Moment} (h : p.expire i now = some (answer, p')) :
    p.BeginsNone p' := by
  unfold expire at h
  split at h
  · next d _ _ =>
    split at h
    · intro j hj
      have hsame := isBegunAt_deliver i (.failed (.timedOut d)) j p
      rw [Option.some.inj h] at hsame
      exact hsame ▸ hj
    · simp at h
  · simp at h

end Pool

namespace Pipeline

variable {sv : Services} {p p' p₁ : Pipeline} {a : Act} {r s : Stage} {i : Nat}

/-- What an act may do to the tasks of a stage. -/
inductive TaskStep (p : Pipeline) (s : Stage) (p' : Pipeline) : Prop
  | rest (htasks : (p'.pools.get s).tasks = (p.pools.get s).tasks)
  /-- A script hands a task to the pool. -/
  | submit {x : Script} {u : s.Task} {number : Nat} (hx : x ∈ p.scripts)
      (hu : submit s u ∈ x.rest)
      (htasks : (p'.pools.get s).tasks = (p.pools.get s).tasks ++ [⟨number, u, .queued, none⟩])
  /-- A task takes a turn. Its body begins only if its operation was not cancelled. -/
  | turn {i : Nat} {t : PoolTask s.Task s.Yield} {phase : Phase s.Yield}
      {offer : Option (TaskOutcome s.Yield)} (ht : (p.pools.get s).tasks[i]? = some t)
      (hopen : phase.isBegun = true →
        t.phase.isBegun = true ∨ p.isFlagged (s.operationOf t.task) = false)
      (htasks : (p'.pools.get s).tasks = (p.pools.get s).tasks.set i (t.turn phase offer))
  /-- The body of a task goes on, or ends. -/
  | goOn {i : Nat} {t u : PoolTask s.Task s.Yield} {d : Option Moment}
      (ht : (p.pools.get s).tasks[i]? = some t) (hrun : t.phase = .running d)
      (hop : s.operationOf u.task = s.operationOf t.task)
      (htasks : (p'.pools.get s).tasks = (p.pools.get s).tasks.set i u)

/-! ### Every act is in the table -/

theorem TaskStep.of_pools (h : p'.pools = p.pools) : TaskStep p s p' := .rest (by rw [h])

/-- The pool of one stage changes. -/
theorem TaskStep.of_set {pool : Pool r.Task r.Yield} (hpools : p'.pools = p.pools.set r pool)
    (h : (p'.pools.get r).tasks = pool.tasks → TaskStep p r p') (s : Stage) :
    TaskStep p s p' := by
  by_cases hs : s = r
  · subst hs
    exact h (by rw [hpools, Pools.get_set_same])
  · exact .rest (by rw [hpools, Pools.get_set_of_ne _ hs])

/-- A task takes a turn in which no body begins, unless its operation was not cancelled. -/
theorem taskStep_turns {flagged untold : Prop} {answer : Option (TaskOutcome r.Yield)}
    {pool : Pool r.Task r.Yield} (hpools : p'.pools = p.pools.set r pool)
    (hturn : Pool.Turns flagged untold i (p.pools.get r) answer pool)
    (hopen : ∀ t, (p.pools.get r).tasks[i]? = some t →
      p.isFlagged (r.operationOf t.task) = false ∨ (p.pools.get r).BeginsNone pool)
    (s : Stage) : TaskStep p s p' := by
  refine .of_set hpools (fun hget => ?_) s
  obtain ⟨t, phase, offer, ht, -, -, htasks⟩ := hturn
  refine .turn ht (fun hbegun => ?_) (hget.trans htasks)
  refine (hopen t ht).symm.imp_left fun hnone => ?_
  have hlt := (List.getElem?_eq_some_iff.1 ht).1
  have hget' : pool.tasks[i]? = some (t.turn phase offer) := by simp [htasks, hlt]
  rw [← Pool.isBegunAt_eq ht]
  exact hnone i ((Pool.isBegunAt_eq hget').trans hbegun)

theorem taskStep_withPool {flagged untold : Prop} {owner : Owner}
    {x : Option (Option (TaskOutcome r.Yield) × Pool r.Task r.Yield)}
    (hturn : ∀ answer pool, x = some (answer, pool) →
      Pool.Turns flagged untold i (p.pools.get r) answer pool)
    (hopen : ∀ answer pool, x = some (answer, pool) → ∀ t, (p.pools.get r).tasks[i]? = some t →
      p.isFlagged (r.operationOf t.task) = false ∨ (p.pools.get r).BeginsNone pool)
    (hp : p.withPool r i owner x = some p') (s : Stage) : TaskStep p s p' := by
  obtain ⟨⟨answer, pool⟩, hr, rfl⟩ := Option.map_eq_some_iff.1 hp
  refine taskStep_turns ?_ (hturn answer pool hr) (hopen answer pool hr) s
  dsimp only
  split <;> rfl

/-- The body of a task ends. -/
theorem taskStep_finish {o : TaskOutcome r.Yield} (hp : p₁.finish r i o = some p')
    (hpools : p₁.pools = p.pools) (s : Stage) : TaskStep p s p' := by
  obtain ⟨pool, hpool, rfl⟩ := Option.map_eq_some_iff.1 hp
  obtain ⟨t, d, ht, hrun, htasks⟩ := Pool.tasks_finish hpool
  rw [hpools] at ht htasks
  have hset : p₁.pools.set r pool = p.pools.set r pool := by rw [hpools]
  refine .of_set hset (fun hget => ?_) s
  exact .goOn (u := { t with phase := .returned d o }) ht hrun rfl (hget.trans htasks)

/-- The body of a task goes on, and the task knows more. -/
theorem taskStep_setTask {t : PoolTask r.Task r.Yield} {d : Option Moment}
    (ht : (p.pools.get r).tasks[i]? = some t) (hrun : t.phase = .running d) {u : r.Task}
    (hpools : p'.pools = p.pools.set r ((p.pools.get r).setTask i u))
    (hop : r.operationOf u = r.operationOf t.task) (s : Stage) : TaskStep p s p' := by
  refine .of_set hpools (fun hget => ?_) s
  exact .goOn (u := { t with task := u }) ht hrun hop (hget.trans (Pool.tasks_modify ht _))

section Body

/-- No script and no task is touched. A cursor may be moved, but one at most. -/
structure Undisturbed (p p₁ : Pipeline) : Prop where
  scripts : p₁.scripts = p.scripts
  pools : p₁.pools = p.pools
  watching : p₁.watching = p.watching
  operations : p₁.operations = p.operations ∨
    ∃ m place, p₁.operations = (p.modifyOperation m (·.moveCursor place)).operations

theorem Undisturbed.of_eq (hscripts : p₁.scripts = p.scripts) (hpools : p₁.pools = p.pools)
    (hwatching : p₁.watching = p.watching) (hops : p₁.operations = p.operations) :
    Undisturbed p p₁ := ⟨hscripts, hpools, hwatching, .inl hops⟩

theorem undisturbed_moveCursor (m : Nat) (place : CursorPlace) (p : Pipeline) :
    Undisturbed p (p.modifyOperation m (·.moveCursor place)) :=
  ⟨rfl, rfl, rfl, .inr ⟨m, place, rfl⟩⟩

/-- What a step of a body does: its task knows more, or the body ends. -/
inductive BodyStep (p : Pipeline) (s : Stage) (i : Nat) (p' : Pipeline) : Prop
  | goOn {p₁ : Pipeline} {t : PoolTask s.Task s.Yield} {d : Option Moment} {u : s.Task}
      (hp' : p' = p₁.setTask s i u) (hbefore : Undisturbed p p₁)
      (ht : (p.pools.get s).tasks[i]? = some t) (hrun : t.phase = .running d)
      (hop : s.operationOf u = s.operationOf t.task)
  | ends {p₁ : Pipeline} {o : TaskOutcome s.Yield} (hp' : p₁.finish s i o = some p')
      (hbefore : Undisturbed p p₁) (ho : o.isPoolClosed = false)

variable {d : Option Moment}

theorem bodyStep_searchBody {t : PoolTask SearchTask (List SearchResult)}
    (ht : p.pools.search.tasks[i]? = some t) (hrun : t.phase = .running d)
    (hp : p.searchBody sv i t.task = some p') : BodyStep p .search i p' := by
  unfold searchBody at hp
  split at hp
  · split at hp
    · obtain rfl := Option.some.inj hp
      exact .goOn rfl (undisturbed_moveCursor ..) ht hrun (by rfl)
    · simp at hp
    · exact .ends hp (.of_eq rfl rfl rfl rfl) rfl
  · next f _ =>
    split at hp
    · next verdict _ =>
      have ho : (searchOutcome verdict).isPoolClosed = false := by cases verdict <;> rfl
      exact .ends hp (undisturbed_moveCursor ..) ho
    · rcases passGate_cases hp with ⟨gates, rfl⟩ | hpass
      · exact .goOn rfl (.of_eq rfl rfl rfl rfl) ht hrun (by rfl)
      · obtain rfl := Option.some.inj hpass
        have hbefore :
            Undisturbed p { p with searchCalls := p.searchCalls ++ [f.cursor.request] } :=
          .of_eq rfl rfl rfl rfl
        exact .goOn (by rfl) hbefore ht hrun (by rfl)

theorem bodyStep_crawlBody {t : PoolTask CrawlTask CrawledPage}
    (ht : p.pools.crawl.tasks[i]? = some t) (hrun : t.phase = .running d)
    (hp : p.crawlBody sv i t.task = some p') : BodyStep p .crawl i p' := by
  rcases passGate_cases hp with ⟨gates, rfl⟩ | hpass
  · exact .goOn rfl (.of_eq rfl rfl rfl rfl) ht hrun (by rfl)
  · have ho : ∀ reply, (crawlOutcome reply).isPoolClosed = false := fun reply => by
      cases reply <;> rfl
    exact .ends hpass (.of_eq rfl rfl rfl rfl) (ho _)

theorem isPoolClosed_parseOutcome (keywords : KeywordSet) (reply : Reply ParseError Document) :
    (parseOutcome keywords reply).isPoolClosed = false := by
  cases reply with
  | value d =>
      simp only [parseOutcome, complete]
      split <;> rfl
  | error e | panic m => rfl

theorem bodyStep_parseBody {t : PoolTask ParseTask Document}
    (ht : p.pools.parse.tasks[i]? = some t) (hrun : t.phase = .running d)
    (hp : p.parseBody sv i t.task = some p') : BodyStep p .parse i p' := by
  simp only [parseBody, Option.bind_eq_bind, Option.bind_eq_some_iff] at hp
  obtain ⟨o, -, hp⟩ := hp
  split at hp
  · split at hp
    · exact .ends hp (.of_eq rfl rfl rfl rfl) rfl
    · split at hp
      · exact .ends hp (.of_eq rfl rfl rfl rfl) rfl
      · obtain rfl := Option.some.inj hp
        exact .goOn rfl (.of_eq rfl rfl rfl rfl) ht hrun (by rfl)
  · split at hp
    · simp at hp
    · obtain rfl := Option.some.inj hp
      have hbefore : Undisturbed p { p with
          parsers := p.parsers.countCall o.job.language
          engaged := p.engaged ++ [o.job.language] } := .of_eq rfl rfl rfl rfl
      exact .goOn (by rfl) hbefore ht hrun (by rfl)
  · rcases passGate_cases hp with ⟨gates, rfl⟩ | hpass
    · exact .goOn rfl (.of_eq rfl rfl rfl rfl) ht hrun (by rfl)
    · obtain ⟨q, -, hend⟩ := Option.bind_eq_some_iff.1 hpass
      exact .ends hend (.of_eq rfl rfl rfl rfl) (isPoolClosed_parseOutcome ..)

/-- The bodies of all three stages go on like this. -/
theorem bodyStep_body (hp : p.body sv s i = some p') : BodyStep p s i p' := by
  simp only [body, Option.bind_eq_bind, Option.bind_eq_some_iff] at hp
  obtain ⟨t, ht, hp⟩ := hp
  split at hp
  · next d hrun =>
    cases s with
    | search => exact bodyStep_searchBody ht hrun hp
    | crawl => exact bodyStep_crawlBody ht hrun hp
    | parse => exact bodyStep_parseBody ht hrun hp
  · simp at hp

theorem taskStep_body (hp : p.body sv r i = some p') (s : Stage) : TaskStep p s p' := by
  cases bodyStep_body hp with
  | goOn hp' hbefore ht hrun hop =>
      subst hp'
      refine taskStep_setTask ht hrun ?_ hop s
      rw [setTask, hbefore.pools]
  | ends hp' hbefore _ => exact taskStep_finish hp' hbefore.pools s

end Body

theorem pools_tell (n : Nat) (op : Job.Op) (p : Pipeline) : (p.tell n op).2.pools = p.pools := by
  unfold tell
  split <;> rfl

theorem taskStep_advance {k : Nat} (hp : p.advance k = some p') (s : Stage) : TaskStep p s p' := by
  obtain ⟨x, rest, p₁, hx, hcarry, rfl⟩ := advance_eq_some hp
  have hmem := List.mem_of_getElem? hx
  rcases hrest : x.rest with _ | ⟨i, tail⟩
  · rw [hrest] at hcarry
    obtain ⟨-, rfl⟩ : [] = rest ∧ p = p₁ := by simpa [carryOut] using hcarry
    exact .of_pools rfl
  rw [hrest] at hcarry
  cases i with
  | tell m op | require m op =>
      obtain ⟨-, rfl⟩ : _ = rest ∧ (p.tell m op).2 = p₁ := by simpa [carryOut] using hcarry
      exact .of_pools (pools_tell m op p)
  | submit r u =>
      rcases Pool.submit_cases u (p.pools.get r) with ⟨number, hanswer, htasks⟩ |
        ⟨e, hanswer, htasks⟩
      all_goals
        simp only [carryOut, hanswer, Option.some.injEq, Prod.mk.injEq] at hcarry
        obtain ⟨rfl, rfl⟩ := hcarry
        refine .of_set (r := r) rfl (fun hget => ?_) s
      · exact .submit hmem (hrest ▸ List.mem_cons_self ..) (hget.trans htasks)
      · exact .rest (hget.trans htasks)
  | close r drain =>
      obtain ⟨-, rfl⟩ := Prod.mk.inj (Option.some.inj hcarry)
      exact .of_set (r := r) rfl (fun hget => .rest (hget.trans (Pool.tasks_close drain _))) s
  | join r =>
      obtain ⟨-, -, rfl⟩ : _ ∧ tail = rest ∧ p = p₁ := by simpa [carryOut] using hcarry
      exact .of_pools rfl
  | stopWatchdog =>
      obtain ⟨-, -, rfl⟩ : _ ∧ tail = rest ∧ _ = p₁ := by simpa [carryOut] using hcarry
      exact .of_pools rfl

theorem taskStep_move {m : Move} (hp : p.move? sv m = some p') (s : Stage) : TaskStep p s p' := by
  cases m with
  | advance k => exact taskStep_advance hp s
  | take r =>
      obtain ⟨pool, hpool, rfl⟩ := Option.map_eq_some_iff.1 hp
      obtain ⟨i, hturn⟩ := Pool.turns_take hpool
      exact taskStep_turns rfl hturn (fun _ _ => .inr (Pool.beginsNone_take hpool)) s
  | look r i =>
      exact taskStep_withPool (fun _ _ hr => Pool.turns_look hr)
        (fun _ _ hr _ _ => .inr (Pool.beginsNone_look hr)) hp s
  | start r i =>
      refine taskStep_withPool (fun _ _ hr => Pool.turns_start hr) (fun _ _ hr t ht => ?_) hp s
      rcases hflag : p.isFlagged (r.operationOf t.task) with _ | _
      · exact .inl rfl
      · rw [ht, Option.any_some, hflag] at hr
        exact .inr (Pool.beginsNone_start hr)
  | body r i => exact taskStep_body hp s
  | settle r i =>
      exact taskStep_withPool (fun _ _ hr => Pool.turns_settle hr)
        (fun _ _ hr _ _ => .inr (Pool.beginsNone_settle hr)) hp s
  | letGo r i =>
      simp only [move?] at hp
      split at hp
      · simp at hp
      · obtain ⟨pool, hpool, rfl⟩ := Option.map_eq_some_iff.1 hp
        exact taskStep_turns rfl (Pool.turns_letGo hpool)
          (fun _ _ => .inr (Pool.beginsNone_letGo hpool)) s
  | expire r i =>
      simp only [move?] at hp
      split at hp
      · exact taskStep_withPool (fun _ _ hr => Pool.turns_expire hr)
          (fun _ _ hr _ _ => .inr (Pool.beginsNone_expire hr)) hp s
      · simp at hp
  | tick moment | openGate name =>
      obtain rfl := Option.some.inj hp
      exact .of_pools rfl

theorem pools_add (l : Language) (o : Operation) (p : Pipeline) :
    (p.add sv l o).2.pools = p.pools := by
  unfold add
  split <;> rfl

/-- Whatever clients do, the pools stay as they are. -/
theorem pools_call (c : Call) (p : Pipeline) : (p.call sv c).pools = p.pools := by
  cases c with
  | search | searchMore | parse => exact pools_add ..
  | begin n =>
      simp only [call, begin]
      split
      · split <;> rfl
      · rfl
  | cancel n => exact pools_tell n .cancel p
  | takeCursor n =>
      simp only [call, takeCursor]
      split <;> rfl
  | shutDown | parserFor => rfl

/-- **Every act is in the table.** -/
theorem taskStep_act (hp : p.act? sv a = some p') (s : Stage) : TaskStep p s p' := by
  cases a with
  | move m => exact taskStep_move hp s
  | call c =>
      obtain rfl := Option.some.inj hp
      exact .of_pools (pools_call c p)

end Pipeline

end GradedReading
