import GradedReading.Proofs.Pipeline.Harvest
import GradedReading.Proofs.Pipeline.Work

/-!
# GradedReading.Proofs.Pipeline.Silence

After an operation was cancelled.

**Key idea:** cancelling ends the job and sets its flag for good. So the job reports that it was
cancelled and then nothing, whatever is still under way. Scripts that were not done may hand more
tasks to the pools, but whoever takes a task looks at the flag before its body begins. A task whose
body has not begun by the time of the call never begins it.

An operation that was never begun has no tasks at all, since only its own scripts make them.
-/

namespace GradedReading

open Instr

/-! ### Operations that were not begun -/

namespace Course

variable {sv : Services} {n : Nat} {c c' : Course}

/-- What was begun stays begun. -/
theorem Step.begun (h : Step sv n c c') (hbegun : c.begun = true) : c'.begun = true := by
  cases h with
  | begin => rfl
  | cancel | tell | accept | refuse | settle => exact hbegun

/-- The operation was begun, or its job has not changed unless it is over. -/
def Untouched (c : Course) : Prop :=
  c.begun = false → (∃ kind l, c.job = .create kind l) ∨ c.job.isLive = false

theorem IsNew.untouched (h : c.IsNew) : c.Untouched := fun _ => .inl h.job

/-- Before it is begun, nothing happens to an operation but that it is cancelled. -/
theorem Tidy.untouched_step (ht : c.Tidy) (hstep : Step sv n c c') : c'.Untouched := by
  intro hnot
  cases hstep with
  | begin => simp at hnot
  | cancel => exact .inr (Job.isLive_cancel c.job)
  | tell he | accept he | refuse he | settle he => simp [ht.begun he] at hnot

end Course

namespace Pipeline

variable {sv : Services} {p p' : Pipeline} {a : Act} {s : Stage} {i n : Nat}

/-- The operation with this number was begun. -/
def hasBegun (n : Nat) (p : Pipeline) : Bool := p.operations[n]?.any (·.begun)

theorem hasBegun_iff : p.hasBegun n = true ↔ ∃ c, p.course? n = some c ∧ c.begun = true := by
  simp only [hasBegun, course?, Option.any_eq_true, Option.map_eq_some_iff]
  constructor
  · rintro ⟨o, ho, hbegun⟩
    exact ⟨_, ⟨o, ho, rfl⟩, hbegun⟩
  · rintro ⟨_, ⟨o, ho, rfl⟩, hbegun⟩
    exact ⟨o, ho, hbegun⟩

theorem Fine.hasBegun_act (h : p.Fine sv) (hp : p.act? sv a = some p')
    (hbegun : p.hasBegun n = true) : p'.hasBegun n = true := by
  obtain ⟨c, hc, hbegun⟩ := hasBegun_iff.1 hbegun
  have hfollows : Follows sv False p p' := follows_act h.sound (fun hf => hf.elim) hp
  obtain ⟨c', hc', hchange⟩ := hfollows.step n c hc
  refine hasBegun_iff.2 ⟨c', hc', ?_⟩
  rcases hchange with rfl | hstep
  · exact hbegun
  · exact hstep.begun hbegun

/-- An operation that somebody works through a script for was begun. -/
theorem Fine.hasBegun_of_script (h : p.Fine sv) {x : Script} (hx : x ∈ p.scripts) {j : Instr}
    (hj : j ∈ x.rest) (hop : j.operation? = some n) : p.hasBegun n = true := by
  obtain ⟨k, hk, hlt⟩ := (h.sound.scripts x hx).about
  obtain rfl : k = some n := (hk j hj).symm.trans hop
  obtain ⟨i, rest, hrest⟩ := List.exists_cons_of_ne_nil (List.ne_nil_of_mem hj)
  have hc := course?_of_eq (List.getElem?_eq_getElem (hlt n rfl)) rfl
  obtain ⟨others, hothers⟩ := Multiset.exists_cons_of_mem
    (mem_agenda_of_script hx hrest (hk i (hrest ▸ List.mem_cons_self ..)))
  exact hasBegun_iff.2 ⟨_, hc, (h.tidy n _ hc).begun hothers⟩

/-- The operation of every task was begun. -/
def TasksBegun (p : Pipeline) : Prop :=
  ∀ s, ∀ t ∈ (p.pools.get s).tasks, p.hasBegun (s.operationOf t.task) = true

theorem TasksBegun.act (h : p.TasksBegun) (hfine : p.Fine sv) (hp : p.act? sv a = some p') :
    p'.TasksBegun := by
  intro s t' ht'
  refine hfine.hasBegun_act hp ?_
  -- all but the task that changed were there before
  have hset : ∀ {i t u}, (p.pools.get s).tasks[i]? = some t →
      (p'.pools.get s).tasks = (p.pools.get s).tasks.set i u →
      s.operationOf u.task = s.operationOf t.task →
      p.hasBegun (s.operationOf t'.task) = true := by
    intro i t u ht htasks hop
    rw [htasks] at ht'
    rcases List.mem_or_eq_of_mem_set ht' with hold | rfl
    · exact h s t' hold
    · exact hop ▸ h s t (List.mem_of_getElem? ht)
  cases taskStep_act hp s with
  | rest htasks => exact h s t' (htasks ▸ ht')
  | submit hx hu htasks =>
      rw [htasks] at ht'
      rcases List.mem_append.1 ht' with hold | hnew
      · exact h s t' hold
      · rw [List.mem_singleton.1 hnew]
        exact hfine.hasBegun_of_script hx hu rfl
  | turn ht _ htasks => exact hset ht htasks rfl
  | goOn ht _ hop htasks => exact hset ht htasks hop

/-- A pipeline in which nothing was done for operations that were not begun. -/
structure Proper (sv : Services) (p : Pipeline) : Prop extends Fine sv p where
  begun : p.TasksBegun
  untouched : ∀ n c, p.course? n = some c → c.Untouched

theorem proper_ofSettings (sv : Services) (settings : Settings) :
    (ofSettings settings).Proper sv where
  toFine := fine_ofSettings sv settings
  begun s t ht := by
    cases s <;> simp [ofSettings, Pools.ofSettings, Pools.get, Pool.ofSize] at ht
  untouched n c hc := by simp [course?, ofSettings] at hc

theorem Proper.act (h : p.Proper sv) (hp : p.act? sv a = some p') : p'.Proper sv where
  toFine := h.toFine.reaches (.of_act hp)
  begun := h.begun.act h.toFine hp
  untouched n c hc := by
    have hfollows : Follows sv False p p' := follows_act h.sound (fun hf => hf.elim) hp
    rcases hbefore : p.course? n with _ | c₀
    · exact (hfollows.new n c hbefore hc).untouched
    · obtain ⟨c', hc', hchange⟩ := hfollows.step n c₀ hbefore
      obtain rfl : c' = c := Option.some.inj (hc'.symm.trans hc)
      rcases hchange with rfl | hstep
      · exact h.untouched n _ hbefore
      · exact (h.tidy n c₀ hbefore).untouched_step hstep

theorem Proper.run (h : p.Proper sv) {acts : List Act} (hrun : p.run? sv acts = some p') :
    p'.Proper sv :=
  run_induction (I := Proper sv) (fun hp h => h.act hp) h hrun

/-! ### Tasks that do not run -/

/-- If the task at a place is one of the operation, its body does not run and has not ended. -/
def IsIdleAt (n : Nat) (s : Stage) (i : Nat) (p : Pipeline) : Prop :=
  ∀ t, (p.pools.get s).tasks[i]? = some t → s.operationOf t.task = n → t.phase.isBegun = false

/-- A body that does not run goes on to nothing. -/
theorem body_of_not_isBegun {t : PoolTask s.Task s.Yield} (ht : (p.pools.get s).tasks[i]? = some t)
    (h : t.phase.isBegun = false) : p.move? sv (.body s i) = none := by
  simp only [move?, body, ht, Option.bind_eq_bind, Option.bind_some]
  split
  · next d hrun => simp [hrun, Phase.isBegun] at h
  · rfl

/-- No task of an operation that was cancelled begins its body. -/
theorem IsIdleAt.act (h : p.IsIdleAt n s i) (hflag : p.isFlagged n = true)
    (hp : p.act? sv a = some p') : p'.IsIdleAt n s i := by
  intro t' ht' hop'
  -- a change of one task leaves the others as they are
  have hset : ∀ {k t u}, (p.pools.get s).tasks[k]? = some t →
      (p'.pools.get s).tasks = (p.pools.get s).tasks.set k u →
      (i = k → t' = u → t'.phase.isBegun = false) → t'.phase.isBegun = false := by
    intro k t u ht htasks hchanged
    have hk := (List.getElem?_eq_some_iff.1 ht).1
    by_cases hik : i = k
    · subst hik
      refine hchanged rfl ?_
      simpa [htasks, hk, eq_comm] using ht'
    · rw [htasks, List.getElem?_set_ne (Ne.symm hik)] at ht'
      exact h t' ht' hop'
  cases taskStep_act hp s with
  | rest htasks => exact h t' (htasks ▸ ht') hop'
  | submit _ _ htasks =>
      rw [htasks] at ht'
      by_cases hi : i < (p.pools.get s).tasks.length
      · rw [List.getElem?_append_left hi] at ht'
        exact h t' ht' hop'
      · rw [List.getElem?_append_right (Nat.le_of_not_lt hi)] at ht'
        rw [List.mem_singleton.1 (List.mem_of_getElem? ht')]
        rfl
  | @turn k t phase offer ht hopen htasks =>
      refine hset ht htasks ?_
      rintro rfl rfl
      have hop : s.operationOf t.task = n := hop'
      refine Bool.eq_false_iff.2 fun hbegun => ?_
      rcases hopen hbegun with hbefore | hfree
      · simp [h t ht hop] at hbefore
      · simp [hop, hflag] at hfree
  | @goOn k t u d ht hrun hop htasks =>
      refine hset ht htasks ?_
      rintro rfl rfl
      have hidle := h t ht (hop ▸ hop')
      simp [hrun, Phase.isBegun] at hidle

/-- The flag of an operation is set for good. -/
theorem Fine.isFlagged_reaches (h : p.Fine sv) (hp : Reaches sv p p')
    (hflag : p.isFlagged n = true) : p'.isFlagged n = true := by
  obtain ⟨j, hj, hset⟩ := (Option.any_eq_true ..).1 hflag
  obtain ⟨ops, hops⟩ := h.job?_reaches hp hj
  rw [isFlagged, hops, Option.any_some]
  rcases h.ending hj with hway | ⟨o, hend⟩
  · simp [hway.flag] at hset
  · rw [Job.applyAll_of_isTerminal hend.isTerminal]
    exact hset

theorem IsIdleAt.run (h : p.IsIdleAt n s i) (hfine : p.Fine sv) (hflag : p.isFlagged n = true)
    {acts : List Act} (hrun : p.run? sv acts = some p') : p'.IsIdleAt n s i := by
  -- the flag stays set, and as long as it is the body does not begin
  have hkept : p'.Fine sv ∧ p'.isFlagged n = true ∧ p'.IsIdleAt n s i := by
    refine run_induction (I := fun p => p.Fine sv ∧ p.isFlagged n = true ∧ p.IsIdleAt n s i)
      ?_ ⟨hfine, hflag, h⟩ hrun
    rintro p a p' hp ⟨hfine, hflag, hidle⟩
    exact ⟨hfine.reaches (.of_act hp), hfine.isFlagged_reaches (.of_act hp) hflag,
      hidle.act hflag hp⟩
  exact hkept.2.2

/-! ### The job -/

/-- Only what is there and not over is cancelled. -/
theorem cancel_eq_true (h : (p.cancel n).1 = true) :
    ∃ o, p.operations[n]? = some o ∧ o.job.state.isTerminal = false := by
  rcases ho : p.operations[n]? with _ | o
  · simp [cancel, tell, job?, ho] at h
  · rw [cancel, tell_eq ho] at h
    refine ⟨o, rfl, ?_⟩
    rcases hterminal : o.job.state.isTerminal with _ | _
    · rfl
    · simp [Job.apply, Job.cancel, hterminal] at h

end Pipeline

/-- A job that is cancelled reports this as the last thing. -/
theorem Job.apply_cancel {j : Job} (h : j.state.isTerminal = false) :
    (j.apply .cancel).2 = { j with
      flag := true, state := .cancelled, outcome := some .cancelled
      events := j.events ++ [.cancelled] } := by
  simp [apply, cancel, h, finish, report, JobOutcome.event]

namespace Pipeline

variable {sv : Services} {p p' : Pipeline} {s : Stage} {i n : Nat}

/-- If the task at a place is one of the operation, its body does not run, and makes no step. -/
def KeepsStill (sv : Services) (n : Nat) (s : Stage) (i : Nat) (p : Pipeline) : Prop :=
  p.IsIdleAt n s i ∧ ∀ t, (p.pools.get s).tasks[i]? = some t → s.operationOf t.task = n →
    p.move? sv (.body s i) = none

theorem job?_cancel {o : Operation} (ho : p.operations[n]? = some o)
    (hopen : o.job.state.isTerminal = false) :
    (p.cancel n).2.job? n = some { o.job with
      flag := true, state := .cancelled, outcome := some .cancelled
      events := o.job.events ++ [.cancelled] } := by
  rw [cancel, tell_eq ho, job?, getElem?_modifyOperation ho, if_pos rfl, Option.map_some,
    Job.apply_cancel hopen]

/-- A job that was cancelled reports this and nothing else, and this is how its operation ends. -/
theorem Fine.job_of_cancel (h : p.Fine sv) (hcancel : (p.cancel n).1 = true)
    (hp : Reaches sv (p.cancel n).2 p') : ∃ o o', p.operations[n]? = some o ∧ o.job.UnderWay ∧
      p'.operations[n]? = some o' ∧ o'.job.events = o.job.events ++ [.cancelled] ∧
      o'.outcome = .ok (some .cancelled) := by
  obtain ⟨o, ho, hopen⟩ := cancel_eq_true hcancel
  have hway : o.job.UnderWay := by
    refine (h.ending (job?_eq_some.2 ⟨o, ho, rfl⟩)).resolve_right fun ⟨_, hend⟩ => ?_
    simp [hend.isTerminal] at hopen
  -- what is done to the job from now on changes nothing that can be seen
  have h₁ : (p.cancel n).2.Fine sv := h.reaches (.call sv p (.cancel n))
  obtain ⟨ops, hops⟩ := h₁.job?_reaches hp (job?_cancel ho hopen)
  rw [Job.applyAll_of_isTerminal rfl] at hops
  obtain ⟨o', ho', hjob⟩ := job?_eq_some.1 hops
  exact ⟨o, o', ho, hway, ho', by rw [hjob], by simp [Operation.outcome, hjob]⟩

/-- A task that does not run when its operation is cancelled never runs. -/
theorem Fine.keepsStill_of_cancel (h : p.Fine sv) (hcancel : (p.cancel n).1 = true)
    {acts : List Act} (hrun : (p.cancel n).2.run? sv acts = some p') (hidle : p.IsIdleAt n s i) :
    p'.KeepsStill sv n s i := by
  obtain ⟨o, ho, hopen⟩ := cancel_eq_true hcancel
  have hflag : (p.cancel n).2.isFlagged n = true := by
    rw [isFlagged, job?_cancel ho hopen, Option.any_some]
  have hidle₁ : (p.cancel n).2.IsIdleAt n s i := by
    rw [IsIdleAt, cancel, pools_tell]
    exact hidle
  have hstill := hidle₁.run (h.reaches (.call sv p (.cancel n))) hflag hrun
  exact ⟨hstill, fun t ht hop => body_of_not_isBegun ht (hstill t ht hop)⟩

/-- An operation that was neither begun nor cancelled has reported nothing. -/
theorem Proper.events_eq_nil (h : p.Proper sv) (hnot : p.hasBegun n = false) {o : Operation}
    (ho : p.operations[n]? = some o) (hway : o.job.UnderWay) : o.job.events = [] := by
  have hbegun : (Course.of (p.share n) o).begun = false := by
    simpa [hasBegun, ho, Course.of] using hnot
  have huntouched := h.untouched n _ (course?_of_eq ho rfl) hbegun
  obtain ⟨kind, l, hnew⟩ := huntouched.resolve_right (by simp [Course.of, hway.isLive])
  exact congrArg Job.events hnew

/-- The second pipeline comes from the first, in which the operation was cancelled. Nothing is heard
of it any more. -/
structure Silenced (sv : Services) (n : Nat) (p p' : Pipeline) : Prop where
  /-- The job reports that it was cancelled and nothing else, and this is how it ended. -/
  job : ∃ o o', p.operations[n]? = some o ∧ p'.operations[n]? = some o' ∧
    (∀ e ∈ o.job.events, e.isTerminal = false) ∧
    o'.job.events = o.job.events ++ [.cancelled] ∧ o'.outcome = .ok (some .cancelled)
  /-- No task runs that was not begun by then, or not there. -/
  idle : ∀ s i, (∀ t, (p.pools.get s).tasks[i]? = some t → t.phase.isAhead = true) →
    p'.KeepsStill sv n s i
  /-- If the operation was not begun, it has reported nothing else, there was no task of it, and
  none runs. -/
  unbegun : p.hasBegun n = false →
    (p'.job? n).map (·.events) = some [.cancelled] ∧
    (∀ s, ∀ t ∈ (p.pools.get s).tasks, s.operationOf t.task ≠ n) ∧
    ∀ s i, p'.KeepsStill sv n s i

/-- **After an operation was cancelled, nothing is heard of it.** Whatever calls and moves a
pipeline went through, and whatever happens after a call that cancels an operation. -/
theorem silenced_of_cancel (sv : Services) (settings : Settings) (before : List Act)
    (hbefore : (ofSettings settings).run? sv before = some p) (hcancel : (p.cancel n).1 = true)
    (after : List Act) (hafter : (p.cancel n).2.run? sv after = some p') :
    Silenced sv n p p' := by
  have h := (proper_ofSettings sv settings).run hbefore
  obtain ⟨o, o', ho, hway, ho', hevents, hout⟩ := h.job_of_cancel hcancel ⟨after, hafter⟩
  refine ⟨⟨o, o', ho, ho', hway.events, hevents, hout⟩, fun s i hahead => ?_, fun hnot => ?_⟩
  · exact h.keepsStill_of_cancel hcancel hafter fun t ht _ =>
      Phase.isBegun_of_isAhead (hahead t ht)
  · have hnone : ∀ s, ∀ t ∈ (p.pools.get s).tasks, s.operationOf t.task ≠ n := by
      rintro s t ht rfl
      simp [h.begun s t ht] at hnot
    refine ⟨?_, hnone, fun s i => h.keepsStill_of_cancel hcancel hafter fun t ht hop => ?_⟩
    · rw [job?, ho', Option.map_some, Option.map_some, hevents, h.events_eq_nil hnot ho hway,
        List.nil_append]
    · exact absurd hop (hnone s t (List.mem_of_getElem? ht))

/-- Two sources are to be parsed. A worker has taken the first and has not looked at its flag. -/
def halfway : List Act :=
  [.call (.parse .german [default, default] default), .call (.begin 0)] ++ advances 4 ++
    [.move (.take .parse), .move (.look .parse 0)]

/-- The script hands the other one to the pool, and a worker takes both. -/
def heedless : List Act :=
  advances 2 ++ [.move (.start .parse 0), .move (.advance 0), .move (.letGo .parse 0),
    .move (.take .parse), .move (.look .parse 1), .move (.start .parse 1), .move (.advance 0),
    .move (.letGo .parse 1)]

/-- If the operation is cancelled halfway, neither is parsed. -/
theorem silenced_halfway : ∃ p p',
    (ofSettings (.standard 1)).run? fruitful halfway = some p ∧ (p.cancel 0).1 = true ∧
      p.pools.parse.tasks.length = 1 ∧ (p.cancel 0).2.run? fruitful heedless = some p' ∧
      p'.pools.parse.tasks.length = 2 ∧ p'.pools.parse.isQuiet = true ∧
      Silenced fruitful 0 p p' := by
  have hend : ((ofSettings (.standard 1)).run? fruitful halfway).any (fun p =>
      (p.cancel 0).1 && p.pools.parse.tasks.length == 1 &&
        ((p.cancel 0).2.run? fruitful heedless).any fun p' =>
          p'.pools.parse.tasks.length == 2 && p'.pools.parse.isQuiet) = true := by decide +kernel
  obtain ⟨p, hbefore, hend⟩ := (Option.any_eq_true ..).1 hend
  simp only [Bool.and_eq_true, beq_iff_eq, Option.any_eq_true] at hend
  obtain ⟨⟨hcancel, hone⟩, p', hafter, htwo, hrest⟩ := hend
  exact ⟨p, p', hbefore, hcancel, hone, hafter, htwo, hrest,
    silenced_of_cancel fruitful _ _ hbefore hcancel _ hafter⟩

end Pipeline

end GradedReading
