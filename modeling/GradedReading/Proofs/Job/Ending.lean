import GradedReading.Proofs.Job.Books

/-!
# GradedReading.Proofs.Job.Ending

A job ends once, and its books agree on how.

**Key idea:** after any operations a job is either *under way* or it has *ended* with one outcome.
State, flag, outcome and events all say which, and agree on the outcome. An operation takes a job
that is under way to one or the other, and can do nothing to a job that has ended but note that its
fan-out is done.

The main statement is about any operations in any order from a new job. What it asks of them is only
that nobody enters a stage or announces an event that the end of a job brings by itself.
-/

namespace GradedReading

open Search

/-- The state of a job that ended like this. -/
def JobOutcome.state : JobOutcome → JobState
  | .completed .. => .complete
  | .cancelled => .cancelled
  | .failed _ => .failed

@[simp] theorem JobOutcome.isTerminal_state (o : JobOutcome) : o.state.isTerminal = true := by
  cases o <;> rfl

/-- The states of a job that is under way come before those of a job that is over. -/
theorem JobState.place_lt_of_not_isTerminal {s t : JobState} (hs : s.isTerminal = false)
    (ht : t.isTerminal = true) : s.place < t.place := by
  cases s <;> cases t <;> simp_all [isTerminal, place]

namespace Job

/-- The operation enters no stage and announces no event that only the end of a job brings. -/
def Op.isOrdinary : Op → Bool
  | .enter stage => !stage.isTerminal
  | .announce e => !e.isTerminal
  | _ => true

/-! ### Under way and ended -/

/-- The job is not over, and nothing in its books says otherwise. -/
structure UnderWay (j : Job) : Prop where
  state : j.state.isTerminal = false
  flag : j.flag = false
  outcome : j.outcome = none
  events : ∀ e ∈ j.events, e.isTerminal = false

/-- The job is over, and everything in its books says that it ended like this. -/
structure Ended (o : JobOutcome) (j : Job) : Prop where
  state : j.state = o.state
  flag : j.flag = true ↔ o.state = .cancelled
  outcome : j.outcome = some o
  events : ∃ earlier, j.events = earlier ++ [o.event] ∧ ∀ e ∈ earlier, e.isTerminal = false
  totals : ∀ c k, o = .completed c k → c = j.collection ∧ k = j.failures

theorem underWay_create (kind : JobKind) (l : Language) : UnderWay (create kind l) :=
  ⟨rfl, rfl, rfl, by simp [create]⟩

theorem UnderWay.isLive {j : Job} (h : j.UnderWay) : j.isLive = true := by
  simp [Job.isLive, h.flag, h.state]

theorem Ended.isTerminal {o : JobOutcome} {j : Job} (h : Ended o j) :
    j.state.isTerminal = true := by
  rw [h.state]
  exact o.isTerminal_state

/-- Any change of the books that is not about the end leaves the job under way. -/
theorem UnderWay.of_eq {j j' : Job} (h : j.UnderWay) (hs : j'.state.isTerminal = false)
    (hf : j'.flag = j.flag) (ho : j'.outcome = j.outcome)
    (he : ∀ e ∈ j'.events, e ∈ j.events ∨ e.isTerminal = false) : j'.UnderWay := by
  refine ⟨hs, hf.trans h.flag, ho.trans h.outcome, ?_⟩
  intro e hmem
  rcases he e hmem with hold | hnew
  · exact h.events e hold
  · exact hnew

/-- Only cancelling sets the flag, and it does so before it ends the job. -/
theorem UnderWay.finish {j : Job} (h : j.UnderWay) (o : JobOutcome) (flag : Bool)
    (hflag : flag = true ↔ o.state = .cancelled)
    (htotals : ∀ c k, o = .completed c k → c = j.collection ∧ k = j.failures) :
    Ended o (({ j with flag := flag } : Job).finish o.state o) :=
  ⟨rfl, hflag, rfl, ⟨j.events, rfl, h.events⟩, htotals⟩

theorem UnderWay.tryFinish {j : Job} (h : j.UnderWay) :
    j.tryFinish.UnderWay ∨ ∃ o, Ended o j.tryFinish := by
  unfold Job.tryFinish
  split
  · refine Or.inr ⟨.completed j.collection j.failures, ?_⟩
    have hfin := h.finish (.completed j.collection j.failures) j.flag
      (by simp [h.flag, JobOutcome.state]) (by simp_all)
    exact hfin
  · exact Or.inl h

/-! ### One operation -/

theorem Op.isTerminal_moves {op : Op} (hop : op.isOrdinary = true) {s : JobState}
    (hs : s.isTerminal = false) : (op.moves s).isTerminal = false := by
  cases op with
  | enter stage =>
      have hstage : stage.isTerminal = false := by simpa [isOrdinary] using hop
      simp only [moves]
      split
      · exact hstage
      · exact hs
  | _ => exact hs

theorem Op.isTerminal_reports {op : Op} (hop : op.isOrdinary = true) (l : Language) :
    ∀ e ∈ op.reports l, e.isTerminal = false := by
  intro e he
  cases op with
  | announce e' =>
      obtain rfl := List.mem_singleton.1 he
      simpa [isOrdinary] using hop
  | crawlComplete r extracted =>
      obtain rfl := List.mem_singleton.1 he
      rfl
  | parseComplete d =>
      by_cases hl : d.language = l
      · obtain rfl : e = .parsed d := by simpa [reports, hl] using he
        rfl
      · simp [reports, hl] at he
  | _ => simp [reports] at he

/-- What an ordinary operation records is not about the end. -/
theorem UnderWay.record {j : Job} (h : j.UnderWay) {op : Op} (hop : op.isOrdinary = true) :
    (op.record j).UnderWay := by
  refine h.of_eq (Op.isTerminal_moves hop h.state) rfl rfl fun e he => ?_
  rcases List.mem_append.1 he with hold | hnew
  · exact Or.inl hold
  · exact Or.inr (Op.isTerminal_reports hop _ e hnew)

theorem UnderWay.close {j : Job} (h : j.UnderWay) (op : Op) :
    (op.close j).UnderWay ∨ ∃ o, Ended o (op.close j) := by
  cases op with
  | finishFanOut | parseComplete d | settleFailed => exact h.tryFinish
  | crawlComplete r extracted =>
      cases extracted with
      | true => exact Or.inl h
      | false => exact h.tryFinish
  | fail e =>
      have hfin := h.finish (.failed e) j.flag
        (by simp [h.flag, JobOutcome.state]) (by simp)
      exact Or.inr ⟨_, hfin⟩
  | cancel =>
      have hfin := h.finish .cancelled true
        (by simp [JobOutcome.state]) (by simp)
      exact Or.inr ⟨_, hfin⟩
  | enter stage | announce e | reserve n => exact Or.inl h

/-- An operation on a job that is under way leaves it under way or ends it. -/
theorem UnderWay.apply {j : Job} (h : j.UnderWay) {op : Op} (hop : op.isOrdinary = true) :
    (j.apply op).2.UnderWay ∨ ∃ o, Ended o (j.apply op).2 := by
  rw [apply_of_isLive h.isLive]
  exact (h.record hop).close op

/-! ### The order of states -/

theorem place_le_finish {j j' : Job} {s : JobState} {o : JobOutcome} (hj : j'.state = j.state)
    (hopen : j.state.isTerminal = false) (hs : s.isTerminal = true) :
    j.state.place ≤ (j'.finish s o).state.place := by
  have hlt : j'.state.place < s.place := JobState.place_lt_of_not_isTerminal (hj ▸ hopen) hs
  rw [← hj]
  exact Nat.le_of_lt hlt

theorem place_le_tryFinish {j j' : Job} (hj : j'.state = j.state)
    (hopen : j.state.isTerminal = false) : j.state.place ≤ j'.tryFinish.state.place := by
  unfold tryFinish
  split
  · exact place_le_finish hj hopen rfl
  · exact Nat.le_of_eq (by rw [hj])

theorem place_le_close {j j' : Job} (hj : j'.state = j.state)
    (hopen : j.state.isTerminal = false) (op : Op) :
    j.state.place ≤ (op.close j').state.place := by
  have hsame : j.state.place ≤ j'.state.place := Nat.le_of_eq (by rw [hj])
  cases op with
  | finishFanOut | parseComplete d | settleFailed => exact place_le_tryFinish hj hopen
  | crawlComplete r extracted =>
      cases extracted with
      | true => exact hsame
      | false => exact place_le_tryFinish hj hopen
  | fail e | cancel => exact place_le_finish hj hopen rfl
  | enter stage | announce e | reserve n => exact hsame

/-- States only move forward. -/
theorem place_le_apply (j : Job) (op : Op) : j.state.place ≤ (j.apply op).2.state.place := by
  rcases hlive : j.isLive with _ | _
  · by_cases hop : op = .cancel
    · subst hop
      simp only [Job.apply, cancel]
      split
      · exact Nat.le_refl _
      · -- a job that is flagged and not over can still be cancelled
        next hopen => exact place_le_finish rfl (by simpa using hopen) rfl
    · exact Nat.le_of_eq (by rw [(apply_of_not_isLive hlive hop).2])
  · have hopen := not_isTerminal_of_isLive hlive
    rw [apply_of_isLive hlive]
    cases op with
    | enter stage =>
        simp only [Op.close, Op.record, Op.moves, id]
        split
        · next hlt => exact Nat.le_of_lt hlt
        · exact Nat.le_refl _
    | _ =>
        refine place_le_close ?_ hopen _
        rfl

/-! ### Any operations -/

@[simp] theorem applyAll_cons (op : Op) (ops : List Op) (j : Job) :
    applyAll (op :: ops) j = applyAll ops (j.apply op).2 := rfl

theorem place_le_applyAll (ops : List Op) (j : Job) :
    j.state.place ≤ (applyAll ops j).state.place := by
  -- the next operation finds the job where the last one left it
  induction ops generalizing j with
  | nil => exact Nat.le_refl _
  | cons op ops ih => exact Nat.le_trans (place_le_apply j op) (ih (j.apply op).2)

/-- Nothing that is done to a job that is over changes more than whether its fan-out is done. -/
theorem applyAll_of_isTerminal {j : Job} (h : j.state.isTerminal = true) (ops : List Op) :
    applyAll ops j = { j with fanOutDone := (applyAll ops j).fanOutDone } := by
  -- what an operation leaves of a job that is over is over, and the same but for the fan-out
  induction ops generalizing j with
  | nil => rfl
  | cons op ops ih =>
      have hstep := (apply_of_isTerminal h op).2
      have hover : (j.apply op).2.state.isTerminal = true := by rw [hstep]; exact h
      rw [applyAll_cons, ih hover, hstep]

theorem Ended.apply {o : JobOutcome} {j : Job} (h : Ended o j) (op : Op) :
    Ended o (j.apply op).2 := by
  rw [(apply_of_isTerminal h.isTerminal op).2]
  exact ⟨h.state, h.flag, h.outcome, h.events, h.totals⟩

/-- After ordinary operations a job is under way, or it has ended with one outcome. -/
theorem underWay_or_ended_applyAll {j : Job} (hj : j.UnderWay ∨ ∃ o, Ended o j) {ops : List Op}
    (hops : ∀ op ∈ ops, op.isOrdinary = true) :
    (applyAll ops j).UnderWay ∨ ∃ o, Ended o (applyAll ops j) := by
  -- the job is under way until one operation ends it
  induction ops generalizing j with
  | nil => exact hj
  | cons op ops ih =>
      have hop : op.isOrdinary = true := hops op (List.mem_cons_self ..)
      refine ih ?_ fun op' hmem => hops op' (List.mem_cons_of_mem _ hmem)
      rcases hj with hway | ⟨o, hend⟩
      · exact hway.apply hop
      · exact Or.inr ⟨o, hend.apply op⟩

/-- Of all that is done to a job, only a failure makes it fail. -/
theorem failed_of_apply {j : Job} {op : Op} {e : OperationError}
    (h : (j.apply op).2.outcome = some (.failed e)) : j.outcome = some (.failed e) ∨ op = .fail e := by
  -- a job that may be complete is completed, or left alone
  have htry : ∀ op : Op, (op.record j).tryFinish.outcome = some (.failed e) →
      j.outcome = some (.failed e) := by
    intro op hop
    unfold tryFinish at hop
    split at hop
    · simp [finish] at hop
    · exact hop
  rcases hlive : j.isLive with _ | _
  · by_cases hop : op = .cancel
    · subst hop
      simp only [apply, cancel] at h
      split at h
      · exact .inl h
      · simp [finish] at h
    · rw [(apply_of_not_isLive hlive hop).2] at h
      exact .inl h
  · rw [apply_of_isLive hlive] at h
    cases op with
    | fail e' =>
        obtain rfl : e' = e := by simpa [Op.close, finish] using h
        exact .inr rfl
    | cancel => simp [Op.close, finish] at h
    | finishFanOut | parseComplete d | settleFailed => exact .inl (htry _ h)
    | crawlComplete r extracted =>
        cases extracted with
        | true => exact .inl h
        | false => exact .inl (htry _ h)
    | enter stage | announce e' | reserve k => exact .inl h

/-! ### The main statement -/

/-- The job ends at most once, and its books agree on whether and how. -/
structure EndsOnce (j : Job) : Prop where
  /-- State and outcome agree on whether the job is over. -/
  state_iff : j.state.isTerminal = true ↔ j.outcome.isSome = true
  /-- Outcome and events agree on whether the job is over. -/
  events_iff : j.outcome.isSome = true ↔ ∃ e ∈ j.events, e.isTerminal = true
  /-- State, outcome and events agree on how the job ended: the event that tells of the outcome is
  the last one, and the only one that is terminal. -/
  agree : ∀ o, j.outcome = some o → j.state = o.state ∧
    ∃ earlier, j.events = earlier ++ [o.event] ∧ ∀ e ∈ earlier, e.isTerminal = false
  /-- A job that is complete reports what it has collected and lost. -/
  totals : ∀ c k, j.outcome = some (.completed c k) → c = j.collection ∧ k = j.failures
  flag_iff : j.flag = true ↔ j.state = .cancelled
  /-- Whatever is done once the job is over is answered with no, and changes nothing. -/
  stays : j.state.isTerminal = true → ∀ ops op, ((applyAll ops j).apply op).1 = false ∧
    (applyAll ops j).state = j.state ∧ (applyAll ops j).outcome = j.outcome ∧
    (applyAll ops j).events = j.events ∧ (applyAll ops j).collection = j.collection ∧
    (applyAll ops j).failures = j.failures
  /-- The state never moves backwards. -/
  forward : ∀ ops, j.state.place ≤ (applyAll ops j).state.place

theorem stays_of_isTerminal {j : Job} (h : j.state.isTerminal = true) (ops : List Op) (op : Op) :
    ((applyAll ops j).apply op).1 = false ∧
    (applyAll ops j).state = j.state ∧ (applyAll ops j).outcome = j.outcome ∧
    (applyAll ops j).events = j.events ∧ (applyAll ops j).collection = j.collection ∧
    (applyAll ops j).failures = j.failures := by
  have hrun := applyAll_of_isTerminal h ops
  have hover : (applyAll ops j).state.isTerminal = true := by rw [hrun]; exact h
  refine ⟨(apply_of_isTerminal hover op).1, ?_⟩
  rw [hrun]
  exact ⟨rfl, rfl, rfl, rfl, rfl⟩

theorem UnderWay.endsOnce {j : Job} (h : j.UnderWay) : EndsOnce j where
  state_iff := by simp [h.state, h.outcome]
  events_iff := by
    simp only [h.outcome, Option.isSome_none, Bool.false_eq_true, false_iff, not_exists, not_and]
    intro e hmem
    simp [h.events e hmem]
  agree o ho := absurd ho (by simp [h.outcome])
  totals c k ho := absurd ho (by simp [h.outcome])
  flag_iff := by
    have hstate : j.state ≠ .cancelled := by
      intro hc
      simpa [hc, JobState.isTerminal] using h.state
    simp [h.flag, hstate]
  stays hover := absurd hover (by simp [h.state])
  forward ops := place_le_applyAll ops j

theorem Ended.endsOnce {o : JobOutcome} {j : Job} (h : Ended o j) : EndsOnce j where
  state_iff := by simp [h.isTerminal, h.outcome]
  events_iff := by
    obtain ⟨earlier, hevents, -⟩ := h.events
    simp only [h.outcome, Option.isSome_some, true_iff]
    exact ⟨o.event, by simp [hevents], o.isTerminal_event⟩
  agree o' ho' := by
    obtain rfl : o = o' := by simpa [h.outcome] using ho'
    exact ⟨h.state, h.events⟩
  totals c k ho := h.totals c k (by simpa [h.outcome] using ho)
  flag_iff := by rw [h.flag, h.state]
  stays hover := stays_of_isTerminal hover
  forward ops := place_le_applyAll ops j

/-- **A job ends once.** After any ordinary operations on a new job, in any order, its state, flag,
outcome and events agree on whether and how it ended, and what has ended stays as it is. -/
theorem endsOnce_applyAll (kind : JobKind) (l : Language) (ops : List Op)
    (hops : ∀ op ∈ ops, op.isOrdinary = true) : EndsOnce (applyAll ops (create kind l)) := by
  rcases underWay_or_ended_applyAll (Or.inl (underWay_create kind l)) hops with hway | ⟨o, hend⟩
  · exact hway.endsOnce
  · exact hend.endsOnce

/-- The last slot is settled after the fan-out, which completes the job, and cancelling comes too
late. -/
theorem endsOnce_cancel_late :
    let ops : List Op := [.reserve 1, .finishFanOut, .settleFailed, .cancel]
    let before := applyAll (ops.take 3) (create .parseSources .german)
    (∀ op ∈ ops, op.isOrdinary = true) ∧
      before.outcome = some (.completed (.empty .german) 1) ∧ (before.apply .cancel).1 = false ∧
      (applyAll ops (create .parseSources .german)).state = .complete ∧
      (applyAll ops (create .parseSources .german)).events = before.events ∧
      EndsOnce (applyAll ops (create .parseSources .german)) :=
  ⟨by decide, rfl, rfl, rfl, rfl, endsOnce_applyAll _ _ _ (by decide)⟩

end Job

end GradedReading
