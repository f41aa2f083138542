import GradedReading.Pool.Basic

/-!
# GradedReading.Proofs.Pool.Life

What one step of a pool does to the task it concerns.

**Key idea:** every step moves one task from one phase to another and may offer it an outcome, which
the task accepts if it has none. `Phase.Turn` is the table of what can happen. There is one
statement for each step, which finds the step in the table; later proofs go through the table and
never open a step again.
-/

namespace GradedReading

variable {τ ρ : Type}

/-- What can happen to a task in a phase: the phase it goes to, and the outcome it is offered.
`flagged` means that somebody cancelled the task, and `untold` that the clock cannot tell its
deadline. -/
inductive Phase.Turn (flagged untold : Prop) :
    Phase ρ → Phase ρ → Option (TaskOutcome ρ) → Prop
  | take : Turn flagged untold .queued .taken none
  | clear : Turn flagged untold .taken .cleared none
  | giveUp (e : TaskError) (h : ∃ s, e = .poolClosed s) :
      Turn flagged untold .taken .settling (some (.failed e))
  | discard (h : flagged) : Turn flagged untold .cleared .settling (some .discarded)
  | run (d : Option Moment) : Turn flagged untold .cleared (.running d) none
  | lose (h : untold) : Turn flagged untold .cleared .lost none
  | settle (d : Option Moment) (o : TaskOutcome ρ) :
      Turn flagged untold (.returned d o) .settling (some o)
  | letGo : Turn flagged untold .settling .done none
  /-- The body may still run, and goes on. -/
  | expire (phase : Phase ρ) (e : TaskError) (h : phase.deadline?.isSome = true)
      (hlate : ∃ d, e = .timedOut d) :
      Turn flagged untold phase phase (some (.failed e))

namespace PoolTask

/-- The task in another phase, after an outcome was offered to it. -/
def turn (phase : Phase ρ) (offer : Option (TaskOutcome ρ)) (t : PoolTask τ ρ) : PoolTask τ ρ :=
  { t with phase, outcome := t.outcome.or offer }

/-- The offer, if the task accepts it. -/
def accepted (offer : Option (TaskOutcome ρ)) (t : PoolTask τ ρ) : Option (TaskOutcome ρ) :=
  if t.outcome.isNone then offer else none

/-- A task that accepts nothing keeps its outcome. -/
theorem outcome_turn_of_none {phase : Phase ρ} {offer : Option (TaskOutcome ρ)}
    {t : PoolTask τ ρ} (h : t.accepted offer = none) :
    (t.turn phase offer).outcome = t.outcome := by
  rcases hout : t.outcome with _ | o
  · have hoffer : offer = none := by simpa [accepted, hout] using h
    simp [turn, hout, hoffer]
  · simp [turn, hout]

/-- A task accepts an offer if it has no outcome yet, and then it has this one. -/
theorem outcome_turn_of_some (phase : Phase ρ) {offer : Option (TaskOutcome ρ)}
    {t : PoolTask τ ρ} {o : TaskOutcome ρ} (h : t.accepted offer = some o) :
    offer = some o ∧ t.outcome = none ∧ (t.turn phase offer).outcome = some o := by
  rcases hout : t.outcome with _ | o'
  · have hoffer : offer = some o := by simpa [accepted, hout] using h
    simp [turn, hout, hoffer]
  · simp [accepted, hout] at h

end PoolTask

namespace Pool

variable {p p' : Pool τ ρ} {i : Nat} {t : PoolTask τ ρ} {a : Option (TaskOutcome ρ)}

/-- The task at a place takes a turn, and nothing else happens to any task. The answer is the
outcome that it accepts. -/
def Turns (flagged untold : Prop) (i : Nat) (p : Pool τ ρ) (a : Option (TaskOutcome ρ))
    (p' : Pool τ ρ) : Prop :=
  ∃ t phase offer, p.tasks[i]? = some t ∧ Phase.Turn flagged untold t.phase phase offer ∧
    a = t.accepted offer ∧ p'.tasks = p.tasks.set i (t.turn phase offer)

theorem exists_of_phase? {ph : Phase ρ} (h : p.phase? i = some ph) :
    ∃ t, p.tasks[i]? = some t ∧ t.phase = ph := by simpa [phase?] using h

theorem tasks_modify (h : p.tasks[i]? = some t) (f : PoolTask τ ρ → PoolTask τ ρ) :
    (p.modify i f).tasks = p.tasks.set i (f t) := by
  apply List.ext_getElem?
  intro k
  obtain ⟨hi, hget⟩ := List.getElem?_eq_some_iff.1 h
  by_cases hk : i = k
  · subst hk
    simp [modify, hget, hi]
  · simp [modify, hk]

theorem tasks_setPhase (h : p.tasks[i]? = some t) (phase : Phase ρ) :
    (p.setPhase i phase).tasks = p.tasks.set i (t.turn phase none) := by
  rw [setPhase, tasks_modify h]
  simp [PoolTask.turn]

/-- A step that offers nothing. -/
theorem turns_setPhase {flagged untold : Prop} {ph ph' : Phase ρ} (h : p.phase? i = some ph)
    (hturn : Phase.Turn flagged untold ph ph' none) :
    Turns flagged untold i p none (p.setPhase i ph') := by
  obtain ⟨t, ht, rfl⟩ := exists_of_phase? h
  refine ⟨t, ph', none, ht, hturn, ?_, tasks_setPhase ht ph'⟩
  simp [PoolTask.accepted]

theorem deliver_eq (h : p.tasks[i]? = some t) (o : TaskOutcome ρ) :
    (p.deliver i o).1 = t.accepted (some o) ∧
    (p.deliver i o).2.tasks = p.tasks.set i (t.turn t.phase (some o)) := by
  obtain ⟨number, task, phase, outcome⟩ := t
  cases outcome with
  | none =>
      simp only [deliver, h]
      exact ⟨rfl, tasks_modify h _⟩
  | some o' =>
      -- the task keeps the outcome that it has
      have hself : p.tasks.set i ⟨number, task, phase, some o'⟩ = p.tasks := by
        obtain ⟨hi, hget⟩ := List.getElem?_eq_some_iff.1 h
        rw [← hget, List.set_getElem_self]
      simp only [deliver, h]
      exact ⟨rfl, hself.symm⟩

/-- A task that is moved to another phase and offered an outcome on the way. -/
theorem deliver_setPhase (h : p.tasks[i]? = some t) (ph : Phase ρ) (o : TaskOutcome ρ) :
    ((p.setPhase i ph).deliver i o).1 = t.accepted (some o) ∧
    ((p.setPhase i ph).deliver i o).2.tasks = p.tasks.set i (t.turn ph (some o)) := by
  have hset := tasks_setPhase h ph
  -- the task has gone to its new phase by the time it gets the offer
  have hmoved : (p.setPhase i ph).tasks[i]? = some (t.turn ph none) := by
    obtain ⟨hi, -⟩ := List.getElem?_eq_some_iff.1 h
    simp [hset, hi]
  obtain ⟨hanswer, htasks⟩ := deliver_eq hmoved o
  refine ⟨hanswer.trans (by simp [PoolTask.accepted, PoolTask.turn]), htasks.trans ?_⟩
  rw [hset, List.set_set]
  simp [PoolTask.turn]

/-- A step that offers an outcome. -/
theorem turns_deliver {flagged untold : Prop} {ph ph' : Phase ρ} {o : TaskOutcome ρ}
    (h : p.phase? i = some ph) (hturn : Phase.Turn flagged untold ph ph' (some o))
    (hdeliver : (p.setPhase i ph').deliver i o = (a, p')) : Turns flagged untold i p a p' := by
  obtain ⟨t, ht, rfl⟩ := exists_of_phase? h
  obtain ⟨hanswer, htasks⟩ := deliver_setPhase ht ph' o
  rw [hdeliver] at hanswer htasks
  exact ⟨t, ph', some o, ht, hturn, hanswer, htasks⟩

/-! ### The steps -/

/-- A task that is submitted waits in the queue, unless the pool refuses it. -/
theorem submit_cases (u : τ) (p : Pool τ ρ) :
    (∃ number, (p.submit u).1 = .ok number ∧
      (p.submit u).2.tasks = p.tasks ++ [⟨number, u, .queued, none⟩]) ∨
    ∃ e, (p.submit u).1 = .error e ∧ (p.submit u).2.tasks = p.tasks := by
  -- a pool that was closed refuses whatever it is given
  by_cases hopen : p.accepts = true
  · exact Or.inl ⟨p.submitted, by simp [submit, hopen]⟩
  · exact Or.inr ⟨.poolClosed p.stage, by simp [submit, hopen]⟩

theorem tasks_close (drain : Bool) (p : Pool τ ρ) : (p.close drain).tasks = p.tasks := by
  unfold close
  split <;> rfl

/-- Users of a pool leave it what it was made. -/
theorem fixed_submit (u : τ) (p : Pool τ ρ) :
    (p.submit u).2.stage = p.stage ∧ (p.submit u).2.size = p.size ∧
      (p.submit u).2.limit = p.limit := by
  by_cases hopen : p.accepts = true <;> simp [submit, hopen]

theorem fixed_close (drain : Bool) (p : Pool τ ρ) :
    (p.close drain).stage = p.stage ∧ (p.close drain).size = p.size ∧
      (p.close drain).limit = p.limit := by
  unfold close
  split <;> exact ⟨rfl, rfl, rfl⟩

theorem turns_take (h : p.take = some p') : ∃ i, Turns False False i p none p' := by
  unfold take at h
  split at h
  · obtain ⟨i, hi, rfl⟩ := Option.map_eq_some_iff.1 h
    obtain ⟨hlt, hqueued, -⟩ := List.findIdx?_eq_some_iff_getElem.1 hi
    have hphase : p.phase? i = some .queued := by
      have hget : p.tasks[i]? = some p.tasks[i] := List.getElem?_eq_getElem hlt
      simp only [phase?, hget, Option.map_some, Option.some.injEq]
      cases hph : p.tasks[i].phase <;> simp_all [Phase.isQueued]
    exact ⟨i, turns_setPhase hphase .take⟩
  · simp at h

theorem turns_look (h : p.look i = some (a, p')) : Turns False False i p a p' := by
  unfold look at h
  split at h
  · next hphase =>
    split at h
    · exact turns_deliver hphase (.giveUp _ ⟨_, rfl⟩) (Option.some.inj h)
    · obtain ⟨rfl, rfl⟩ : none = a ∧ _ = p' := by simpa using h
      exact turns_setPhase hphase .clear
  · simp at h

/-- The deadline of a body that begins now cannot be told. -/
def LacksDeadline (now : Moment) (p : Pool τ ρ) : Prop :=
  ∃ d, p.limit = some d ∧ now.after? d = none

theorem turns_start {flagged : Bool} {now : Moment} (h : p.start i flagged now = some (a, p')) :
    Turns (flagged = true) (flagged = false ∧ p.LacksDeadline now) i p a p' := by
  unfold start at h
  split at h
  · next hphase =>
    split at h
    · next hflag =>
      exact turns_deliver hphase (.discard hflag) (Option.some.inj h)
    · next hflag =>
      split at h
      · obtain ⟨rfl, rfl⟩ : none = a ∧ _ = p' := by simpa using h
        exact turns_setPhase hphase (.run none)
      · next d hlimit =>
        split at h
        · next m _ =>
          obtain ⟨rfl, rfl⟩ : none = a ∧ _ = p' := by simpa using h
          exact turns_setPhase hphase (.run (some m))
        · next hlate =>
          obtain ⟨rfl, rfl⟩ : none = a ∧ _ = p' := by simpa using h
          exact turns_setPhase hphase (.lose ⟨by simpa using hflag, d, hlimit, hlate⟩)
  · simp at h

theorem turns_settle (h : p.settle i = some (a, p')) : Turns False False i p a p' := by
  unfold settle at h
  split at h
  · next d o hphase =>
    exact turns_deliver hphase (.settle d o) (Option.some.inj h)
  · simp at h

theorem turns_letGo (h : p.letGo i = some p') : Turns False False i p none p' := by
  unfold letGo at h
  split at h
  · next hphase =>
    obtain rfl : _ = p' := by simpa using h
    exact turns_setPhase hphase .letGo
  · simp at h

theorem turns_expire {now : Moment} (h : p.expire i now = some (a, p')) :
    Turns False False i p a p' := by
  unfold expire at h
  split at h
  · next t d ht _ =>
    split at h
    · next hdue =>
      obtain ⟨hanswer, htasks⟩ := deliver_eq ht (.failed (.timedOut d))
      rw [Option.some.inj h] at hanswer htasks
      have hdeadline : t.phase.deadline?.isSome = true := by
        have hany : t.phase.deadline?.any (·.atMost now) = true := by simp_all [isDue]
        cases hd : t.phase.deadline? <;> simp_all
      exact ⟨t, t.phase, _, ht, .expire t.phase _ hdeadline ⟨d, rfl⟩, hanswer, htasks⟩
    · simp at h
  · simp at h

/-- The body of a task ends, and nobody is told yet. -/
theorem tasks_finish {o : TaskOutcome ρ} (h : p.finish i o = some p') :
    ∃ t d, p.tasks[i]? = some t ∧ t.phase = .running d ∧
      p'.tasks = p.tasks.set i { t with phase := .returned d o } := by
  unfold finish at h
  split at h
  · next d hphase =>
    obtain rfl : _ = p' := by simpa using h
    obtain ⟨t, ht, hrunning⟩ := exists_of_phase? hphase
    refine ⟨t, d, ht, hrunning, ?_⟩
    rw [tasks_setPhase ht]
    simp [PoolTask.turn]
  · simp at h

end Pool

end GradedReading
