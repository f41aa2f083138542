import GradedReading.Proofs.Pool.Life

/-!
# GradedReading.Proofs.Pool.Lost

What becomes of tasks whose deadlines the clock cannot tell.

A worker computes the deadline of a task before it runs the body. If the clock cannot tell it, the
worker drops the task and whatever would have been told of it: the task is lost.

**Key idea:** a worker looks at a task once, so the one reading of the clock at that time decides.
`Pool.Moves` is the table of what may become of a task in one step. It shows that a task is lost
only where a deadline cannot be told, that it stays lost, and that whether a task has an outcome can
be read from its phase.
-/

namespace GradedReading

open Number

variable {τ ρ : Type}

/-! ### Phases -/

/-- A task in this phase may have this outcome: before the body runs it has none, while the body
runs the watchdog may give it one, and once it is settled it has one. -/
def Phase.Fits (outcome : Option (TaskOutcome ρ)) : Phase ρ → Prop
  | .queued | .taken | .cleared | .lost => outcome = none
  | .running _ | .returned .. => True
  | .settling | .done => outcome.isSome = true

namespace Phase.Turn

variable {flagged untold : Prop} {ph ph' : Phase ρ} {offer : Option (TaskOutcome ρ)}

theorem fits (h : Phase.Turn flagged untold ph ph' offer) {outcome : Option (TaskOutcome ρ)}
    (hfits : ph.Fits outcome) : ph'.Fits (outcome.or offer) := by
  cases h with
  | take | clear | lose => simpa [Phase.Fits] using hfits
  | giveUp | discard | settle => cases outcome <;> rfl
  | run => trivial
  | letGo => simpa [Phase.Fits] using hfits
  | expire _ e hdeadline =>
      -- only a body that was begun has a deadline
      cases ph with
      | running | returned => trivial
      | _ => simp [Phase.deadline?] at hdeadline

/-- Only a deadline that the clock cannot tell makes a worker lose a task. -/
theorem untold_of_lost (h : Phase.Turn flagged untold ph .lost offer) : untold := by
  cases h with
  | lose huntold => exact huntold
  | expire _ _ hdeadline => simp [Phase.deadline?] at hdeadline

theorem ne_lost (h : Phase.Turn flagged untold ph ph' offer) : ph ≠ .lost := by
  rintro rfl
  cases h with
  | expire _ _ hdeadline => simp [Phase.deadline?] at hdeadline

end Phase.Turn

/-! ### Steps -/

namespace Pool

variable {p p' : Pool τ ρ} {a : Act τ ρ} {acts : List (Act τ ρ)} {i : Nat}
  {answer : Option (TaskOutcome ρ)}

/-- The worker of the task at a place looks at the clock, and the clock cannot tell the deadline. -/
def Overruns (p : Pool τ ρ) (i : Nat) (a : Act τ ρ) : Prop :=
  ∃ now, a = .start i false now ∧ p.LacksDeadline now

/-- What may become of a task in one step. -/
inductive Moves (p : Pool τ ρ) (a : Act τ ρ) (i : Nat) (t : PoolTask τ ρ) : PoolTask τ ρ → Prop
  /-- The body ended. -/
  | finish (d : Option Moment) (o : TaskOutcome ρ) (h : t.phase = .running d) :
      Moves p a i t { t with phase := .returned d o }
  | turn {flagged untold : Prop} (phase : Phase ρ) (offer : Option (TaskOutcome ρ))
      (h : Phase.Turn flagged untold t.phase phase offer) (huntold : untold → p.Overruns i a) :
      Moves p a i t (t.turn phase offer)

/-- One step adds a task, moves one, or leaves all as they are. -/
inductive Shift (p : Pool τ ρ) (a : Act τ ρ) (p' : Pool τ ρ) : Prop
  | add (number : Nat) (u : τ) (h : p'.tasks = p.tasks ++ [⟨number, u, .queued, none⟩])
  | stay (h : p'.tasks = p.tasks)
  | move (i : Nat) (t t' : PoolTask τ ρ) (ht : p.tasks[i]? = some t) (hmoves : p.Moves a i t t')
      (h : p'.tasks = p.tasks.set i t')

theorem Turns.shift {flagged untold : Prop} (h : Turns flagged untold i p answer p')
    (huntold : untold → p.Overruns i a) : p.Shift a p' := by
  obtain ⟨t, phase, offer, ht, hturn, -, htasks⟩ := h
  exact .move i t _ ht (.turn phase offer hturn huntold) htasks

/-- What stood at a place before a shift: the same task, nothing but a task that now waits, or the
task that was moved. -/
theorem Shift.task_cases (h : p.Shift a p') {t' : PoolTask τ ρ} (ht' : p'.tasks[i]? = some t') :
    p.tasks[i]? = some t' ∨ t'.phase = .queued ∧ t'.outcome = none ∨
      ∃ t, p.tasks[i]? = some t ∧ p.Moves a i t t' := by
  cases h with
  | add number u htasks =>
      rw [htasks, List.getElem?_append] at ht'
      split at ht'
      · exact .inl ht'
      · obtain rfl := List.mem_singleton.1 (List.mem_of_getElem? ht')
        exact .inr (.inl ⟨rfl, rfl⟩)
  | stay htasks => exact .inl (htasks ▸ ht')
  | move j t u ht hmoves htasks =>
      rw [htasks, List.getElem?_set] at ht'
      split at ht'
      · next hji =>
        subst hji
        obtain rfl : u = t' := by simpa using (Option.ite_none_right_eq_some.1 ht').2
        exact .inr (.inr ⟨t, ht, hmoves⟩)
      · exact .inl ht'

/-- Whatever happens to a pool, it is a shift. -/
theorem shift_act (h : p.act? a = some p') : p.Shift a p' := by
  cases a with
  | submit u =>
      obtain rfl : _ = p' := Option.some.inj h
      obtain ⟨number, -, htasks⟩ | ⟨e, -, htasks⟩ := submit_cases u p
      · exact .add number u htasks
      · exact .stay htasks
  | close drain =>
      obtain rfl : _ = p' := Option.some.inj h
      exact .stay (tasks_close drain p)
  | take =>
      obtain ⟨i, hturns⟩ := turns_take h
      exact hturns.shift False.elim
  | look i =>
      obtain ⟨⟨answer, _⟩, hlook, rfl⟩ := Option.map_eq_some_iff.1 h
      exact (turns_look hlook).shift False.elim
  | start i flagged now =>
      obtain ⟨⟨answer, _⟩, hstart, rfl⟩ := Option.map_eq_some_iff.1 h
      refine (turns_start hstart).shift ?_
      rintro ⟨rfl, hlacks⟩
      exact ⟨now, rfl, hlacks⟩
  | finish i o =>
      obtain ⟨t, d, ht, hrunning, htasks⟩ := tasks_finish h
      exact .move i t _ ht (.finish d o hrunning) htasks
  | settle i =>
      obtain ⟨⟨answer, _⟩, hsettle, rfl⟩ := Option.map_eq_some_iff.1 h
      exact (turns_settle hsettle).shift False.elim
  | letGo i => exact (turns_letGo h).shift False.elim
  | expire i now =>
      obtain ⟨⟨answer, _⟩, hexpire, rfl⟩ := Option.map_eq_some_iff.1 h
      exact (turns_expire hexpire).shift False.elim

/-- A worker that does not find the task cancelled begins the body or loses the task, and nothing
but the clock decides which. -/
theorem start_unflagged {now : Moment} (h : p.start i false now = some (answer, p')) :
    p.LacksDeadline now ∧ p' = p.setPhase i .lost ∨
      ¬ p.LacksDeadline now ∧ ∃ d, p' = p.setPhase i (.running d) := by
  unfold start at h
  split at h
  · rw [if_neg (by simp)] at h
    split at h
    · next hlimit =>
      obtain ⟨-, rfl⟩ : none = answer ∧ _ = p' := by simpa using h
      exact .inr ⟨by simp [LacksDeadline, hlimit], none, rfl⟩
    · next d hlimit =>
      split at h
      · next m hm =>
        obtain ⟨-, rfl⟩ : none = answer ∧ _ = p' := by simpa using h
        exact .inr ⟨by simp [LacksDeadline, hlimit, hm], some m, rfl⟩
      · next hlate =>
        obtain ⟨-, rfl⟩ : none = answer ∧ _ = p' := by simpa using h
        exact .inl ⟨⟨d, hlimit, hlate⟩, rfl⟩
  · simp at h

/-! ### The time limit -/

theorem limit_deliver (i : Nat) (o : TaskOutcome ρ) (p : Pool τ ρ) :
    (p.deliver i o).2.limit = p.limit := by
  unfold deliver
  split <;> rfl

theorem limit_of_setPhase_deliver {ph : Phase ρ} {o : TaskOutcome ρ}
    (h : (p.setPhase i ph).deliver i o = (answer, p')) : p'.limit = p.limit := by
  calc p'.limit = ((p.setPhase i ph).deliver i o).2.limit := by rw [h]
    _ = p.limit := limit_deliver i o _

/-- A pool keeps its time limit. -/
theorem limit_act (h : p.act? a = some p') : p'.limit = p.limit := by
  cases a with
  | submit u =>
      obtain rfl : _ = p' := Option.some.inj h
      exact (fixed_submit u p).2.2
  | close drain =>
      obtain rfl : _ = p' := Option.some.inj h
      exact (fixed_close drain p).2.2
  | take =>
      simp only [act?, take, Option.ite_none_right_eq_some, Option.map_eq_some_iff] at h
      obtain ⟨-, i, -, rfl⟩ := h
      rfl
  | look i =>
      obtain ⟨⟨answer, _⟩, hlook, rfl⟩ := Option.map_eq_some_iff.1 h
      unfold look at hlook
      split at hlook
      · split at hlook
        · exact limit_of_setPhase_deliver (Option.some.inj hlook)
        · cases hlook
          rfl
      · cases hlook
  | start i flagged now =>
      obtain ⟨⟨answer, _⟩, hstart, rfl⟩ := Option.map_eq_some_iff.1 h
      cases flagged with
      | false => obtain ⟨-, rfl⟩ | ⟨-, d, rfl⟩ := start_unflagged hstart <;> rfl
      | true =>
          unfold start at hstart
          split at hstart
          · exact limit_of_setPhase_deliver (Option.some.inj hstart)
          · cases hstart
  | finish i o =>
      simp only [act?, finish] at h
      split at h <;> cases h
      rfl
  | settle i =>
      obtain ⟨⟨answer, _⟩, hsettle, rfl⟩ := Option.map_eq_some_iff.1 h
      unfold settle at hsettle
      split at hsettle
      · exact limit_of_setPhase_deliver (Option.some.inj hsettle)
      · cases hsettle
  | letGo i =>
      simp only [act?, letGo] at h
      split at h <;> cases h
      rfl
  | expire i now =>
      obtain ⟨⟨answer, _⟩, hexpire, rfl⟩ := Option.map_eq_some_iff.1 h
      unfold expire at hexpire
      split at hexpire
      · next d _ _ =>
        split at hexpire
        · have hkept := limit_deliver i (.failed (.timedOut d)) p
          rwa [Option.some.inj hexpire] at hkept
        · cases hexpire
      · cases hexpire

theorem lacksDeadline_act (h : p.act? a = some p') (now : Moment) :
    p'.LacksDeadline now ↔ p.LacksDeadline now := by simp only [LacksDeadline, limit_act h]

/-! ### Lost tasks -/

theorem phase?_eq {t : PoolTask τ ρ} (h : p.tasks[i]? = some t) : p.phase? i = some t.phase := by
  simp [phase?, h]

/-- A task that a step moves is lost afterwards only where the deadline cannot be told, and was not
lost before. -/
theorem Moves.overruns {t t' : PoolTask τ ρ} (h : p.Moves a i t t') (hlost : t'.phase = .lost) :
    p.Overruns i a := by
  cases h with
  | finish d o _ => cases hlost
  | turn phase offer hturn huntold =>
      obtain rfl : phase = .lost := hlost
      exact huntold hturn.untold_of_lost

theorem Moves.ne_lost {t t' : PoolTask τ ρ} (h : p.Moves a i t t') : t.phase ≠ .lost := by
  cases h with
  | finish d o hrunning => simp [hrunning]
  | turn phase offer hturn _ => exact hturn.ne_lost

/-- A worker that cannot tell the deadline loses the task. -/
theorem Overruns.lost (hover : p.Overruns i a) (h : p.act? a = some p') :
    p'.phase? i = some .lost := by
  obtain ⟨now, rfl, hlacks⟩ := hover
  obtain ⟨⟨answer, _⟩, hstart, rfl⟩ := Option.map_eq_some_iff.1 h
  obtain ⟨t, -, -, ht, -⟩ := turns_start hstart
  obtain ⟨hi, -⟩ := List.getElem?_eq_some_iff.1 ht
  obtain ⟨-, rfl⟩ | ⟨htold, -⟩ := start_unflagged hstart
  · simp [phase?, tasks_setPhase ht, hi, PoolTask.turn]
  · exact absurd hlacks htold

/-- What is lost is not found again. -/
theorem Shift.lost_stays (h : p.Shift a p') {t : PoolTask τ ρ} (ht : p.tasks[i]? = some t)
    (hlost : t.phase = .lost) : p'.tasks[i]? = some t := by
  cases h with
  | add number u htasks =>
      rw [htasks, List.getElem?_append_left (List.getElem?_eq_some_iff.1 ht).1, ht]
  | stay htasks => rw [htasks, ht]
  | move j u u' hu hmoves htasks =>
      -- what is moved was not lost, so it is another task
      have hne : j ≠ i := by
        rintro rfl
        obtain rfl : u = t := Option.some.inj (hu.symm.trans ht)
        exact hmoves.ne_lost hlost
      rw [htasks, List.getElem?_set_ne hne, ht]

/-- A task is lost after a step if it was lost before, or if its deadline could not be told. -/
theorem lost_act (h : p.act? a = some p') (i : Nat) :
    p'.phase? i = some .lost ↔ p.phase? i = some .lost ∨ p.Overruns i a := by
  constructor
  · intro hlost
    obtain ⟨t', ht', hphase⟩ := exists_of_phase? hlost
    obtain ht | ⟨hqueued, -⟩ | ⟨t, -, hmoves⟩ := (shift_act h).task_cases ht'
    · exact .inl (hphase ▸ phase?_eq ht)
    · rw [hqueued] at hphase
      cases hphase
    · exact .inr (hmoves.overruns hphase)
  · rintro (hlost | hover)
    · obtain ⟨t, ht, hphase⟩ := exists_of_phase? hlost
      exact hphase ▸ phase?_eq ((shift_act h).lost_stays ht hphase)
    · exact hover.lost h

/-- Every task of the pool fits its phase. -/
def AllFit (p : Pool τ ρ) : Prop := ∀ t ∈ p.tasks, t.phase.Fits t.outcome

theorem AllFit.act (hfit : p.AllFit) (h : p.act? a = some p') : p'.AllFit := by
  intro t' ht'
  obtain ⟨i, hi⟩ := List.mem_iff_getElem?.1 ht'
  obtain ht | ⟨hqueued, hnone⟩ | ⟨t, ht, hmoves⟩ := (shift_act h).task_cases hi
  · exact hfit t' (List.mem_of_getElem? ht)
  · rw [hqueued]
    exact hnone
  · have hfits := hfit t (List.mem_of_getElem? ht)
    cases hmoves with
    | finish d o _ => trivial
    | turn phase offer hturn _ => exact hturn.fits hfits

/-! ### Runs -/

/-- A task is lost after a run if it was lost before, or if at some reading of the clock its worker
could not tell the deadline. -/
theorem lost_run (h : p.run? acts = some p') (i : Nat) :
    p'.phase? i = some .lost ↔
      p.phase? i = some .lost ∨ ∃ now, .start i false now ∈ acts ∧ p.LacksDeadline now := by
  induction acts generalizing p with
  | nil =>
      obtain rfl : p = p' := Option.some.inj h
      simp
  | cons a acts ih =>
      obtain ⟨p₁, ha, hrest⟩ := Option.bind_eq_some_iff.1 (by simpa [run?] using h)
      rw [ih hrest, lost_act ha]
      simp only [lacksDeadline_act ha, Overruns, List.mem_cons, or_and_right, exists_or, or_assoc,
        @eq_comm _ a]

theorem AllFit.run (hfit : p.AllFit) (h : p.run? acts = some p') : p'.AllFit := by
  induction acts generalizing p with
  | nil =>
      obtain rfl : p = p' := Option.some.inj h
      exact hfit
  | cons a acts ih =>
      obtain ⟨p₁, ha, hrest⟩ := Option.bind_eq_some_iff.1 (by simpa [run?] using h)
      exact ih (hfit.act ha) hrest

/-! ### What a time limit costs -/

/-- The tasks of a pool after a run: the worker of a task loses it exactly at those readings of the
clock at which the deadline is too `late`, and nothing else keeps a task from being settled. -/
structure LosesAt (late : Moment → Prop) (acts : List (Act τ ρ)) (p : Pool τ ρ) : Prop where
  /-- Which tasks are lost. -/
  lost_iff : ∀ i, p.phase? i = some .lost ↔ ∃ now, .start i false now ∈ acts ∧ late now
  /-- Nobody is told of a task that is lost. -/
  unheard : ∀ t ∈ p.tasks, t.phase = .lost → t.outcome = none
  /-- All others are told of when no task waits and no worker is busy. -/
  heard : p.isQuiet = true → ∀ t ∈ p.tasks, t.phase ≠ .lost → t.outcome.isSome = true

theorem losesAt_of_run (stage : Stage) (size : Nat) (limit : Option Duration)
    (h : (ofSize stage size limit).run? acts = some p) :
    p.LosesAt (fun now => ∃ d, limit = some d ∧ now.after? d = none) acts := by
  have hfit : p.AllFit := AllFit.run (by simp [AllFit, ofSize]) h
  refine ⟨fun i => ?_, fun t ht hlost => ?_, fun hquiet t ht hne => ?_⟩
  · rw [lost_run h]
    simp [phase?, ofSize, LacksDeadline]
  · have hfits := hfit t ht
    rwa [hlost] at hfits
  · have hfits := hfit t ht
    have hidle := List.all_eq_true.1 hquiet t ht
    cases hphase : t.phase <;> simp_all [Phase.Fits, Phase.isQueued, Phase.isBusy]

end Pool

end GradedReading
