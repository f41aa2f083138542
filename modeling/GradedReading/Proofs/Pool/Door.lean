import GradedReading.Proofs.Pool.Life

/-!
# GradedReading.Proofs.Pool.Door

What the steps of a pool keep, as long as nobody closes it.

**Key idea:** only `close` shuts the door of a pool, no door is opened again, and only a pool that
was abandoned gives a task up because of it. So behind a closed door a quiet pool stays quiet.
Nobody but the worker himself ends the time in which he tells whom the outcome of his task
concerns, so a pool is not quiet as long as somebody is at it. `Minds` says this of one step, and
`Keeps` that the door stays as it is.
-/

namespace GradedReading

variable {τ ρ : Type}

/-- The task was given up since its pool was closed. -/
def TaskOutcome.isPoolClosed : TaskOutcome ρ → Bool
  | .failed (.poolClosed _) => true
  | _ => false

/-- The task was not given up since its pool was closed, and its body did not end like that. -/
structure PoolTask.Unclosed (t : PoolTask τ ρ) : Prop where
  outcome : ∀ o, t.outcome = some o → o.isPoolClosed = false
  returned : ∀ d o, t.phase = .returned d o → o.isPoolClosed = false

theorem PoolTask.unclosed_queued (number : Nat) (u : τ) :
    (PoolTask.mk number u (.queued : Phase ρ) none).Unclosed := ⟨by simp, by simp⟩

/-- A task that goes to another phase and is offered an outcome stays as it should be, if phase and
outcome are. -/
theorem PoolTask.Unclosed.turn {t : PoolTask τ ρ} (h : t.Unclosed) {phase : Phase ρ}
    {offer : Option (TaskOutcome ρ)} (hoffer : ∀ o, offer = some o → o.isPoolClosed = false)
    (hphase : ∀ d o, phase = .returned d o → o.isPoolClosed = false) :
    (t.turn phase offer).Unclosed := by
  refine ⟨fun o ho => ?_, hphase⟩
  rcases hout : t.outcome with _ | o'
  · have hnew : offer = some o := by simpa [PoolTask.turn, hout] using ho
    exact hoffer o hnew
  · obtain rfl : o' = o := by simpa [PoolTask.turn, hout] using ho
    exact h.outcome o' hout

/-- The task waits, or a worker is busy with it. -/
def Phase.isOpen (phase : Phase ρ) : Bool := phase.isQueued || phase.isBusy

namespace Pool

variable {p p' : Pool τ ρ} {i : Nat} {answer : Option (TaskOutcome ρ)} {held : Nat → Prop}

/-- What a step keeps of a pool that it does not abandon. A place is held by somebody who is not
done with the task there. -/
structure Minds (held : Nat → Prop) (p p' : Pool τ ρ) : Prop where
  abandoned : p'.abandoned = p.abandoned
  closed : p.accepts = false → p'.accepts = false
  settling : ∀ i, held i → p.phase? i = some .settling → p'.phase? i = some .settling
  unclosed : p.abandoned = false → (∀ t ∈ p.tasks, t.Unclosed) → ∀ t ∈ p'.tasks, t.Unclosed
  quiet : p.accepts = false → p.isQuiet = true → p'.isQuiet = true

/-- What a step keeps of a pool that it does not close either. -/
structure Keeps (held : Nat → Prop) (p p' : Pool τ ρ) : Prop extends p.Minds held p' where
  accepts : p.accepts = true → p'.accepts = true

theorem Keeps.rfl : p.Keeps held p where
  abandoned := Eq.refl _
  closed h := h
  settling _ _ h := h
  unclosed _ h := h
  quiet _ h := h
  accepts h := h

/-- Nothing in a quiet pool waits or keeps a worker busy. -/
theorem isOpen_of_isQuiet (h : p.isQuiet = true) {t : PoolTask τ ρ} (ht : t ∈ p.tasks) :
    t.phase.isOpen = false := by
  have hfree := List.all_eq_true.1 h t ht
  simpa [Phase.isOpen] using hfree

/-- The task at a place changes, which waited or kept a worker busy. -/
theorem keeps_set {t u : PoolTask τ ρ} (ht : p.tasks[i]? = some t)
    (htasks : p'.tasks = p.tasks.set i u) (haccepts : p'.accepts = p.accepts)
    (habandoned : p'.abandoned = p.abandoned) (hopen : t.phase.isOpen = true)
    (hheld : held i → t.phase = .settling → u.phase = .settling)
    (hunclosed : p.abandoned = false → t.Unclosed → u.Unclosed) : p.Keeps held p' where
  abandoned := habandoned
  closed h := haccepts.trans h
  accepts h := haccepts.trans h
  settling j hj hphase := by
    by_cases hij : i = j
    · subst hij
      have hlt := (List.getElem?_eq_some_iff.1 ht).1
      have hsettling : t.phase = .settling := by simpa [phase?, ht] using hphase
      simpa [phase?, htasks, hlt] using hheld hj hsettling
    · rw [phase?, htasks, List.getElem?_set_ne hij]
      exact hphase
  unclosed hkept hall v hv := by
    rw [htasks] at hv
    rcases List.mem_or_eq_of_mem_set hv with hold | rfl
    · exact hall v hold
    · exact hunclosed hkept (hall t (List.mem_of_getElem? ht))
  quiet _ hquiet := by
    have hclosed := isOpen_of_isQuiet hquiet (List.mem_of_getElem? ht)
    simp [hopen] at hclosed

/-- A step that offers nothing. -/
theorem keeps_setPhase {ph ph' : Phase ρ} (h : p.phase? i = some ph) (hopen : ph.isOpen = true)
    (hheld : held i → ph ≠ .settling) (hph' : ∀ d o, ph' ≠ .returned d o) :
    p.Keeps held (p.setPhase i ph') := by
  obtain ⟨t, ht, rfl⟩ := exists_of_phase? h
  refine keeps_set ht (tasks_setPhase ht ph') rfl rfl hopen (fun hi hs => absurd hs (hheld hi)) ?_
  intro _ hunclosed
  exact hunclosed.turn (by simp) fun d o ho => absurd ho (hph' d o)

theorem door_deliver (i : Nat) (o : TaskOutcome ρ) (p : Pool τ ρ) :
    (p.deliver i o).2.accepts = p.accepts ∧ (p.deliver i o).2.abandoned = p.abandoned := by
  unfold deliver
  split <;> exact ⟨rfl, rfl⟩

/-- What a step keeps that may end the task at a place. Whoever ends it is not done with it. -/
structure Ends (held : Nat → Prop) (i : Nat) (p : Pool τ ρ) (answer : Option (TaskOutcome ρ))
    (p' : Pool τ ρ) : Prop where
  keeps : p.Keeps held p'
  settling : answer.isSome = true → p'.phase? i = some .settling

theorem Keeps.ends (h : p.Keeps held p') : p.Ends held i none p' := ⟨h, by simp⟩

/-- A step that ends a task. -/
theorem ends_deliver {ph : Phase ρ} {o : TaskOutcome ρ} (h : p.phase? i = some ph)
    (hopen : ph.isOpen = true) (hsettling : ph ≠ .settling)
    (ho : p.abandoned = false → (∀ d o', ph = .returned d o' → o'.isPoolClosed = false) →
      o.isPoolClosed = false)
    (hdeliver : (p.setPhase i .settling).deliver i o = (answer, p')) :
    p.Ends held i answer p' := by
  obtain ⟨t, ht, rfl⟩ := exists_of_phase? h
  obtain ⟨-, htasks⟩ := deliver_setPhase ht .settling o
  obtain ⟨haccepts, habandoned⟩ := door_deliver i o (p.setPhase i .settling)
  rw [hdeliver] at htasks haccepts habandoned
  refine ⟨?_, fun _ => ?_⟩
  · refine keeps_set ht htasks haccepts habandoned hopen (fun _ hs => absurd hs hsettling) ?_
    intro hkept hunclosed
    refine hunclosed.turn ?_ (by simp)
    rintro _ ⟨⟩
    exact ho hkept hunclosed.returned
  · have hlt := (List.getElem?_eq_some_iff.1 ht).1
    rw [phase?, show p'.tasks = _ from htasks]
    simp [hlt, PoolTask.turn]

/-! ### The steps -/

theorem keeps_submit (u : τ) (p : Pool τ ρ) : p.Keeps held (p.submit u).2 := by
  by_cases haccepts : p.accepts = true
  · have hp' : (p.submit u).2 = { p with
        submitted := p.submitted + 1
        tasks := p.tasks ++ [⟨p.submitted, u, .queued, none⟩] } := by simp [submit, haccepts]
    rw [hp']
    refine ⟨⟨rfl, fun h => h, fun j _ hphase => ?_, fun _ hall t ht => ?_, by simp [haccepts]⟩,
      fun h => h⟩
    · obtain ⟨t, ht, hsettling⟩ := exists_of_phase? hphase
      have hlt := (List.getElem?_eq_some_iff.1 ht).1
      simp [phase?, List.getElem?_append_left hlt, ht, hsettling]
    · rcases List.mem_append.1 ht with hold | hnew
      · exact hall t hold
      · rw [List.mem_singleton.1 hnew]
        exact PoolTask.unclosed_queued ..
  · have hp' : (p.submit u).2 = { p with submitted := p.submitted + 1 } := by
      simp [submit, haccepts]
    rw [hp']
    exact ⟨⟨rfl, fun h => h, fun _ _ h => h, fun _ h => h, fun _ h => h⟩, fun h => h⟩

/-- A pool that is closed to be drained is not abandoned. -/
theorem minds_close (p : Pool τ ρ) : p.Minds held (p.close true) := by
  unfold close
  split
  · exact ⟨by simp, fun _ => rfl, fun _ _ h => h, fun _ h => h, fun _ h => h⟩
  · exact Keeps.rfl.toMinds

theorem keeps_take (h : p.take = some p') : p.Keeps held p' := by
  unfold take at h
  split at h
  · obtain ⟨i, hi, rfl⟩ := Option.map_eq_some_iff.1 h
    obtain ⟨hlt, hqueued, -⟩ := List.findIdx?_eq_some_iff_getElem.1 hi
    have hphase : p.phase? i = some p.tasks[i].phase := by simp [phase?, hlt]
    refine keeps_setPhase hphase (by simp [Phase.isOpen, hqueued]) (fun _ hs => ?_) (by simp)
    simp [hs, Phase.isQueued] at hqueued
  · simp at h

/-- A worker gives up a task only if the pool was abandoned. -/
theorem ends_look (h : p.look i = some (answer, p')) : p.Ends held i answer p' := by
  unfold look at h
  split at h
  · next hphase =>
    split at h
    · next habandoned =>
      refine ends_deliver hphase rfl (by simp) (fun hkept => ?_) (Option.some.inj h)
      simp [hkept] at habandoned
    · obtain ⟨rfl, rfl⟩ := Prod.mk.inj (Option.some.inj h)
      exact (keeps_setPhase hphase rfl (by simp) (by simp)).ends
  · simp at h

theorem ends_start {flagged : Bool} {now : Moment}
    (h : p.start i flagged now = some (answer, p')) : p.Ends held i answer p' := by
  unfold start at h
  split at h
  · next hphase =>
    split at h
    · exact ends_deliver hphase rfl (by simp) (fun _ _ => rfl) (Option.some.inj h)
    · split at h
      · obtain ⟨rfl, rfl⟩ := Prod.mk.inj (Option.some.inj h)
        exact (keeps_setPhase hphase rfl (by simp) (by simp)).ends
      · split at h
        all_goals
          obtain ⟨rfl, rfl⟩ := Prod.mk.inj (Option.some.inj h)
          exact (keeps_setPhase hphase rfl (by simp) (by simp)).ends
  · simp at h

theorem keeps_finish {o : TaskOutcome ρ} (ho : o.isPoolClosed = false)
    (h : p.finish i o = some p') : p.Keeps held p' := by
  unfold finish at h
  split at h
  · next d hphase =>
    obtain rfl := Option.some.inj h
    obtain ⟨t, ht, hrunning⟩ := exists_of_phase? hphase
    refine keeps_set ht (tasks_setPhase ht _) rfl rfl (by rw [hrunning]; rfl)
      (by simp [hrunning]) fun _ hunclosed => hunclosed.turn (by simp) ?_
    rintro _ _ ⟨⟩
    exact ho
  · simp at h

theorem ends_settle (h : p.settle i = some (answer, p')) : p.Ends held i answer p' := by
  unfold settle at h
  split at h
  · next d o hphase =>
    exact ends_deliver hphase rfl (by simp) (fun _ hreturned => hreturned d o rfl)
      (Option.some.inj h)
  · simp at h

/-- A worker lets go of a task that he does not hold any more. -/
theorem keeps_letGo (hheld : ¬held i) (h : p.letGo i = some p') : p.Keeps held p' := by
  unfold letGo at h
  split at h
  · next hphase =>
    obtain rfl := Option.some.inj h
    exact keeps_setPhase hphase rfl (fun hi => absurd hi hheld) (by simp)
  · simp at h

/-- Only the body of a task times out. -/
theorem isOpen_of_isDue {now : Moment} {t : PoolTask τ ρ} (h : isDue now t = true) :
    t.phase.isOpen = true := by
  cases hphase : t.phase with
  | running d | returned d o => rfl
  | _ => simp [isDue, hphase, Phase.deadline?] at h

theorem keeps_expire {now : Moment} (h : p.expire i now = some (answer, p')) :
    p.Keeps held p' := by
  unfold expire at h
  split at h
  · next t d ht _ =>
    split at h
    · next hdue =>
      obtain ⟨-, htasks⟩ := deliver_eq ht (.failed (.timedOut d))
      obtain ⟨haccepts, habandoned⟩ := door_deliver i (.failed (.timedOut d)) p
      rw [Option.some.inj h] at htasks haccepts habandoned
      refine keeps_set ht htasks haccepts habandoned (isOpen_of_isDue hdue) (fun _ hs => hs) ?_
      intro _ hunclosed
      refine hunclosed.turn ?_ hunclosed.returned
      rintro _ ⟨⟩
      rfl
    · simp at h
  · simp at h

/-- A task that timed out has failed. -/
theorem failed_of_expire {now : Moment} {o : TaskOutcome ρ}
    (h : p.expire i now = some (some o, p')) : ∃ e, o = .failed e := by
  unfold expire at h
  split at h
  · next t d ht _ =>
    split at h
    · obtain ⟨hanswer, -⟩ := deliver_eq ht (.failed (.timedOut d))
      rw [Option.some.inj h] at hanswer
      obtain ⟨hoffer, -, -⟩ := PoolTask.outcome_turn_of_some t.phase hanswer.symm
      exact ⟨_, (Option.some.inj hoffer).symm⟩
    · simp at h
  · simp at h

/-- The body of a task goes on, and the task knows more. -/
theorem keeps_setTask {t : PoolTask τ ρ} (ht : p.tasks[i]? = some t)
    (hopen : t.phase.isOpen = true) (u : τ) : p.Keeps held (p.setTask i u) :=
  keeps_set ht (tasks_modify ht _) rfl rfl hopen (fun _ hs => hs)
    fun _ hunclosed => ⟨hunclosed.outcome, hunclosed.returned⟩

end Pool

end GradedReading
