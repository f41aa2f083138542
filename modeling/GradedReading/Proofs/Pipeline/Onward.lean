import GradedReading.Proofs.Pipeline.Reach

/-!
# GradedReading.Proofs.Pipeline.Onward

Jobs only go on.

**Key idea:** whatever happens to a pipeline, what happens to a job of it is a list of operations on
that job. So what was reported stays reported, a job that is over stays as it is, and these facts
can be used wherever one pipeline is reached from another, without a look at how.
-/

namespace GradedReading

open Instr

namespace Job

/-- What was reported stays. -/
theorem events_prefix_apply (j : Job) (op : Op) : j.events <+: (j.apply op).2.events := by
  rcases hlive : j.isLive with _ | _
  · by_cases hop : op = .cancel
    · subst hop
      simp only [apply, cancel]
      split
      · exact List.prefix_rfl
      · exact List.prefix_append ..
    · rw [(apply_of_not_isLive hlive hop).2]
  · obtain ⟨o, ho⟩ := events_apply hlive op
    rw [ho, List.append_assoc]
    exact List.prefix_append ..

theorem events_prefix_applyAll (ops : List Op) (j : Job) :
    j.events <+: (applyAll ops j).events := by
  induction ops generalizing j with
  | nil => exact List.prefix_rfl
  | cons op ops ih => exact (events_prefix_apply j op).trans (ih (j.apply op).2)

end Job

/-- What happens to a job in one step. -/
theorem Course.Step.exists_ops {sv : Services} {n : Nat} {c c' : Course}
    (h : Course.Step sv n c c') : ∃ ops, c'.job = Job.applyAll ops c.job := by
  cases h with
  | cancel => exact ⟨[.cancel], rfl⟩
  | @tell _ op => exact ⟨[op], rfl⟩
  | begin | accept | refuse | settle => exact ⟨[], rfl⟩

namespace Pipeline

variable {sv : Services} {p p' p'' : Pipeline}

/-- A run goes on where it was. -/
theorem run?_append {acts : List Act} (h : p.run? sv acts = some p') (acts' : List Act) :
    p.run? sv (acts ++ acts') = p'.run? sv acts' := by
  unfold run? at h ⊢
  rw [List.foldlM_append, h]
  rfl

/-- The second pipeline is what the first may become. -/
def Reaches (sv : Services) (p p' : Pipeline) : Prop := ∃ acts, p.run? sv acts = some p'

namespace Reaches

theorem rfl : Reaches sv p p := ⟨[], run?_nil sv p⟩

theorem of_act {a : Act} (h : p.act? sv a = some p') : Reaches sv p p' := ⟨[a], by simp [h]⟩

theorem call (sv : Services) (p : Pipeline) (c : Call) : Reaches sv p (p.call sv c) :=
  of_act (a := .call c) (Eq.refl _)

theorem move {m : Move} (h : p.move? sv m = some p') : Reaches sv p p' := of_act (a := .move m) h

theorem trans (h : Reaches sv p p') (h' : Reaches sv p' p'') : Reaches sv p p'' := by
  obtain ⟨acts, hacts⟩ := h
  obtain ⟨acts', hacts'⟩ := h'
  exact ⟨acts ++ acts', (run?_append hacts acts').trans hacts'⟩

end Reaches

/-- What acts of some kind keep, runs that consist of such acts keep. -/
theorem run_induction_of {P : Act → Prop} {I : Pipeline → Prop}
    (hstep : ∀ {p a p'}, P a → p.act? sv a = some p' → I p → I p') {acts : List Act}
    (hacts : ∀ a ∈ acts, P a) (h : I p) (hrun : p.run? sv acts = some p') : I p' := by
  induction acts generalizing p with
  | nil =>
      obtain rfl : p = p' := by simpa using hrun
      exact h
  | cons a acts ih =>
      obtain ⟨p₁, ha, hrest⟩ := Option.bind_eq_some_iff.1 hrun
      obtain ⟨hfirst, hothers⟩ := List.forall_mem_cons.1 hacts
      exact ih hothers (hstep hfirst ha h) hrest

/-- What every act keeps, runs keep. -/
theorem run_induction {I : Pipeline → Prop}
    (hstep : ∀ {p a p'}, p.act? sv a = some p' → I p → I p') {acts : List Act} (h : I p)
    (hrun : p.run? sv acts = some p') : I p' :=
  run_induction_of (P := fun _ => True) (fun _ hp => hstep hp) (fun _ _ => trivial) h hrun

/-- A pipeline of which every task, script and course is as it should be. -/
structure Fine (sv : Services) (p : Pipeline) : Prop where
  sound : p.Sound sv False
  tidy : ∀ n c, p.course? n = some c → c.Tidy

theorem fine_ofSettings (sv : Services) (settings : Settings) : (ofSettings settings).Fine sv :=
  ⟨sound_ofSettings sv False settings, fun n c hc => by simp [course?, ofSettings] at hc⟩

theorem Fine.reaches (h : p.Fine sv) (hp : Reaches sv p p') : p'.Fine sv := by
  obtain ⟨acts, hrun⟩ := hp
  obtain ⟨hsound, htidy⟩ := courses_run (I := fun _ c => c.Tidy) (fun _ _ h => h.tidy)
    (fun _ _ _ hstep h => h.step hstep) h.sound h.tidy (fun hf => hf.elim) hrun
  exact ⟨hsound, htidy⟩

theorem job?_eq_some {n : Nat} {j : Job} :
    p.job? n = some j ↔ ∃ o, p.operations[n]? = some o ∧ o.job = j :=
  Option.map_eq_some_iff

/-- Every job is under way or has ended. -/
theorem Fine.ending (h : p.Fine sv) {n : Nat} {j : Job} (hj : p.job? n = some j) :
    j.UnderWay ∨ ∃ o, j.Ended o := by
  obtain ⟨o, ho, rfl⟩ := job?_eq_some.1 hj
  exact (h.tidy n _ (course?_of_eq ho rfl)).ending

theorem Follows.job? {told : Prop} (h : Follows sv told p p') {n : Nat} {j : Job}
    (hj : p.job? n = some j) : ∃ ops, p'.job? n = some (Job.applyAll ops j) := by
  obtain ⟨o, ho, rfl⟩ := job?_eq_some.1 hj
  obtain ⟨c', hc', hchange⟩ := h.step n _ (course?_of_eq ho rfl)
  obtain ⟨o', ho', rfl⟩ := course?_eq_some.1 hc'
  have hops : ∃ ops, o'.job = Job.applyAll ops o.job := by
    rcases hchange with hsame | hstep
    · exact ⟨[], congrArg Course.job hsame⟩
    · exact hstep.exists_ops
  obtain ⟨ops, hops⟩ := hops
  exact ⟨ops, job?_eq_some.2 ⟨o', ho', hops⟩⟩

/-- **Jobs only go on.** What happens to a job is a list of operations on it. -/
theorem Fine.job?_reaches (h : p.Fine sv) (hp : Reaches sv p p') {n : Nat} {j : Job}
    (hj : p.job? n = some j) : ∃ ops, p'.job? n = some (Job.applyAll ops j) := by
  obtain ⟨acts, hrun⟩ := hp
  induction acts generalizing p j with
  | nil =>
      obtain rfl : p = p' := by simpa using hrun
      exact ⟨[], hj⟩
  | cons a acts ih =>
      obtain ⟨p₁, ha, hrest⟩ := Option.bind_eq_some_iff.1 hrun
      have hfollows : Follows sv False p p₁ := follows_act h.sound (fun hf => hf.elim) ha
      obtain ⟨ops, hops⟩ := hfollows.job? hj
      obtain ⟨ops', hops'⟩ := ih (h.reaches (.of_act ha)) hops hrest
      exact ⟨ops ++ ops', by rw [hops', Job.applyAll_append]⟩

/-- What was reported stays reported. -/
theorem Fine.events_reaches (h : p.Fine sv) (hp : Reaches sv p p') {n : Nat} {j : Job}
    (hj : p.job? n = some j) :
    ∃ j', p'.job? n = some j' ∧ j.events <+: j'.events := by
  obtain ⟨ops, hops⟩ := h.job?_reaches hp hj
  exact ⟨_, hops, Job.events_prefix_applyAll ops j⟩

theorem isOver_eq (p : Pipeline) (n : Nat) :
    p.isOver n = (p.job? n).any (·.state.isTerminal) := by
  rw [isOver, job?, Option.any_map]
  rfl

/-- What is over stays over. -/
theorem Fine.isOver_reaches (h : p.Fine sv) (hp : Reaches sv p p') {n : Nat}
    (hover : p.isOver n = true) : p'.isOver n = true := by
  rw [isOver_eq] at hover ⊢
  obtain ⟨j, hj, hterminal⟩ := (Option.any_eq_true ..).1 hover
  obtain ⟨ops, hops⟩ := h.job?_reaches hp hj
  rw [hops, Option.any_some, Job.applyAll_of_isTerminal hterminal]
  exact hterminal

end Pipeline

end GradedReading
