import GradedReading.Proofs.Pipeline.Course
import Mathlib.Algebra.Order.Group.Nat

/-!
# GradedReading.Proofs.Pipeline.Balance

The slots of a live job are those that its agenda will settle.

**Key idea:** while the job is live, the slots that are out and those that will be reserved are
together as many as will be settled, and the fan-out is done or will be done. So once nothing is
under way no slot is out and the fan-out is done, and a live job in that state would have been
completed.

An operation *opens* its slots once, after its search if it has one, and before that none is out
(`Ready`). So the number of slots that are out never wraps around.
-/

namespace GradedReading

open Instr

namespace Job

theorem isLive_cancel (j : Job) : (j.apply .cancel).2.isLive = false := by
  simp only [apply, cancel]
  split
  · next hover => exact isLive_of_isTerminal hover
  · exact isLive_finish _ _ rfl

theorem isLive_fail (j : Job) (e : OperationError) : (j.apply (.fail e)).2.isLive = false := by
  simp only [apply, fail, whenLive]
  split
  · exact isLive_finish _ _ rfl
  · next hlive => simpa using hlive

/-- How often an operation reserves slots: a number that is not zero, once. -/
def Op.opens : Op → Nat
  | .reserve n => min n 1
  | _ => 0

theorem Op.reserves_of_opens {op : Op} (h : op.opens = 0) : op.reserves = 0 := by
  cases op with
  | reserve n =>
      simp only [opens] at h
      simp only [reserves]
      omega
  | _ => rfl

/-- The fan-out is done by operations that count as its end. -/
theorem fanOutDone_apply_le (j : Job) (op : Op) :
    (j.apply op).2.fanOutDone.toNat ≤ op.ends + j.fanOutDone.toNat := by
  have hiff := fanOutDone_apply j op
  cases op with
  | finishFanOut => exact Nat.le_trans (Bool.toNat_le _) (Nat.le_add_right _ _)
  | _ => simp_all

/-- An operation that counts as the end of the fan-out does it, or ends the job. -/
theorem fanOutDone_of_ends {j : Job} {op : Op} (hlive : (j.apply op).2.isLive = true)
    (h : op.ends ≠ 0 ∨ j.fanOutDone = true) : (j.apply op).2.fanOutDone = true := by
  rw [fanOutDone_apply]
  rcases h with hends | hdone
  · cases op with
    | finishFanOut => exact Or.inr rfl
    | fail e => simp [isLive_fail] at hlive
    | _ => simp [Op.ends] at hends
  · exact Or.inl hdone

end Job

namespace Instr

/-! ### Opening slots -/

/-- The searches, which reserve slots when they are done, and the reservations. -/
def opens : Instr → Nat := weight Job.Op.opens searchOf

theorem opens_refused_le (s : Stage) (t : s.Task) (e : TaskError) :
    opens (refused s t e) ≤ opens (submit s t) := by
  cases s <;> exact Nat.zero_le _

/-- What follows a task opens slots only if the task was a search. -/
theorem opens_after_le {s : Stage} (t : s.Task) (o : TaskOutcome s.Yield) :
    weigh opens (after s t o) ≤ searchOf s t := by
  cases o with
  | completed y =>
      cases s with
      | search =>
          simp [after, afterSearch, weigh_fanOut, opens, weight, searchOf, Job.Op.opens]
      | crawl | parse => exact Nat.le_refl 0
  | failed e => cases s <;> exact Nat.zero_le _
  | discarded => cases s <;> exact Nat.zero_le _

/-! ### The weights of a task's script -/

section Task

variable (s : Stage) (t : s.Task)

@[simp] theorem slotOf_fresh : slotOf s (s.fresh t) = slotOf s t := by cases s <;> rfl

@[simp] theorem searchOf_fresh : searchOf s (s.fresh t) = searchOf s t := by cases s <;> rfl

@[simp] theorem slots_submit : slots (submit s t) = slotOf s t := rfl

@[simp] theorem reserves_submit : reserves (submit s t) = 0 := rfl

@[simp] theorem ends_submit : ends (submit s t) = searchOf s t := rfl

theorem slots_refused (e : TaskError) : slots (refused s t e) = slots (submit s t) := by
  cases s <;> rfl

theorem reserves_refused (e : TaskError) : reserves (refused s t e) = reserves (submit s t) := by
  cases s <;> rfl

theorem ends_refused (e : TaskError) : ends (refused s t e) = ends (submit s t) := by
  cases s <;> rfl

variable {s} (o : TaskOutcome s.Yield)

/-- A task that was not discarded leaves a slot to settle for each that it stands for or that is
reserved for what follows it. -/
theorem slots_after (ho : o ≠ .discarded) :
    weigh slots (after s t o) = weigh reserves (after s t o) + slotOf s t := by
  cases o with
  | discarded => exact absurd rfl ho
  | failed e => cases s <;> rfl
  | completed y =>
      cases s with
      | search => simp [after, afterSearch, weigh_fanOut, slots, reserves, weight, slotOf,
          Job.Op.settles, Job.Op.reserves]
      | crawl | parse => rfl

/-- What follows a search brings the fan-out to an end, unless the search was discarded. -/
theorem ends_after (ho : o ≠ .discarded) : weigh ends (after s t o) = searchOf s t := by
  cases o with
  | discarded => exact absurd rfl ho
  | failed e => cases s <;> rfl
  | completed y =>
      cases s with
      | search => simp [after, afterSearch, weigh_fanOut, ends, weight, searchOf, Job.Op.ends]
      | crawl | parse => rfl

theorem ends_after_le : weigh ends (after s t o) ≤ searchOf s t := by
  by_cases ho : o = .discarded
  · subst ho
    cases s <;> exact Nat.zero_le _
  · exact Nat.le_of_eq (ends_after t o ho)

end Task

theorem total_reserves_le {agenda : Multiset (List Instr)} (h : ∀ e ∈ agenda, Orderly e) :
    total reserves agenda ≤ total slots agenda :=
  Multiset.sum_map_le_sum_map _ _ fun e he => (h e he).isFair.reserves_le

end Instr

namespace Course

theorem ends_script (n : Nat) (c : Course) : weigh ends (c.script n) = 1 := by
  unfold script
  split
  · rfl
  · simp [beginParses, weigh_fanOut, ends, weight, searchOf, Job.Op.ends]

theorem slots_script (n : Nat) (c : Course) :
    weigh slots (c.script n) = weigh reserves (c.script n) := by
  unfold script
  split
  · rfl
  · simp [beginParses, weigh_fanOut, slots, reserves, weight, slotOf, Job.Op.settles,
      Job.Op.reserves]

theorem opens_script_le (n : Nat) (c : Course) : weigh opens (c.script n) ≤ 1 := by
  unfold script
  split
  · exact Nat.le_refl 1
  · simp [beginParses, weigh_fanOut, opens, weight, searchOf, Job.Op.opens]

/-- As long as slots are to be opened, none is out. -/
structure Ready (c : Course) : Prop where
  opens_le : total opens c.agenda ≤ 1
  pending_eq : c.job.isLive = true → c.begun = false ∨ total opens c.agenda ≠ 0 →
    c.job.pending = 0

theorem IsNew.ready {c : Course} (h : c.IsNew) : c.Ready := by
  obtain ⟨kind, l, hjob⟩ := h.job
  constructor
  · simp [h.agenda]
  · intro _ _
    rw [hjob]
    rfl

/-- What is told a job that is ready can be counted. -/
theorem Ready.fits {c : Course} (h : c.Ready) {i : Instr} {op : Job.Op} {rest : List Instr}
    {others : Multiset (List Instr)} (he : c.agenda = (i :: rest) ::ₘ others)
    (hop : i.op? = some op) (hlive : c.job.isLive = true) : op.Fits c.job.pending := by
  by_cases hopens : op.opens = 0
  · exact Job.Op.fits_of_reserves (Job.Op.reserves_of_opens hopens) _
  · have hi : opens i = op.opens := weight_of_op? hop
    have hzero := h.pending_eq hlive (Or.inr (by simp [he, hi, hopens]))
    rw [hzero]
    exact op.fits_zero

theorem Ready.tell {c : Course} (h : c.Ready) {i : Instr} {op : Job.Op}
    {rest rest' : List Instr} {others : Multiset (List Instr)}
    (he : c.agenda = (i :: rest) ::ₘ others) (hop : i.op? = some op)
    (hle : weigh opens rest' ≤ weigh opens rest) (hbegun : c.begun = true)
    (hlive : (c.job.apply op).2.isLive = true → c.job.isLive = true) :
    ({ c with job := (c.job.apply op).2, agenda := entry rest' + others } : Course).Ready := by
  have hi : opens i = op.opens := weight_of_op? hop
  have hbefore := h.opens_le
  have hpending := h.pending_eq
  simp only [he, total_cons, weigh_cons, hi] at hbefore hpending
  constructor
  · simp only [total_add, total_entry]
    omega
  · intro hstill hnext
    have hmore : weigh opens rest' + total opens others ≠ 0 := by
      simpa only [hbegun, Bool.true_eq_false, false_or, total_add, total_entry] using hnext
    -- slots are opened once, so this was not the time
    have hopens : op.opens = 0 := by omega
    have hreserves := Job.Op.reserves_of_opens hopens
    have hzero := hpending (hlive hstill) (Or.inr (by omega))
    have hafter := Job.pending_apply (hlive hstill) op (Job.Op.fits_of_reserves hreserves _)
    simp only
    omega

/-- The agenda may change beside the job, as long as it opens no more slots. -/
theorem Ready.of_opens_le {c c' : Course} (h : c.Ready) (hjob : c'.job = c.job)
    (hbegun : c'.begun = c.begun) (hle : total opens c'.agenda ≤ total opens c.agenda) :
    c'.Ready := by
  refine ⟨hle.trans h.opens_le, ?_⟩
  rw [hjob, hbegun]
  intro hlive hnext
  refine h.pending_eq hlive (hnext.imp_right ?_)
  intro hmore hzero
  exact hmore (Nat.le_zero.1 (hzero ▸ hle))

theorem Ready.step {sv : Services} {n : Nat} {c c' : Course} (h : c.Ready) (ht : c.Tidy)
    (hstep : Step sv n c c') : c'.Ready := by
  cases hstep with
  | begin hnot =>
      obtain ⟨hagenda, -, -, -⟩ := ht.idle hnot
      constructor
      · simpa [hagenda] using opens_script_le n c
      · intro hlive _
        exact h.pending_eq hlive (Or.inl hnot)
  | cancel =>
      refine ⟨h.opens_le, fun hlive => absurd hlive ?_⟩
      simp [Job.isLive_cancel]
  | @tell i op rest rest' others he hop hrest =>
      have hle : weigh opens rest' ≤ weigh opens rest := by
        rcases hrest with rfl | ⟨rfl, -⟩
        · exact Nat.le_refl _
        · exact Nat.zero_le _
      exact h.tell he hop hle (ht.begun he) ht.accounted.isLive_of_apply
  | @accept s t rest others he =>
      refine h.of_opens_le rfl rfl (Nat.le_of_eq ?_)
      rw [he]
      exact total_accept opens (searchOf_fresh s t) rest others
  | @refuse s t rest others he err =>
      have hle := opens_refused_le s t err
      refine h.of_opens_le rfl rfl ?_
      simp only [he, total_cons, weigh_cons]
      omega
  | @settle s t others he o =>
      have hle := opens_after_le t o
      have hsubmit : opens (submit s t) = searchOf s t := rfl
      refine h.of_opens_le rfl rfl ?_
      simp only [he, total_add, total_entry, total_cons, weigh_cons, weigh_nil, hsubmit]
      omega

/-- Slots and fan-out are accounted for by what is under way. -/
structure Balanced (c : Course) : Prop where
  ready : c.Ready
  awaits : c.job.Awaits
  /-- The fan-out is done once. -/
  ends_le : total ends c.agenda + c.job.fanOutDone.toNat ≤ c.begun.toNat
  /-- The fan-out is done or will be done, while it matters. -/
  done : c.job.isLive = true → c.begun = true → total ends c.agenda = 0 → c.job.fanOutDone = true
  /-- Slots that are out or will be reserved are those that will be settled. -/
  slots_eq : c.job.isLive = true → c.job.pending + total reserves c.agenda = total slots c.agenda

theorem IsNew.balanced {c : Course} (h : c.IsNew) : c.Balanced := by
  obtain ⟨kind, l, hjob⟩ := h.job
  refine ⟨h.ready, ?_, ?_, fun _ hbegun => absurd hbegun (by simp [h.begun]), ?_⟩
  · rw [hjob]
    exact Job.awaits_create kind l
  · simp [h.agenda, hjob, Job.create]
  · intro _
    simp [h.agenda, hjob, Job.create]

/-- Telling a live job something moves as many slots on the agenda as in the job. -/
theorem Balanced.slots_tell {c : Course} (h : c.Balanced) (ht : c.Tidy) {i : Instr} {op : Job.Op}
    {rest : List Instr} {others : Multiset (List Instr)} (he : c.agenda = (i :: rest) ::ₘ others)
    (hop : i.op? = some op) (hlive : c.job.isLive = true) :
    (c.job.apply op).2.pending + total reserves (entry rest + others) =
      total slots (entry rest + others) := by
  have hi : slots i = op.settles ∧ reserves i = op.reserves :=
    ⟨weight_of_op? hop, weight_of_op? hop⟩
  have hslots := h.slots_eq hlive
  have hpending := Job.pending_apply hlive op (h.ready.fits he hop hlive)
  -- the job subtracts without going below zero: what it settles was on the agenda with a slot
  have hkind := op.reserves_eq_zero_or_settles_eq_zero
  have hset := op.settles_le_one
  have hall : ∀ e ∈ (i :: rest) ::ₘ others, Orderly e := he ▸ ht.orderly
  have hone := (hall _ (Multiset.mem_cons_self ..)).2.2.isFair.reserves_le
  have hothers := total_reserves_le fun e he => hall e (Multiset.mem_cons_of_mem he)
  simp only [he, total_cons, weigh_cons, hi] at hslots
  simp only [total_add, total_entry]
  omega

theorem Balanced.step {sv : Services} {n : Nat} {c c' : Course} (h : c.Balanced) (ht : c.Tidy)
    (hstep : Step sv n c c') : c'.Balanced := by
  have hready := h.ready.step ht hstep
  cases hstep with
  | begin hnot =>
      obtain ⟨hagenda, -, -, hdone⟩ := ht.idle hnot
      refine ⟨hready, h.awaits, ?_, ?_, ?_⟩
      · simp [hagenda, hdone, ends_script]
      · intro _ _ hends
        simp [hagenda, ends_script] at hends
      · intro hlive
        have hslots := h.slots_eq hlive
        simp only [hagenda, total_zero] at hslots
        simp only [hagenda, total_add, total_entry, total_zero, slots_script]
        omega
  | cancel =>
      have hover := Job.isLive_cancel c.job
      refine ⟨hready, fun hlive => absurd hlive (by simp [hover]), ?_,
        fun hlive => absurd hlive (by simp [hover]), fun hlive => absurd hlive (by simp [hover])⟩
      have hfan := Job.fanOutDone_apply_le c.job .cancel
      have hle := h.ends_le
      simp only [Job.Op.ends] at hfan
      simp only
      omega
  | @tell i op rest rest' others he hop hrest =>
      have hi : ends i = op.ends := weight_of_op? hop
      -- a script that ends early takes with it what it would have done
      have hrest_le : weigh ends rest' ≤ weigh ends rest := by
        rcases hrest with rfl | ⟨rfl, -⟩
        · exact Nat.le_refl _
        · exact Nat.zero_le _
      -- a script ends early only if the job is not live
      have hwhole : (c.job.apply op).2.isLive = true → c.job.isLive = true ∧ rest' = rest := by
        intro hlive
        have hbefore := ht.accounted.isLive_of_apply hlive
        exact ⟨hbefore, ht.rest_eq hbefore hrest⟩
      have hends := h.ends_le
      simp only [he, total_cons, weigh_cons, hi] at hends
      refine ⟨hready, ?_, ?_, ?_, ?_⟩
      · intro hlive
        have hbefore := (hwhole hlive).1
        exact h.awaits.apply ht.accounted (h.ready.fits he hop hbefore) hlive
      · have hfan := Job.fanOutDone_apply_le c.job op
        simp only [total_add, total_entry]
        omega
      · intro hlive hbegun hzero
        obtain ⟨hbefore, rfl⟩ := hwhole hlive
        simp only [total_add, total_entry] at hzero
        refine Job.fanOutDone_of_ends hlive ?_
        by_cases hop0 : op.ends = 0
        · refine Or.inr (h.done hbefore hbegun ?_)
          simp only [he, total_cons, weigh_cons, hi]
          omega
        · exact Or.inl hop0
      · intro hlive
        obtain ⟨hbefore, rfl⟩ := hwhole hlive
        exact h.slots_tell ht he hop hbefore
  | @accept s t rest others he =>
      have hends := total_accept ends (searchOf_fresh s t) rest others
      have hreserves := total_accept reserves (s := s) (t := t) rfl rest others
      have hslots := total_accept slots (slotOf_fresh s t) rest others
      rw [← he] at hends hreserves hslots
      refine ⟨hready, h.awaits, hends ▸ h.ends_le,
        fun hlive hbegun hzero => h.done hlive hbegun (hends ▸ hzero), fun hlive => ?_⟩
      rw [hreserves, hslots]
      exact h.slots_eq hlive
  | @refuse s t rest others he err =>
      have hends := total_refuse ends (ends_refused s t err) rest others
      have hreserves := total_refuse reserves (reserves_refused s t err) rest others
      have hslots := total_refuse slots (slots_refused s t err) rest others
      rw [← he] at hends hreserves hslots
      refine ⟨hready, h.awaits, hends ▸ h.ends_le,
        fun hlive hbegun hzero => h.done hlive hbegun (hends ▸ hzero), fun hlive => ?_⟩
      rw [hreserves, hslots]
      exact h.slots_eq hlive
  | @settle s t others he o hdiscard =>
      have hkeep : c.job.isLive = true → o ≠ .discarded := by
        intro hlive ho
        simp [Job.isLive, hdiscard ho] at hlive
      have hends := h.ends_le
      simp only [he, total_cons, weigh_cons, weigh_nil, ends_submit] at hends
      refine ⟨hready, h.awaits, ?_, fun hlive hbegun hzero => h.done hlive hbegun ?_, ?_⟩
      · have hafter := ends_after_le t o
        simp only [total_add, total_entry]
        omega
      · have hafter := ends_after t o (hkeep hlive)
        simp only [total_add, total_entry] at hzero
        simp only [he, total_cons, weigh_cons, weigh_nil, ends_submit]
        omega
      · intro hlive
        have hslots := h.slots_eq hlive
        have hafter := slots_after t o (hkeep hlive)
        simp only [he, total_cons, weigh_cons, weigh_nil, slots_submit, reserves_submit] at hslots
        simp only [total_add, total_entry]
        omega

/-- An operation that was begun and has nothing under way is over. -/
theorem Balanced.isTerminal {c : Course} (h : c.Balanced) (ht : c.Tidy) (hbegun : c.begun = true)
    (hrest : c.agenda = 0) : c.job.state.isTerminal = true ∧ c.job.outcome.isSome = true := by
  have hnot : c.job.isLive = false := by
    rcases hlive : c.job.isLive with _ | _
    · rfl
    · -- its fan-out would be done and no slot out, and such a job is completed
      have hdone := h.done hlive hbegun (by simp [hrest])
      have hout := h.awaits hlive hdone
      have hslots := h.slots_eq hlive
      simp only [hrest, total_zero] at hslots
      omega
  have hover := ht.accounted.isTerminal hnot
  refine ⟨hover, ?_⟩
  rcases ht.ending with hway | ⟨o, hend⟩
  · rw [hway.state] at hover
    exact Bool.noConfusion hover
  · simp [hend.outcome]

end Course

end GradedReading
