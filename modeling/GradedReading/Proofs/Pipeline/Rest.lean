import GradedReading.Pipeline.Run
import GradedReading.Proofs.Pipeline.Balance
import GradedReading.Proofs.Pipeline.Reach

/-!
# GradedReading.Proofs.Pipeline.Rest

No operation gets stuck.

**Key idea:** an operation is *at rest* when no task of it waits or is in a worker's hands and
nobody works through a script for it. Then nothing is on its agenda: a task that nobody has in hand
has its outcome, unless it was lost, and a task is lost only to a deadline that the clock cannot
tell. And an operation with nothing on its agenda is over, once it was begun.
-/

namespace GradedReading.Pipeline

open Instr

/-- No task of the operation waits or keeps a worker busy, and no script is about it. -/
def isAtRest (n : Nat) (p : Pipeline) : Bool :=
  (p.scripts.all fun x => x.rest.all fun i => i.operation? != some n) &&
    Stage.all.all fun s => (p.pools.get s).tasks.all fun t =>
      s.operationOf t.task != n || !t.phase.isQueued && !t.phase.isBusy

variable {sv : Services} {p : Pipeline} {n : Nat}

/-- A task that nobody has in hand has its outcome. -/
theorem exists_outcome {s : Stage} {m : Nat} {t : PoolTask s.Task s.Yield}
    (h : t.Sound sv True s m) (hqueued : t.phase.isQueued = false)
    (hbusy : t.phase.isBusy = false) : ∃ o, t.outcome = some o := by
  rcases hout : t.outcome with _ | o
  · -- the task would be settling, done or lost, and it is neither
    obtain ⟨hsettling, hdone⟩ := h.unsettled hout
    have hlost := h.kept trivial
    cases hphase : t.phase <;> simp_all [Phase.isQueued, Phase.isBusy]
  · exact ⟨o, rfl⟩

/-- A task that nobody has in hand is on no agenda. -/
theorem agenda_task {s : Stage} {m : Nat} {t : PoolTask s.Task s.Yield}
    (h : t.Sound sv True s m)
    (hrest : s.operationOf t.task = n → t.phase.isQueued = false ∧ t.phase.isBusy = false) :
    (t.share n s).1 = 0 := by
  by_cases hop : s.operationOf t.task = n
  · obtain ⟨hqueued, hbusy⟩ := hrest hop
    obtain ⟨o, hout⟩ := exists_outcome h hqueued hbusy
    rw [PoolTask.share_of_some hop hout]
  · rw [PoolTask.share_of_ne hop]
    rfl

/-- Nothing is under way for an operation at rest. -/
theorem agenda_eq_zero_of_isAtRest (h : p.Sound sv True) (hrest : p.isAtRest n = true) :
    (p.share n).1 = 0 := by
  simp only [isAtRest, Bool.and_eq_true, List.all_eq_true] at hrest
  obtain ⟨hscripts, htasks⟩ := hrest
  refine part_share_eq_zero agendaPart (fun x hx => ?_) fun s t ht => ?_
  · obtain ⟨owner, rest⟩ := x
    have hnot := hscripts _ hx
    cases rest with
    | nil => rfl
    | cons i rest =>
        have hi : i.operation? ≠ some n := by simpa using hnot i (List.mem_cons_self ..)
        simp [Script.share, hi]
  · refine agenda_task (h.tasks s t ht) fun hop => ?_
    have hfree := htasks s (by cases s <;> simp [Stage.all]) t ht
    simpa [hop] using hfree

/-- **No operation gets stuck.** Whatever calls and moves a pipeline went through, in any order and
with any services: as long as the clock could tell the deadlines, an operation that was begun and is
at rest is over, and its outcome is there. -/
theorem isTerminal_of_isAtRest (sv : Services) (settings : Settings) (acts : List Act)
    (htold : (ofSettings settings).tellsDeadlines sv acts = true)
    (hrun : (ofSettings settings).run? sv acts = some p) {o : Operation}
    (ho : p.operations[n]? = some o) (hbegun : o.begun = true) (hrest : p.isAtRest n = true) :
    o.job.state.isTerminal = true ∧ o.job.outcome.isSome = true := by
  obtain ⟨hsound, hall⟩ : p.Sound sv True ∧ ∀ n c, p.course? n = some c → c.Tidy ∧ c.Balanced :=
    courses_reachable (fun _ _ h => ⟨h.tidy, h.balanced⟩)
      (fun _ _ _ hstep h => ⟨h.1.step hstep, h.2.step h.1 hstep⟩) (fun _ => htold) hrun
  obtain ⟨htidy, hbalanced⟩ := hall n _ (course?_of_eq ho rfl)
  exact hbalanced.isTerminal htidy hbegun (agenda_eq_zero_of_isAtRest hsound hrest)

/-- Services of which every call fails. -/
def failing : Services where
  provider := ⟨fun _ _ _ => .panic "no results"⟩
  crawler := ⟨fun _ _ => .panic "no page"⟩
  parsers := { supports := fun _ => true, create := fun l => .error (.unsupported l) }
  blocked := .empty
  waits := .none

/-- Three sources are parsed and the pools are shut down meanwhile. One source is at work by then,
one waits, and one is still to be submitted. -/
def interrupted : List Act :=
  [.call (.parse .german [default, default, default] default), .call (.begin 0),
    .move (.advance 0), .move (.advance 0), .move (.advance 0), .move (.advance 0),
    .move (.take .parse), .move (.look .parse 0), .move (.start .parse 0), .move (.advance 0),
    .call (.shutDown false),
    .move (.advance 1), .move (.advance 1), .move (.advance 1), .move (.advance 1),
    .move (.advance 0), .move (.advance 0), .move (.advance 0),
    .move (.body .parse 0), .move (.settle .parse 0), .move (.advance 0), .move (.letGo .parse 0),
    .move (.take .parse), .move (.look .parse 1), .move (.advance 0), .move (.letGo .parse 1)]

/-- Every one of the three sources settles its slot, each in another way. -/
theorem isTerminal_interrupted :
    (ofSettings (.standard 1)).tellsDeadlines failing interrupted = true ∧
    ∃ p o, (ofSettings (.standard 1)).run? failing interrupted = some p ∧
      p.operations[0]? = some o ∧ o.begun = true ∧ p.isAtRest 0 = true ∧
      o.job.state.isTerminal = true ∧ o.job.outcome.isSome = true := by
  have htold : (ofSettings (.standard 1)).tellsDeadlines failing interrupted = true := by
    decide +kernel
  have hend : ((ofSettings (.standard 1)).run? failing interrupted).any
      (fun p => p.operations[0]?.any (·.begun) && p.isAtRest 0) = true := by decide +kernel
  obtain ⟨p, hrun, hp⟩ := (Option.any_eq_true ..).1 hend
  obtain ⟨hbegun, hrest⟩ := Bool.and_eq_true_iff.1 hp
  obtain ⟨o, ho, hbegun⟩ := (Option.any_eq_true ..).1 hbegun
  exact ⟨htold, p, o, hrun, ho, hbegun, hrest,
    isTerminal_of_isAtRest failing _ _ htold hrun ho hbegun hrest⟩

end GradedReading.Pipeline
