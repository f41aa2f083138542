import GradedReading.Proofs.Pipeline.Course
import GradedReading.Proofs.Pool.Life
import Mathlib.Algebra.BigOperators.Group.List.Basic

/-!
# GradedReading.Proofs.Pipeline.Share

The course of an operation, read off the pipeline.

**Key idea:** each script and each task of a pipeline has a *share* in the course of the operation
that it is about, and none in that of any other. What is under way for an operation, what was found
and what was given are sums over shares, so a change of one script or one task changes one summand.
-/

namespace GradedReading

open Search Instr

/-- What is under way, what was found and what was given. -/
abbrev Share := Multiset (List Instr) × Multiset SearchResult × Multiset (Source × Document)

/-- What is under way, as a part of a share. -/
def agendaPart : Share →+ Multiset (List Instr) := AddMonoidHom.fst _ _

/-- What was found, as a part of a share. -/
def foundPart : Share →+ Multiset SearchResult := (AddMonoidHom.fst _ _).comp (AddMonoidHom.snd _ _)

/-- The share of a task in the course of an operation. -/
def PoolTask.share (n : Nat) (s : Stage) (t : PoolTask s.Task s.Yield) : Share :=
  if s.operationOf t.task = n then
    match t.outcome with
    | none => ({[submit s (s.fresh t.task)]}, 0, 0)
    | some o => (0, s.found o, s.given t.task o)
  else 0

/-- The share of a script in the course of an operation. -/
def Script.share (n : Nat) (x : Script) : Share :=
  match x.rest with
  | [] => 0
  | i :: rest => if i.operation? = some n then ({i :: rest}, 0, 0) else 0

/-- The share of a pool. -/
def Pool.share (n : Nat) (s : Stage) (pool : Pool s.Task s.Yield) : Share :=
  (pool.tasks.map (PoolTask.share n s)).sum

/-- The share of all pools. -/
def Pools.share (n : Nat) (ps : Pools) : Share :=
  ps.search.share n .search + ps.crawl.share n .crawl + ps.parse.share n .parse

/-- What the operation is to do it with, if it was given. -/
def Operation.sources? (o : Operation) : Option (List Source) :=
  match o.plan with
  | .search .. => none
  | .parse sources => some sources

/-- The course of an operation that has this share in its pipeline. -/
def Course.of (share : Share) (o : Operation) : Course :=
  { job := o.job, begun := o.begun, sources? := o.sources?, agenda := share.1, found := share.2.1
    given := share.2.2 }

@[simp] theorem Course.of_moveCursor (share : Share) (place : CursorPlace) (o : Operation) :
    Course.of share (o.moveCursor place) = Course.of share o := by
  obtain ⟨job, begun, keywords, plan⟩ := o
  cases plan <;> rfl

theorem Operation.script_eq (n : Nat) (share : Share) (o : Operation) :
    (Course.of share o).script n = o.script n := by
  unfold Course.script Operation.script
  obtain ⟨job, begun, keywords, plan⟩ := o
  cases plan <;> rfl

namespace Pipeline

/-- The share of everything under way. -/
def share (n : Nat) (p : Pipeline) : Share :=
  (p.scripts.map (Script.share n)).sum + p.pools.share n

/-- The course of the operation with this number. -/
def course? (n : Nat) (p : Pipeline) : Option Course := p.operations[n]?.map (.of (p.share n))

end Pipeline

/-! ### Changing one summand -/

section Sum

variable {α M : Type} [AddCommMonoid M] (f : α → M) {l : List α} {i : Nat} {x : α}

theorem sum_map_eq_add_eraseIdx (h : l[i]? = some x) :
    (l.map f).sum = f x + ((l.eraseIdx i).map f).sum := by
  obtain ⟨hi, rfl⟩ := List.getElem?_eq_some_iff.1 h
  have hsum := List.CommMonoid.add_sum_eraseIdx (l := l.map f) (i := i) (by simpa using hi)
  rw [← hsum, List.getElem_map, List.eraseIdx_map]

theorem sum_map_set (h : l[i]? = some x) (y : α) :
    ((l.set i y).map f).sum = f y + ((l.eraseIdx i).map f).sum := by
  obtain ⟨hi, -⟩ := List.getElem?_eq_some_iff.1 h
  rw [sum_map_eq_add_eraseIdx f (l := l.set i y) (i := i) (x := y) (by simp [hi]),
    List.eraseIdx_set_eq]

/-- What is nothing in each share is nothing in their sum. -/
theorem sum_share_eq_zero {f : α → Share} (part : Share →+ M) (h : ∀ x ∈ l, part (f x) = 0) :
    part (l.map f).sum = 0 := by
  rw [map_list_sum, List.map_map]
  refine List.sum_eq_zero fun y hy => ?_
  obtain ⟨x, hx, rfl⟩ := List.mem_map.1 hy
  exact h x hx

end Sum

/-- What is nothing in the share of each script and each task is nothing in that of the pipeline. -/
theorem Pipeline.part_share_eq_zero {M : Type} [AddCommMonoid M] {n : Nat} {p : Pipeline}
    (part : Share →+ M) (hscripts : ∀ x ∈ p.scripts, part (x.share n) = 0)
    (htasks : ∀ s, ∀ t ∈ (p.pools.get s).tasks, part (t.share n s) = 0) :
    part (p.share n) = 0 := by
  have hpool : ∀ s, part ((p.pools.get s).share n s) = 0 := fun s =>
    sum_share_eq_zero part (htasks s)
  have hsearch : part (p.pools.search.share n .search) = 0 := hpool .search
  have hcrawl : part (p.pools.crawl.share n .crawl) = 0 := hpool .crawl
  have hparse : part (p.pools.parse.share n .parse) = 0 := hpool .parse
  rw [Pipeline.share, Pools.share, map_add, map_add, map_add, sum_share_eq_zero part hscripts,
    hsearch, hcrawl, hparse]
  simp

namespace Pools

variable {n : Nat} {s : Stage} {ps : Pools}

/-- The shares of the other pools. -/
theorem exists_share_set (n : Nat) (s : Stage) (ps : Pools) : ∃ others,
    ps.share n = (ps.get s).share n s + others ∧
    ∀ pool, (ps.set s pool).share n = pool.share n s + others := by
  cases s with
  | search => exact ⟨_, add_assoc .., fun pool => add_assoc ..⟩
  | crawl =>
      refine ⟨ps.search.share n .search + ps.parse.share n .parse, ?_, fun pool => ?_⟩ <;>
        exact (congrArg (· + _) (add_comm ..)).trans (add_assoc ..)
  | parse => exact ⟨_, add_comm .., fun pool => add_comm ..⟩

theorem share_set_of_tasks_eq {pool : Pool s.Task s.Yield} (h : pool.tasks = (ps.get s).tasks)
    (n : Nat) : (ps.set s pool).share n = ps.share n := by
  obtain ⟨others, hold, hnew⟩ := exists_share_set n s ps
  rw [hold, hnew, Pool.share, Pool.share, h]

theorem share_set_append {pool : Pool s.Task s.Yield} {t : PoolTask s.Task s.Yield}
    (h : pool.tasks = (ps.get s).tasks ++ [t]) (n : Nat) :
    (ps.set s pool).share n = t.share n s + ps.share n := by
  obtain ⟨others, hold, hnew⟩ := exists_share_set n s ps
  rw [hold, hnew, Pool.share, Pool.share, h, List.map_append, List.sum_append, List.map_singleton,
    List.sum_singleton, add_comm _ (t.share n s), add_assoc]

/-- The share of all tasks but one. -/
theorem exists_share_set_task {i : Nat} {t : PoolTask s.Task s.Yield}
    (ht : (ps.get s).tasks[i]? = some t) (n : Nat) : ∃ others,
    ps.share n = t.share n s + others ∧
    ∀ (t' : PoolTask s.Task s.Yield) (pool : Pool s.Task s.Yield),
      pool.tasks = (ps.get s).tasks.set i t' →
      (ps.set s pool).share n = t'.share n s + others := by
  obtain ⟨others, hold, hnew⟩ := exists_share_set n s ps
  refine ⟨(((ps.get s).tasks.eraseIdx i).map (PoolTask.share n s)).sum + others, ?_, ?_⟩
  · rw [hold, Pool.share, sum_map_eq_add_eraseIdx _ ht, add_assoc]
  · intro t' pool hpool
    rw [hnew, Pool.share, hpool, sum_map_set _ ht, add_assoc]

end Pools

namespace PoolTask

variable {n : Nat} {s : Stage} {t t' : PoolTask s.Task s.Yield}

theorem share_of_ne (h : s.operationOf t.task ≠ n) : t.share n s = 0 := if_neg h

theorem share_of_none (h : s.operationOf t.task = n) (hout : t.outcome = none) :
    t.share n s = ({[submit s (s.fresh t.task)]}, 0, 0) := by
  simp [share, h, hout]

theorem share_of_some (h : s.operationOf t.task = n) {o : TaskOutcome s.Yield}
    (hout : t.outcome = some o) : t.share n s = (0, s.found o, s.given t.task o) := by
  simp [share, h, hout]

/-- Only what was submitted and the outcome count. -/
theorem share_congr (hfresh : s.fresh t'.task = s.fresh t.task) (hout : t'.outcome = t.outcome) :
    t'.share n s = t.share n s := by
  have hop : s.operationOf t'.task = s.operationOf t.task := by
    rw [← s.operationOf_fresh t'.task, hfresh, s.operationOf_fresh]
  have hgiven : ∀ o, s.given t'.task o = s.given t.task o := by
    intro o
    cases s with
    | search | crawl => rfl
    | parse =>
        obtain ⟨-, hsource⟩ : t'.task.operation = t.task.operation ∧
            t'.task.source = t.task.source := by
          simpa [Stage.fresh, ParseTask.ofSource] using hfresh
        cases o <;> simp [Stage.given, hsource]
  simp only [share, hop, hfresh, hout, hgiven]

end PoolTask

namespace Script

variable {owner : Owner} {rest : List Instr} {k : Option Nat}

/-- A script that is about one operation has a share in that one. -/
theorem share_of_about (h : ∀ i ∈ rest, i.operation? = k) (n : Nat) :
    (Script.mk owner rest).share n = if k = some n then (entry rest, 0, 0) else 0 := by
  cases rest with
  | nil => exact (ite_self (0 : Share)).symm
  | cons i rest =>
      have hi : i.operation? = k := h i (List.mem_cons_self ..)
      simp [share, entry, hi]

end Script

end GradedReading
