import GradedReading.Proofs.Pipeline.Share

/-!
# GradedReading.Proofs.Pipeline.Sound

What is true of every task and every script of a pipeline.

**Key idea:** a script is about one operation or about none, and a task has no outcome only as long
as somebody still has it in hand. What waits in a task to become its outcome is something that the
services may give. `Sound` collects these facts; the rest of this module shows that a task keeps
them on every turn of its life and on every step of its body.

A task is lost only if the clock cannot tell its deadline; `told` says that this never happens.
-/

namespace GradedReading

open Search Web Instr

/-- What a task knows before it ends. Only a search collects something. -/
def Stage.IsNumbered : (s : Stage) → s.Task → Prop
  | .search, t => ∀ f, t.fetch = some f → f.Numbered
  | .crawl, _ | .parse, _ => True

/-- A task that has not begun knows nothing. -/
theorem Stage.isNumbered_of_fresh {s : Stage} {t : s.Task} (h : s.fresh t = t) :
    s.IsNumbered t := by
  cases s with
  | search =>
      intro f hf
      rw [← h] at hf
      simp [Stage.fresh, SearchTask.ofOperation] at hf
  | crawl | parse => trivial

/-- The outcome is one that the body of the task may have. -/
structure TaskOutcome.Fits (sv : Services) (s : Stage) (t : s.Task) (o : TaskOutcome s.Yield) :
    Prop where
  kept : o ≠ .discarded
  yields : ∀ y, o = .completed y → s.Yields sv t y

theorem TaskOutcome.fits_failed {sv : Services} {s : Stage} {t : s.Task} (e : TaskError) :
    Fits sv s t (.failed e) := ⟨by simp, by simp⟩

/-- A task of a pipeline with `m` operations. -/
structure PoolTask.Sound (sv : Services) (told : Prop) (s : Stage) (m : Nat)
    (t : PoolTask s.Task s.Yield) : Prop where
  operation : s.operationOf t.task < m
  /-- Nobody is done with a task that has no outcome. -/
  unsettled : t.outcome = none → t.phase ≠ .settling ∧ t.phase ≠ .done
  kept : told → t.phase ≠ .lost
  returned : ∀ d o, t.phase = .returned d o → o.Fits sv s t.task
  numbered : s.IsNumbered t.task

/-- What is left of a script of a pipeline with `m` operations. -/
structure Instr.Sound (m : Nat) (rest : List Instr) : Prop where
  /-- It is about one operation, or about none. -/
  about : ∃ k, (∀ i ∈ rest, i.operation? = k) ∧ ∀ n, k = some n → n < m
  /-- What it submits has not begun. -/
  submits : ∀ s t, submit s t ∈ rest → s.fresh t = t

/-- The parsers of the cache are those that the factory builds. -/
def Parser.Cache.BuiltBy (factory : Parser.Factory) (c : Parser.Cache) : Prop :=
  ∀ l q, (l, q) ∈ c.parsers → factory.create l = .ok q.engine

/-- A pipeline whose tasks and scripts are as they should be. -/
structure Pipeline.Sound (sv : Services) (told : Prop) (p : Pipeline) : Prop where
  scripts : ∀ x ∈ p.scripts, Instr.Sound p.operations.length x.rest
  tasks : ∀ s, ∀ t ∈ (p.pools.get s).tasks, t.Sound sv told s p.operations.length
  parsers : p.parsers.BuiltBy sv.parsers

variable {sv : Services} {told : Prop} {s : Stage} {m : Nat} {t : PoolTask s.Task s.Yield}

namespace PoolTask

theorem sound_queued {number : Nat} {u : s.Task} (hop : s.operationOf u < m)
    (hnum : s.IsNumbered u) : (PoolTask.mk number u .queued none).Sound sv told s m :=
  ⟨hop, by simp, by simp, by simp, hnum⟩

theorem Sound.mono {m' : Nat} (h : t.Sound sv told s m) (hm : m ≤ m') : t.Sound sv told s m' :=
  { h with operation := Nat.lt_of_lt_of_le h.operation hm }

/-- A task keeps what is true of it on every turn. -/
theorem Sound.turn (h : t.Sound sv told s m) {flagged untold : Prop} {phase : Phase s.Yield}
    {offer : Option (TaskOutcome s.Yield)} (hturn : t.phase.Turn flagged untold phase offer)
    (htold : told → ¬untold) : (t.turn phase offer).Sound sv told s m := by
  obtain ⟨number, task, before, outcome⟩ := t
  refine ⟨h.operation, ?_, ?_, ?_, h.numbered⟩
  · intro hout
    -- only a turn that offers nothing leaves the task without an outcome
    obtain ⟨hnone, hoffer⟩ : outcome = none ∧ offer = none := by
      simpa [PoolTask.turn] using hout
    have hopen := h.unsettled hnone
    cases hturn with
    | letGo => exact absurd rfl hopen.1
    | take | clear | run | lose => simp [PoolTask.turn]
    | giveUp | discard | settle | expire => simp at hoffer
  · intro ht
    -- only a deadline that cannot be told loses a task
    cases hturn with
    | lose hlost => exact absurd hlost (htold ht)
    | expire => exact h.kept ht
    | _ => simp [PoolTask.turn]
  · intro d o hphase
    cases hturn with
    | expire => exact h.returned d o hphase
    | _ => simp [PoolTask.turn] at hphase

/-- What a task accepts is a failure, or what its body ended with, or it was cancelled. -/
theorem Sound.of_offer (h : t.Sound sv told s m) {flagged untold : Prop} {phase : Phase s.Yield}
    {o : TaskOutcome s.Yield} (hturn : t.phase.Turn flagged untold phase (some o)) :
    (o = .discarded → flagged) ∧ ∀ y, o = .completed y → s.Yields sv t.task y := by
  -- only a cancelled task is discarded, and only a body that ended gives something
  generalize hphase : t.phase = before at hturn
  cases hturn with
  | giveUp e | expire _ e => simp
  | discard hflag => simp [hflag]
  | settle d o =>
      have hfits := h.returned d o hphase
      exact ⟨fun hd => absurd hd hfits.kept, hfits.yields⟩

/-- The body of a task went on, and the task may know more. -/
theorem Sound.of_task (h : t.Sound sv told s m) {u : s.Task}
    (hop : s.operationOf u = s.operationOf t.task) (hnum : s.IsNumbered u) {d : Option Moment}
    (hrun : t.phase = .running d) : ({ t with task := u } : PoolTask _ _).Sound sv told s m :=
  ⟨hop ▸ h.operation, h.unsettled, h.kept, by simp [hrun], hnum⟩

/-- The body of a task ended. -/
theorem Sound.of_returned (h : t.Sound sv told s m) {o : TaskOutcome s.Yield}
    (ho : o.Fits sv s t.task) (d : Option Moment) :
    ({ t with phase := .returned d o } : PoolTask _ _).Sound sv told s m := by
  refine ⟨h.operation, by simp, by simp, ?_, h.numbered⟩
  rintro d' o' ⟨rfl, rfl⟩
  exact ho

end PoolTask

namespace Instr

theorem Sound.mono {m' : Nat} {rest : List Instr} (h : Instr.Sound m rest) (hm : m ≤ m') :
    Instr.Sound m' rest := by
  obtain ⟨k, hk, hlt⟩ := h.about
  exact ⟨⟨k, hk, fun n hn => Nat.lt_of_lt_of_le (hlt n hn) hm⟩, h.submits⟩

/-- Any part of a script is as good. -/
theorem Sound.subset {rest rest' : List Instr} (h : Instr.Sound m rest) (hsub : rest' ⊆ rest) :
    Instr.Sound m rest' := by
  obtain ⟨k, hk, hlt⟩ := h.about
  exact ⟨⟨k, fun i hi => hk i (hsub hi), hlt⟩, fun s t ht => h.submits s t (hsub ht)⟩

/-- An instruction about the same operation, which submits nothing, may take the place of the first
one. -/
theorem Sound.replace {i i' : Instr} {rest : List Instr} (h : Instr.Sound m (i :: rest))
    (hi : i'.operation? = i.operation?) (hsub : ∀ s t, i' ≠ submit s t) :
    Instr.Sound m (i' :: rest) := by
  obtain ⟨k, hk, hlt⟩ := h.about
  have htail : Instr.Sound m rest := h.subset (List.subset_cons_self ..)
  refine ⟨⟨k, fun j hj => ?_, hlt⟩, ?_⟩
  · rcases List.mem_cons.1 hj with rfl | hmem
    · exact hi.trans (hk i (List.mem_cons_self ..))
    · exact hk j (List.mem_cons_of_mem _ hmem)
  · intro s t ht
    rcases List.mem_cons.1 ht with heq | hmem
    · exact absurd heq.symm (hsub s t)
    · exact htail.submits s t hmem

/-- The operation that the first instruction is about is there, and the whole script is about it. -/
theorem Sound.of_head {i : Instr} {rest : List Instr} (h : Instr.Sound m (i :: rest)) {n : Nat}
    (hi : i.operation? = some n) : n < m ∧ ∀ j ∈ i :: rest, j.operation? = some n := by
  obtain ⟨k, hk, hlt⟩ := h.about
  obtain rfl : k = some n := (hk i (List.mem_cons_self ..)).symm.trans hi
  exact ⟨hlt n rfl, hk⟩

/-- The instruction is about this operation, and what it submits has not begun. -/
structure Concerns (n : Nat) (i : Instr) : Prop where
  operation : i.operation? = some n
  submits : ∀ s t, i = submit s t → s.fresh t = t

theorem concerns_tell (n : Nat) (op : Job.Op) : Concerns n (tell n op) := ⟨rfl, by simp⟩

theorem concerns_require (n : Nat) (op : Job.Op) : Concerns n (require n op) := ⟨rfl, by simp⟩

theorem concerns_submit {n : Nat} (s : Stage) (u : s.Task) (hop : s.operationOf u = n)
    (h : s.fresh u = u) : Concerns n (submit s u) :=
  ⟨congrArg some hop, by rintro s' t' ⟨⟩; exact h⟩

theorem sound_of_concerns {n : Nat} {rest : List Instr} (hn : n < m)
    (h : ∀ i ∈ rest, Concerns n i) : Instr.Sound m rest :=
  ⟨⟨some n, fun i hi => (h i hi).operation, fun _ hk => Option.some.inj hk ▸ hn⟩,
    fun s t ht => (h _ ht).submits s t rfl⟩

theorem concerns_fanOut {α : Type} {n : Nat} {task : α → s.Task}
    (h : ∀ x, Concerns n (submit s (task x))) (xs : List α) :
    ∀ i ∈ fanOut n s task xs, Concerns n i := by
  intro i hi
  rcases List.mem_append.1 hi with hmem | hmem
  · obtain ⟨x, -, rfl⟩ := List.mem_map.1 hmem
    exact h x
  · rw [List.mem_singleton.1 hmem]
    exact concerns_tell n _

/-- What begins an operation concerns it. -/
theorem concerns_script (n : Nat) (o : Operation) : ∀ i ∈ o.script n, Concerns n i := by
  unfold Operation.script
  split
  · have hsearch : Concerns n (submit .search (.ofOperation n)) :=
      concerns_submit .search _ rfl rfl
    simp [beginSearch, concerns_require, hsearch]
  · next sources _ =>
    have hfan := concerns_fanOut (n := n)
      (fun x => concerns_submit .parse (.ofSource n x) rfl rfl) sources
    simpa [beginParses, concerns_require] using hfan

theorem concerns_afterSearch (n : Nat) (o : TaskOutcome (List SearchResult)) :
    ∀ i ∈ afterSearch n o, Concerns n i := by
  cases o with
  | completed rs =>
      have hfan := concerns_fanOut (n := n)
        (fun x => concerns_submit .crawl (.ofResult n x) rfl rfl) rs
      simpa [afterSearch, concerns_require] using hfan
  | failed e => simp [afterSearch, concerns_tell]
  | discarded => simp [afterSearch]

theorem concerns_afterCrawl (n : Nat) (r : SearchResult) (o : TaskOutcome CrawledPage) :
    ∀ i ∈ afterCrawl n r o, Concerns n i := by
  cases o with
  | completed page =>
      have hparse : Concerns n (submit .parse (.ofSource n (page.source r.rank))) :=
        concerns_submit .parse _ rfl rfl
      simpa [afterCrawl, concerns_require] using hparse
  | failed e => simp [afterCrawl, concerns_tell]
  | discarded => simp [afterCrawl]

theorem concerns_afterParse (n : Nat) (o : TaskOutcome Document) :
    ∀ i ∈ afterParse n o, Concerns n i := by
  cases o <;> simp [afterParse, concerns_tell]

/-- What follows a task concerns its operation. -/
theorem concerns_after (s : Stage) (u : s.Task) (o : TaskOutcome s.Yield) :
    ∀ i ∈ after s u o, Concerns (s.operationOf u) i := by
  cases s with
  | search => exact concerns_afterSearch _ o
  | crawl => exact concerns_afterCrawl _ _ o
  | parse => exact concerns_afterParse _ o

end Instr

end GradedReading
