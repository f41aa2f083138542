import GradedReading.Proofs.Pipeline.Silence

/-!
# GradedReading.Proofs.Pipeline.Origin

Where the instructions of a pipeline come from.

**Key idea:** an instruction in a script was there before, or it has begun an operation, or follows
a task that has its outcome, or stands for a task that was refused. There is nothing else. So
statements about what scripts hold go through `Origin`, like statements about tasks and cursors
through their tables, and no script is opened again.
-/

namespace GradedReading

open Search Instr

namespace Pipeline

variable {sv : Services} {p p' p₁ : Pipeline} {a : Act} {s : Stage} {i : Instr} {k n : Nat}

/-! ### Instructions -/

/-- Where an instruction comes from that is there after an act. -/
inductive Origin (p p' : Pipeline) (i : Instr) : Prop
  | old {x : Script} (hx : x ∈ p.scripts) (hi : i ∈ x.rest)
  /-- A task was refused. -/
  | refused {x : Script} {s : Stage} {u : s.Task} {e : TaskError} (hx : x ∈ p.scripts)
      (hu : submit s u ∈ x.rest) (hi : i = Instr.refused s u e)
  /-- An operation was begun. -/
  | begun {n : Nat} {o : Operation} (ho : p.operations[n]? = some o) (hnot : o.begun = false)
      (hi : i ∈ o.script n)
  /-- A task got its outcome. -/
  | after {s : Stage} {t : PoolTask s.Task s.Yield} {o : TaskOutcome s.Yield}
      (ht : t ∈ (p'.pools.get s).tasks) (ho : t.outcome = some o) (hi : i ∈ Instr.after s t.task o)
  /-- It is about no operation. -/
  | aside (hi : i.operation? = none)

/-- Nobody has begun to work through anything. -/
theorem Origin.of_scripts (h : p'.scripts = p.scripts) {x : Script} (hx : x ∈ p'.scripts)
    (hi : i ∈ x.rest) : Origin p p' i := .old (h ▸ hx) hi

theorem scripts_tell (n : Nat) (op : Job.Op) (p : Pipeline) :
    (p.tell n op).2.scripts = p.scripts := by
  unfold tell
  split <;> rfl

/-- What becomes of a script of which the first instruction was carried out, and of the
operations. -/
structure Carried (p : Pipeline) (script rest : List Instr) (p₁ : Pipeline) : Prop where
  scripts : p₁.scripts = p.scripts
  /-- One job is told something, or none. -/
  operations : p₁.operations = p.operations ∨ ∃ m op, p₁.operations = (p.tell m op).2.operations
  /-- What is left is the end of the script, or something stands before its end. -/
  rest : ∀ i ∈ rest, i ∈ script ∨
    (∃ s u e, submit s u ∈ script ∧ i = Instr.refused s u e) ∨
    ∃ s drain, close s drain ∈ script ∧ i = join s

theorem carried_of_carryOut {script rest : List Instr} (h : p.carryOut script = some (rest, p₁)) :
    Carried p script rest p₁ := by
  rcases script with _ | ⟨j, tail⟩
  · obtain ⟨rfl, rfl⟩ : [] = rest ∧ p = p₁ := by simpa [carryOut] using h
    exact ⟨rfl, .inl rfl, by simp⟩
  have htail : ∀ i ∈ tail, i ∈ j :: tail := fun i hi => List.mem_cons_of_mem j hi
  cases j with
  | tell m op =>
      obtain ⟨rfl, rfl⟩ : tail = rest ∧ (p.tell m op).2 = p₁ := by simpa [carryOut] using h
      exact ⟨scripts_tell m op p, .inr ⟨m, op, rfl⟩, fun i hi => .inl (htail i hi)⟩
  | require m op =>
      obtain ⟨rfl, rfl⟩ : (if (p.tell m op).1 then tail else []) = rest ∧ _ = p₁ := by
        simpa [carryOut] using h
      refine ⟨scripts_tell m op p, .inr ⟨m, op, rfl⟩, fun i hi => .inl ?_⟩
      split at hi
      · exact htail i hi
      · simp at hi
  | submit s u =>
      rcases Pool.submit_cases u (p.pools.get s) with ⟨number, hanswer, -⟩ | ⟨e, hanswer, -⟩
      all_goals
        simp only [carryOut, hanswer, Option.some.injEq, Prod.mk.injEq] at h
        obtain ⟨rfl, rfl⟩ := h
      · exact ⟨rfl, .inl rfl, fun i hi => .inl (htail i hi)⟩
      · refine ⟨rfl, .inl rfl, fun i hi => ?_⟩
        rcases List.mem_cons.1 hi with rfl | hold
        · exact .inr (.inl ⟨s, u, e, List.mem_cons_self .., rfl⟩)
        · exact .inl (htail i hold)
  | close s drain =>
      obtain ⟨rfl, rfl⟩ := Prod.mk.inj (Option.some.inj h)
      refine ⟨rfl, .inl rfl, fun i hi => ?_⟩
      split at hi
      · rcases List.mem_cons.1 hi with rfl | hold
        · exact .inr (.inr ⟨s, drain, List.mem_cons_self .., rfl⟩)
        · exact .inl (htail i hold)
      · exact .inl (htail i hi)
  | join s =>
      obtain ⟨-, rfl, rfl⟩ : _ ∧ tail = rest ∧ p = p₁ := by simpa [carryOut] using h
      exact ⟨rfl, .inl rfl, fun i hi => .inl (htail i hi)⟩
  | stopWatchdog =>
      obtain ⟨-, rfl, rfl⟩ : _ ∧ tail = rest ∧ _ = p₁ := by simpa [carryOut] using h
      exact ⟨rfl, .inl rfl, fun i hi => .inl (htail i hi)⟩

/-- A script goes on. -/
theorem origin_advance (hp : p.advance k = some p') {y : Script} (hy : y ∈ p'.scripts)
    (hi : i ∈ y.rest) : Origin p p' i := by
  obtain ⟨x, rest, p₁, hx, hcarry, rfl⟩ := advance_eq_some hp
  have hcarried := carried_of_carryOut hcarry
  have hmem := List.mem_of_getElem? hx
  rcases mem_putBack hy with hold | rfl
  · exact .old (hcarried.scripts ▸ hold) hi
  · rcases hcarried.rest i hi with hold | ⟨s, u, e, hu, hrefused⟩ | ⟨s, drain, -, rfl⟩
    · exact .old hmem hold
    · exact .refused hmem hu hrefused
    · exact .aside rfl

/-- A task gets its outcome, or nothing happens to any script. -/
theorem origin_withPool {owner : Owner} {k : Nat} {flagged untold : Prop}
    {r : Option (Option (TaskOutcome s.Yield) × Pool s.Task s.Yield)}
    (hturn : ∀ answer pool, r = some (answer, pool) →
      Pool.Turns flagged untold k (p.pools.get s) answer pool)
    (hp : p.withPool s k owner r = some p') {y : Script} (hy : y ∈ p'.scripts)
    (hi : i ∈ y.rest) : Origin p p' i := by
  obtain ⟨⟨answer, pool⟩, hr, rfl⟩ := Option.map_eq_some_iff.1 hp
  obtain ⟨t, phase, offer, ht, hphase, hanswer, htasks⟩ := hturn answer pool hr
  rcases answer with _ | o
  · exact .of_scripts rfl hy hi
  · obtain ⟨-, -, hsome⟩ := PoolTask.outcome_turn_of_some phase hanswer.symm
    have hget : pool.tasks[k]? = some (t.turn phase offer) := by
      obtain ⟨hk, -⟩ := List.getElem?_eq_some_iff.1 ht
      simp [htasks, hk]
    simp only [hget] at hy ⊢
    rcases List.mem_append.1 hy with hold | hnew
    · exact .old hold hi
    · rw [List.mem_singleton.1 hnew] at hi
      refine .after (t := t.turn phase offer) ?_ hsome hi
      simpa [work] using List.mem_of_getElem? hget

/-- No script goes on, and of the operations one cursor is moved at most. -/
structure Unscripted (p p' : Pipeline) : Prop where
  scripts : p'.scripts = p.scripts
  operations : p'.operations = p.operations ∨
    ∃ m place, p'.operations = (p.modifyOperation m (·.moveCursor place)).operations

/-- The body of a task is not a script. -/
theorem unscripted_body (hp : p.body sv s k = some p') : Unscripted p p' := by
  cases bodyStep_body hp with
  | goOn hp' hbefore =>
      subst hp'
      exact ⟨hbefore.scripts, hbefore.operations⟩
  | ends hp' hbefore =>
      obtain ⟨pool, -, rfl⟩ := Option.map_eq_some_iff.1 hp'
      exact ⟨hbefore.scripts, hbefore.operations⟩

theorem origin_move {m : Move} (hp : p.move? sv m = some p') {x : Script} (hx : x ∈ p'.scripts)
    (hi : i ∈ x.rest) : Origin p p' i := by
  cases m with
  | advance k => exact origin_advance hp hx hi
  | take s =>
      obtain ⟨pool, -, rfl⟩ := Option.map_eq_some_iff.1 hp
      exact .of_scripts rfl hx hi
  | look s k => exact origin_withPool (fun _ _ hr => Pool.turns_look hr) hp hx hi
  | start s k => exact origin_withPool (fun _ _ hr => Pool.turns_start hr) hp hx hi
  | body s k => exact .of_scripts (unscripted_body hp).scripts hx hi
  | settle s k => exact origin_withPool (fun _ _ hr => Pool.turns_settle hr) hp hx hi
  | letGo s k =>
      simp only [move?] at hp
      split at hp
      · simp at hp
      · obtain ⟨pool, -, rfl⟩ := Option.map_eq_some_iff.1 hp
        exact .of_scripts rfl hx hi
  | expire s k =>
      simp only [move?] at hp
      split at hp
      · exact origin_withPool (fun _ _ hr => Pool.turns_expire hr) hp hx hi
      · simp at hp
  | tick moment | openGate name =>
      obtain rfl := Option.some.inj hp
      exact .of_scripts rfl hx hi

theorem scripts_add (l : Language) (o : Operation) (p : Pipeline) :
    (p.add sv l o).2.scripts = p.scripts := by
  unfold add
  split <;> rfl

theorem origin_call {c : Call} {x : Script} (hx : x ∈ (p.call sv c).scripts) (hi : i ∈ x.rest) :
    Origin p (p.call sv c) i := by
  cases c with
  | search | searchMore | parse => exact .of_scripts (scripts_add ..) hx hi
  | begin m =>
      simp only [call, begin] at hx ⊢
      split at hx
      · next o ho =>
        split at hx
        · exact .old hx hi
        · next hnot =>
          rcases List.mem_append.1 hx with hold | hnew
          · exact .old hold hi
          · rw [List.mem_singleton.1 hnew] at hi
            exact .begun ho (by simpa using hnot) hi
      · exact .old hx hi
  | cancel m => exact .of_scripts (scripts_tell m .cancel p) hx hi
  | takeCursor m =>
      refine .of_scripts ?_ hx hi
      simp only [call, takeCursor]
      split <;> rfl
  | shutDown drain =>
      rcases List.mem_append.1 hx with hold | hnew
      · exact .old hold hi
      · rw [List.mem_singleton.1 hnew] at hi
        refine .aside ?_
        have hnone : ∀ j ∈ Instr.shutDown drain, j.operation? = none := by
          simp [Instr.shutDown, operation?]
        exact hnone i hi
  | parserFor l => exact .of_scripts rfl hx hi

/-- **Every instruction comes from somewhere.** -/
theorem origin_act (hp : p.act? sv a = some p') {x : Script} (hx : x ∈ p'.scripts)
    (hi : i ∈ x.rest) : Origin p p' i := by
  cases a with
  | move m => exact origin_move hp hx hi
  | call c =>
      obtain rfl := Option.some.inj hp
      exact origin_call hx hi

/-- Only what begins an operation submits its search. -/
theorem Origin.submits {u : SearchTask} (h : Origin p p' (submit .search u)) :
    (∃ x ∈ p.scripts, submit .search u ∈ x.rest) ∨ p.hasBegun u.operation = false := by
  cases h with
  | old hx hi => exact .inl ⟨_, hx, hi⟩
  | @refused x s v e hx hv hi => cases s <;> simp [Instr.refused] at hi
  | @begun m o ho hnot hi =>
      obtain rfl : u.operation = m := Option.some.inj (concerns_script m o _ hi).operation
      exact .inr (by simp [hasBegun, ho, hnot])
  | @after s t o ht ho hi =>
      cases s <;> cases o <;>
        simp [Instr.after, afterSearch, afterCrawl, afterParse, fanOut] at hi
  | aside hi => simp [operation?] at hi

/-- What begins an operation does not make its job fail. -/
theorem op?_script {o : Operation} (hi : i ∈ o.script n) (e : OperationError) :
    i.op? ≠ some (.fail e) := by
  unfold Operation.script at hi
  split at hi
  · have hall : ∀ j ∈ beginSearch n, j.op? ≠ some (.fail e) := by simp [beginSearch, op?]
    exact hall i hi
  · next sources _ =>
    have hall : ∀ j ∈ beginParses n sources, j.op? ≠ some (.fail e) := by
      simp [beginParses, fanOut, op?, or_imp, forall_and]
    exact hall i hi

/-- A search of the operation failed, and this is the error. -/
def FailedBy (n : Nat) (e : OperationError) (t : PoolTask SearchTask (List SearchResult)) : Prop :=
  t.task.operation = n ∧ ∃ e', t.outcome = some (.failed e') ∧ e = .searchStage e'

/-- A job is made to fail because its search was refused, or because it failed. -/
theorem Origin.fails (h : Origin p p' i) (hop : i.operation? = some n) {e : OperationError}
    (he : i.op? = some (.fail e)) : (∃ x ∈ p.scripts, i ∈ x.rest) ∨
      (∃ x ∈ p.scripts, ∃ u : SearchTask, submit .search u ∈ x.rest ∧ u.operation = n) ∨
      ∃ t ∈ p'.searches, FailedBy n e t := by
  cases h with
  | old hx hi => exact .inl ⟨_, hx, hi⟩
  | @refused x s u e' hx hu hi =>
      subst hi
      cases s with
      | search => exact .inr (.inl ⟨x, hx, u, hu, by simpa [Instr.refused, operation?] using hop⟩)
      | crawl | parse => simp [Instr.refused, op?] at he
  | begun ho hnot hi => exact absurd he (op?_script hi e)
  | @after s t o ht ho hi =>
      cases s with
      | search =>
          cases o with
          | failed e' =>
              obtain rfl : i = .tell t.task.operation (.fail (.searchStage e')) := by
                simpa [Instr.after, afterSearch] using hi
              refine .inr (.inr ⟨t, ht, by simpa [operation?] using hop, e', ho, ?_⟩)
              simpa [op?, eq_comm] using he
          | completed rs =>
              have hall : ∀ j ∈ afterSearch t.task.operation (.completed rs),
                  j.op? ≠ some (.fail e) := by
                simp [afterSearch, fanOut, op?, or_imp, forall_and]
              exact absurd he (hall i hi)
          | discarded => simp [Instr.after, afterSearch] at hi
      | crawl =>
          have hall : ∀ j ∈ afterCrawl t.task.operation t.task.result o,
              j.op? ≠ some (.fail e) := by
            cases o <;> simp [afterCrawl, op?]
          exact absurd he (hall i hi)
      | parse =>
          have hall : ∀ j ∈ afterParse t.task.operation o, j.op? ≠ some (.fail e) := by
            cases o <;> simp [afterParse, op?]
          exact absurd he (hall i hi)
  | aside hi => simp [hi] at hop

end Pipeline

end GradedReading
