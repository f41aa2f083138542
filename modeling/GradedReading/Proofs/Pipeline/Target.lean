import GradedReading.Proofs.Pipeline.Origin

/-!
# GradedReading.Proofs.Pipeline.Target

How many results an operation is to fetch.

**Key idea:** this is laid down when the operation is added, and nothing that happens to a pipeline
changes it: jobs and cursors change, and operations are begun, but what they are to fetch stays.
-/

namespace GradedReading

open Search Instr

theorem Operation.target?_moveCursor (place : CursorPlace) (o : Operation) :
    (o.moveCursor place).target? = o.target? := by
  obtain ⟨job, begun, keywords, plan⟩ := o
  cases plan <;> rfl

namespace Pipeline

variable {sv : Services} {p p' p₁ : Pipeline} {a : Act} {s : Stage} {k n : Nat}

/-- Every operation is to fetch as much as before. New operations may come. -/
def SameTargets (p p' : Pipeline) : Prop := ∀ n < p.operations.length, p'.target? n = p.target? n

theorem SameTargets.of_eq (h : p'.operations = p.operations) : SameTargets p p' := fun n _ => by
  rw [target?, h, target?]

theorem sameTargets_modifyOperation (m : Nat) (f : Operation → Operation)
    (hf : ∀ o, (f o).target? = o.target?) (p : Pipeline) :
    SameTargets p (p.modifyOperation m f) := by
  intro k _
  simp only [target?, modifyOperation, List.getElem?_modify]
  rcases p.operations[k]? with _ | o
  · simp
  · by_cases hm : m = k <;> simp [hm, hf]

theorem sameTargets_moveCursor (m : Nat) (place : CursorPlace) (p : Pipeline) :
    SameTargets p (p.modifyOperation m (·.moveCursor place)) :=
  sameTargets_modifyOperation m _ (Operation.target?_moveCursor place) p

theorem sameTargets_tell (m : Nat) (op : Job.Op) (p : Pipeline) :
    SameTargets p (p.tell m op).2 := by
  rcases ho : p.operations[m]? with _ | o
  · rw [tell, job?, ho]
    exact .of_eq rfl
  · rw [tell_eq ho]
    exact sameTargets_modifyOperation m ({ · with job := (o.job.apply op).2 }) (fun _ => rfl) p

theorem SameTargets.trans_eq (h : SameTargets p p₁) (hops : p'.operations = p₁.operations) :
    SameTargets p p' := fun n hn => by
  rw [← h n hn, target?, hops, target?]

/-- A script that goes on tells one job something, or none. -/
theorem sameTargets_advance (hp : p.advance k = some p') : SameTargets p p' := by
  obtain ⟨x, rest, p₁, -, hcarry, rfl⟩ := advance_eq_some hp
  rcases (carried_of_carryOut hcarry).operations with hops | ⟨m, op, hops⟩
  · exact .of_eq hops
  · exact (sameTargets_tell m op p).trans_eq hops

/-- The body of a task moves one cursor, or none. -/
theorem sameTargets_body {i : Nat} (hp : p.body sv s i = some p') : SameTargets p p' := by
  rcases (unscripted_body hp).operations with hops | ⟨m, place, hops⟩
  · exact .of_eq hops
  · exact (sameTargets_moveCursor m place p).trans_eq hops

theorem sameTargets_withPool {i : Nat} {owner : Owner}
    {r : Option (Option (TaskOutcome s.Yield) × Pool s.Task s.Yield)}
    (hp : p.withPool s i owner r = some p') : SameTargets p p' := by
  obtain ⟨⟨answer, pool⟩, -, rfl⟩ := Option.map_eq_some_iff.1 hp
  refine .of_eq ?_
  dsimp only
  split <;> rfl

theorem sameTargets_move {m : Move} (hp : p.move? sv m = some p') : SameTargets p p' := by
  cases m with
  | advance k => exact sameTargets_advance hp
  | take s =>
      obtain ⟨pool, -, rfl⟩ := Option.map_eq_some_iff.1 hp
      exact .of_eq rfl
  | look s i | start s i | settle s i => exact sameTargets_withPool hp
  | body s i => exact sameTargets_body hp
  | letGo s i =>
      simp only [move?] at hp
      split at hp
      · simp at hp
      · obtain ⟨pool, -, rfl⟩ := Option.map_eq_some_iff.1 hp
        exact .of_eq rfl
  | expire s i =>
      simp only [move?] at hp
      split at hp
      · exact sameTargets_withPool hp
      · simp at hp
  | tick moment | openGate name =>
      obtain rfl := Option.some.inj hp
      exact .of_eq rfl

theorem sameTargets_add (l : Language) (o : Operation) (p : Pipeline) :
    SameTargets p (p.add sv l o).2 := by
  unfold add
  split
  · intro n hn
    rw [target?, target?, List.getElem?_append_left hn]
  · exact .of_eq rfl

theorem sameTargets_act (hp : p.act? sv a = some p') : SameTargets p p' := by
  cases a with
  | move m => exact sameTargets_move hp
  | call c =>
      obtain rfl := Option.some.inj hp
      cases c with
      | search | searchMore | parse => exact sameTargets_add _ _ p
      | begin m =>
          simp only [call, begin]
          split
          · split
            · exact .of_eq rfl
            · exact sameTargets_modifyOperation m ({ · with begun := true }) (fun _ => rfl) p
          · exact .of_eq rfl
      | cancel m => exact sameTargets_tell m .cancel p
      | takeCursor m =>
          simp only [call, takeCursor]
          split
          · exact sameTargets_moveCursor m .gone p
          · exact .of_eq rfl
      | shutDown | parserFor => exact .of_eq rfl

end Pipeline

end GradedReading
