import GradedReading.Proofs.Pipeline.Body

/-!
# GradedReading.Proofs.Pipeline.Reach

What is kept by every step of a course holds of every operation, whatever happens to its pipeline.

**Key idea:** a run is one call or move after the other. The pipeline starts without operations,
each of its acts is a step or nothing for each operation, and an operation that is added is new. So
induction over the run carries any statement that new courses have and steps keep.
-/

namespace GradedReading.Pipeline

open Search Instr

variable {sv : Services} {told : Prop} {p p' : Pipeline}

/-- The clock can tell the deadline of the body that is begun, if one is. -/
def tellsDeadline (p : Pipeline) : Act → Bool
  | .move (.start s i) =>
    match (p.pools.get s).tasks[i]?, (p.pools.get s).limit with
    | some t, some d => p.isFlagged (s.operationOf t.task) || (p.now.after? d).isSome
    | _, _ => true
  | _ => true

/-- The clock can tell every deadline of a run. -/
def tellsDeadlines (sv : Services) : Pipeline → List Act → Bool
  | _, [] => true
  | p, a :: acts =>
    p.tellsDeadline a &&
      match p.act? sv a with
      | some p' => p'.tellsDeadlines sv acts
      | none => true

/-- A new operation comes with a language that may not be supported. -/
theorem follows_addIf (h : p.Sound sv told) (l : Language) {o : Operation}
    (hbegun : o.begun = false) {kind : JobKind} {l' : Language} (hjob : o.job = .create kind l') :
    Follows sv told p (p.add sv l o).2 := by
  unfold add
  split
  · exact follows_add h hbegun hjob
  · exact .of_eq h fun _ => rfl

/-- What a client does. -/
theorem follows_call (h : p.Sound sv told) (c : Call) : Follows sv told p (p.call sv c) := by
  cases c with
  | search q target keywords => exact follows_addIf h _ rfl rfl
  | searchMore c target keywords => exact follows_addIf h _ rfl rfl
  | parse l sources keywords => exact follows_addIf h _ rfl rfl
  | begin n =>
      simp only [call, begin]
      split
      · next o ho =>
        split
        · exact .of_eq h fun _ => rfl
        · next hnot => exact follows_begin h ho (by simpa using hnot)
      · exact .of_eq h fun _ => rfl
  | cancel n => exact follows_cancel h n
  | takeCursor n =>
      simp only [call, takeCursor]
      split
      · exact .of_eq (h.modifyOperation n _) fun _ =>
          (sameOperations_moveCursor n .gone p).course?_eq rfl
      · exact .of_eq h fun _ => rfl
  | shutDown drain => exact follows_shutDown h drain
  | parserFor l => exact .of_eq ⟨h.scripts, h.tasks, builtBy_get h.parsers l⟩ fun _ => rfl

/-- A move that changes neither operations nor scripts nor tasks. -/
theorem Follows.of_rest (h : p.Sound sv told) (hops : p'.operations = p.operations)
    (hscripts : p'.scripts = p.scripts) (hpools : p'.pools = p.pools)
    (hparsers : p'.parsers = p.parsers) : Follows sv told p p' := by
  have hb := h.beside hops hscripts hpools hparsers
  refine .of_eq (h.of_beside hb) fun n => hb.operations.course?_eq ?_
  rw [share, share, hscripts, hpools]

/-- A step of the pipeline itself. -/
theorem follows_move (h : p.Sound sv told) {m : Move}
    (htold : told → p.tellsDeadline (.move m) = true) (hp : p.move? sv m = some p') :
    Follows sv told p p' := by
  have hnever : told → ¬False := fun _ => id
  cases m with
  | advance k => exact follows_advance_script h hp
  | take s =>
      obtain ⟨pool, hpool, rfl⟩ := Option.map_eq_some_iff.1 hp
      obtain ⟨i, hturn⟩ := Pool.turns_take hpool
      exact follows_turn_none h hturn hnever
  | look s i =>
      exact follows_withPool h (fun a pool hr => Pool.turns_look hr) hnever (fun hf => hf.elim) hp
  | start s i =>
      rcases hget : (p.pools.get s).tasks[i]? with _ | t
      · simp [move?, withPool, Pool.start, Pool.phase?, hget] at hp
      · refine follows_withPool h (fun a pool hr => Pool.turns_start hr) (fun ht => ?_)
          (fun hflag t' hget' => ?_) hp
        · rintro ⟨hflag, d, hlimit, hlate⟩
          have hopen : p.isFlagged (s.operationOf t.task) = false := by simpa [hget] using hflag
          -- a body that begins has a deadline that the clock can tell
          have hsome := htold ht
          simp [tellsDeadline, hget, hlimit, hopen, hlate] at hsome
        · simpa [hget'] using hflag
  | body s i => exact follows_body h hp
  | settle s i =>
      exact follows_withPool h (fun a pool hr => Pool.turns_settle hr) hnever (fun hf => hf.elim) hp
  | letGo s i =>
      simp only [move?] at hp
      split at hp
      · simp at hp
      · obtain ⟨pool, hpool, rfl⟩ := Option.map_eq_some_iff.1 hp
        exact follows_turn_none h (Pool.turns_letGo hpool) hnever
  | expire s i =>
      simp only [move?] at hp
      split at hp
      · exact follows_withPool h (fun a pool hr => Pool.turns_expire hr) hnever
          (fun hf => hf.elim) hp
      · simp at hp
  | tick moment =>
      obtain rfl := Option.some.inj hp
      exact .of_rest h rfl rfl rfl rfl
  | openGate name =>
      obtain rfl := Option.some.inj hp
      exact .of_rest h rfl rfl rfl rfl

theorem follows_act (h : p.Sound sv told) {a : Act} (htold : told → p.tellsDeadline a = true)
    (hp : p.act? sv a = some p') : Follows sv told p p' := by
  cases a with
  | call c =>
      obtain rfl := Option.some.inj hp
      exact follows_call h c
  | move m => exact follows_move h htold hp

/-! ### Runs -/

theorem sound_ofSettings (sv : Services) (told : Prop) (settings : Settings) :
    (ofSettings settings).Sound sv told := by
  refine ⟨by simp [ofSettings], ?_, ?_⟩
  · intro s t ht
    cases s <;> simp [ofSettings, Pools.ofSettings, Pools.get, Pool.ofSize] at ht
  · intro l q hq
    simp [ofSettings, Parser.Cache.empty] at hq

/-- What new courses have and every step keeps, all operations have after any run. -/
theorem courses_run {I : Nat → Course → Prop} (hnew : ∀ n c, c.IsNew → I n c)
    (hstep : ∀ n c c', Course.Step sv n c c' → I n c → I n c') {acts : List Act}
    (h : p.Sound sv told) (hI : ∀ n c, p.course? n = some c → I n c)
    (htold : told → p.tellsDeadlines sv acts = true) (hrun : p.run? sv acts = some p') :
    p'.Sound sv told ∧ ∀ n c, p'.course? n = some c → I n c := by
  -- each act leaves the pipeline sound and every course with what steps keep
  induction acts generalizing p with
  | nil =>
      obtain rfl : p = p' := by simpa using hrun
      exact ⟨h, hI⟩
  | cons a acts ih =>
      obtain ⟨p₁, ha, hrest⟩ := Option.bind_eq_some_iff.1 hrun
      have hrun : told → p.tellsDeadline a = true ∧ p₁.tellsDeadlines sv acts = true := fun ht => by
        simpa [tellsDeadlines, ha] using htold ht
      have hfollows := follows_act h (fun ht => (hrun ht).1) ha
      refine ih hfollows.sound (fun n c hc => ?_) (fun ht => (hrun ht).2) hrest
      rcases hbefore : p.course? n with _ | c₀
      · exact hnew n c (hfollows.new n c hbefore hc)
      · obtain ⟨c', hc', hchange⟩ := hfollows.step n c₀ hbefore
        obtain rfl : c' = c := Option.some.inj (hc'.symm.trans hc)
        rcases hchange with rfl | hmoved
        · exact hI n _ hbefore
        · exact hstep n c₀ _ hmoved (hI n c₀ hbefore)

/-- The same for a pipeline in which nothing has happened yet. -/
theorem courses_reachable {I : Nat → Course → Prop} (hnew : ∀ n c, c.IsNew → I n c)
    (hstep : ∀ n c c', Course.Step sv n c c' → I n c → I n c') {settings : Settings}
    {acts : List Act} (htold : told → (ofSettings settings).tellsDeadlines sv acts = true)
    (hrun : (ofSettings settings).run? sv acts = some p) :
    p.Sound sv told ∧ ∀ n c, p.course? n = some c → I n c :=
  courses_run hnew hstep (sound_ofSettings sv told settings)
    (fun n c hc => by simp [course?, ofSettings] at hc) htold hrun

end GradedReading.Pipeline
