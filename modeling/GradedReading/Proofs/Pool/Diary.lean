import GradedReading.Pool.Bench
import GradedReading.Proofs.Pool.Life

/-!
# GradedReading.Proofs.Pool.Diary

A bench whose users, workers and watchdog act in any order, and a diary of what they notice.

**Key idea:** an act is possible or not, and what is noticed of it is read off the answers of the
pool: a task is accepted or refused, its body begins and ends, and whom it concerns is told its
outcome. `Turn` is the table of what can happen to one task, with everything that has to hold for it
and with what is noted. There is one statement for each act, which finds it in the table.

Design points:

* tasks go by the numbers under which they were submitted, since a task that was refused has a
  number and no place;
* flags are set by acts of their own, and a worker reads the flag of its task when it looks at it;
* the clock shows whatever somebody set it to, but never goes back.
-/

namespace GradedReading

open Number

namespace Bench

variable {ρ : Type}

/-- What is noted of a bench. -/
inductive Note (ρ : Type) where
  | accepted (number : Nat) (body : BenchBody ρ)
  | refused (number : Nat) (body : BenchBody ρ)
  /-- The body of a task begins. -/
  | begun (number : Nat) (moment : Moment)
  /-- The body of a task ends. -/
  | ended (number : Nat) (o : TaskOutcome ρ)
  /-- Whom a task concerns is told its outcome. -/
  | told (number : Nat) (o : TaskOutcome ρ) (moment : Moment)
  | flagged (flag : String)
  /-- The pool, which was open, is closed. -/
  | closed (drain : Bool)

/-- One thing that happens to a bench. -/
inductive Act (ρ : Type) where
  | submit (body : BenchBody ρ)
  | setFlag (flag : String)
  | close (drain : Bool)
  | take
  | look (i : Nat)
  | start (i : Nat)
  | body (i : Nat)
  | settle (i : Nat)
  | letGo (i : Nat)
  | expire (i : Nat)
  | tick (moment : Moment)
  | openGate (gate : String)

/-- The number of the task at a place. -/
def numberAt (b : Bench ρ) (i : Nat) : Nat := (b.pool.tasks[i]?.map PoolTask.number).getD 0

/-- Note that a task was told an outcome, if it was. -/
def tell (i : Nat) (o : Option (TaskOutcome ρ)) (b : Bench ρ) : List (Note ρ) :=
  (o.map (.told (b.numberAt i) · b.now)).toList

/-- Note that the body of a task begins, if it does so in this pool. -/
def begin (i : Nat) (pool : Pool (BenchBody ρ) ρ) (b : Bench ρ) : List (Note ρ) :=
  match pool.phase? i with
  | some (.running _) => [.begun (b.numberAt i) b.now]
  | _ => []

/-- Note that the body of a task has ended, if it has in this pool. -/
def finished (i : Nat) (pool : Pool (BenchBody ρ) ρ) (b : Bench ρ) : List (Note ρ) :=
  match pool.phase? i with
  | some (.returned _ o) => [.ended (b.numberAt i) o]
  | _ => []

/-- What happens, if it can happen, after what is noted of it. -/
def act? (b : Bench ρ) : Act ρ → Option (List (Note ρ) × Bench ρ)
  | .submit body =>
    let (answer, pool) := b.pool.submit body
    let note := match answer with
      | .ok number => .accepted number body
      | .error _ => .refused b.pool.submitted body
    some ([note], { b with pool })
  | .setFlag flag => some ([.flagged flag], { b with flags := b.flags ++ [flag] })
  | .close drain =>
    some (if b.pool.accepts then [.closed drain] else [], { b with pool := b.pool.close drain })
  | .take => b.pool.take.map fun pool => ([], { b with pool })
  | .look i => (b.pool.look i).map fun (o, pool) => (b.tell i o, { b with pool })
  | .start i =>
    (b.pool.start i (b.isFlagged i) b.now).map fun (o, pool) =>
      (b.begin i pool ++ b.tell i o, { b with pool })
  | .body i => (b.advance i).map fun b' => (b.finished i b'.pool, b')
  | .settle i => (b.pool.settle i).map fun (o, pool) => (b.tell i o, { b with pool })
  | .letGo i => (b.pool.letGo i).map fun pool => ([], { b with pool })
  | .expire i => (b.pool.expire i b.now).map fun (o, pool) => (b.tell i o, { b with pool })
  | .tick moment => some ([], { b with now := b.now.max moment })
  | .openGate gate => some ([], { b with gates := b.gates.openGate gate })

/-- All of it happens, one after the other. The first answer is the diary. -/
def run? : Bench ρ → List (Act ρ) → Option (List (Note ρ) × Bench ρ)
  | b, [] => some ([], b)
  | b, a :: acts =>
    (b.act? a).bind fun (notes, b') =>
      (b'.run? acts).map fun (more, b'') => (notes ++ more, b'')

/-! ### The table -/

/-- The note that a task accepts an outcome, if it does. -/
def tellings (t : PoolTask (BenchBody ρ) ρ) (o : TaskOutcome ρ) (now : Moment) : List (Note ρ) :=
  ((t.accepted (some o)).map (.told t.number · now)).toList

/-- What can happen to the task at a place in an act, with what is noted of it. -/
inductive Turn (b : Bench ρ) (i : Nat) (t : PoolTask (BenchBody ρ) ρ) :
    Act ρ → List (Note ρ) → PoolTask (BenchBody ρ) ρ → Prop
  | take (h : t.phase = .queued) (hfree : b.pool.busy < b.pool.size) :
      Turn b i t .take [] { t with phase := .taken }
  | clear (h : t.phase = .taken) : Turn b i t (.look i) [] { t with phase := .cleared }
  | giveUp (h : t.phase = .taken) (habandoned : b.pool.abandoned = true) :
      Turn b i t (.look i) (tellings t (.failed (.poolClosed b.pool.stage)) b.now)
        (t.turn .settling (some (.failed (.poolClosed b.pool.stage))))
  | discard (h : t.phase = .cleared) {flag : String} (hflag : t.task.flag = some flag)
      (hset : flag ∈ b.flags) :
      Turn b i t (.start i) (tellings t .discarded b.now) (t.turn .settling (some .discarded))
  | begin (h : t.phase = .cleared) {m : Option Moment}
      (hm : m = b.pool.limit.map fun d => ⟨b.now.nanos + d.nanos⟩) :
      Turn b i t (.start i) [.begun t.number b.now] { t with phase := .running m }
  | lose (h : t.phase = .cleared) (hflag : b.isFlagged i = false)
      (hlate : b.pool.LacksDeadline b.now) : Turn b i t (.start i) [] { t with phase := .lost }
  /-- The body arrives at its gate. -/
  | arrive {m : Option Moment} (h : t.phase = .running m) :
      Turn b i t (.body i) [] { t with task := { t.task with arrived := true } }
  | finish {m : Option Moment} (h : t.phase = .running m) :
      Turn b i t (.body i) [.ended t.number t.task.outcome]
        { t with phase := .returned m t.task.outcome }
  | settle {m : Option Moment} {o : TaskOutcome ρ} (h : t.phase = .returned m o) :
      Turn b i t (.settle i) (tellings t o b.now) (t.turn .settling (some o))
  | letGo (h : t.phase = .settling) : Turn b i t (.letGo i) [] { t with phase := .done }
  /-- The body may still run, and goes on. -/
  | expire {m : Moment} {d : Duration} (h : t.phase.deadline? = some m)
      (hdue : m.nanos ≤ b.now.nanos) (hlimit : b.pool.limit = some d) :
      Turn b i t (.expire i) (tellings t (.failed (.timedOut d)) b.now)
        (t.turn t.phase (some (.failed (.timedOut d))))

/-- A task takes its turn in an act, and nothing else happens on the bench but at its gates. -/
def Turns (a : Act ρ) (b : Bench ρ) (notes : List (Note ρ)) (b' : Bench ρ) : Prop :=
  ∃ i t t' gates order, b.pool.tasks[i]? = some t ∧ Turn b i t a notes t' ∧
    b' = { b with gates, pool := { b.pool with tasks := b.pool.tasks.set i t', order } }

section Turns

variable {b b' : Bench ρ} {i : Nat} {t : PoolTask (BenchBody ρ) ρ} {a : Act ρ}
  {notes : List (Note ρ)}

theorem numberAt_of_eq (h : b.pool.tasks[i]? = some t) : b.numberAt i = t.number := by
  simp [numberAt, h]

/-- A step that only moves a task on. -/
theorem turns_setPhase {ph : Phase ρ} (h : b.pool.tasks[i]? = some t)
    (hturn : Turn b i t a notes { t with phase := ph }) :
    Turns a b notes { b with pool := b.pool.setPhase i ph } := by
  have htasks : (b.pool.setPhase i ph).tasks = b.pool.tasks.set i { t with phase := ph } :=
    Pool.tasks_modify h _
  refine ⟨i, t, _, b.gates, b.pool.order, h, hturn, ?_⟩
  rw [← htasks]
  rfl

theorem deliver_rest (i : Nat) (o : TaskOutcome ρ) (p : Pool (BenchBody ρ) ρ) :
    (p.deliver i o).2 =
      { p with tasks := (p.deliver i o).2.tasks, order := (p.deliver i o).2.order } := by
  unfold Pool.deliver
  split <;> rfl

/-- A step that moves a task on and offers it an outcome. -/
theorem turns_deliver {ph : Phase ρ} {o : TaskOutcome ρ} (h : b.pool.tasks[i]? = some t)
    (hturn : Turn b i t a (tellings t o b.now) (t.turn ph (some o))) :
    Turns a b (b.tell i ((b.pool.setPhase i ph).deliver i o).1)
      { b with pool := ((b.pool.setPhase i ph).deliver i o).2 } := by
  obtain ⟨hanswer, htasks⟩ := Pool.deliver_setPhase h ph o
  refine ⟨i, t, t.turn ph (some o), b.gates, ((b.pool.setPhase i ph).deliver i o).2.order, h,
    ?_, ?_⟩
  · rw [tell, hanswer, numberAt_of_eq h]
    exact hturn
  · rw [← htasks, deliver_rest i o (b.pool.setPhase i ph)]
    rfl

end Turns

/-! ### The acts -/

section Acts

variable {b b' : Bench ρ} {i : Nat} {notes : List (Note ρ)}

theorem turns_take (h : b.act? .take = some (notes, b')) : Turns .take b notes b' := by
  obtain ⟨pool, htake, heq⟩ := Option.map_eq_some_iff.1 h
  obtain ⟨rfl, rfl⟩ := Prod.mk.inj heq
  unfold Pool.take at htake
  split at htake
  · next hfree =>
    obtain ⟨i, hi, rfl⟩ := Option.map_eq_some_iff.1 htake
    obtain ⟨hlt, hqueued, -⟩ := List.findIdx?_eq_some_iff_getElem.1 hi
    have hphase : b.pool.tasks[i].phase = .queued := by
      cases hph : b.pool.tasks[i].phase <;> simp_all [Phase.isQueued]
    exact turns_setPhase (List.getElem?_eq_getElem hlt) (.take hphase hfree)
  · simp at htake

theorem turns_look (h : b.act? (.look i) = some (notes, b')) : Turns (.look i) b notes b' := by
  obtain ⟨⟨o, pool⟩, hlook, heq⟩ := Option.map_eq_some_iff.1 h
  obtain ⟨rfl, rfl⟩ := Prod.mk.inj heq
  unfold Pool.look at hlook
  split at hlook
  · next hphase =>
    obtain ⟨t, ht, htaken⟩ := Pool.exists_of_phase? hphase
    split at hlook
    · next habandoned =>
      obtain ⟨rfl, rfl⟩ := Prod.mk.inj (Option.some.inj hlook)
      exact turns_deliver ht (.giveUp htaken habandoned)
    · obtain ⟨rfl, rfl⟩ := Prod.mk.inj (Option.some.inj hlook)
      exact turns_setPhase ht (.clear htaken)
  · simp at hlook

/-- The task at this place has a flag, and it was set. -/
theorem exists_flag {t : PoolTask (BenchBody ρ) ρ} (ht : b.pool.tasks[i]? = some t)
    (h : b.isFlagged i = true) : ∃ flag, t.task.flag = some flag ∧ flag ∈ b.flags := by
  unfold isFlagged at h
  split at h
  · next flag hflag =>
    exact ⟨flag, by simpa [ht] using hflag, by simpa using h⟩
  · simp at h

theorem begin_setPhase {t : PoolTask (BenchBody ρ) ρ} (ht : b.pool.tasks[i]? = some t)
    (ph : Phase ρ) : b.begin i (b.pool.setPhase i ph) =
      match ph with
      | .running _ => [.begun t.number b.now]
      | _ => [] := by
  have hphase : (b.pool.setPhase i ph).phase? i = some ph := by
    obtain ⟨hi, -⟩ := List.getElem?_eq_some_iff.1 ht
    simp [Pool.phase?, Pool.tasks_setPhase ht, hi, PoolTask.turn]
  rw [begin, hphase, numberAt_of_eq ht]
  cases ph <;> rfl

/-- No body begins when a task is given an outcome instead. -/
theorem begin_deliver {t : PoolTask (BenchBody ρ) ρ} (ht : b.pool.tasks[i]? = some t)
    (o : TaskOutcome ρ) :
    b.begin i ((b.pool.setPhase i .settling).deliver i o).2 = [] := by
  have hphase : ((b.pool.setPhase i .settling).deliver i o).2.phase? i = some .settling := by
    obtain ⟨hi, -⟩ := List.getElem?_eq_some_iff.1 ht
    simp [Pool.phase?, (Pool.deliver_setPhase ht .settling o).2, hi, PoolTask.turn]
  rw [begin, hphase]

theorem turns_start (h : b.act? (.start i) = some (notes, b')) : Turns (.start i) b notes b' := by
  obtain ⟨⟨o, pool⟩, hstart, heq⟩ := Option.map_eq_some_iff.1 h
  obtain ⟨rfl, rfl⟩ := Prod.mk.inj heq
  unfold Pool.start at hstart
  split at hstart
  · next hphase =>
    obtain ⟨t, ht, hcleared⟩ := Pool.exists_of_phase? hphase
    split at hstart
    · next hflagged =>
      have hdeliver := Option.some.inj hstart
      obtain ⟨flag, hflag, hset⟩ := exists_flag ht hflagged
      have hbegin := begin_deliver ht .discarded
      have hturns := turns_deliver ht (.discard hcleared hflag hset)
      rw [hdeliver] at hbegin hturns
      rw [hbegin]
      exact hturns
    · next hflagged =>
      -- without a limit there is no deadline, and with one it may be out of reach
      split at hstart
      · next hlimit =>
        obtain ⟨rfl, rfl⟩ := Prod.mk.inj (Option.some.inj hstart)
        rw [begin_setPhase ht]
        exact turns_setPhase ht (.begin hcleared (by simp [hlimit]))
      · next d hlimit =>
        split at hstart
        · next m hm =>
          obtain ⟨rfl, rfl⟩ := Prod.mk.inj (Option.some.inj hstart)
          rw [begin_setPhase ht]
          obtain ⟨rfl, -⟩ := Moment.after?_eq_some_iff.1 hm
          exact turns_setPhase ht (.begin hcleared (by simp [hlimit]))
        · next hlate =>
          obtain ⟨rfl, rfl⟩ := Prod.mk.inj (Option.some.inj hstart)
          rw [begin_setPhase ht]
          exact turns_setPhase ht (.lose hcleared (by simpa using hflagged) ⟨d, hlimit, hlate⟩)
  · simp at hstart

theorem turns_body (h : b.act? (.body i) = some (notes, b')) : Turns (.body i) b notes b' := by
  obtain ⟨b', hbody, heq⟩ := Option.map_eq_some_iff.1 h
  obtain ⟨rfl, rfl⟩ := Prod.mk.inj heq
  simp only [advance, Option.bind_eq_bind, Option.bind_eq_some_iff] at hbody
  obtain ⟨t, ht, hbody⟩ := hbody
  have hi := (List.getElem?_eq_some_iff.1 ht).1
  split at hbody
  · next m hrunning =>
    split at hbody
    · next gates _ =>
      obtain rfl := Option.some.inj hbody
      have htasks : (b.pool.setTask i { t.task with arrived := true }).tasks =
          b.pool.tasks.set i { t with task := { t.task with arrived := true } } :=
        Pool.tasks_modify ht _
      refine ⟨i, t, { t with task := { t.task with arrived := true } }, gates, b.pool.order, ht,
        ?_, ?_⟩
      · -- a body that arrives at its gate runs on
        have hphase :
            (b.pool.setTask i { t.task with arrived := true }).phase? i = some (.running m) := by
          simp [Pool.phase?, htasks, hi, hrunning]
        rw [finished, hphase]
        exact .arrive hrunning
      · rw [← htasks]
        rfl
    · simp at hbody
    · obtain ⟨pool, hfinish, rfl⟩ := Option.map_eq_some_iff.1 hbody
      unfold Pool.finish at hfinish
      have hphase : b.pool.phase? i = some (.running m) := by simp [Pool.phase?, ht, hrunning]
      simp only [hphase, Option.some.injEq] at hfinish
      subst hfinish
      have hreturned : (b.pool.setPhase i (.returned m t.task.outcome)).phase? i =
          some (.returned m t.task.outcome) := by
        simp [Pool.phase?, Pool.tasks_setPhase ht, hi, PoolTask.turn]
      rw [finished, hreturned, numberAt_of_eq ht]
      exact turns_setPhase ht (.finish hrunning)
  · simp at hbody

theorem turns_settle (h : b.act? (.settle i) = some (notes, b')) :
    Turns (.settle i) b notes b' := by
  obtain ⟨⟨o, pool⟩, hsettle, heq⟩ := Option.map_eq_some_iff.1 h
  obtain ⟨rfl, rfl⟩ := Prod.mk.inj heq
  unfold Pool.settle at hsettle
  split at hsettle
  · next m outcome hphase =>
    obtain ⟨t, ht, hreturned⟩ := Pool.exists_of_phase? hphase
    obtain ⟨rfl, rfl⟩ := Prod.mk.inj (Option.some.inj hsettle)
    exact turns_deliver ht (.settle hreturned)
  · simp at hsettle

theorem turns_letGo (h : b.act? (.letGo i) = some (notes, b')) : Turns (.letGo i) b notes b' := by
  obtain ⟨pool, hletGo, heq⟩ := Option.map_eq_some_iff.1 h
  obtain ⟨rfl, rfl⟩ := Prod.mk.inj heq
  unfold Pool.letGo at hletGo
  split at hletGo
  · next hphase =>
    obtain ⟨t, ht, hsettling⟩ := Pool.exists_of_phase? hphase
    obtain rfl := Option.some.inj hletGo
    exact turns_setPhase ht (.letGo hsettling)
  · simp at hletGo

theorem turns_expire (h : b.act? (.expire i) = some (notes, b')) :
    Turns (.expire i) b notes b' := by
  obtain ⟨⟨o, pool⟩, hexpire, heq⟩ := Option.map_eq_some_iff.1 h
  obtain ⟨rfl, rfl⟩ := Prod.mk.inj heq
  unfold Pool.expire at hexpire
  split at hexpire
  · next t d ht hlimit =>
    split at hexpire
    · next hdue =>
      obtain ⟨rfl, rfl⟩ := Prod.mk.inj (Option.some.inj hexpire)
      obtain ⟨m, hm, hlate⟩ : ∃ m, t.phase.deadline? = some m ∧ m.nanos ≤ b.now.nanos := by
        have hany : t.phase.deadline?.any (·.atMost b.now) = true := by simp_all [Pool.isDue]
        obtain ⟨m, hm, hlate⟩ := (Option.any_eq_true ..).1 hany
        exact ⟨m, hm, by simpa [Moment.atMost] using hlate⟩
      -- the task stays where it is, so it does not matter that it is put there again
      have hstay : b.pool.setPhase i t.phase = b.pool := by
        have htasks : (b.pool.setPhase i t.phase).tasks = b.pool.tasks := by
          obtain ⟨hi, hget⟩ := List.getElem?_eq_some_iff.1 ht
          rw [Pool.setPhase, Pool.tasks_modify ht, ← hget, List.set_getElem_self]
        rw [Pool.setPhase, Pool.modify] at htasks ⊢
        simp only at htasks
        rw [htasks]
      have hturns := turns_deliver ht (.expire hm hlate hlimit)
      rwa [hstay] at hturns
    · simp at hexpire
  · simp at hexpire

/-- What workers and the watchdog do, as opposed to users. -/
def Act.isWork : Act ρ → Bool
  | .take | .look _ | .start _ | .body _ | .settle _ | .letGo _ | .expire _ => true
  | .submit _ | .setFlag _ | .close _ | .tick _ | .openGate _ => false

/-- Whatever workers and the watchdog do is a turn of one task. -/
theorem turns_of_isWork {a : Act ρ} (hwork : a.isWork = true)
    (h : b.act? a = some (notes, b')) : Turns a b notes b' := by
  cases a with
  | take => exact turns_take h
  | look i => exact turns_look h
  | start i => exact turns_start h
  | body i => exact turns_body h
  | settle i => exact turns_settle h
  | letGo i => exact turns_letGo h
  | expire i => exact turns_expire h
  | _ => simp [Act.isWork] at hwork

end Acts

/-! ### What a worker does by itself -/

/-- The place of the task whose worker acts. -/
def Act.worker? : Act ρ → Option Nat
  | .look i | .start i | .body i | .settle i | .letGo i => some i
  | _ => none

/-- The next step of the worker of a task is one of the acts. -/
theorem exists_act_of_worker {b b' : Bench ρ} {i : Nat} (h : b.worker i = some b') :
    ∃ a notes, a.worker? = some i ∧ b.act? a = some (notes, b') := by
  -- a step of the pool whose answer is not looked at is still an act
  have hact : ∀ (a : Act ρ) {step : Option (Bench ρ)}, a.worker? = some i →
      (b.act? a).map (·.2) = step → step = some b' →
      ∃ a notes, a.worker? = some i ∧ b.act? a = some (notes, b') := fun a step hi hstep hb => by
    obtain ⟨⟨notes, b₁⟩, ha, rfl⟩ := Option.map_eq_some_iff.1 (hstep.trans hb)
    exact ⟨a, notes, hi, ha⟩
  obtain ⟨step, hmem, hstep⟩ := List.exists_of_findSome?_eq_some h
  simp only [List.mem_cons, List.not_mem_nil, or_false] at hmem
  rcases hmem with rfl | rfl | rfl | rfl | rfl
  · exact hact (.letGo i) rfl (by simp [act?, withPool, Function.comp_def]) hstep
  · exact hact (.settle i) rfl (by simp [act?, withPool, Function.comp_def]) hstep
  · exact hact (.body i) rfl (by simp [act?, Function.comp_def]) hstep
  · exact hact (.look i) rfl (by simp [act?, withPool, Function.comp_def]) hstep
  · exact hact (.start i) rfl (by simp [act?, withPool, Function.comp_def]) hstep

end Bench

end GradedReading
