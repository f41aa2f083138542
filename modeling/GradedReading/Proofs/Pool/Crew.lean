import GradedReading.Pool.Crew
import GradedReading.Proofs.Pool.Once
import Mathlib.Data.List.Perm.Subperm

/-!
# GradedReading.Proofs.Pool.Crew

What panics in callbacks cost.

**Key idea:** a crew does what its bench does, but for the workers that fell. Each of them stays at
a task of its own, which it gave up and of which the callback was told. So as long as one worker
stands, the queue runs empty, and everybody is told once. When all of them have fallen, what still
waits is never taken, and nobody is told of it.
-/

namespace GradedReading.Crew

open Bench

variable {ρ : Type}

/-- What happens, if it can happen, after what is noted of it. A worker that fell does nothing. -/
def act? (c : Crew ρ) (a : Act ρ) : Option (List (Note ρ) × Crew ρ) :=
  match a.worker? with
  | some i =>
    if c.fallen.contains i then none
    else (c.bench.act? a).map fun (notes, bench) => (notes, c.goOn i bench)
  | none => (c.bench.act? a).map fun (notes, bench) => (notes, { c with bench })

/-- All of it happens, one after the other. The first answer is the diary. -/
def run? : Crew ρ → List (Act ρ) → Option (List (Note ρ) × Crew ρ)
  | c, [] => some ([], c)
  | c, a :: acts =>
    (c.act? a).bind fun (notes, c') =>
      (c'.run? acts).map fun (more, c'') => (notes ++ more, c'')

section Acts

variable {c c' : Crew ρ} {a : Act ρ} {i : Nat} {notes : List (Note ρ)}

/-- The next step of a crew is one of the acts. -/
theorem exists_act_of_next (h : c.next = some c') : ∃ a notes, c.act? a = some (notes, c') := by
  obtain ⟨step, hmem, hstep⟩ := List.exists_of_findSome?_eq_some h
  rcases List.mem_append.1 hmem with hmem | hmem
  · obtain ⟨i, -, rfl⟩ := List.mem_map.1 hmem
    rw [worker] at hstep
    split at hstep
    · exact nomatch hstep
    · next hstands =>
      obtain ⟨bench, hworker, rfl⟩ := Option.map_eq_some_iff.1 hstep
      obtain ⟨a, notes, hi, ha⟩ := exists_act_of_worker hworker
      exact ⟨a, notes, by simp only [act?, hi, if_neg hstands, ha, Option.map_some]⟩
  · obtain rfl := List.mem_singleton.1 hmem
    obtain ⟨bench, htake, rfl⟩ := Option.map_eq_some_iff.1 hstep
    refine ⟨.take, [], ?_⟩
    obtain ⟨pool, hpool, rfl⟩ := Option.map_eq_some_iff.1 htake
    simp [act?, Act.worker?, Bench.act?, hpool]

/-- An act of a crew is an act of its bench, of a worker that stands. -/
theorem act_cases (h : c.act? a = some (notes, c')) :
    c.bench.act? a = some (notes, c'.bench) ∧ c'.touchy = c.touchy ∧
      ((∃ i, a.worker? = some i ∧ i ∉ c.fallen ∧ c' = c.goOn i c'.bench) ∨
        a.worker? = none ∧ c'.fallen = c.fallen) := by
  rw [act?] at h
  split at h
  · next i hi =>
    split at h
    · exact nomatch h
    · next hstands =>
      obtain ⟨⟨notes, bench⟩, hbench, heq⟩ := Option.map_eq_some_iff.1 h
      obtain ⟨rfl, rfl⟩ := Prod.mk.inj heq
      exact ⟨hbench, rfl, .inl ⟨i, hi, by simpa using hstands, rfl⟩⟩
  · next hnone =>
    obtain ⟨⟨notes, bench⟩, hbench, heq⟩ := Option.map_eq_some_iff.1 h
    obtain ⟨rfl, rfl⟩ := Prod.mk.inj heq
    exact ⟨hbench, rfl, .inr ⟨hnone, rfl⟩⟩

/-- An act of a bench is an act of the crew, unless its worker fell. -/
theorem act_of_bench {r : List (Note ρ) × Bench ρ} (h : c.bench.act? a = some r)
    (hstands : ∀ i, a.worker? = some i → i ∉ c.fallen) : c.act? a ≠ none := by
  rw [act?]
  split
  · next i hi =>
    rw [if_neg (by simpa using hstands i hi), h]
    exact nofun
  · rw [h]
    exact nofun

end Acts

/-! ### Workers that fell -/

/-- What is known of the workers that fell. -/
structure Fell (c : Crew ρ) : Prop where
  distinct : c.fallen.Nodup
  /-- Each of them told that its task was given up. -/
  task : ∀ i ∈ c.fallen, ∃ t, c.bench.pool.tasks[i]? = some t ∧ t.phase = .settling ∧
    t.number ∈ c.touchy ∧ t.outcome = some (.failed (.poolClosed c.bench.pool.stage))
  abandoned : c.fallen ≠ [] → c.bench.pool.abandoned = true

section Fell

variable {c c' : Crew ρ} {a : Act ρ} {notes diary : List (Note ρ)}

theorem fell_ofPool (touchy : List Nat) (pool : Pool (BenchBody ρ) ρ) : Fell (ofPool touchy pool) :=
  ⟨List.nodup_nil, by simp [ofPool], by simp [ofPool]⟩

/-- What users do leaves the tasks where they are. -/
theorem tasks_of_not_isWork {b b' : Bench ρ} (hwork : ¬ a.isWork = true)
    (h : b.act? a = some (notes, b')) : ∃ more, b'.pool.tasks = b.pool.tasks ++ more := by
  cases a with
  | submit body =>
      rw [← (Prod.mk.inj (Option.some.inj h)).2]
      rcases Pool.submit_cases body b.pool with ⟨number, -, htasks⟩ | ⟨e, -, htasks⟩
      · exact ⟨_, htasks⟩
      · exact ⟨[], htasks.trans (List.append_nil _).symm⟩
  | close drain =>
      obtain ⟨rfl, rfl⟩ := Prod.mk.inj (Option.some.inj h)
      exact ⟨[], (Pool.tasks_close drain b.pool).trans (List.append_nil _).symm⟩
  | setFlag _ | tick _ | openGate _ =>
      obtain ⟨rfl, rfl⟩ := Prod.mk.inj (Option.some.inj h)
      exact ⟨[], (List.append_nil _).symm⟩
  | _ => simp [Act.isWork] at hwork

/-- A pool that was abandoned stays so. -/
theorem abandoned_act {b b' : Bench ρ} (h : b.act? a = some (notes, b'))
    (habandoned : b.pool.abandoned = true) : b'.pool.abandoned = true := by
  by_cases hwork : a.isWork = true
  · obtain ⟨i, t, t', gates, order, -, -, rfl⟩ := turns_of_isWork hwork h
    exact habandoned
  cases a with
  | submit body =>
      have hsame : (b.pool.submit body).2.abandoned = b.pool.abandoned := by
        by_cases hopen : b.pool.accepts = true <;> simp [Pool.submit, hopen]
      rw [← (Prod.mk.inj (Option.some.inj h)).2]
      exact hsame.trans habandoned
  | close drain =>
      obtain ⟨rfl, rfl⟩ := Prod.mk.inj (Option.some.inj h)
      unfold Pool.close
      split <;> simp [habandoned]
  | setFlag _ | tick _ | openGate _ =>
      obtain ⟨rfl, rfl⟩ := Prod.mk.inj (Option.some.inj h)
      exact habandoned
  | _ => simp [Act.isWork] at hwork

/-- A task at which a worker fell takes no turn but with that worker. -/
theorem worker_of_turn {b : Bench ρ} {i : Nat} {t t' : PoolTask (BenchBody ρ) ρ}
    (h : Turn b i t a notes t') (hphase : t.phase = .settling) : a.worker? = some i := by
  cases h with
  | letGo => rfl
  | expire hdeadline => simp [hphase, Phase.deadline?] at hdeadline
  | take h | clear h | giveUp h | discard h | begin h | lose h | arrive h | finish h | settle h =>
      cases h.symm.trans hphase

/-- A task that goes from its worker's hands to those whom it concerns was given up. -/
theorem givesUp_turn {b : Bench ρ} {i : Nat} {t t' : PoolTask (BenchBody ρ) ρ}
    (h : Turn b i t a notes t') (htaken : t.phase = .taken) (hsettling : t'.phase = .settling) :
    b.pool.abandoned = true ∧
      t' = t.turn .settling (some (.failed (.poolClosed b.pool.stage))) := by
  cases h with
  | giveUp _ habandoned => exact ⟨habandoned, rfl⟩
  | clear => cases hsettling
  | expire hdeadline => simp [htaken, Phase.deadline?] at hdeadline
  | take h | discard h | begin h | lose h | arrive h | finish h | settle h | letGo h =>
      cases h.symm.trans htaken

theorem givesUp_iff {i : Nat} {bench : Bench ρ} : c.givesUp i bench = true ↔
    c.bench.pool.phase? i = some .taken ∧ bench.pool.phase? i = some .settling := by
  unfold givesUp
  split
  · next h h' => simp [h, h']
  · next hne =>
    simp only [Bool.false_eq_true, false_iff, not_and]
    exact fun h h' => hne h h'

/-- The tasks at which workers fell stay as they are. -/
theorem Fell.tasks_act (h : Fell c) (hact : c.act? a = some (notes, c')) {i : Nat}
    (hi : i ∈ c.fallen) : c'.bench.pool.tasks[i]? = c.bench.pool.tasks[i]? := by
  obtain ⟨hbench, -, hworker⟩ := act_cases hact
  obtain ⟨u, hu, hphase, -⟩ := h.task i hi
  by_cases hwork : a.isWork = true
  · obtain ⟨j, t, t', gates, order, ht, hturn, hb'⟩ := turns_of_isWork hwork hbench
    have hne : j ≠ i := by
      rintro rfl
      obtain rfl : t = u := Option.some.inj (ht.symm.trans hu)
      have hme := worker_of_turn hturn hphase
      rcases hworker with ⟨k, hk, hstands, -⟩ | ⟨hnone, -⟩
      · obtain rfl : j = k := Option.some.inj (hme.symm.trans hk)
        exact hstands hi
      · exact nomatch hme.symm.trans hnone
    rw [hb', List.getElem?_set_ne hne]
  · obtain ⟨more, hmore⟩ := tasks_of_not_isWork hwork hbench
    rw [hmore, List.getElem?_append_left (List.getElem?_eq_some_iff.1 hu).1]

/-- A worker that falls has told that the pool was closed. -/
theorem task_of_givesUp (hkept : Kept diary c.bench) {b' : Bench ρ} (hwork : a.isWork = true)
    (hbench : c.bench.act? a = some (notes, b')) {i : Nat} (hgives : c.givesUp i b' = true)
    (htouchy : c.isTouchy i = true) : c.bench.pool.abandoned = true ∧
      ∃ t, b'.pool.tasks[i]? = some t ∧ t.phase = .settling ∧ t.number ∈ c.touchy ∧
        t.outcome = some (.failed (.poolClosed b'.pool.stage)) := by
  obtain ⟨j, t, t', gates, order, ht, hturn, rfl⟩ := turns_of_isWork hwork hbench
  obtain ⟨htaken, hsettling⟩ := givesUp_iff.1 hgives
  obtain ⟨u, hu, hutaken⟩ := Pool.exists_of_phase? htaken
  obtain ⟨u', hu', husettling⟩ := Pool.exists_of_phase? hsettling
  -- the task that was given up is the one that took its turn
  obtain rfl : j = i := by
    by_contra hne
    rw [List.getElem?_set_ne hne, hu] at hu'
    obtain rfl := Option.some.inj hu'
    exact nomatch hutaken.symm.trans husettling
  obtain rfl : t = u := Option.some.inj (ht.symm.trans hu)
  obtain ⟨hlt, -⟩ := List.getElem?_eq_some_iff.1 ht
  obtain rfl : t' = u' := by simpa [hlt] using hu'
  obtain ⟨hgiven, rfl⟩ := givesUp_turn hturn hutaken husettling
  have hnone : t.outcome = none := by
    have hstands := (hkept.entries t (List.mem_of_getElem? ht)).stands
    rw [hutaken] at hstands
    exact hstands.1
  have hnumber : t.number ∈ c.touchy := by simpa [isTouchy, ht] using htouchy
  exact ⟨hgiven, _, hu', husettling, hnumber, by simp [PoolTask.turn, hnone]⟩

/-- **A worker falls when it gives up a task whose callback panics**, and then no other worker falls
there. -/
theorem Fell.act (h : Fell c) (hkept : Kept diary c.bench) (hact : c.act? a = some (notes, c')) :
    Fell c' := by
  obtain ⟨hbench, htouchy, hworker⟩ := act_cases hact
  have hkeep : ∀ i ∈ c.fallen, ∃ t, c'.bench.pool.tasks[i]? = some t ∧ t.phase = .settling ∧
      t.number ∈ c'.touchy ∧
      t.outcome = some (.failed (.poolClosed c'.bench.pool.stage)) := by
    intro i hi
    rw [h.tasks_act hact hi, htouchy, (fixed_act hbench).1]
    exact h.task i hi
  have hsame (hfallen : c'.fallen = c.fallen) : Fell c' := by
    rw [← hfallen] at hkeep
    refine ⟨hfallen ▸ h.distinct, hkeep, fun hsome => ?_⟩
    exact abandoned_act hbench (h.abandoned (hfallen ▸ hsome))
  rcases hworker with ⟨i, hi, hstands, hgoOn⟩ | ⟨-, hfallen⟩
  · have hfallen : c'.fallen =
        if c.givesUp i c'.bench && c.isTouchy i then c.fallen ++ [i] else c.fallen := by
      rw [hgoOn]
      rfl
    split at hfallen
    · next hfalls =>
      obtain ⟨hgives, htouchyAt⟩ := Bool.and_eq_true_iff.1 hfalls
      have hwork : a.isWork = true := by
        cases a <;> first | rfl | exact nomatch hi
      obtain ⟨hgiven, htask⟩ := task_of_givesUp hkept hwork hbench hgives htouchyAt
      refine ⟨?_, ?_, fun _ => abandoned_act hbench hgiven⟩
      · rw [hfallen]
        exact List.concat_eq_append ▸ h.distinct.concat hstands
      · rw [hfallen]
        intro k hk
        rcases List.mem_append.1 hk with hk | hk
        · exact hkeep k hk
        · obtain rfl := List.mem_singleton.1 hk
          rw [htouchy]
          exact htask
    · exact hsame hfallen
  · exact hsame hfallen

/-! ### At rest -/

/-- Nothing is left to do: no body runs, and no worker and no watchdog can go on. -/
def IsAtRest (c : Crew ρ) : Prop :=
  c.bench.pool.running = 0 ∧ ∀ a, a.isWork = true → c.act? a = none

/-- A worker that is not waiting for a body can go on with its task. -/
theorem exists_act_of_isBusy {b : Bench ρ} {i : Nat} {t : PoolTask (BenchBody ρ) ρ}
    (ht : b.pool.tasks[i]? = some t) (hbusy : t.phase.isBusy = true)
    (hrunning : ∀ d, t.phase ≠ .running d) :
    ∃ a, a.isWork = true ∧ a.worker? = some i ∧ (b.act? a).isSome = true := by
  have hphase : b.pool.phase? i = some t.phase := by simp [Pool.phase?, ht]
  cases hph : t.phase with
  | queued | done | lost => simp [hph, Phase.isBusy] at hbusy
  | running d => exact absurd hph (hrunning d)
  | taken =>
      rw [hph] at hphase
      refine ⟨.look i, rfl, rfl, ?_⟩
      simp only [Bench.act?, Option.isSome_map, Pool.look, hphase]
      split <;> rfl
  | cleared =>
      rw [hph] at hphase
      refine ⟨.start i, rfl, rfl, ?_⟩
      simp only [Bench.act?, Option.isSome_map, Pool.start, hphase]
      split
      · rfl
      · split
        · rfl
        · split <;> rfl
  | returned d o =>
      rw [hph] at hphase
      refine ⟨.settle i, rfl, rfl, ?_⟩
      simp only [Bench.act?, Option.isSome_map, Pool.settle, hphase, Option.isSome_some]
  | settling =>
      rw [hph] at hphase
      refine ⟨.letGo i, rfl, rfl, ?_⟩
      simp only [Bench.act?, Option.isSome_map, Pool.letGo, hphase, Option.isSome_some]

theorem not_running {b : Bench ρ} {i : Nat} {t : PoolTask (BenchBody ρ) ρ}
    (h : b.pool.running = 0) (ht : b.pool.tasks[i]? = some t) (d : Option Moment) :
    t.phase ≠ .running d := by
  intro hphase
  have hnone := List.countP_eq_zero.1 h t (List.mem_of_getElem? ht)
  simp [hphase] at hnone

/-- At rest, only those workers are busy that fell. -/
theorem IsAtRest.mem_fallen (h : c.IsAtRest) {i : Nat} {t : PoolTask (BenchBody ρ) ρ}
    (ht : c.bench.pool.tasks[i]? = some t) (hbusy : t.phase.isBusy = true) : i ∈ c.fallen := by
  by_contra hstands
  obtain ⟨a, hwork, hi, hsome⟩ := exists_act_of_isBusy ht hbusy (not_running h.1 ht)
  obtain ⟨r, hr⟩ := Option.isSome_iff_exists.1 hsome
  refine act_of_bench hr (fun k hk => ?_) (h.2 a hwork)
  obtain rfl : i = k := Option.some.inj (hi.symm.trans hk)
  exact hstands

/-- The places of the tasks that workers are busy with. -/
def busyPlaces (b : Bench ρ) : List Nat :=
  (b.pool.tasks.zipIdx.filter (·.1.phase.isBusy)).map (·.2)

theorem length_busyPlaces (b : Bench ρ) : (busyPlaces b).length = b.pool.busy := by
  rw [busyPlaces, List.length_map, ← List.countP_eq_length_filter, Pool.busy]
  conv_rhs => rw [← List.zipIdx_map_fst 0 b.pool.tasks, List.countP_map]
  rfl

theorem mem_busyPlaces {b : Bench ρ} {i : Nat} : i ∈ busyPlaces b ↔
    ∃ t, b.pool.tasks[i]? = some t ∧ t.phase.isBusy = true := by
  simp [busyPlaces, List.mem_zipIdx_iff_getElem?]

theorem nodup_busyPlaces (b : Bench ρ) : (busyPlaces b).Nodup := by
  have hplaces : (b.pool.tasks.zipIdx.map (·.2)).Nodup := by
    rw [List.zipIdx_map_snd]
    exact List.nodup_range'
  exact hplaces.sublist (List.filter_sublist.map _)

/-- Workers that fell are busy, and others may be. -/
theorem Fell.length_le (h : Fell c) : c.fallen.length ≤ c.bench.pool.busy := by
  rw [← length_busyPlaces]
  refine (h.distinct.subperm fun i hi => ?_).length_le
  obtain ⟨t, ht, hphase, -⟩ := h.task i hi
  exact mem_busyPlaces.2 ⟨t, ht, by rw [hphase]; rfl⟩

theorem IsAtRest.busy_le (h : c.IsAtRest) : c.bench.pool.busy ≤ c.fallen.length := by
  rw [← length_busyPlaces]
  refine ((nodup_busyPlaces c.bench).subperm fun i hi => ?_).length_le
  obtain ⟨t, ht, hbusy⟩ := mem_busyPlaces.1 hi
  exact h.mem_fallen ht hbusy

/-- What waits at rest waits for workers that fell. -/
theorem IsAtRest.size_le (h : c.IsAtRest) {t : PoolTask (BenchBody ρ) ρ}
    (ht : t ∈ c.bench.pool.tasks) (hqueued : t.phase.isQueued = true) :
    c.bench.pool.size ≤ c.fallen.length := by
  by_contra hfree
  have hbusy : c.bench.pool.busy < c.bench.pool.size := by
    have hle := h.busy_le
    omega
  obtain ⟨i, hi⟩ : ∃ i, c.bench.pool.oldestQueued = some i :=
    Option.isSome_iff_exists.1 (List.findIdx?_isSome ▸ List.any_eq_true.2 ⟨t, ht, hqueued⟩)
  have htake : c.bench.act? .take =
      some ([], { c.bench with pool := c.bench.pool.setPhase i .taken }) := by
    simp [Bench.act?, Pool.take, if_pos hbusy, hi]
  exact act_of_bench htake (fun i hi => by cases hi) (h.2 .take rfl)

/-- Whoever takes a turn waits for a free worker, or has one. -/
theorem waits_or_isBusy {b : Bench ρ} {i : Nat} {t t' : PoolTask (BenchBody ρ) ρ}
    (h : Turn b i t a notes t') :
    t.phase.isQueued = true ∧ b.pool.busy < b.pool.size ∨ t.phase.isBusy = true := by
  rcases h.isBusy_or with hbusy | hfree
  · exact .inr hbusy
  cases h with
  | take hqueued => exact .inl ⟨by rw [hqueued]; rfl, hfree⟩
  | expire hdeadline =>
      right
      cases hphase : t.phase <;> simp_all [Phase.deadline?, Phase.isBusy]
  | clear h | giveUp h | discard h | begin h | lose h | arrive h | finish h | settle h | letGo h =>
      right
      rw [h]
      rfl

/-- Somebody can tell when a crew is at rest. -/
theorem isQuiet_iff (h : Fell c) : c.isQuiet = true ↔ c.IsAtRest := by
  have hquiet : c.isQuiet = true ↔ ∀ i t, c.bench.pool.tasks[i]? = some t →
      (t.phase.isBusy = true → i ∈ c.fallen) ∧
        (t.phase.isQueued = true → c.bench.pool.size ≤ c.fallen.length) := by
    simp only [isQuiet, List.all_eq_true, Prod.forall, List.mem_zipIdx_iff_getElem?,
      Bool.and_eq_true, Bool.or_eq_true, Bool.not_eq_true', List.contains_iff_mem,
      decide_eq_true_eq, ← Bool.not_eq_true, ← imp_iff_not_or]
    exact forall_comm
  rw [hquiet]
  constructor
  · intro hall
    refine ⟨List.countP_eq_zero.2 fun t ht hrunning => ?_, fun a hwork => ?_⟩
    · obtain ⟨i, hi⟩ := List.mem_iff_getElem?.1 ht
      have hbusy : t.phase.isBusy = true := by
        cases hphase : t.phase <;> simp_all [Phase.isBusy]
      obtain ⟨u, hu, hsettling, -⟩ := h.task i ((hall i t hi).1 hbusy)
      obtain rfl : t = u := Option.some.inj (hi.symm.trans hu)
      simp [hsettling] at hrunning
    · by_contra hsome
      obtain ⟨⟨notes, c'⟩, hact⟩ := Option.ne_none_iff_exists'.1 hsome
      obtain ⟨hbench, -, hworker⟩ := act_cases hact
      obtain ⟨i, t, t', gates, order, hi, hturn, -⟩ := turns_of_isWork hwork hbench
      rcases waits_or_isBusy hturn with ⟨hqueued, hfree⟩ | hbusy
      · have hfallen := h.length_le
        have hsize := (hall i t hi).2 hqueued
        omega
      · -- a worker that fell would have to go on
        have hfallen := (hall i t hi).1 hbusy
        obtain ⟨u, hu, hsettling, -⟩ := h.task i hfallen
        obtain rfl : t = u := Option.some.inj (hi.symm.trans hu)
        have hme := worker_of_turn hturn hsettling
        rcases hworker with ⟨k, hk, hstands, -⟩ | ⟨hnone, -⟩
        · obtain rfl : i = k := Option.some.inj (hme.symm.trans hk)
          exact hstands hfallen
        · cases hme.symm.trans hnone
  · intro hrest i t hi
    exact ⟨hrest.mem_fallen hi, hrest.size_le (List.mem_of_getElem? hi)⟩

end Fell

/-! ### What is left of what a pool owes -/

/-- Whoever is concerned by a task that was accepted is told once, unless the task's own callback
panics. -/
def Isolated (touchy : List Nat) (diary : List (Note ρ)) : Prop :=
  ∀ k body, .accepted k body ∈ diary → k ∉ touchy → (callbacks k diary).length = 1

/-- What panics in callbacks cost. -/
structure Spares (stage : Stage) (size : Nat) (touchy : List Nat) (diary : List (Note ρ))
    (c : Crew ρ) : Prop where
  /-- Nobody is told twice. -/
  once : ∀ k body, .accepted k body ∈ diary → (callbacks k diary).length ≤ 1
  /-- Everybody was told when nothing is left to do and one worker stands. -/
  told : c.IsAtRest → c.fallen.length < max size 1 →
    ∀ k body, .accepted k body ∈ diary → (callbacks k diary).length = 1
  /-- Nobody was told of what waits for workers that fell, and everybody else was told. -/
  waits : c.IsAtRest → ∀ t ∈ c.bench.pool.tasks,
    (callbacks t.number diary).length = if t.phase.isQueued then 0 else 1
  /-- Each worker fell at a task of its own, whose callback panics and was told that the pool is
  closed. -/
  fallen : c.fallen.Nodup ∧ ∀ i ∈ c.fallen, ∃ t, c.bench.pool.tasks[i]? = some t ∧
    t.number ∈ touchy ∧ callbacks t.number diary = [.failed (.poolClosed stage)]
  /-- No worker falls unless the pool is abandoned. -/
  closed : c.fallen ≠ [] → .closed false ∈ diary

section Spares

variable {c c' : Crew ρ} {a : Act ρ} {notes diary : List (Note ρ)}

theorem run_bench {acts : List (Act ρ)} (h : c.run? acts = some (notes, c')) :
    c.bench.run? acts = some (notes, c'.bench) ∧ c'.touchy = c.touchy := by
  induction acts generalizing c notes with
  | nil =>
      obtain ⟨rfl, rfl⟩ := Prod.mk.inj (Option.some.inj h)
      exact ⟨rfl, rfl⟩
  | cons a acts ih =>
      simp only [run?, Option.bind_eq_some_iff, Option.map_eq_some_iff] at h
      obtain ⟨⟨first, c₁⟩, ha, ⟨more, c₂⟩, hmore, heq⟩ := h
      obtain ⟨rfl, rfl⟩ := Prod.mk.inj heq
      obtain ⟨hbench, htouchy, -⟩ := act_cases ha
      obtain ⟨hrest, htouchy'⟩ := ih hmore
      refine ⟨?_, htouchy'.trans htouchy⟩
      simp only [Bench.run?, hbench, Option.bind_some, hrest, Option.map_some]

theorem Fell.run (h : Fell c) (hkept : Kept diary c.bench) {acts : List (Act ρ)}
    (hproper : ∀ body, .submit body ∈ acts → body.outcome ≠ .discarded)
    (htold : c.bench.tellsDeadlines acts = true) (hrun : c.run? acts = some (notes, c')) :
    Fell c' := by
  induction acts generalizing diary c notes with
  | nil =>
      obtain ⟨rfl, rfl⟩ := Prod.mk.inj (Option.some.inj hrun)
      exact h
  | cons a acts ih =>
      simp only [run?, Option.bind_eq_some_iff, Option.map_eq_some_iff] at hrun
      obtain ⟨⟨first, c₁⟩, ha, ⟨more, c₂⟩, hmore, heq⟩ := hrun
      obtain ⟨rfl, rfl⟩ := Prod.mk.inj heq
      obtain ⟨hbench, -, -⟩ := act_cases ha
      obtain ⟨hfirst, hrest⟩ :
          c.bench.tellsDeadline a = true ∧ c₁.bench.tellsDeadlines acts = true := by
        simpa [tellsDeadlines, hbench] using htold
      have hkept' := hkept.act hbench
        (fun body hbody => hproper body (hbody ▸ List.mem_cons_self ..)) hfirst
      exact ih (h.act hkept ha) hkept'
        (fun body hbody => hproper body (List.mem_cons_of_mem _ hbody)) hrest hmore

/-- At rest, nobody was told of what waits, and everybody else was told. -/
theorem IsAtRest.length_callbacks (h : c.IsAtRest) (hfell : Fell c) (hkept : Kept diary c.bench)
    {t : PoolTask (BenchBody ρ) ρ} (ht : t ∈ c.bench.pool.tasks) :
    (callbacks t.number diary).length = if t.phase.isQueued then 0 else 1 := by
  have hentry := hkept.entries t ht
  rw [hentry.told]
  cases hqueued : t.phase.isQueued with
  | true =>
      have hstands := hentry.stands
      have hphase : t.phase = .queued := by
        cases hphase : t.phase <;> simp_all [Phase.isQueued]
      rw [hphase] at hstands
      rw [hstands.1]
      rfl
  | false =>
      have hsome : t.outcome.isSome = true := by
        cases hbusy : t.phase.isBusy with
        | false => exact hentry.isSome_outcome hqueued hbusy
        | true =>
            obtain ⟨i, hi⟩ := List.mem_iff_getElem?.1 ht
            obtain ⟨u, hu, -, -, houtcome⟩ := hfell.task i (h.mem_fallen hi hbusy)
            obtain rfl : t = u := Option.some.inj (hi.symm.trans hu)
            rw [houtcome]
            rfl
      obtain ⟨o, ho⟩ := Option.isSome_iff_exists.1 hsome
      rw [ho]
      rfl

/-- **A panic in a callback costs at most the worker that gives its task up.** Whatever users,
workers and the watchdog of a pool do, in any order, and whichever callbacks panic: nobody is told
twice, and when nothing is left to do everybody was told, unless every worker of an abandoned pool
fell, each at a task of its own. -/
theorem spares_of_run (stage : Stage) (size : Nat) (limit : Option Number.Duration)
    (touchy : List Nat) (acts : List (Act ρ)) {diary : List (Note ρ)} {c : Crew ρ}
    (hproper : ∀ body, .submit body ∈ acts → body.outcome ≠ .discarded)
    (htold : (Bench.ofPool (.ofSize stage size limit)).tellsDeadlines acts = true)
    (hrun : (ofPool touchy (.ofSize stage size limit)).run? acts = some (diary, c)) :
    Spares stage size touchy diary c := by
  obtain ⟨hbench, hsame⟩ := run_bench hrun
  have htouchy : c.touchy = touchy := hsame
  have hkept : Kept diary c.bench := (kept_ofPool stage size limit).run hproper htold hbench
  have hfell : Fell c := (fell_ofPool touchy _).run (kept_ofPool stage size limit) hproper htold
    hrun
  obtain ⟨hstage, hsize, -⟩ := fixed_run hbench
  -- an accepted task has a place, and what was told of it is its outcome
  have htask : ∀ k body, .accepted k body ∈ diary → ∃ t ∈ c.bench.pool.tasks, t.number = k :=
    fun k body hbody => List.mem_map.1 (hkept.owned _ hbody k rfl)
  refine ⟨fun k body hbody => ?_, fun hrest hstands k body hbody => ?_,
    fun hrest t ht => hrest.length_callbacks hfell hkept ht, ⟨hfell.distinct, fun i hi => ?_⟩,
    fun hsome => hkept.abandoned (hfell.abandoned hsome)⟩
  · obtain ⟨t, ht, rfl⟩ := htask k body hbody
    rw [(hkept.entries t ht).told]
    cases t.outcome <;> simp
  · obtain ⟨t, ht, rfl⟩ := htask k body hbody
    have hnotQueued : ¬ t.phase.isQueued = true := fun hqueued => by
      have hall := hrest.size_le ht hqueued
      rw [show c.bench.pool.size = max size 1 from hsize] at hall
      omega
    rw [hrest.length_callbacks hfell hkept ht, if_neg hnotQueued]
  · obtain ⟨t, ht, -, hpanics, houtcome⟩ := hfell.task i hi
    refine ⟨t, ht, htouchy ▸ hpanics, ?_⟩
    rw [(hkept.entries t (List.mem_of_getElem? ht)).told, houtcome,
      show c.bench.pool.stage = stage from hstage]
    rfl

/-- While a worker is busy, the pool is abandoned with two tasks in its queue, and the worker that
takes the first of them gives it up. -/
def toppled : List (Act Nat) :=
  [.submit (prompt (.completed 0) none), .submit (prompt (.completed 1) none),
    .submit (prompt (.completed 2) none), .take, .look 0, .start 0, .close false, .body 0,
    .settle 0, .letGo 0, .take, .look 1]

theorem proper_toppled (more : List (Act Nat)) (hmore : ∀ body, .submit body ∉ more) :
    ∀ body, .submit body ∈ toppled ++ more → body.outcome ≠ .discarded := by
  intro body hbody
  rcases List.mem_append.1 hbody with hbody | hbody
  · simp only [toppled, List.mem_cons, Act.submit.injEq, reduceCtorEq, or_false,
      List.not_mem_nil] at hbody
    rcases hbody with rfl | rfl | rfl <;> simp [prompt]
  · exact absurd hbody (hmore body)

/-- One of two workers falls, and the other one gives up the last task. -/
theorem spares_toppled :
    (∀ body, .submit body ∈ toppled ++ [.take, .look 2, .letGo 2] → body.outcome ≠ .discarded) ∧
    (Bench.ofPool (.ofSize .search 2 none)).tellsDeadlines (toppled ++ [.take, .look 2, .letGo 2]) =
      true ∧
    ∃ diary c, (ofPool [1] (.ofSize .search 2 none)).run? (toppled ++ [.take, .look 2, .letGo 2]) =
        some (diary, c) ∧
      c.isQuiet = true ∧ c.fallen = [1] ∧ Spares .search 2 [1] diary c := by
  have hproper := proper_toppled [.take, .look 2, .letGo 2] (by simp)
  have htold : (Bench.ofPool (.ofSize .search 2 none)).tellsDeadlines
      (toppled ++ [.take, .look 2, .letGo 2]) = true := by decide +kernel
  have hend : ((ofPool [1] (.ofSize .search 2 none)).run?
      (toppled ++ [.take, .look 2, .letGo 2])).any
        (fun r => r.2.isQuiet && r.2.fallen == [1]) = true := by decide +kernel
  obtain ⟨⟨diary, c⟩, hrun, hc⟩ := (Option.any_eq_true ..).1 hend
  obtain ⟨hquiet, hfallen⟩ := Bool.and_eq_true_iff.1 hc
  exact ⟨hproper, htold, diary, c, hrun, hquiet, by simpa using hfallen,
    spares_of_run .search 2 none [1] _ hproper htold hrun⟩

/-- With one worker, nobody is told of the last task, though nothing is left to do and its callback
would not panic. -/
theorem not_isolated_toppled :
    (∀ body, .submit body ∈ toppled → body.outcome ≠ .discarded) ∧
    (Bench.ofPool (.ofSize .search 1 none)).tellsDeadlines toppled = true ∧
    ∃ diary c, (ofPool [1] (.ofSize .search 1 none)).run? toppled = some (diary, c) ∧
      c.IsAtRest ∧ ¬ Isolated [1] diary := by
  have hproper : ∀ body, .submit body ∈ toppled → body.outcome ≠ .discarded :=
    fun body hbody => proper_toppled [] (by simp) body (by rwa [List.append_nil])
  have htold : (Bench.ofPool (.ofSize .search 1 none)).tellsDeadlines toppled = true := by
    decide +kernel
  have hend : ((ofPool [1] (.ofSize .search 1 none)).run? toppled).any (fun r =>
      r.2.isQuiet && (callbacks 2 r.1).isEmpty && r.1.any fun n => match n with
        | .accepted 2 _ => true
        | _ => false) = true := by decide +kernel
  obtain ⟨⟨diary, c⟩, hrun, hc⟩ := (Option.any_eq_true ..).1 hend
  simp only [Bool.and_eq_true, List.isEmpty_iff, List.any_eq_true] at hc
  obtain ⟨⟨hquiet, huntold⟩, n, hn, haccepted⟩ := hc
  have hfell : Fell c := (fell_ofPool [1] _).run (kept_ofPool .search 1 none) hproper htold hrun
  refine ⟨hproper, htold, diary, c, hrun, (isQuiet_iff hfell).1 hquiet, fun hisolated => ?_⟩
  split at haccepted
  · next body =>
    have hone := hisolated 2 body hn (by decide)
    rw [huntold] at hone
    exact nomatch hone
  · exact nomatch haccepted

end Spares

end GradedReading.Crew
