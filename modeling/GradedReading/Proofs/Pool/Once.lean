import GradedReading.Proofs.Pool.Diary
import Mathlib.Data.List.Nodup

/-!
# GradedReading.Proofs.Pool.Once

Whom a task concerns is told its outcome once, and for a good reason.

**Key idea:** the diary and the tasks agree. Where a task stands says what the diary holds of it: a
task that has not been looked at was never begun and nobody was told, one whose body runs has a
deadline that follows from its beginning, and what was told is the outcome the task has. Every turn
of a task moves both along, and whatever it tells has its cause in what the diary holds by then.

Design points:

* a body may fail as if it had timed out or as if the pool had been closed, and then it is told its
  own result;
* a task is lost only to a deadline that the clock cannot tell, so runs are taken in which it can
  tell them all.
-/

namespace GradedReading.Bench

variable {ρ : Type}

/-! ### Reading a diary -/

/-- The task that a note is about. -/
def Note.task? : Note ρ → Option Nat
  | .accepted k _ | .begun k _ | .ended k _ | .told k _ _ => some k
  | .refused .. | .flagged _ | .closed _ => none

/-- The outcome that a note tells of a task. -/
def Note.told? (k : Nat) : Note ρ → Option (TaskOutcome ρ)
  | .told n o _ => if n = k then some o else none
  | _ => none

/-- What was told of a task. -/
def callbacks (k : Nat) (diary : List (Note ρ)) : List (TaskOutcome ρ) :=
  diary.filterMap (Note.told? k)

/-- The body of a task never began. -/
def NeverBegun (k : Nat) (diary : List (Note ρ)) : Prop := ∀ m, .begun k m ∉ diary

/-- The body of a task began, and this is the deadline that it got. -/
def BegunBy (limit : Option Number.Duration) (k : Nat) (diary : List (Note ρ))
    (m : Option Moment) : Prop :=
  ∃ s, .begun k s ∈ diary ∧ m = limit.map fun d => ⟨s.nanos + d.nanos⟩

section Diary

variable {k : Nat} {diary notes : List (Note ρ)}

theorem callbacks_append :
    callbacks k (diary ++ notes) = callbacks k diary ++ callbacks k notes :=
  List.filterMap_append

theorem mem_callbacks {o : TaskOutcome ρ} {m : Moment} (h : .told k o m ∈ diary) :
    o ∈ callbacks k diary :=
  List.mem_filterMap.2 ⟨_, h, by simp [Note.told?]⟩

/-- Notes about other tasks tell nothing of this one. -/
theorem callbacks_eq_nil (h : ∀ n ∈ notes, n.task? ≠ some k) : callbacks k notes = [] := by
  refine List.filterMap_eq_nil_iff.2 fun n hn => ?_
  have hother := h n hn
  cases n <;> simp_all [Note.told?, Note.task?]

theorem neverBegun_of_other (h : ∀ n ∈ notes, n.task? ≠ some k) : NeverBegun k notes :=
  fun _ hmem => h _ hmem rfl

theorem NeverBegun.append (h : NeverBegun k diary) (hnew : NeverBegun k notes) :
    NeverBegun k (diary ++ notes) :=
  fun m hmem => (List.mem_append.1 hmem).elim (h m) (hnew m)

theorem BegunBy.append {limit : Option Number.Duration} {m : Option Moment}
    (h : BegunBy limit k diary m) (notes : List (Note ρ)) :
    BegunBy limit k (diary ++ notes) m := by
  obtain ⟨s, hs, hm⟩ := h
  exact ⟨s, List.mem_append_left _ hs, hm⟩

end Diary

/-! ### One task -/

/-- What the diary holds of a task that stands here. -/
def Stands (limit : Option Number.Duration) (diary : List (Note ρ))
    (t : PoolTask (BenchBody ρ) ρ) : Phase ρ → Prop
  | .queued | .taken | .cleared => t.outcome = none ∧ NeverBegun t.number diary
  | .running m => BegunBy limit t.number diary m
  | .returned m o =>
    BegunBy limit t.number diary m ∧ .ended t.number o ∈ diary ∧ o = t.task.outcome
  | .settling | .done => t.outcome.isSome = true
  | .lost => False

/-- The diary and a task agree. -/
structure Entry (limit : Option Number.Duration) (diary : List (Note ρ))
    (t : PoolTask (BenchBody ρ) ρ) : Prop where
  accepted : ∃ body, .accepted t.number body ∈ diary ∧ body.outcome = t.task.outcome ∧
    body.flag = t.task.flag
  /-- Only pools discard tasks. -/
  proper : t.task.outcome ≠ .discarded
  told : callbacks t.number diary = t.outcome.toList
  stands : Stands limit diary t t.phase

/-- Why a task is told an outcome at a moment, given what the diary held before and in the end. -/
inductive Cause (stage : Stage) (limit : Option Number.Duration) (k : Nat) (body : BenchBody ρ)
    (diary before : List (Note ρ)) (now : Moment) : TaskOutcome ρ → Prop
  | cancelled {flag : String} (hflag : body.flag = some flag) (hset : .flagged flag ∈ before)
      (hnever : NeverBegun k diary) : Cause stage limit k body diary before now .discarded
  | abandoned (hclosed : .closed false ∈ before) (hnever : NeverBegun k diary) :
      Cause stage limit k body diary before now (.failed (.poolClosed stage))
  | late {d : Number.Duration} {s : Moment} (hlimit : limit = some d)
      (hbegun : .begun k s ∈ before) (hdue : s.nanos + d.nanos ≤ now.nanos) :
      Cause stage limit k body diary before now (.failed (.timedOut d))
  | own (hended : .ended k body.outcome ∈ before) (hproper : body.outcome ≠ .discarded) :
      Cause stage limit k body diary before now body.outcome

section Entry

variable {b : Bench ρ} {i : Nat} {t t' : PoolTask (BenchBody ρ) ρ} {a : Act ρ}
  {diary notes : List (Note ρ)} {limit : Option Number.Duration}

/-- A task goes on being what it is. -/
theorem Turn.same (h : Turn b i t a notes t') :
    t'.number = t.number ∧ t'.task.outcome = t.task.outcome ∧ t'.task.flag = t.task.flag := by
  cases h <;> exact ⟨rfl, rfl, rfl⟩

/-- An outcome is told when a task accepts it, and only then. -/
theorem callbacks_tellings (t : PoolTask (BenchBody ρ) ρ) (ph : Phase ρ) (o : TaskOutcome ρ)
    (now : Moment) :
    (t.turn ph (some o)).outcome.toList =
      t.outcome.toList ++ callbacks t.number (tellings t o now) := by
  cases hout : t.outcome <;>
    simp [PoolTask.turn, tellings, PoolTask.accepted, callbacks, Note.told?, hout]

theorem mem_tellings {n : Note ρ} {o : TaskOutcome ρ} {now : Moment}
    (h : n ∈ tellings t o now) : n = .told t.number o now ∧ t.outcome = none := by
  rcases hout : t.outcome with _ | o' <;> simp_all [tellings, PoolTask.accepted]

/-- What is noted in a turn is about the task that takes it. -/
theorem Turn.task?_eq (h : Turn b i t a notes t') {n : Note ρ} (hn : n ∈ notes) :
    n.task? = some t.number := by
  cases h with
  | giveUp | discard | settle | expire =>
      rw [(mem_tellings hn).1]
      rfl
  | begin | finish =>
      rw [List.mem_singleton.1 hn]
      rfl
  | take | clear | lose | arrive | letGo => simp at hn

theorem Turn.callbacks_eq (h : Turn b i t a notes t') :
    t'.outcome.toList = t.outcome.toList ++ callbacks t.number notes := by
  cases h with
  | giveUp | discard | settle | expire => exact callbacks_tellings t _ _ _
  | _ => simp [callbacks, Note.told?]

/-- A body begins when nobody was told of its task. -/
theorem Turn.outcome_of_begun (h : Turn b i t a notes t') (hentry : Entry limit diary t)
    {k : Nat} {m : Moment} (hm : .begun k m ∈ notes) : k = t.number ∧ t.outcome = none := by
  have hstands := hentry.stands
  cases h with
  | begin hphase =>
      rw [hphase] at hstands
      exact ⟨(Note.begun.inj (List.mem_singleton.1 hm)).1, hstands.1⟩
  | giveUp | discard | settle | expire => simpa using (mem_tellings hm).1
  | _ => simp at hm

theorem neverBegun_tellings (t : PoolTask (BenchBody ρ) ρ) (k : Nat) (o : TaskOutcome ρ)
    (now : Moment) : NeverBegun k (tellings t o now) :=
  fun _ hm => nomatch (mem_tellings hm).1

/-- A task that was offered an outcome has one. -/
theorem isSome_turn (t : PoolTask (BenchBody ρ) ρ) (ph : Phase ρ) (o : TaskOutcome ρ) :
    (t.turn ph (some o)).outcome.isSome = true := by
  simp [PoolTask.turn]

/-- A task with a deadline got it when its body began. -/
theorem Stands.begunBy {m : Moment} (h : Stands limit diary t t.phase)
    (hm : t.phase.deadline? = some m) : BegunBy limit t.number diary (some m) := by
  cases hph : t.phase with
  | running d =>
      rw [hph] at h hm
      rwa [show d = some m from hm] at h
  | returned d o =>
      rw [hph] at h hm
      rw [show d = some m from hm] at h
      exact h.1
  | _ => simp [hph, Phase.deadline?] at hm

/-- A task that times out stands where it stood. -/
theorem Stands.expire {m : Moment} (h : Stands limit diary t t.phase)
    (hm : t.phase.deadline? = some m) (o : TaskOutcome ρ) (notes : List (Note ρ)) :
    Stands limit (diary ++ notes) (t.turn t.phase (some o)) t.phase := by
  cases hph : t.phase with
  | running d =>
      rw [hph] at h
      exact BegunBy.append h notes
  | returned d o' =>
      rw [hph] at h
      exact ⟨BegunBy.append h.1 notes, List.mem_append_left _ h.2.1, h.2.2⟩
  | _ => simp [hph, Phase.deadline?] at hm

/-- **A turn keeps the diary and its task in agreement.** -/
theorem Turn.entry (h : Turn b i t a notes t') (hentry : Entry b.pool.limit diary t)
    (hkept : t'.phase ≠ .lost) : Entry b.pool.limit (diary ++ notes) t' := by
  obtain ⟨hnumber, houtcome, hflag⟩ := h.same
  refine ⟨?_, houtcome ▸ hentry.proper, ?_, ?_⟩
  · obtain ⟨body, hbody, hbody'⟩ := hentry.accepted
    exact ⟨body, by rw [hnumber]; exact List.mem_append_left _ hbody, by rwa [houtcome, hflag]⟩
  · rw [hnumber, callbacks_append, hentry.told, h.callbacks_eq]
  · have hstands := hentry.stands
    cases h with
    | take hphase | clear hphase =>
        rw [hphase] at hstands
        rw [List.append_nil]
        exact hstands
    | giveUp | discard | settle => exact isSome_turn t .settling _
    | begin hphase hm => exact ⟨b.now, by simp, hm⟩
    | lose => exact absurd rfl hkept
    | arrive hphase =>
        rw [hphase] at hstands
        rw [List.append_nil]
        simpa [Stands, hphase] using hstands
    | finish hphase =>
        rw [hphase] at hstands
        exact ⟨hstands.append _, by simp, rfl⟩
    | letGo hphase =>
        rw [hphase] at hstands
        exact hstands
    | expire hdeadline => exact hstands.expire hdeadline _ _

/-- A turn of one task does not touch what the diary holds of another. -/
theorem Entry.append (h : Entry limit diary t) (hother : ∀ n ∈ notes, n.task? ≠ some t.number) :
    Entry limit (diary ++ notes) t := by
  refine ⟨?_, h.proper, ?_, ?_⟩
  · obtain ⟨body, hbody, hbody'⟩ := h.accepted
    exact ⟨body, List.mem_append_left _ hbody, hbody'⟩
  · rw [callbacks_append, callbacks_eq_nil hother, List.append_nil, h.told]
  · have hstands := h.stands
    have hnever := neverBegun_of_other hother
    cases hph : t.phase with
    | queued | taken | cleared =>
        rw [hph] at hstands
        exact ⟨hstands.1, hstands.2.append hnever⟩
    | running m =>
        rw [hph] at hstands
        exact BegunBy.append hstands notes
    | returned m o =>
        rw [hph] at hstands
        exact ⟨hstands.1.append notes, List.mem_append_left _ hstands.2.1, hstands.2.2⟩
    | settling | done | lost =>
        rw [hph] at hstands
        exact hstands

/-- **What is told in a turn has its cause in the diary.** -/
theorem Turn.cause (h : Turn b i t a notes t') (hentry : Entry b.pool.limit diary t)
    (hflags : ∀ f ∈ b.flags, .flagged f ∈ diary)
    (habandoned : b.pool.abandoned = true → .closed false ∈ diary)
    {body : BenchBody ρ} (houtcome : body.outcome = t.task.outcome)
    (hflag : body.flag = t.task.flag) {k : Nat} {o : TaskOutcome ρ} {m : Moment}
    (hn : .told k o m ∈ notes) :
    k = t.number ∧ Cause b.pool.stage b.pool.limit k body (diary ++ notes) diary m o := by
  have hstands := hentry.stands
  cases h with
  | giveUp hphase hgiven =>
      rw [hphase] at hstands
      obtain ⟨rfl, rfl, rfl⟩ := Note.told.inj (mem_tellings hn).1
      exact ⟨rfl, .abandoned (habandoned hgiven) (hstands.2.append (neverBegun_tellings t _ _ _))⟩
  | discard hphase hown hset =>
      rw [hphase] at hstands
      obtain ⟨rfl, rfl, rfl⟩ := Note.told.inj (mem_tellings hn).1
      exact ⟨rfl, .cancelled (hflag.trans hown) (hflags _ hset)
        (hstands.2.append (neverBegun_tellings t _ _ _))⟩
  | settle hphase =>
      rw [hphase] at hstands
      obtain ⟨-, hended, hresult⟩ := hstands
      obtain ⟨rfl, rfl, rfl⟩ := Note.told.inj (mem_tellings hn).1
      rw [← houtcome] at hresult
      subst hresult
      exact ⟨rfl, .own hended (houtcome ▸ hentry.proper)⟩
  | expire hdeadline hdue hlimit =>
      obtain ⟨rfl, rfl, rfl⟩ := Note.told.inj (mem_tellings hn).1
      -- the deadline that has passed is the one that the body got when it began
      obtain ⟨s, hs, hm⟩ := hstands.begunBy hdeadline
      rw [hlimit] at hm
      obtain rfl := Option.some.inj hm
      exact ⟨rfl, .late hlimit hs hdue⟩
  | begin | finish => simp at hn
  | _ => simp at hn

end Entry

/-! ### All tasks -/

/-- The clock can tell the deadline of the body that is begun, if one is. -/
def tellsDeadline (b : Bench ρ) : Act ρ → Bool
  | .start i => b.isFlagged i || b.pool.limit.all fun d => (b.now.after? d).isSome
  | _ => true

/-- The clock can tell every deadline of a run. -/
def tellsDeadlines : Bench ρ → List (Act ρ) → Bool
  | _, [] => true
  | b, a :: acts =>
    b.tellsDeadline a &&
      match b.act? a with
      | some (_, b') => b'.tellsDeadlines acts
      | none => true

/-- Whatever was told of a task had its cause. -/
def HasCauses (stage : Stage) (limit : Option Number.Duration) (diary : List (Note ρ)) : Prop :=
  ∀ before k o now later, diary = before ++ .told k o now :: later →
    ∃ body, .accepted k body ∈ before ∧ Cause stage limit k body diary before now o

/-- The numbers of the tasks that were accepted. -/
def numbers (b : Bench ρ) : List Nat := b.pool.tasks.map PoolTask.number

/-- The diary and the bench agree. -/
structure Kept (diary : List (Note ρ)) (b : Bench ρ) : Prop where
  entries : ∀ t ∈ b.pool.tasks, Entry b.pool.limit diary t
  distinct : b.numbers.Nodup
  below : ∀ k ∈ b.numbers, k < b.pool.submitted
  owned : ∀ n ∈ diary, ∀ k, n.task? = some k → k ∈ b.numbers
  refused : ∀ k body, .refused k body ∈ diary → k < b.pool.submitted ∧ k ∉ b.numbers
  flags : ∀ f ∈ b.flags, .flagged f ∈ diary
  abandoned : b.pool.abandoned = true → .closed false ∈ diary
  busy : b.pool.busy ≤ b.pool.size
  causes : HasCauses b.pool.stage b.pool.limit diary

section Kept

variable {b b' : Bench ρ} {i : Nat} {t t' : PoolTask (BenchBody ρ) ρ} {a : Act ρ}
  {diary notes : List (Note ρ)}

/-- A task that was never told nor begun by then is not known to the diary in other ways either. -/
theorem Cause.append {stage : Stage} {limit : Option Number.Duration} {k : Nat}
    {body : BenchBody ρ} {before : List (Note ρ)} {now : Moment} {o : TaskOutcome ρ}
    (h : Cause stage limit k body diary before now o) (hnever : NeverBegun k notes) :
    Cause stage limit k body (diary ++ notes) before now o := by
  cases h with
  | cancelled hflag hset hnot => exact .cancelled hflag hset (hnot.append hnever)
  | abandoned hclosed hnot => exact .abandoned hclosed (hnot.append hnever)
  | late hlimit hbegun hdue => exact .late hlimit hbegun hdue
  | own hended hproper => exact .own hended hproper

/-- At most one thing is noted in an act. -/
theorem Turn.length_le (h : Turn b i t a notes t') : notes.length ≤ 1 := by
  have htell (o : TaskOutcome ρ) : (tellings t o b.now).length ≤ 1 := by
    cases hout : t.outcome <;> simp [tellings, PoolTask.accepted, hout]
  cases h with
  | giveUp | discard | settle | expire => exact htell _
  | _ => simp

/-- Causes for what was told go on, and what is told now has to have one. -/
theorem HasCauses.append {stage : Stage} {limit : Option Number.Duration}
    (h : HasCauses stage limit diary) (hone : notes.length ≤ 1)
    (hnever : ∀ k o now, .told k o now ∈ diary → NeverBegun k notes)
    (hnew : ∀ k o now, .told k o now ∈ notes →
      ∃ body, .accepted k body ∈ diary ∧ Cause stage limit k body (diary ++ notes) diary now o) :
    HasCauses stage limit (diary ++ notes) := by
  intro before k o now later hsplit
  -- what is told is among the new notes, all alone, or among the old ones
  rcases List.append_eq_append_iff.1 hsplit with ⟨gap, rfl, hgap⟩ | ⟨gap, rfl, hgap⟩
  · obtain rfl : gap = [] := by
      rw [hgap] at hone
      exact List.length_eq_zero_iff.1 (by simp at hone; omega)
    rw [List.append_nil]
    exact hnew k o now (by simp [hgap])
  · cases gap with
    | nil =>
        have hnotes : Note.told k o now :: later = notes := hgap
        simpa using hnew k o now (hnotes ▸ List.mem_cons_self ..)
    | cons n gap =>
        obtain ⟨rfl, -⟩ : Note.told k o now = n ∧ later = gap ++ notes := by simpa using hgap
        obtain ⟨body, hbody, hcause⟩ := h before k o now gap rfl
        exact ⟨body, hbody, hcause.append (hnever k o now (by simp))⟩

/-- A worker that takes a task was free, and any other is busy already. -/
theorem Turn.isBusy_or (h : Turn b i t a notes t') :
    t.phase.isBusy = true ∨ b.pool.busy < b.pool.size := by
  cases h with
  | take _ hfree => exact .inr hfree
  | expire hdeadline =>
      -- the body of a task with a deadline may still run
      cases hphase : t.phase <;> simp_all [Phase.deadline?, Phase.isBusy]
  | clear h | giveUp h | discard h | begin h | lose h | arrive h | finish h | settle h | letGo h =>
      simp [h, Phase.isBusy]

theorem Turn.busy_le (h : Turn b i t a notes t') (hi : b.pool.tasks[i]? = some t)
    (hbusy : b.pool.busy ≤ b.pool.size) :
    (b.pool.tasks.set i t').countP (·.phase.isBusy) ≤ b.pool.size := by
  obtain ⟨hlt, rfl⟩ := List.getElem?_eq_some_iff.1 hi
  rw [List.countP_set hlt]
  have hone : (if t'.phase.isBusy = true then 1 else 0) ≤ 1 := by split <;> omega
  rcases h.isBusy_or with hown | hfree
  · have hpos : 0 < b.pool.busy := List.countP_pos_iff.2 ⟨_, List.getElem_mem hlt, hown⟩
    simp only [hown, if_true]
    unfold Pool.busy at hbusy hpos
    omega
  · unfold Pool.busy at hfree
    omega

/-- Tasks in different places have different numbers. -/
theorem Kept.number_ne (h : Kept diary b) {j : Nat} {u : PoolTask (BenchBody ρ) ρ}
    (ht : b.pool.tasks[i]? = some t) (hu : b.pool.tasks[j]? = some u) (hne : i ≠ j) :
    t.number ≠ u.number := by
  have hi := (List.getElem?_eq_some_iff.1 ht).1
  intro heq
  have hplaces : b.numbers[i]? = b.numbers[j]? := by simp [numbers, ht, hu, heq]
  exact hne ((List.getElem?_inj (by simpa [numbers] using hi) h.distinct).1 hplaces)

/-- A turn leaves the numbers of the tasks alone. -/
theorem Turn.numbers_eq (h : Turn b i t a notes t') (hi : b.pool.tasks[i]? = some t) :
    (b.pool.tasks.set i t').map PoolTask.number = b.numbers := by
  obtain ⟨hlt, rfl⟩ := List.getElem?_eq_some_iff.1 hi
  rw [List.map_set, h.same.1, ← List.getElem_map PoolTask.number (h := by simpa using hlt),
    List.set_getElem_self, numbers]

/-- A task is lost only to a deadline that the clock cannot tell. -/
theorem Turn.phase_ne_lost (h : Turn b i t a notes t') (htold : b.tellsDeadline a = true) :
    t'.phase ≠ .lost := by
  cases h with
  | lose _ hflag hlate =>
      obtain ⟨d, hlimit, hnone⟩ := hlate
      simp [tellsDeadline, hflag, hlimit, hnone] at htold
  | arrive h => simp [h]
  | expire hdeadline =>
      intro hlost
      rw [show t.phase = .lost from hlost] at hdeadline
      simp [Phase.deadline?] at hdeadline
  | _ => simp [PoolTask.turn]

/-- **A turn keeps the diary and the bench in agreement.** -/
theorem Kept.turns (h : Kept diary b) (hturns : Turns a b notes b')
    (htold : b.tellsDeadline a = true) : Kept (diary ++ notes) b' := by
  obtain ⟨i, t, t', gates, order, ht, hturn, rfl⟩ := hturns
  have hentry := h.entries t (List.mem_of_getElem? ht)
  have hnumbers : numbers { b with
      gates, pool := { b.pool with tasks := b.pool.tasks.set i t', order } } = b.numbers :=
    hturn.numbers_eq ht
  have hmine : t.number ∈ b.numbers := List.mem_map_of_mem (List.mem_of_getElem? ht)
  refine ⟨?_, ?_, ?_, ?_, ?_, ?_, ?_, hturn.busy_le ht h.busy, ?_⟩
  · intro u hu
    obtain ⟨j, hj⟩ := List.mem_iff_getElem?.1 hu
    rw [List.getElem?_set] at hj
    split at hj
    · obtain rfl : t' = u := by
        split at hj
        · exact Option.some.inj hj
        · simp at hj
      exact hturn.entry hentry (hturn.phase_ne_lost htold)
    · next hne =>
      refine (h.entries u (List.mem_of_getElem? hj)).append fun n hn => ?_
      rw [hturn.task?_eq hn]
      simpa using h.number_ne ht hj hne
  · rw [hnumbers]
    exact h.distinct
  · rw [hnumbers]
    exact h.below
  · intro n hn k hk
    rw [hnumbers]
    rcases List.mem_append.1 hn with hn | hn
    · exact h.owned n hn k hk
    · rw [hturn.task?_eq hn] at hk
      obtain rfl := Option.some.inj hk
      exact hmine
  · intro k body hn
    rw [hnumbers]
    rcases List.mem_append.1 hn with hn | hn
    · exact h.refused k body hn
    · simpa [Note.task?] using hturn.task?_eq hn
  · exact fun f hf => List.mem_append_left _ (h.flags f hf)
  · exact fun hgiven => List.mem_append_left _ (h.abandoned hgiven)
  · refine h.causes.append hturn.length_le (fun k o now hmem m hm => ?_) fun k o now hmem => ?_
    · -- a body that begins now belongs to a task of which nobody was told
      obtain ⟨rfl, hout⟩ := hturn.outcome_of_begun hentry hm
      have htoldOf := mem_callbacks hmem
      simp [hentry.told, hout] at htoldOf
    · obtain ⟨body, hbody, houtcome, hflag⟩ := hentry.accepted
      obtain ⟨rfl, hcause⟩ := hturn.cause hentry h.flags h.abandoned houtcome hflag hmem
      exact ⟨body, hbody, hcause⟩

/-- What is noted in no connection with a task has no part in causes. -/
theorem HasCauses.append_none {stage : Stage} {limit : Option Number.Duration}
    (h : HasCauses stage limit diary) (hone : notes.length ≤ 1)
    (hnone : ∀ n ∈ notes, ∀ k m o, n ≠ .begun k m ∧ n ≠ .told k o m) :
    HasCauses stage limit (diary ++ notes) :=
  h.append hone (fun k o _ _ m hm => (hnone _ hm k m o).1 rfl)
    fun k o now hmem => absurd rfl (hnone _ hmem k now o).2

/-- What users do besides submitting tasks that are accepted. -/
theorem Kept.leave (h : Kept diary b) {accepts abandoned : Bool} {submitted : Nat} {gates : Gates}
    {flags : List String} {now : Moment} (hone : notes.length ≤ 1)
    (hnone : ∀ n ∈ notes, n.task? = none)
    (hrefused : ∀ k body, .refused k body ∈ notes → k < submitted ∧ k ∉ b.numbers)
    (hmore : b.pool.submitted ≤ submitted)
    (hflags : ∀ f ∈ flags, f ∈ b.flags ∨ .flagged f ∈ notes)
    (habandoned : abandoned = true → b.pool.abandoned = true ∨ .closed false ∈ notes) :
    Kept (diary ++ notes)
      { b with pool := { b.pool with accepts, abandoned, submitted }, gates, flags, now } := by
  refine ⟨?_, h.distinct, ?_, ?_, ?_, ?_, ?_, h.busy, ?_⟩
  · exact fun t ht => (h.entries t ht).append fun n hn => by simp [hnone n hn]
  · exact fun k hk => Nat.lt_of_lt_of_le (h.below k hk) hmore
  · intro n hn k hk
    rcases List.mem_append.1 hn with hn | hn
    · exact h.owned n hn k hk
    · simp [hnone n hn] at hk
  · intro k body hn
    rcases List.mem_append.1 hn with hn | hn
    · exact ⟨Nat.lt_of_lt_of_le (h.refused k body hn).1 hmore, (h.refused k body hn).2⟩
    · exact hrefused k body hn
  · exact fun f hf => List.mem_append.2 ((hflags f hf).imp_left (h.flags f))
  · exact fun hgiven => List.mem_append.2 ((habandoned hgiven).imp_left h.abandoned)
  · refine h.causes.append_none hone fun n hn k m o => ⟨?_, ?_⟩ <;> rintro rfl <;>
      exact nomatch hnone _ hn

/-- The number of a new task does not occur in the diary. -/
theorem Kept.fresh (h : Kept diary b) : ∀ n ∈ diary, n.task? ≠ some b.pool.submitted :=
  fun n hn hk => Nat.lt_irrefl _ (h.below _ (h.owned n hn _ hk))

theorem Kept.submit (h : Kept diary b) {body : BenchBody ρ} (hproper : body.outcome ≠ .discarded) :
    Kept (diary ++ [.accepted b.pool.submitted body])
      { b with pool := { b.pool with
          submitted := b.pool.submitted + 1
          tasks := b.pool.tasks ++ [⟨b.pool.submitted, body, .queued, none⟩] } } := by
  have hnumbers : numbers { b with pool := { b.pool with
      submitted := b.pool.submitted + 1
      tasks := b.pool.tasks ++ [⟨b.pool.submitted, body, .queued, none⟩] } } =
      b.numbers ++ [b.pool.submitted] := by simp [numbers]
  have hnew : b.pool.submitted ∉ b.numbers := fun hk => Nat.lt_irrefl _ (h.below _ hk)
  refine ⟨?_, ?_, ?_, ?_, ?_, ?_, ?_, ?_, ?_⟩
  · intro t ht
    rcases List.mem_append.1 ht with ht | ht
    · refine (h.entries t ht).append fun n hn => ?_
      obtain rfl := List.mem_singleton.1 hn
      intro heq
      obtain hnumber : b.pool.submitted = t.number := Option.some.inj heq
      exact hnew (hnumber ▸ List.mem_map_of_mem ht)
    · obtain rfl := List.mem_singleton.1 ht
      refine ⟨⟨body, by simp, rfl, rfl⟩, hproper, ?_, rfl, ?_⟩
      · rw [callbacks_append, callbacks_eq_nil h.fresh]
        simp [callbacks, Note.told?]
      · exact (neverBegun_of_other h.fresh).append fun m hm => by simp at hm
  · rw [hnumbers]
    exact List.concat_eq_append ▸ h.distinct.concat hnew
  · rw [hnumbers]
    intro k hk
    rcases List.mem_append.1 hk with hk | hk
    · exact Nat.lt_succ_of_lt (h.below k hk)
    · obtain rfl := List.mem_singleton.1 hk
      exact Nat.lt_succ_self _
  · rw [hnumbers]
    intro n hn k hk
    rcases List.mem_append.1 hn with hn | hn
    · exact List.mem_append_left _ (h.owned n hn k hk)
    · obtain rfl := List.mem_singleton.1 hn
      obtain rfl := Option.some.inj hk
      simp
  · rw [hnumbers]
    intro k body' hn
    have hold : .refused k body' ∈ diary := by simpa using hn
    obtain ⟨hlt, hnot⟩ := h.refused k body' hold
    exact ⟨Nat.lt_succ_of_lt hlt, by simp [hnot, Nat.ne_of_lt hlt]⟩
  · exact fun f hf => List.mem_append_left _ (h.flags f hf)
  · exact fun hgiven => List.mem_append_left _ (h.abandoned hgiven)
  · simpa [Pool.busy, Phase.isBusy] using h.busy
  · exact h.causes.append_none (by simp) (by simp)

/-- **The diary and the bench stay in agreement.** -/
theorem Kept.act (h : Kept diary b) (hact : b.act? a = some (notes, b'))
    (hproper : ∀ body, a = .submit body → body.outcome ≠ .discarded)
    (htold : b.tellsDeadline a = true) : Kept (diary ++ notes) b' := by
  by_cases hwork : a.isWork = true
  · exact h.turns (turns_of_isWork hwork hact) htold
  cases a with
  | submit body =>
      by_cases hopen : b.pool.accepts = true
      · simp only [act?, Pool.submit, if_pos hopen, Option.some.injEq, Prod.mk.injEq] at hact
        obtain ⟨rfl, rfl⟩ := hact
        exact h.submit (hproper body rfl)
      · simp only [act?, Pool.submit, if_neg hopen, Option.some.injEq, Prod.mk.injEq] at hact
        obtain ⟨rfl, rfl⟩ := hact
        refine h.leave (by simp) (by simp [Note.task?]) ?_ (Nat.le_succ _)
          (fun f hf => .inl hf) .inl
        intro k body' hn
        obtain ⟨rfl, rfl⟩ : k = b.pool.submitted ∧ body' = body := by simpa using hn
        exact ⟨Nat.lt_succ_self _, fun hk => Nat.lt_irrefl _ (h.below _ hk)⟩
  | setFlag flag =>
      obtain ⟨rfl, rfl⟩ := Prod.mk.inj (Option.some.inj hact)
      exact h.leave (by simp) (by simp [Note.task?]) (by simp) (Nat.le_refl _)
        (fun f hf => by simpa using hf) .inl
  | close drain =>
      obtain ⟨rfl, rfl⟩ := Prod.mk.inj (Option.some.inj hact)
      unfold Pool.close
      split
      · refine h.leave (by simp) (by simp [Note.task?]) (by simp) (Nat.le_refl _)
          (fun f hf => .inl hf) fun hgiven => ?_
        simpa using hgiven
      · exact h.leave (by simp) (by simp) (by simp) (Nat.le_refl _) (fun f hf => .inl hf) .inl
  | tick moment | openGate gate =>
      obtain ⟨rfl, rfl⟩ := Prod.mk.inj (Option.some.inj hact)
      exact h.leave (by simp) (by simp) (by simp) (Nat.le_refl _) (fun f hf => .inl hf) .inl
  | _ => simp [Act.isWork] at hwork

/-- A bench on which nothing has happened yet. -/
theorem kept_ofPool (stage : Stage) (size : Nat) (limit : Option Number.Duration) :
    Kept ([] : List (Note ρ)) (ofPool (.ofSize stage size limit)) := by
  refine ⟨?_, ?_, ?_, ?_, ?_, ?_, ?_, ?_, ?_⟩ <;>
    simp [ofPool, Pool.ofSize, numbers, Pool.busy, HasCauses]

theorem Kept.run (h : Kept diary b) {acts : List (Act ρ)}
    (hproper : ∀ body, .submit body ∈ acts → body.outcome ≠ .discarded)
    (htold : b.tellsDeadlines acts = true) (hrun : b.run? acts = some (notes, b')) :
    Kept (diary ++ notes) b' := by
  induction acts generalizing diary b notes with
  | nil =>
      obtain ⟨rfl, rfl⟩ := Prod.mk.inj (Option.some.inj hrun)
      rwa [List.append_nil]
  | cons a acts ih =>
      simp only [run?, Option.bind_eq_some_iff, Option.map_eq_some_iff] at hrun
      obtain ⟨⟨first, b₁⟩, ha, ⟨more, b₂⟩, hmore, heq⟩ := hrun
      obtain ⟨rfl, rfl⟩ := Prod.mk.inj heq
      obtain ⟨hfirst, hrest⟩ : b.tellsDeadline a = true ∧ b₁.tellsDeadlines acts = true := by
        simpa [tellsDeadlines, ha] using htold
      rw [← List.append_assoc]
      exact ih (h.act ha (fun body hbody => hproper body (hbody ▸ List.mem_cons_self ..)) hfirst)
        (fun body hbody => hproper body (List.mem_cons_of_mem _ hbody)) hrest hmore

/-- A pool stays what it was made. -/
theorem fixed_act (hact : b.act? a = some (notes, b')) :
    b'.pool.stage = b.pool.stage ∧ b'.pool.size = b.pool.size ∧ b'.pool.limit = b.pool.limit := by
  by_cases hwork : a.isWork = true
  · obtain ⟨i, t, t', gates, order, -, -, rfl⟩ := turns_of_isWork hwork hact
    exact ⟨rfl, rfl, rfl⟩
  cases a with
  | submit body =>
      rw [← (Prod.mk.inj (Option.some.inj hact)).2]
      exact Pool.fixed_submit body b.pool
  | close drain =>
      obtain ⟨rfl, rfl⟩ := Prod.mk.inj (Option.some.inj hact)
      exact Pool.fixed_close drain b.pool
  | setFlag _ | tick _ | openGate _ =>
      obtain ⟨rfl, rfl⟩ := Prod.mk.inj (Option.some.inj hact)
      exact ⟨rfl, rfl, rfl⟩
  | _ => simp [Act.isWork] at hwork

theorem fixed_run {acts : List (Act ρ)} (hrun : b.run? acts = some (notes, b')) :
    b'.pool.stage = b.pool.stage ∧ b'.pool.size = b.pool.size ∧ b'.pool.limit = b.pool.limit := by
  induction acts generalizing b notes with
  | nil =>
      obtain ⟨rfl, rfl⟩ := Prod.mk.inj (Option.some.inj hrun)
      exact ⟨rfl, rfl, rfl⟩
  | cons a acts ih =>
      simp only [run?, Option.bind_eq_some_iff, Option.map_eq_some_iff] at hrun
      obtain ⟨⟨first, b₁⟩, ha, ⟨more, b₂⟩, hmore, heq⟩ := hrun
      obtain ⟨rfl, rfl⟩ := Prod.mk.inj heq
      obtain ⟨hstage, hsize, hlimit⟩ := fixed_act ha
      obtain ⟨hstage', hsize', hlimit'⟩ := ih hmore
      exact ⟨hstage'.trans hstage, hsize'.trans hsize, hlimit'.trans hlimit⟩

/-- Whoever runs a body is busy. -/
theorem running_le_busy (p : Pool (BenchBody ρ) ρ) : p.running ≤ p.busy := by
  refine List.countP_mono_left fun t _ h => ?_
  cases hphase : t.phase <;> simp_all [Phase.isBusy]

/-- A task with which nobody is busy any more has its outcome. -/
theorem Entry.isSome_outcome {limit : Option Number.Duration} (h : Entry limit diary t)
    (hqueued : t.phase.isQueued = false) (hbusy : t.phase.isBusy = false) :
    t.outcome.isSome = true := by
  have hstands := h.stands
  cases hphase : t.phase with
  | done =>
      rw [hphase] at hstands
      exact hstands
  | lost =>
      rw [hphase] at hstands
      exact hstands.elim
  | _ => simp [hphase, Phase.isQueued, Phase.isBusy] at hqueued hbusy

end Kept

/-! ### What a pool owes -/

/-- What a pool owes to whom its tasks concern. -/
structure Honoured (stage : Stage) (size : Nat) (limit : Option Number.Duration)
    (diary : List (Note ρ)) (b : Bench ρ) : Prop where
  /-- Nobody is told twice. -/
  once : ∀ k body, .accepted k body ∈ diary → (callbacks k diary).length ≤ 1
  /-- Everybody was told when no task waits and no worker is busy. -/
  settled : b.pool.isQuiet = true →
    ∀ k body, .accepted k body ∈ diary → (callbacks k diary).length = 1
  /-- A task that was refused is not run, and nobody is told. -/
  refused : ∀ k body, .refused k body ∈ diary → NeverBegun k diary ∧ callbacks k diary = []
  /-- Whatever is told has its cause. -/
  causes : HasCauses stage limit diary
  /-- No more bodies run than there are workers. -/
  running : b.pool.running ≤ max size 1

/-- **Every task is settled once, for a good reason.** Whatever users, workers and the watchdog of a
pool do, in any order: as long as bodies do not pretend to have been discarded and the clock can
tell the deadlines, the pool does what it owes. -/
theorem honoured_of_run (stage : Stage) (size : Nat) (limit : Option Number.Duration)
    (acts : List (Act ρ)) {diary : List (Note ρ)} {b : Bench ρ}
    (hproper : ∀ body, .submit body ∈ acts → body.outcome ≠ .discarded)
    (htold : (ofPool (.ofSize stage size limit)).tellsDeadlines acts = true)
    (hrun : (ofPool (.ofSize stage size limit)).run? acts = some (diary, b)) :
    Honoured stage size limit diary b := by
  have hkept : Kept diary b := (kept_ofPool stage size limit).run hproper htold hrun
  obtain ⟨hstage, hsize, hlimit⟩ := fixed_run hrun
  -- an accepted task has a place, and what was told of it is its outcome
  have htask : ∀ k body, .accepted k body ∈ diary →
      ∃ t ∈ b.pool.tasks, callbacks k diary = t.outcome.toList := fun k body hbody => by
    obtain ⟨t, ht, rfl⟩ := List.mem_map.1 (hkept.owned _ hbody k rfl)
    exact ⟨t, ht, (hkept.entries t ht).told⟩
  refine ⟨fun k body hbody => ?_, fun hquiet k body hbody => ?_, fun k body hbody => ?_, ?_, ?_⟩
  · obtain ⟨t, -, htold⟩ := htask k body hbody
    rw [htold]
    cases t.outcome <;> simp
  · obtain ⟨t, ht, htold⟩ := htask k body hbody
    obtain ⟨hqueued, hbusy⟩ : t.phase.isQueued = false ∧ t.phase.isBusy = false := by
      simpa using List.all_eq_true.1 hquiet t ht
    obtain ⟨o, ho⟩ := Option.isSome_iff_exists.1
      ((hkept.entries t ht).isSome_outcome hqueued hbusy)
    simp [htold, ho]
  · have hother : ∀ n ∈ diary, n.task? ≠ some k := fun n hn hk =>
      (hkept.refused k body hbody).2 (hkept.owned n hn k hk)
    exact ⟨neverBegun_of_other hother, callbacks_eq_nil hother⟩
  · rw [← show b.pool.stage = stage from hstage, ← show b.pool.limit = limit from hlimit]
    exact hkept.causes
  · calc b.pool.running ≤ b.pool.busy := running_le_busy b.pool
      _ ≤ b.pool.size := hkept.busy
      _ = max size 1 := hsize

/-- A body that waits for nothing. -/
def prompt (outcome : TaskOutcome Nat) (flag : Option String) : BenchBody Nat :=
  ⟨none, outcome, flag, false⟩

/-- Two workers are given six tasks. One ends in time, one too late, one is cancelled, one panics,
one is abandoned, and the last is refused. -/
def crowded : List (Act Nat) :=
  [.submit (prompt (.completed 7) none), .submit (prompt (.completed 8) none),
    .submit (prompt (.completed 9) (some "stop")), .submit (prompt (.failed (.panicked "no")) none),
    .submit (prompt (.completed 11) none), .take, .take, .look 0, .look 1, .start 0, .start 1,
    .body 0, .settle 0, .letGo 0, .setFlag "stop", .tick ⟨5000000000⟩, .expire 1, .take, .look 2,
    .start 2, .letGo 2, .take, .look 3, .start 3, .body 1, .settle 1, .letGo 1, .close false,
    .submit (prompt (.completed 12) none), .body 3, .settle 3, .letGo 3, .take, .look 4, .letGo 4]

/-- In the crowd all five tasks that were accepted are settled. -/
theorem honoured_crowded :
    (∀ body, Act.submit body ∈ crowded → body.outcome ≠ .discarded) ∧
    (ofPool (.ofSize .parse 2 (some (.ofSeconds 5)))).tellsDeadlines crowded = true ∧
    ∃ diary b, (ofPool (.ofSize .parse 2 (some (.ofSeconds 5)))).run? crowded = some (diary, b) ∧
      b.pool.isQuiet = true ∧ Honoured .parse 2 (some (.ofSeconds 5)) diary b := by
  have hproper : ∀ body, Act.submit body ∈ crowded → body.outcome ≠ .discarded := by
    intro body hbody
    simp only [crowded, List.mem_cons, Act.submit.injEq, reduceCtorEq, false_or, or_false,
      List.not_mem_nil] at hbody
    rcases hbody with rfl | rfl | rfl | rfl | rfl | rfl <;> simp [prompt]
  have htold : (ofPool (.ofSize .parse 2 (some (.ofSeconds 5)))).tellsDeadlines crowded = true := by
    decide +kernel
  have hend : ((ofPool (.ofSize .parse 2 (some (.ofSeconds 5)))).run? crowded).any
      (fun r => r.2.pool.isQuiet) = true := by decide +kernel
  obtain ⟨⟨diary, b⟩, hrun, hquiet⟩ := (Option.any_eq_true ..).1 hend
  exact ⟨hproper, htold, diary, b, hrun, hquiet,
    honoured_of_run .parse 2 _ crowded hproper htold hrun⟩

end GradedReading.Bench
