import GradedReading.Proofs.Pipeline.Rest
import GradedReading.Proofs.Session.Step

/-!
# GradedReading.Proofs.Session.Exclusive

A session deals with one operation at a time.

**Key idea:** whatever was launched is over or is the current operation, and the current operation
is the one that was launched last. A launch waits until the last operation is over, so it may
replace the current operation, and a release ends it. The relays of older operations may still be at
work; they find that their operation is not the current one, and pass nothing on.

An operation whose relay could not be started was not launched. It is never begun.
-/

namespace GradedReading

namespace Job

/-- A job that was cancelled is over. -/
theorem isTerminal_cancel (j : Job) : (j.apply .cancel).2.state.isTerminal = true := by
  simp only [apply, cancel]
  split
  · next h => exact h
  · rfl

end Job

namespace Session

variable {sv : Services} {s s' : Session} {a : Act}

/-- One operation at a time. -/
structure Tidy (sv : Services) (s : Session) : Prop where
  fine : s.pipeline.Fine sv
  known : ∀ n ∈ s.launched, n < s.pipeline.operations.length
  distinct : s.launched.Nodup
  settled : ∀ n ∈ s.launched, s.pipeline.isOver n = true ∨ s.active = some n
  last : ∀ n, s.active = some n → s.launched.getLast? = some n
  messages : ∀ m ∈ s.queue.messages, s.launched.getLast?.map numberOf = some m.operation

/-- A session of a pipeline that has done nothing. -/
theorem tidy_ofPipeline {p : Pipeline} (hp : p.Fine sv) : (ofPipeline p).Tidy sv := by
  refine ⟨hp, ?_, ?_, ?_, ?_, ?_⟩ <;> simp [ofPipeline, launched, MessageQueue.empty]

/-- The operations of a pipeline become more and more. -/
theorem Tidy.known_reaches (h : s.Tidy sv) {p : Pipeline}
    (hp : Pipeline.Reaches sv s.pipeline p) {n : Nat} (hn : n ∈ s.launched) :
    n < p.operations.length := by
  have hlt := h.known n hn
  obtain ⟨ops, hops⟩ := h.fine.job?_reaches hp
    (Pipeline.job?_eq_some.2 ⟨_, List.getElem?_eq_getElem hlt, rfl⟩)
  obtain ⟨o, ho, -⟩ := Pipeline.job?_eq_some.1 hops
  exact (List.getElem?_eq_some_iff.1 ho).1

/-- A session stays tidy if it launches nothing and its messages are the old ones or about the
current operation. -/
theorem Tidy.of_reaches (h : s.Tidy sv) (hp : Pipeline.Reaches sv s.pipeline s'.pipeline)
    (hlaunched : s'.launched = s.launched) (hactive : s'.active = s.active)
    (hmessages : ∀ m ∈ s'.queue.messages,
      m ∈ s.queue.messages ∨ ∃ n, s.active = some n ∧ m.operation = numberOf n) : s'.Tidy sv where
  fine := h.fine.reaches hp
  known n hn := h.known_reaches hp (hlaunched ▸ hn)
  distinct := hlaunched ▸ h.distinct
  settled n hn := by
    rw [hactive]
    exact (h.settled n (hlaunched ▸ hn)).imp_left (h.fine.isOver_reaches hp)
  last n hn := by
    rw [hlaunched]
    exact h.last n (hactive ▸ hn)
  messages m hm := by
    rw [hlaunched]
    rcases hmessages m hm with hold | ⟨n, hn, hop⟩
    · exact h.messages m hold
    · rw [h.last n hn, hop]
      rfl

/-- An operation that is let go of has to be over. -/
theorem Tidy.letGo (h : s.Tidy sv) (hp : Pipeline.Reaches sv s.pipeline s'.pipeline)
    (hlaunched : s'.launched = s.launched) (hactive : s'.active = none)
    (hover : ∀ n, s.active = some n → s'.pipeline.isOver n = true)
    (hmessages : ∀ m ∈ s'.queue.messages, m ∈ s.queue.messages) : s'.Tidy sv where
  fine := h.fine.reaches hp
  known n hn := h.known_reaches hp (hlaunched ▸ hn)
  distinct := hlaunched ▸ h.distinct
  settled n hn := .inl ((h.settled n (hlaunched ▸ hn)).elim (h.fine.isOver_reaches hp) (hover n))
  last n hn := by simp [hactive] at hn
  messages m hm := hlaunched ▸ h.messages m (hmessages m hm)

theorem HasRoom.isOver (h : s.HasRoom) {n : Nat} (hn : s.active = some n) :
    s.pipeline.isOver n = true := by
  simpa [isRunning, hn] using h.idle

/-- An operation that was cancelled is over. -/
theorem Tidy.isOver_cancel (h : s.Tidy sv) {n : Nat} (hn : s.active = some n) :
    s.cancel.2.pipeline.isOver n = true := by
  have hlt : n < s.pipeline.operations.length :=
    h.known n (List.mem_of_getLast? (h.last n hn))
  have hget := List.getElem?_eq_getElem hlt
  simp only [cancel, hn, withPipeline, Pipeline.cancel, Pipeline.tell_eq hget]
  simp [Pipeline.isOver, Pipeline.getElem?_modifyOperation hget, Operation.isOver,
    Job.isTerminal_cancel]

/-- **A step leaves a session with one operation at a time.** -/
theorem Tidy.step (h : s.Tidy sv) (hstep : Step sv s a s') : s'.Tidy sv := by
  have hp := hstep.reaches
  cases hstep with
  | idle => exact h
  | move | shutDown | cancel => exact h.of_reaches hp rfl rfl fun m hm => .inl hm
  | @pass k r j e hr _ _ _ _ hcurrent =>
      refine h.of_reaches hp (launched_set hr e) (active_pass r.operation e s) fun m hm => ?_
      rw [show _ = _ from messages_pass r.operation e s] at hm
      rcases List.mem_append.1 hm with hold | hnew
      · exact .inl hold
      · refine .inr ⟨r.operation, hcurrent, ?_⟩
        rw [List.mem_singleton.1 hnew, Message.operation_ofEvent]
  | @skip k r j e hr => exact h.of_reaches hp (launched_set hr e) rfl fun m hm => .inl hm
  | fetch => exact h.of_reaches hp rfl rfl fun m hm => by simp [MessageQueue.empty] at hm
  | release =>
      rw [release_eq] at hp ⊢
      exact h.letGo hp rfl rfl (fun n hn => h.isOver_cancel hn) fun m hm => by
        simp [ofPipeline, MessageQueue.empty] at hm
  | stash =>
      rw [stash_rest] at hp ⊢
      exact h.of_reaches hp rfl rfl fun m hm => .inl hm
  | retire _ hroom _ _ _ hqueue =>
      rw [retire_rest s] at hp hqueue ⊢
      refine h.letGo hp rfl rfl (fun n hn => h.fine.isOver_reaches hp (hroom.isOver hn))
        fun m hm => ?_
      rcases hqueue with rfl | ⟨rfl, -⟩
      · exact hm
      · simp [MessageQueue.empty] at hm
  | @launch _ o _ _ _ hroom _ hbegun =>
      have hstash := reaches_stash sv s
      have hfresh : ∀ n ∈ s.launched, n < s.retire.pipeline.operations.length :=
        fun n hn => h.known_reaches hstash hn
      refine ⟨h.fine.reaches hp, ?_, ?_, ?_, ?_, ?_⟩
      all_goals rw [launched_launching]
      · intro n hn
        rw [launching, Pipeline.length_launched]
        rcases List.mem_append.1 hn with hold | hnew
        · exact Nat.lt_succ_of_lt (hfresh n hold)
        · rw [List.mem_singleton.1 hnew]
          exact Nat.lt_succ_self _
      · refine List.nodup_append.2 ⟨h.distinct, List.nodup_singleton _, fun m hm n hn heq => ?_⟩
        rw [heq, List.mem_singleton.1 hn] at hm
        exact Nat.lt_irrefl _ (hfresh _ hm)
      · intro n hn
        rcases List.mem_append.1 hn with hold | hnew
        · -- the last operation is over by now, like all before it
          left
          rcases h.settled n hold with hover | hactive
          · exact h.fine.isOver_reaches hp hover
          · exact h.fine.isOver_reaches hp (hroom.isOver hactive)
        · exact .inr (by rw [List.mem_singleton.1 hnew, launching])
      · intro n hn
        rw [List.getLast?_concat]
        exact hn
      · simp [launching, MessageQueue.empty]

/-- What steps keep, runs keep. -/
theorem run_induction {I : Session → Prop}
    (hstep : ∀ {s a s'}, Step sv s a s' → I s → I s') {acts : List Act} (h : I s)
    (hrun : s.run? sv acts = some s') : I s' := by
  induction acts generalizing s with
  | nil =>
      obtain rfl : s = s' := by simpa using hrun
      exact h
  | cons a acts ih =>
      obtain ⟨s₁, ha, hrest⟩ := Option.bind_eq_some_iff.1 hrun
      exact ih (hstep (step_of_act? ha) h) hrest

/-! ### After a release -/

/-- A session without an operation, messages and documents. -/
structure Blank (s : Session) : Prop where
  active : s.active = none
  queue : s.queue = .empty
  collection : s.collection = none

theorem blank_release (s : Session) : s.release.Blank := by
  rw [release_eq]
  exact ⟨rfl, rfl, rfl⟩

/-- The launched operations become more and more. -/
theorem Step.launched_prefix (hstep : Step sv s a s') : s.launched <+: s'.launched := by
  rcases hstep.launched_cases with h | ⟨o, cursor, base, keywords, -, -, rfl⟩
  · exact h ▸ List.prefix_rfl
  · rw [launched_launching]
    exact List.prefix_append ..

theorem launched_prefix_run {acts : List Act} (hrun : s.run? sv acts = some s') :
    s.launched <+: s'.launched :=
  run_induction (I := fun s' => s.launched <+: s'.launched)
    (fun hstep h => h.trans hstep.launched_prefix) List.prefix_rfl hrun

/-- A session stays blank until it launches something. -/
theorem Blank.step (h : s.Blank) (hstep : Step sv s a s') (hsame : s'.launched = s.launched) :
    s'.Blank := by
  cases hstep with
  | idle => exact h
  | move | shutDown | cancel => exact ⟨h.active, h.queue, h.collection⟩
  | pass _ _ _ _ _ hcurrent => simp [h.active] at hcurrent
  | skip => exact ⟨h.active, h.queue, h.collection⟩
  | fetch => exact ⟨h.active, rfl, h.collection⟩
  | release => exact blank_release s
  | stash =>
      rw [stash_rest]
      exact ⟨h.active, h.queue, h.collection⟩
  | retire _ _ _ _ _ hqueue =>
      rw [retire_rest s] at hqueue ⊢
      refine ⟨rfl, ?_, h.collection⟩
      rcases hqueue with rfl | ⟨rfl, -⟩
      · exact h.queue
      · rfl
  | launch =>
      rw [launched_launching] at hsame
      simp at hsame

theorem Blank.run (h : s.Blank) {acts : List Act} (hrun : s.run? sv acts = some s')
    (hsame : s'.launched = s.launched) : s'.Blank := by
  induction acts generalizing s with
  | nil =>
      obtain rfl : s = s' := by simpa using hrun
      exact h
  | cons a acts ih =>
      obtain ⟨s₁, ha, hrest⟩ := Option.bind_eq_some_iff.1 hrun
      -- what is not launched in the end is not launched on the way
      have hstep := step_of_act? ha
      have hfirst : s₁.launched = s.launched :=
        (hstep.launched_prefix.eq_of_length_le
          (hsame ▸ (launched_prefix_run hrest).length_le)).symm
      exact ih (h.step hstep hfirst) hrest (hsame.trans hfirst.symm)

/-! ### The documents -/

/-- Only the relay of the current operation changes the documents, and a release drops them. -/
theorem Step.collection_cases (hstep : Step sv s a s') (hne : s'.collection ≠ s.collection) :
    (∃ k r, a = .relay k ∧ s.relays[k]? = some r ∧ s.active = some r.operation) ∨
      a = .release ∧ s'.collection = none := by
  cases hstep with
  | pass hr _ _ _ _ hcurrent => exact .inl ⟨_, _, rfl, hr, hcurrent⟩
  | release => exact .inr ⟨rfl, (blank_release s).collection⟩
  | stash =>
      rw [stash_rest] at hne
      exact absurd rfl hne
  | retire =>
      rw [retire_rest s] at hne
      exact absurd rfl hne
  | launch =>
      rw [launching, retire_rest s] at hne
      exact absurd rfl hne
  | _ => exact absurd rfl hne

/-! ### The main statement -/

/-- A session deals with one operation at a time. -/
structure Exclusive (sv : Services) (s : Session) : Prop where
  /-- No operation is launched twice. -/
  distinct : s.launched.Nodup
  /-- At most one operation that was launched is not over. -/
  one : ∀ m ∈ s.launched, ∀ n ∈ s.launched,
    s.pipeline.isOver m = false → s.pipeline.isOver n = false → m = n
  /-- Whatever waits to be fetched is about the operation that was launched last. -/
  messages : ∀ m ∈ s.queue.messages, s.launched.getLast?.map numberOf = some m.operation
  /-- A release takes messages and documents away, and until something is launched there are no new
  ones. -/
  released : ∀ s₁ acts s₂, s.act? sv .release = some s₁ → s₁.run? sv acts = some s₂ →
    s₂.launched = s₁.launched → s₂.queue = .empty ∧ s₂.collection = none
  /-- Only the relay of the current operation changes the documents, but for a release. -/
  collection : ∀ a s', s.act? sv a = some s' → s'.collection ≠ s.collection →
    (∃ k r, a = .relay k ∧ s.relays[k]? = some r ∧ s.active = some r.operation) ∨
      a = .release ∧ s'.collection = none

theorem Tidy.exclusive (h : s.Tidy sv) : s.Exclusive sv where
  distinct := h.distinct
  one m hm n hn hopen hopen' := by
    -- both are the current operation
    have hcurrent : ∀ n ∈ s.launched, s.pipeline.isOver n = false → s.active = some n :=
      fun n hn hopen => (h.settled n hn).resolve_left (by simp [hopen])
    exact Option.some.inj ((hcurrent m hm hopen).symm.trans (hcurrent n hn hopen'))
  messages := h.messages
  released s₁ acts s₂ hrelease hrun hsame := by
    obtain ⟨-, rfl⟩ := withLock_eq_some (f := release) hrelease
    have hblank := (blank_release s).run hrun hsame
    exact ⟨hblank.queue, hblank.collection⟩
  collection a s' hact hne := (step_of_act? hact).collection_cases hne

/-- **One operation at a time.** Whatever clients call, in any order and while jobs and relays go on
as they like, a session of any pipeline deals with one operation at a time. -/
theorem exclusive_of_run (sv : Services) (settings : Settings) {p : Pipeline}
    (hp : Pipeline.Reaches sv (.ofSettings settings) p) (acts : List Act)
    (hrun : (ofPipeline p).run? sv acts = some s) : s.Exclusive sv :=
  Tidy.exclusive (run_induction (I := Tidy sv) (fun hstep h => h.step hstep)
    (tidy_ofPipeline ((Pipeline.fine_ofSettings sv settings).reaches hp)) hrun)

/-- A source is parsed, and released as soon as the first message about it is there. Another one is
parsed while the relay of the first still has events to take and its task is still in the pool. -/
def handedOver : List Act :=
  [.parse .german [default] default none] ++ List.replicate 5 (.move (.advance 0)) ++
  [.relay 0, .release, .parse .german [default] default none] ++
  List.replicate 5 (.move (.advance 0)) ++
  [.relay 0, .relay 1, .move (.take .parse), .move (.look .parse 0), .move (.start .parse 0),
    .move (.advance 0), .move (.letGo .parse 0), .fetch, .move (.take .parse),
    .move (.look .parse 1), .move (.start .parse 1), .move (.body .parse 1),
    .move (.settle .parse 1), .move (.advance 0), .move (.letGo .parse 1), .relay 1]

/-- The second operation ends with documents to rank, and the first leaves no trace. -/
theorem exclusive_handedOver :
    ∃ s, (ofPipeline (.ofSettings (.standard 1))).run? Pipeline.failing handedOver = some s ∧
      s.launched = [0, 1] ∧ s.collection.isSome = true ∧ s.Exclusive Pipeline.failing := by
  have hend : ((ofPipeline (.ofSettings (.standard 1))).run? Pipeline.failing handedOver).any
      (fun s => s.launched == [0, 1] && s.collection.isSome) = true := by decide +kernel
  obtain ⟨s, hrun, hs⟩ := (Option.any_eq_true ..).1 hend
  obtain ⟨hlaunched, hcollection⟩ := Bool.and_eq_true_iff.1 hs
  exact ⟨s, hrun, by simpa using hlaunched, hcollection,
    exclusive_of_run Pipeline.failing (.standard 1) .rfl handedOver hrun⟩

end Session

end GradedReading
