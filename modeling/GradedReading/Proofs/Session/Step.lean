import GradedReading.Proofs.Pipeline.Custody
import GradedReading.Session.Basic

/-!
# GradedReading.Proofs.Session.Step

What can happen to a session.

**Key idea:** a call that begins an operation does many things under one lock, but there are only
three ways for it to end: it is refused and leaves everything as it is, it gets as far as retiring
the last operation, or it launches a new one. `Step` is the table of all that can happen in an act,
with everything that has to hold for it. There is one statement, which finds each act in the table;
later proofs go through the table and never open a call again.
-/

namespace GradedReading

open Search

namespace Pipeline

/-- The pipeline with a new operation, which is not begun. -/
def added (o : Operation) (p : Pipeline) : Pipeline := { p with operations := p.operations ++ [o] }

/-- The pipeline with a new operation that is being begun. -/
def launched (o : Operation) (p : Pipeline) : Pipeline :=
  ((p.added o).modifyOperation p.operations.length ({ · with begun := true })).work
    (.beginning p.operations.length) (o.script p.operations.length)

variable {sv : Services} {p p' : Pipeline} {o : Operation}

theorem add_cases (sv : Services) (l : Language) (o : Operation) (p : Pipeline) :
    p.add sv l o = (.ok p.operations.length, p.added o) ∨ ∃ e, p.add sv l o = (.error e, p) := by
  unfold add
  split
  · exact .inl rfl
  · exact .inr ⟨_, rfl⟩

@[simp] theorem getElem?_added (o : Operation) (p : Pipeline) :
    (p.added o).operations[p.operations.length]? = some o := by simp [added]

theorem length_launched (o : Operation) (p : Pipeline) :
    (p.launched o).operations.length = p.operations.length + 1 := by
  simp [launched, added, work, modifyOperation]

theorem job?_launched (o : Operation) (p : Pipeline) :
    (p.launched o).job? p.operations.length = some o.job := by
  simp [launched, work, modifyOperation, job?]

/-- A new operation can be begun. -/
theorem begin_added (h : o.begun = false) :
    (p.added o).begin p.operations.length = .ok (p.launched o) := by
  simp [begin, h, launched]

theorem Reaches.begin_added (h : o.begun = false) : Reaches sv (p.added o) (p.launched o) := by
  have hcall := Reaches.call sv (p.added o) (.begin p.operations.length)
  rw [Pipeline.call, Pipeline.begin_added h] at hcall
  exact hcall

end Pipeline

namespace Session

/-- Nothing keeps a new operation from being begun: nobody holds the lock, and the last operation is
over and was passed on. -/
structure HasRoom (s : Session) : Prop where
  unlocked : s.isLocked = false
  idle : s.isRunning = false
  relayed : s.isRelaying = false

/-- The relay after it took an event. -/
def taking (e : JobEvent) (r : Relay) : Relay :=
  { r with position := r.position + 1, finished := e.isTerminal }

/-- What a session begins an operation with in an act: the operation, and the cursor, the base and
the keywords that the session has from then on. -/
inductive Errand (s : Session) :
    Act → Operation → Option Cursor → Option Collection → KeywordSet → Prop
  | search (q : Query) (target : Nat) (keywords : KeywordSet) (obstacle : Option String) :
      Errand s (.search q target keywords obstacle) (.ofCursor (.start q) target keywords)
        s.cursor none keywords
  | parse (l : Language) (sources : List Source) (keywords : KeywordSet)
      (obstacle : Option String) :
      Errand s (.parse l sources keywords obstacle) (.ofSources l sources keywords)
        none none keywords
  | more {c : Cursor} (h : s.cursor = some c) (target : Nat) (obstacle : Option String) :
      Errand s (.more target obstacle) (.ofCursor c target s.keywords) none s.collection s.keywords

/-- A call that was answered like this took the messages of the last operation away. -/
def clears : Option (Except OperationError Nat × Session) → Bool
  | some (.ok _, _) | some (.error (.relayStart _), _) => true
  | _ => false

/-- In an act the current operation is neither released nor replaced, nor are its messages taken
away to replace it. -/
def spares (sv : Services) (s : Session) : Act → Bool
  | .release => false
  | .search q target keywords obstacle => !clears (s.search sv q target keywords obstacle)
  | .parse l sources keywords obstacle => !clears (s.parse sv l sources keywords obstacle)
  | .more target obstacle => !clears (s.more sv target obstacle)
  | _ => true

/-- The session with a new operation in place of the last one. -/
def launching (s : Session) (o : Operation) (cursor : Option Cursor) (base : Option Collection)
    (keywords : KeywordSet) : Session :=
  { s.retire with
    pipeline := s.retire.pipeline.launched o, cursor, base, keywords, queue := .empty
    active := some s.retire.pipeline.operations.length
    relays := s.retire.relays ++ [.ofOperation s.retire.pipeline.operations.length] }

/-- The act is a call that begins an operation if it can. -/
def Act.isBeginning : Act → Bool
  | .search .. | .parse .. | .more .. => true
  | _ => false

/-- What can happen to a session in an act. -/
inductive Step (sv : Services) (s : Session) : Act → Session → Prop
  /-- A call was refused, or there was nothing to do. -/
  | idle {a : Act} (ha : a.isBeginning = true ∨ a = .cancel ∨ ∃ n, a = .endWait n) : Step sv s a s
  | move {m : Pipeline.Move} {p : Pipeline} (h : s.pipeline.move? sv m = some p) :
      Step sv s (.move m) (s.withPipeline p)
  | shutDown (drain : Bool) :
      Step sv s (.shutDown drain) (s.withPipeline (s.pipeline.shutDown drain))
  | cancel {n : Nat} (hactive : s.active = some n) :
      Step sv s .cancel (s.withPipeline (s.pipeline.cancel n).2)
  /-- A relay takes an event of the current operation and passes it on. -/
  | pass {k : Nat} {r : Relay} {j : Job} {e : JobEvent} (hr : s.relays[k]? = some r)
      (hopen : r.finished = false) (hfree : s.isLocked = false)
      (hj : s.pipeline.job? r.operation = some j) (he : j.events[r.position]? = some e)
      (hcurrent : s.active = some r.operation) :
      Step sv s (.relay k) { s.pass r.operation e with relays := s.relays.set k (taking e r) }
  /-- A relay takes an event of another operation. -/
  | skip {k : Nat} {r : Relay} {j : Job} {e : JobEvent} (hr : s.relays[k]? = some r)
      (hopen : r.finished = false) (hfree : s.isLocked = false)
      (hj : s.pipeline.job? r.operation = some j) (he : j.events[r.position]? = some e)
      (hother : s.active ≠ some r.operation) :
      Step sv s (.relay k) { s with relays := s.relays.set k (taking e r) }
  | fetch : Step sv s .fetch { s with queue := .empty }
  | release (hfree : s.isLocked = false) : Step sv s .release s.release
  /-- Somebody looks whether the cursor of the current operation is there. -/
  | stash {a : Act} (ha : a = .canLoadMore ∨ ∃ n, a = .endWait n) : Step sv s a s.stash
  /-- The last operation is retired, and no new one is launched. -/
  | retire {a : Act} {p : Pipeline} {cursor : Option Cursor} {base : Option Collection}
      {keywords : KeywordSet} {queue : MessageQueue} (ha : a.isBeginning = true) (hroom : s.HasRoom)
      (hp : Pipeline.Reaches sv s.retire.pipeline p) (hplaces : s.retire.pipeline.SamePlaces p)
      (hcursor : cursor = s.retire.cursor ∨ cursor = none)
      (hqueue : queue = s.retire.queue ∨ queue = .empty ∧ s.spares sv a = false) :
      Step sv s a { s.retire with pipeline := p, cursor, base, keywords, queue }
  | launch {a : Act} {o : Operation} {cursor : Option Cursor} {base : Option Collection}
      {keywords : KeywordSet} (hroom : s.HasRoom) (h : Errand s.retire a o cursor base keywords)
      (hp : Pipeline.Reaches sv s.retire.pipeline (s.retire.pipeline.launched o))
      (hspares : s.spares sv a = false) :
      Step sv s a (s.launching o cursor base keywords)

/-! ### Every act is in the table -/

variable {sv : Services} {s s' : Session}

/-- Taking a cursor over changes the cursor and the pipeline, and nothing else. -/
theorem stash_cases (s : Session) :
    s.stash = s ∨ ∃ n c, s.active = some n ∧ s.pipeline.isOver n = true ∧
      (s.pipeline.takeCursor n).1 = some c ∧
      s.stash = { s with pipeline := (s.pipeline.takeCursor n).2, cursor := some c } := by
  unfold stash
  split
  · next n hactive =>
    split
    · next hover =>
      split
      · next c p htake => exact .inr ⟨n, c, hactive, hover, by rw [htake], by rw [htake]⟩
      · exact .inl rfl
    · exact .inl rfl
  · exact .inl rfl

@[simp] theorem relays_pass (n : Nat) (e : JobEvent) (s : Session) :
    (s.pass n e).relays = s.relays := by cases e <;> rfl

theorem step_relay {k : Nat} (h : s.relay k = some s') : Step sv s (.relay k) s' := by
  simp only [relay, Option.bind_eq_bind, Option.bind_eq_some_iff] at h
  obtain ⟨r, hr, h⟩ := h
  split at h
  · simp at h
  · next hopen =>
    obtain ⟨hfinished, hfree⟩ : r.finished = false ∧ s.isLocked = false := by simpa using hopen
    simp only [Option.bind_eq_some_iff, Option.some.injEq] at h
    obtain ⟨j, hj, e, he, rfl⟩ := h
    by_cases hcurrent : s.active = some r.operation
    · rw [if_pos hcurrent, relays_pass]
      exact .pass hr hfinished hfree hj he hcurrent
    · rw [if_neg hcurrent]
      exact .skip hr hfinished hfree hj he hcurrent

/-- A new operation is launched unless its relay cannot be started. -/
theorem launch_added {o : Operation} (hbegun : o.begun = false) (s : Session) (p : Pipeline)
    (hp : s.pipeline = p.added o) (obstacle : Option String) :
    (∃ reason, s.launch obstacle p.operations.length =
      (.error (.relayStart reason), { s with queue := .empty })) ∨
    s.launch obstacle p.operations.length = (.ok p.operations.length,
      { s with
        pipeline := p.launched o, queue := .empty, active := some p.operations.length
        relays := s.relays ++ [.ofOperation p.operations.length] }) := by
  cases obstacle with
  | some reason => exact .inl ⟨reason, rfl⟩
  | none =>
      refine .inr ?_
      simp only [launch, hp, Pipeline.begin_added hbegun]
      rfl

/-- What a call creates in a session that has retired its last operation: nothing, or an operation
for which the session is prepared. -/
inductive Creates (sv : Services) (s : Session) (a : Act) (prepare : Session → Session) :
    Except OperationError Nat × Session → Prop
  | refused (e : OperationError) {cursor : Option Cursor} (h : cursor = s.cursor ∨ cursor = none) :
      Creates sv s a prepare (.error e, { s with cursor })
  | added {o : Operation} {cursor : Option Cursor} {base : Option Collection}
      {keywords : KeywordSet} {s₁ : Session} (h : Errand s a o cursor base keywords)
      (hp : Pipeline.Reaches sv s.pipeline (s.pipeline.added o)) (hbegun : o.begun = false)
      (hcursor : cursor = s.cursor ∨ cursor = none)
      (hs₁ : prepare s₁ = { s with pipeline := s.pipeline.added o, cursor, base, keywords }) :
      Creates sv s a prepare (.ok s.pipeline.operations.length, s₁)

/-- A call that begins an operation. -/
theorem step_enter {create : Session → Except OperationError Nat × Session}
    {prepare : Session → Session} {obstacle : Option String} {a : Act}
    {r : Except OperationError Nat × Session} (h : enter create prepare obstacle s = some r)
    (ha : a.isBeginning = true)
    (hcreate : Creates sv s.retire a prepare (create s.retire))
    (hspares : s.spares sv a = !clears (some r)) : Step sv s a r.2 := by
  obtain ⟨room, hroom, rfl⟩ := Option.map_eq_some_iff.1 h
  unfold makeRoom at hroom
  split at hroom
  · simp at hroom
  next hlocked =>
  split at hroom
  · obtain rfl := Option.some.inj hroom
    exact .idle (.inl ha)
  next hrunning =>
  split at hroom
  · simp at hroom
  next hrelaying =>
  obtain rfl := Option.some.inj hroom
  have hroom : s.HasRoom :=
    ⟨by simpa using hlocked, by simpa using hrunning, by simpa using hrelaying⟩
  dsimp only at hspares ⊢
  generalize create s.retire = created at hcreate hspares ⊢
  cases hcreate with
  | refused e hcursor => exact .retire ha hroom .rfl (.of_eq rfl) hcursor (.inl rfl)
  | @added o cursor base keywords s₁ herrand hp hbegun hcursor hs₁ =>
      rcases launch_added hbegun (prepare s₁) s.retire.pipeline (by rw [hs₁]) obstacle with
        ⟨reason, hlaunch⟩ | hlaunch
      · simp only [hlaunch] at hspares ⊢
        rw [hs₁]
        exact .retire ha hroom hp (Pipeline.samePlaces_added o _) hcursor (.inr ⟨rfl, hspares⟩)
      · simp only [hlaunch] at hspares ⊢
        rw [hs₁]
        exact .launch hroom herrand (hp.trans (.begin_added hbegun)) hspares

theorem step_search {q : Query} {target : Nat} {keywords : KeywordSet} {obstacle : Option String}
    {r : Except OperationError Nat × Session}
    (h : s.search sv q target keywords obstacle = some r) :
    Step sv s (.search q target keywords obstacle) r.2 := by
  refine step_enter h rfl ?_ (by rw [spares, h])
  rcases Pipeline.add_cases sv (Cursor.start q).query.language
    (.ofCursor (.start q) target keywords) s.retire.pipeline with hadd | ⟨e, hadd⟩
  · simp only [Pipeline.search, Pipeline.searchMore, hadd]
    have hp := Pipeline.Reaches.call sv s.retire.pipeline (.search q target keywords)
    simp only [Pipeline.call, Pipeline.search, Pipeline.searchMore, hadd] at hp
    exact .added (.search q target keywords obstacle) hp rfl (.inl rfl) rfl
  · simp only [Pipeline.search, Pipeline.searchMore, hadd]
    exact .refused e (.inl rfl)

theorem step_parse {l : Language} {sources : List Source} {keywords : KeywordSet}
    {obstacle : Option String} {r : Except OperationError Nat × Session}
    (h : s.parse sv l sources keywords obstacle = some r) :
    Step sv s (.parse l sources keywords obstacle) r.2 := by
  refine step_enter h rfl ?_ (by rw [spares, h])
  rcases Pipeline.add_cases sv l (.ofSources l sources keywords) s.retire.pipeline with
    hadd | ⟨e, hadd⟩
  · simp only [Pipeline.parse, hadd]
    have hp := Pipeline.Reaches.call sv s.retire.pipeline (.parse l sources keywords)
    simp only [Pipeline.call, Pipeline.parse, hadd] at hp
    exact .added (.parse l sources keywords obstacle) hp rfl (.inr rfl) rfl
  · simp only [Pipeline.parse, hadd]
    exact .refused e (.inl rfl)

theorem step_more {target : Nat} {obstacle : Option String}
    {r : Except OperationError Nat × Session} (h : s.more sv target obstacle = some r) :
    Step sv s (.more target obstacle) r.2 := by
  refine step_enter h rfl ?_ (by rw [spares, h])
  rcases hcursor : s.retire.cursor with _ | c
  · exact .refused .noCursor (.inl rfl)
  · rcases Pipeline.add_cases sv c.query.language (.ofCursor c target s.retire.keywords)
      s.retire.pipeline with hadd | ⟨e, hadd⟩
    · simp only [Pipeline.searchMore, hadd]
      have hp := Pipeline.Reaches.call sv s.retire.pipeline
        (.searchMore c target s.retire.keywords)
      simp only [Pipeline.call, Pipeline.searchMore, hadd] at hp
      exact .added (.more hcursor target obstacle) hp rfl (.inr rfl) rfl
    · simp only [Pipeline.searchMore, hadd]
      exact .refused e (.inr rfl)

/-- Something that needs the lock. -/
theorem withLock_eq_some {f : Session → Session} (h : s.withLock f = some s') :
    s.isLocked = false ∧ f s = s' := by
  unfold withLock at h
  split at h
  · simp at h
  · next hfree => exact ⟨by simpa using hfree, Option.some.inj h⟩

/-- **Every act is in the table.** -/
theorem step_of_act? {a : Act} (h : s.act? sv a = some s') : Step sv s a s' := by
  cases a with
  | move m =>
      obtain ⟨p, hp, rfl⟩ := Option.map_eq_some_iff.1 h
      exact .move hp
  | relay k => exact step_relay h
  | search q target keywords obstacle =>
      obtain ⟨r, hr, rfl⟩ := Option.map_eq_some_iff.1 h
      exact step_search hr
  | parse l sources keywords obstacle =>
      obtain ⟨r, hr, rfl⟩ := Option.map_eq_some_iff.1 h
      exact step_parse hr
  | more target obstacle =>
      obtain ⟨r, hr, rfl⟩ := Option.map_eq_some_iff.1 h
      exact step_more hr
  | cancel =>
      obtain ⟨-, rfl⟩ := withLock_eq_some (f := (·.cancel.2)) h
      unfold cancel
      split
      · next n hactive => exact .cancel hactive
      · exact .idle (.inr (.inl rfl))
  | release =>
      obtain ⟨hfree, rfl⟩ := withLock_eq_some h
      exact .release hfree
  | fetch =>
      obtain rfl := Option.some.inj h
      exact .fetch
  | canLoadMore =>
      obtain ⟨-, rfl⟩ := withLock_eq_some (f := (·.canLoadMore.2)) h
      exact .stash (.inl rfl)
  | endWait n =>
      obtain ⟨⟨o, s₁⟩, hwait, rfl⟩ := Option.map_eq_some_iff.1 h
      simp only [endWait, Option.bind_eq_bind, Option.bind_eq_some_iff] at hwait
      obtain ⟨j, -, outcome, -, hwait⟩ := hwait
      split at hwait
      · simp at hwait
      · split at hwait
        · split at hwait
          · simp at hwait
          · obtain ⟨-, rfl⟩ := Prod.mk.inj (Option.some.inj hwait)
            exact .stash (.inr ⟨n, rfl⟩)
        · obtain ⟨-, rfl⟩ := Prod.mk.inj (Option.some.inj hwait)
          exact .idle (.inr (.inr ⟨n, rfl⟩))
  | shutDown drain =>
      obtain rfl := Option.some.inj h
      exact .shutDown drain

/-! ### What the table says of the parts of a session -/

/-- The operations that were launched, in their order. -/
def launched (s : Session) : List Nat := s.relays.map (·.operation)

theorem launched_set {k : Nat} {r : Relay} (hr : s.relays[k]? = some r) (e : JobEvent) :
    (s.relays.set k (taking e r)).map (·.operation) = s.launched := by
  obtain ⟨hk, rfl⟩ := List.getElem?_eq_some_iff.1 hr
  rw [List.map_set, taking, launched,
    ← List.getElem_map (fun r : Relay => r.operation) (h := by simpa using hk),
    List.set_getElem_self]

/-- Looking for a cursor changes the pipeline and the cursor at most. -/
theorem stash_rest (s : Session) :
    s.stash = { s with pipeline := s.stash.pipeline, cursor := s.stash.cursor } := by
  rcases stash_cases s with h | ⟨n, c, -, -, -, h⟩ <;> rw [h]

/-- Retiring looks for the cursor and lets go of the operation. -/
theorem retire_rest (s : Session) : s.retire = { s with
    pipeline := s.retire.pipeline, cursor := s.retire.cursor, active := none } := by
  unfold retire
  rw [stash_rest s]

theorem reaches_takeCursor (sv : Services) (s : Session) (n : Nat) :
    Pipeline.Reaches sv s.pipeline (s.pipeline.takeCursor n).2 :=
  .call sv s.pipeline (.takeCursor n)

theorem reaches_stash (sv : Services) (s : Session) :
    Pipeline.Reaches sv s.pipeline s.stash.pipeline := by
  rcases stash_cases s with h | ⟨n, c, -, -, -, h⟩
  · rw [h]
    exact .rfl
  · rw [h]
    exact reaches_takeCursor sv s n

theorem pipeline_pass (n : Nat) (e : JobEvent) (s : Session) :
    (s.pass n e).pipeline = s.pipeline := by cases e <;> rfl

theorem active_pass (n : Nat) (e : JobEvent) (s : Session) : (s.pass n e).active = s.active := by
  cases e <;> rfl

/-- Releasing cancels the current operation, and leaves nothing but the relays. -/
theorem release_eq (s : Session) :
    s.release = { ofPipeline s.cancel.2.pipeline with relays := s.relays } := by
  have hrelays : s.cancel.2.relays = s.relays := by
    unfold cancel
    split <;> rfl
  rw [release, hrelays]

/-- The number of documents that a client sees. -/
def documentCount (s : Session) : Nat := (s.collection.map Collection.size).getD 0

theorem messages_pass (n : Nat) (e : JobEvent) (s : Session) :
    (s.pass n e).queue.messages =
      s.queue.messages ++ [.ofEvent (numberOf n) (s.pass n e).documentCount e] := by
  cases e <;> rfl

theorem reaches_cancel (sv : Services) (s : Session) :
    Pipeline.Reaches sv s.pipeline s.cancel.2.pipeline := by
  unfold cancel
  split
  · next n _ => exact .call sv s.pipeline (.cancel n)
  · exact .rfl

/-- The pipeline of a session goes on as pipelines do. -/
theorem Step.reaches {a : Act} (h : Step sv s a s') :
    Pipeline.Reaches sv s.pipeline s'.pipeline := by
  cases h with
  | idle | skip | fetch => exact .rfl
  | pass =>
      simp only [pipeline_pass]
      exact .rfl
  | move h => exact .move h
  | shutDown drain => exact .call sv s.pipeline (.shutDown drain)
  | @cancel n => exact .call sv s.pipeline (.cancel n)
  | release => exact reaches_cancel sv s
  | stash => exact reaches_stash sv s
  | retire _ _ hp => exact (reaches_stash sv s).trans hp
  | launch _ _ hp => exact (reaches_stash sv s).trans hp

theorem launched_launching (s : Session) (o : Operation) (cursor : Option Cursor)
    (base : Option Collection) (keywords : KeywordSet) :
    (s.launching o cursor base keywords).launched =
      s.launched ++ [s.retire.pipeline.operations.length] := by
  rw [launched, launching, List.map_append, retire_rest s]
  rfl

/-- Whatever is not a launch leaves the launched operations alone. -/
theorem Step.launched_cases {a : Act} (h : Step sv s a s') :
    s'.launched = s.launched ∨ ∃ o cursor base keywords, s.HasRoom ∧
      Errand s.retire a o cursor base keywords ∧ s' = s.launching o cursor base keywords := by
  cases h with
  | idle | move | shutDown | cancel | fetch => exact .inl rfl
  | pass hr | skip hr => exact .inl (launched_set hr _)
  | release =>
      left
      rw [release_eq, launched]
      rfl
  | stash =>
      left
      rw [launched, stash_rest s]
      rfl
  | retire =>
      left
      rw [launched, retire_rest s]
      rfl
  | launch hroom herrand => exact .inr ⟨_, _, _, _, hroom, herrand, rfl⟩

/-- The job of a new operation has not begun. -/
theorem Errand.exists_job {a : Act} {o : Operation} {cursor : Option Cursor}
    {base : Option Collection} {keywords : KeywordSet} (h : Errand s a o cursor base keywords) :
    ∃ kind l, o.job = .create kind l := by
  cases h <;> exact ⟨_, _, rfl⟩

end Session

end GradedReading
