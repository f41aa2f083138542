import GradedReading.Proofs.Session.Exclusive

/-!
# GradedReading.Proofs.Session.Forward

Whatever an operation reports reaches the client once, in order.

**Key idea:** the relay of an operation has taken its events up to a position. As long as the
operation is neither released nor replaced, what was fetched and what waits to be fetched are
together the messages about the events up to there. A relay moves the position and the messages
along by one event, and fetching moves messages from one part to the other.

Design points:

* a message about an event says nothing of other events, except that the message about the
  completion says how many documents the client sees;
* the relay has finished when it took the event about the end, which is the last one. So there is a
  time when the operation is over and its relay has not finished, and a client that waits must wait
  for the relay.
-/

namespace GradedReading

/-- Only the message about a completion says something about the client's documents. -/
theorem Message.ofEvent_eq {e : JobEvent} (h : e.isTerminal = false) (operation d d' : Nat) :
    Message.ofEvent operation d e = .ofEvent operation d' e := by
  cases e with
  | completed => simp [JobEvent.isTerminal] at h
  | _ => rfl

namespace Job

/-- A job that reported its end is over, and its end is the last that it reported. -/
theorem length_le_of_any_take {j : Job} (h : j.UnderWay ∨ ∃ o, j.Ended o) {i : Nat}
    (hany : (j.events.take i).any (·.isTerminal) = true) :
    j.state.isTerminal = true ∧ j.events.length ≤ i := by
  obtain ⟨e, he, hterminal⟩ := List.any_eq_true.1 hany
  rcases h with hway | ⟨o, hend⟩
  · simp [hway.events e (List.mem_of_mem_take he)] at hterminal
  · obtain ⟨earlier, hevents, hearlier⟩ := hend.events
    refine ⟨hend.isTerminal, Nat.le_of_not_lt fun hlt => ?_⟩
    -- short of the end there are only events that are not about it
    have hle : i ≤ earlier.length := by simpa [hevents, Nat.lt_succ_iff] using hlt
    rw [hevents, List.take_append_of_le_length hle] at he
    simp [hearlier e (List.mem_of_mem_take he)] at hterminal

/-- What is left to take of a job that is over ends with the event about its end. -/
theorem drop_of_isTerminal {j : Job} (h : j.UnderWay ∨ ∃ o, j.Ended o)
    (hover : j.state.isTerminal = true) {i : Nat}
    (hany : (j.events.take i).any (·.isTerminal) = false) :
    ∃ earlier e, j.events.drop i = earlier ++ [e] ∧ e.isTerminal = true ∧
      ∀ e' ∈ earlier, e'.isTerminal = false := by
  rcases h with hway | ⟨o, hend⟩
  · simp [hway.state] at hover
  · obtain ⟨earlier, hevents, hearlier⟩ := hend.events
    have hle : i ≤ earlier.length := by
      refine Nat.le_of_not_lt fun hlt => ?_
      rw [hevents, List.take_of_length_le (by simpa using Nat.succ_le_of_lt hlt)] at hany
      simp at hany
    exact ⟨earlier.drop i, o.event, by rw [hevents, List.drop_append_of_le_length hle],
      o.isTerminal_event, fun e' he' => hearlier e' (List.mem_of_mem_drop he')⟩

end Job

namespace Session

variable {sv : Services} {s s' : Session} {a : Act}

/-- The documents that a client sees when an operation with this base completes with these. -/
def merged (base : Option Collection) (c : Collection) : Collection :=
  match base with
  | some b => b.addAll c.documents
  | none => c

/-- What is fetched in an act. -/
def fetchedBy (s : Session) : Act → List Message
  | .fetch => s.fetch.1
  | _ => []

/-- What is fetched in a run, the oldest first. -/
def fetchedIn (sv : Services) : Session → List Act → List Message
  | _, [] => []
  | s, a :: acts =>
    s.fetchedBy a ++
      match s.act? sv a with
      | some s' => s'.fetchedIn sv acts
      | none => []

/-- In a run the current operation is neither released nor replaced. -/
def sparesAll (sv : Services) : Session → List Act → Bool
  | _, [] => true
  | s, a :: acts =>
    s.spares sv a &&
      match s.act? sv a with
      | some s' => s'.sparesAll sv acts
      | none => true

/-- The relay of an operation is the one that was launched with it. -/
theorem Tidy.relay?_eq (h : s.Tidy sv) {k : Nat} {r : Relay} (hr : s.relays[k]? = some r) :
    s.relay? r.operation = some r := by
  have hmem := List.mem_of_getElem? hr
  rcases hfind : s.relay? r.operation with _ | r'
  · have hnone := List.find?_eq_none.1 hfind r hmem
    simp at hnone
  · have hmem' : r' ∈ s.relays := List.mem_of_find?_eq_some hfind
    have hsame : r'.operation = r.operation := by simpa using List.find?_some hfind
    rw [List.inj_on_of_nodup_map h.distinct hmem' hmem hsame]

/-- The relay of an operation is in one place. -/
theorem Tidy.place_eq (h : s.Tidy sv) {k k' : Nat} {r r' : Relay} (hr : s.relays[k]? = some r)
    (hr' : s.relays[k']? = some r') (hsame : r.operation = r'.operation) : k = k' := by
  have hk := (List.getElem?_eq_some_iff.1 hr).1
  have hplaces : s.launched[k]? = s.launched[k']? := by simp [launched, hr, hr', hsame]
  exact (List.getElem?_inj (by simpa [launched] using hk) h.distinct).1 hplaces

theorem fetchedBy_of_isBeginning (s : Session) (h : a.isBeginning = true) : s.fetchedBy a = [] := by
  cases a <;> simp_all [Act.isBeginning, fetchedBy]

/-! ### The invariant -/

/-- The messages that were sent, fetched or not, are about the events that the relay at a place has
taken of an operation. `waited` means that somebody has waited for the operation. -/
structure Forwards (n k : Nat) (base : Option Collection) (waited : Prop) (sent : List Message)
    (r : Relay) (j : Job) (s : Session) : Prop where
  relay : s.relays[k]? = some r
  operation : r.operation = n
  job : s.pipeline.job? n = some j
  current : s.active = some n ∨ s.active = none ∧ r.finished = true
  position : r.position ≤ j.events.length
  finished : r.finished = (j.events.take r.position).any (·.isTerminal)
  waits : waited → r.finished = true
  base_eq : r.finished = false → s.base = base
  image : ∃ d, sent = (j.events.take r.position).map (.ofEvent (numberOf n) d) ∧
    ∀ c m, .completed c m ∈ j.events.take r.position →
      s.collection = some (merged base c) ∧ d = (merged base c).size

variable {n k : Nat} {base : Option Collection} {waited : Prop} {sent : List Message} {r : Relay}
  {j : Job}

/-- Everything but the pipeline and the cursor is as it was. -/
theorem Forwards.of_reaches (h : Forwards n k base waited sent r j s) (htidy : s.Tidy sv)
    (hp : Pipeline.Reaches sv s.pipeline s'.pipeline) (hrelay : s'.relays[k]? = some r)
    (hcurrent : s'.active = some n ∨ s'.active = none ∧ r.finished = true)
    (hbase : r.finished = false → s'.base = s.base) (hcollection : s'.collection = s.collection) :
    ∃ r j, Forwards n k base waited sent r j s' := by
  obtain ⟨j', hj', t, ht⟩ := htidy.fine.events_reaches hp h.job
  -- more events may have been reported, but those that were taken are the same
  have htake : j'.events.take r.position = j.events.take r.position := by
    rw [← ht, List.take_append_of_le_length h.position]
  refine ⟨r, j', ⟨hrelay, h.operation, hj', hcurrent, ?_, ?_, h.waits, ?_, ?_⟩⟩
  · rw [← ht, List.length_append]
    exact Nat.le_add_right_of_le h.position
  · rw [htake]
    exact h.finished
  · exact fun hopen => (hbase hopen).trans (h.base_eq hopen)
  · rw [htake, hcollection]
    exact h.image

/-- The relay takes the next event and passes it on. -/
theorem Forwards.pass (h : Forwards n k base waited sent r j s) (hopen : r.finished = false)
    (hcurrent : s.active = some n) {e : JobEvent} (he : j.events[r.position]? = some e) :
    Forwards n k base waited (sent ++ [.ofEvent (numberOf n) (s.pass n e).documentCount e])
      (taking e r) j { s.pass n e with relays := s.relays.set k (taking e r) } := by
  have hk := (List.getElem?_eq_some_iff.1 h.relay).1
  have hlt := (List.getElem?_eq_some_iff.1 he).1
  have htake : j.events.take (r.position + 1) = j.events.take r.position ++ [e] := by
    rw [List.take_add_one, he]
    rfl
  -- none of the events that were taken before is about the end
  have hbefore : ∀ e' ∈ j.events.take r.position, e'.isTerminal = false := by
    have hany := h.finished.symm.trans hopen
    simpa using hany
  refine ⟨by simp [hk], h.operation, ?_, ?_, hlt, ?_, ?_, ?_, ?_⟩
  · simp only [pipeline_pass]
    exact h.job
  · exact .inl ((active_pass n e s).trans hcurrent)
  · show e.isTerminal = (j.events.take (r.position + 1)).any (·.isTerminal)
    have hany : (j.events.take r.position).any (·.isTerminal) = false := by simpa using hbefore
    rw [htake, List.any_append, hany]
    simp
  · exact fun hwaited => absurd (h.waits hwaited) (by simp [hopen])
  · intro hnot
    have hsame : (s.pass n e).base = s.base := by
      cases e with
      | completed => simp [taking, JobEvent.isTerminal] at hnot
      | _ => rfl
    exact hsame.trans (h.base_eq hopen)
  · show ∃ d, _ = (j.events.take (r.position + 1)).map _ ∧
      ∀ c m, _ ∈ j.events.take (r.position + 1) → _
    rw [htake]
    obtain ⟨d, himage, -⟩ := h.image
    refine ⟨(s.pass n e).documentCount, ?_, fun c m hmem => ?_⟩
    · rw [himage, List.map_append]
      congr 1
      exact List.map_congr_left fun e' he' => Message.ofEvent_eq (hbefore e' he') _ _ _
    · rcases List.mem_append.1 hmem with hold | hnew
      · simpa [JobEvent.isTerminal] using hbefore _ hold
      · -- the documents of the job are kept now
        obtain rfl := List.mem_singleton.1 hnew
        have hkept : (s.pass n (.completed c m)).collection = some (merged base c) := by
          rw [← h.base_eq hopen]
          rfl
        exact ⟨hkept, by rw [documentCount, hkept]; rfl⟩

/-- Whoever waited for an operation found its relay finished. -/
theorem Forwards.wait (h : Forwards n k base waited sent r j s) (htidy : s.Tidy sv)
    (hact : s.act? sv a = some s') : Forwards n k base (waited ∨ a = .endWait n) sent r j s := by
  refine { h with waits := fun hwaited => hwaited.elim h.waits ?_ }
  rintro rfl
  obtain ⟨⟨o, s₁⟩, hwait, -⟩ := Option.map_eq_some_iff.1 hact
  have hr : s.relay? n = some r := h.operation ▸ htidy.relay?_eq h.relay
  simp only [endWait, hr, Option.bind_eq_bind, Option.bind_eq_some_iff] at hwait
  obtain ⟨j, -, outcome, -, hwait⟩ := hwait
  split at hwait
  · simp at hwait
  · next hrelay => simpa using hrelay

/-- **A step that spares the operation moves the messages along with the events.** -/
theorem Forwards.step (h : Forwards n k base waited sent r j s) (htidy : s.Tidy sv)
    (hstep : Step sv s a s') (hspares : s.spares sv a = true) {fetched : List Message}
    (hsent : sent = fetched ++ s.queue.messages) :
    ∃ r j, Forwards n k base waited (fetched ++ s.fetchedBy a ++ s'.queue.messages) r j s' := by
  have hp := hstep.reaches
  -- the current operation, if there is one, is this one
  have hcurrent : ∀ {m}, s.active = some m → m = n := fun {m} hm => by
    rcases h.current with hactive | ⟨hnone, -⟩
    · exact Option.some.inj (hm.symm.trans hactive)
    · simp [hnone] at hm
  cases hstep with
  | idle ha =>
      have hnone : s.fetchedBy a = [] := by
        rcases ha with hbegins | rfl | ⟨m, rfl⟩
        · exact fetchedBy_of_isBeginning s hbegins
        · rfl
        · rfl
      rw [hnone, List.append_nil, ← hsent]
      exact ⟨r, j, h⟩
  | move | shutDown | cancel =>
      simp only [fetchedBy, List.append_nil]
      exact hsent ▸ h.of_reaches htidy hp h.relay h.current (fun _ => rfl) rfl
  | @pass k' r' j' e hr' hopen _ hj he hactive =>
      have hsame : r'.operation = n := hcurrent hactive
      obtain rfl : k = k' := htidy.place_eq h.relay hr' (h.operation.trans hsame.symm)
      obtain rfl : r = r' := Option.some.inj (h.relay.symm.trans hr')
      rw [hsame] at hj hactive ⊢
      obtain rfl : j = j' := Option.some.inj (h.job.symm.trans hj)
      have hpass := h.pass hopen hactive he
      rw [hsent, List.append_assoc, ← messages_pass] at hpass
      simp only [fetchedBy, List.append_nil]
      exact ⟨_, _, hpass⟩
  | @skip k' r' j' e hr' hopen _ hj he hother =>
      have hne : k' ≠ k := by
        rintro rfl
        obtain rfl : r = r' := Option.some.inj (h.relay.symm.trans hr')
        rcases h.current with hactive | ⟨-, hfinished⟩
        · exact hother (h.operation ▸ hactive)
        · simp [hfinished] at hopen
      simp only [fetchedBy, List.append_nil]
      exact hsent ▸ h.of_reaches htidy hp (by simp [hne, h.relay]) h.current (fun _ => rfl) rfl
  | fetch =>
      have hall : fetched ++ s.fetchedBy .fetch ++ (MessageQueue.empty).messages = sent := by
        simp [fetchedBy, fetch, MessageQueue.drain, MessageQueue.empty, hsent]
      rw [hall]
      exact h.of_reaches htidy hp h.relay h.current (fun _ => rfl) rfl
  | release => simp [spares] at hspares
  | stash ha =>
      have hnone : s.fetchedBy a = [] := by
        rcases ha with rfl | ⟨m, rfl⟩ <;> rfl
      rw [stash_rest] at hp ⊢
      rw [hnone, List.append_nil]
      exact hsent ▸ h.of_reaches htidy hp h.relay h.current (fun _ => rfl) rfl
  | retire ha hroom _ _ _ hqueue =>
      -- an operation is retired when its relay has finished
      have hfinished : r.finished = true := by
        rcases h.current with hactive | ⟨-, hfinished⟩
        · have hrelay : s.relay? n = some r := h.operation ▸ htidy.relay?_eq h.relay
          simpa [isRelaying, hactive, hrelay] using hroom.relayed
        · exact hfinished
      obtain rfl := hqueue.resolve_right (by simp [hspares])
      rw [retire_rest s] at hp ⊢
      rw [fetchedBy_of_isBeginning s ha, List.append_nil]
      exact hsent ▸ h.of_reaches htidy hp h.relay (.inr ⟨rfl, hfinished⟩)
        (fun hopen => by simp [hfinished] at hopen) rfl
  | launch _ _ _ hnot => simp [hnot] at hspares

/-- The relay of an operation that was just launched has everything before it. -/
theorem forwards_of_launch (hstep : Step sv s a s') (hlaunch : s'.launched = s.launched ++ [n]) :
    ∃ r j, Forwards n s.relays.length s'.base False s'.queue.messages r j s' := by
  obtain hsame | ⟨o, cursor, base, keywords, -, herrand, rfl⟩ := hstep.launched_cases
  · simp [hsame] at hlaunch
  · obtain rfl : s.retire.pipeline.operations.length = n := by
      simpa [launched_launching] using hlaunch
    obtain ⟨kind, l, hjob⟩ := herrand.exists_job
    refine ⟨.ofOperation _, o.job, ⟨?_, rfl, Pipeline.job?_launched o _, .inl rfl, Nat.zero_le _,
      ?_, False.elim, fun _ => rfl, 0, ?_, ?_⟩⟩
    · rw [launching, retire_rest s]
      simp
    all_goals simp [Relay.ofOperation, launching, MessageQueue.empty]

/-- **Messages and events stay together in a run that spares the operation.** -/
theorem Forwards.run (h : Forwards n k base waited sent r j s) (htidy : s.Tidy sv)
    {acts : List Act} (hrun : s.run? sv acts = some s') (hspares : s.sparesAll sv acts = true)
    (fetched : List Message) (hsent : sent = fetched ++ s.queue.messages) :
    ∃ r j, Forwards n k base (waited ∨ .endWait n ∈ acts)
      (fetched ++ s.fetchedIn sv acts ++ s'.queue.messages) r j s' := by
  induction acts generalizing s r j waited sent fetched with
  | nil =>
      obtain rfl : s = s' := by simpa using hrun
      simpa [fetchedIn, ← hsent] using ⟨r, j, h⟩
  | cons a acts ih =>
      obtain ⟨s₁, ha, hrest⟩ := Option.bind_eq_some_iff.1 hrun
      obtain ⟨hfirst, hlater⟩ : s.spares sv a = true ∧ s₁.sparesAll sv acts = true := by
        simpa [sparesAll, ha] using hspares
      have hstep := step_of_act? ha
      obtain ⟨r₁, j₁, h₁⟩ := (h.wait htidy ha).step htidy hstep hfirst hsent
      obtain ⟨r', j', h'⟩ := ih h₁ (htidy.step hstep) hrest hlater _ rfl
      have hfetched : s.fetchedIn sv (a :: acts) = s.fetchedBy a ++ s₁.fetchedIn sv acts := by
        simp [fetchedIn, ha]
      have hwaited : (waited ∨ .endWait n ∈ a :: acts) ↔
          (waited ∨ a = .endWait n) ∨ .endWait n ∈ acts := by
        rw [List.mem_cons, or_assoc, eq_comm]
      refine ⟨r', j', ?_⟩
      rw [hwaited, hfetched, ← List.append_assoc]
      exact h'

/-! ### What is left to relay -/

/-- A relay takes the next event. -/
theorem relay_eq_some (hr : s.relays[k]? = some r) (hopen : r.finished = false)
    (hfree : s.isLocked = false) (hj : s.pipeline.job? r.operation = some j) {e : JobEvent}
    (he : j.events[r.position]? = some e) : ∃ s', s.relay k = some s' ∧
      s'.relays[k]? = some (taking e r) ∧ s'.pipeline = s.pipeline ∧ s'.active = s.active := by
  have hk := (List.getElem?_eq_some_iff.1 hr).1
  by_cases hcurrent : s.active = some r.operation
  · refine ⟨{ s.pass r.operation e with relays := s.relays.set k (taking e r) }, ?_, ?_,
      pipeline_pass r.operation e s, active_pass r.operation e s⟩
    · simp [Session.relay, hr, hopen, hfree, hj, he, hcurrent, taking]
    · simp [hk]
  · refine ⟨{ s with relays := s.relays.set k (taking e r) }, ?_, ?_, rfl, rfl⟩
    · simp [Session.relay, hr, hopen, hfree, hj, he, hcurrent, taking]
    · simp [hk]

/-- The relay takes what is left, and has finished with the last of it. -/
theorem exists_run_relay {m : Nat} {earlier : List JobEvent} {e : JobEvent}
    (hr : s.relays[k]? = some r) (hopen : r.finished = false) (hfree : s.isLocked = false)
    (hj : s.pipeline.job? r.operation = some j)
    (hdrop : j.events.drop r.position = earlier ++ [e]) (he : e.isTerminal = true)
    (hearlier : ∀ e' ∈ earlier, e'.isTerminal = false) (hm : m ≤ earlier.length + 1) :
    ∃ s' r', s.run? sv (List.replicate m (.relay k)) = some s' ∧ s'.relays[k]? = some r' ∧
      r'.operation = r.operation ∧ (r'.finished = true ↔ m = earlier.length + 1) ∧
      s'.pipeline = s.pipeline ∧ s'.active = s.active := by
  induction m generalizing s r earlier with
  | zero => exact ⟨s, r, rfl, hr, rfl, by simp [hopen], rfl, rfl⟩
  | succ m ih =>
      obtain ⟨e₀, rest, hsplit⟩ : ∃ e₀ rest, j.events.drop r.position = e₀ :: rest := by
        cases earlier <;> exact ⟨_, _, hdrop⟩
      have hget : j.events[r.position]? = some e₀ := by
        rw [← List.head?_drop, hsplit]
        rfl
      obtain ⟨s₁, hact, hr₁, hp₁, ha₁⟩ := relay_eq_some hr hopen hfree hj hget
      have hfree₁ : s₁.isLocked = false := by rw [isLocked, ha₁, hp₁]; exact hfree
      rw [hsplit] at hdrop
      have hdrop₁ : j.events.drop (r.position + 1) = rest := by
        rw [← List.tail_drop, hsplit, List.tail_cons]
      cases earlier with
      | nil =>
          -- this event is the last one
          obtain ⟨rfl, rfl⟩ : e₀ = e ∧ rest = [] := by simpa using hdrop
          obtain rfl : m = 0 := by simpa using hm
          exact ⟨s₁, taking e₀ r, by simp [act?, hact], hr₁, rfl, by simp [taking, he], hp₁, ha₁⟩
      | cons e₁ earlier =>
          obtain ⟨rfl, rfl⟩ : e₀ = e₁ ∧ rest = earlier ++ [e] := by simpa using hdrop
          obtain ⟨s', r', hrun, hr', hop, hfinished, hp', ha'⟩ := ih hr₁
            (hearlier e₀ (List.mem_cons_self ..)) hfree₁ (hp₁ ▸ hj) hdrop₁
            (fun e' he' => hearlier e' (List.mem_cons_of_mem _ he'))
            (by simpa using hm)
          refine ⟨s', r', ?_, hr', hop, ?_, hp'.trans hp₁, ha'.trans ha₁⟩
          · simp [List.replicate_succ, act?, hact, hrun]
          · rw [hfinished]
            simp

/-- Once an operation is over, whoever waits for it waits for its relay. -/
theorem Tidy.waits_iff (h : s.Tidy sv) (hactive : s.active = some n) (hfree : s.isLocked = false)
    (hr : s.relays[k]? = some r) (hop : r.operation = n) (hj : s.pipeline.job? n = some j)
    (hover : j.state.isTerminal = true) :
    (s.makeRoom.isSome = true ↔ r.finished = true) ∧
      ((s.endWait n).isSome = true ↔ r.finished = true) := by
  have hrelay : s.relay? n = some r := hop ▸ h.relay?_eq hr
  have hisOver : s.pipeline.isOver n = true := by
    rw [Pipeline.isOver_eq, hj]
    exact hover
  obtain ⟨o, hend⟩ : ∃ o, j.Ended o :=
    (h.fine.ending hj).resolve_left fun hway => by simp [hway.state] at hover
  constructor
  · rcases hfinished : r.finished with _ | _ <;>
      simp [makeRoom, hfree, isRunning, hactive, hisOver, isRelaying, hrelay, hfinished]
  · rcases hfinished : r.finished with _ | _
    · simp [endWait, hj, hrelay, hfinished]
    · cases o <;> simp [endWait, hj, hend.outcome, hrelay, hfinished, hfree]

/-! ### The main statement -/

/-- What a session has forwarded of an operation, whose relay is at a place, with the messages that
it sent, fetched or not. `waited` means that somebody has waited for the operation. -/
structure Forwarded (sv : Services) (n k : Nat) (base : Option Collection) (waited : Prop)
    (sent : List Message) (r : Relay) (j : Job) (s : Session) : Prop where
  /-- The messages are about the first events, in their order; none is lost and none is there
  twice. -/
  image : ∃ d, sent = (j.events.take r.position).map (.ofEvent (numberOf n) d)
  /-- When the operation is over and its relay has not finished, the events that are left end with
  the one about the end, and whoever waits does so for that many steps of the relay. -/
  remaining : j.state.isTerminal = true → r.finished = false →
    ∃ earlier e, j.events.drop r.position = earlier ++ [e] ∧ e.isTerminal = true ∧
      (∀ e' ∈ earlier, e'.isTerminal = false) ∧
      (s.isLocked = false → ∀ m ≤ earlier.length + 1, ∃ s',
        s.run? sv (List.replicate m (.relay k)) = some s' ∧
        (s'.makeRoom.isSome = true ↔ m = earlier.length + 1) ∧
        ((s'.endWait n).isSome = true ↔ m = earlier.length + 1))
  /-- When the session is not busy, or somebody has waited, everything was forwarded. The documents
  of an operation that completed are there, and the last message tells how many they are. -/
  all : s.isBusy = false ∨ waited → j.state.isTerminal = true ∧ r.position = j.events.length ∧
    ∀ c m, j.outcome = some (.completed c m) → s.collection = some (merged base c) ∧
      ∃ earlier, sent = earlier ++ [.completed (numberOf n) (merged base c).size m]

theorem Forwards.remaining (h : Forwards n k base waited sent r j s) (htidy : s.Tidy sv)
    (hover : j.state.isTerminal = true) (hopen : r.finished = false) :
    ∃ earlier e, j.events.drop r.position = earlier ++ [e] ∧ e.isTerminal = true ∧
      (∀ e' ∈ earlier, e'.isTerminal = false) ∧
      (s.isLocked = false → ∀ m ≤ earlier.length + 1, ∃ s',
        s.run? sv (List.replicate m (.relay k)) = some s' ∧
        (s'.makeRoom.isSome = true ↔ m = earlier.length + 1) ∧
        ((s'.endWait n).isSome = true ↔ m = earlier.length + 1)) := by
  have hactive : s.active = some n := h.current.resolve_right fun hnone => by
    simp [hopen] at hnone
  obtain ⟨earlier, e, hdrop, he, hearlier⟩ :=
    Job.drop_of_isTerminal (htidy.fine.ending h.job) hover (h.finished.symm.trans hopen)
  refine ⟨earlier, e, hdrop, he, hearlier, fun hfree m hm => ?_⟩
  obtain ⟨s', r', hrun, hr', hop, hfinished, hp', ha'⟩ := exists_run_relay h.relay hopen hfree
    (h.operation ▸ h.job) hdrop he hearlier hm
  have htidy' : s'.Tidy sv := run_induction (I := Tidy sv) (fun hstep h => h.step hstep) htidy hrun
  have hwaits := htidy'.waits_iff (ha'.trans hactive) (by rw [isLocked, ha', hp']; exact hfree) hr'
    (hop.trans h.operation) (hp' ▸ h.job) hover
  rw [hfinished] at hwaits
  exact ⟨s', hrun, hwaits⟩

theorem Forwards.finished_of_not_isBusy (h : Forwards n k base waited sent r j s)
    (htidy : s.Tidy sv) (hidle : s.isBusy = false) : r.finished = true := by
  rcases h.current with hactive | ⟨-, hfinished⟩
  · have hrelay : s.relay? n = some r := h.operation ▸ htidy.relay?_eq h.relay
    simp only [isBusy, isRelaying, Bool.or_eq_false_iff, hactive, Option.bind_some, hrelay,
      Option.any_some] at hidle
    simpa using hidle.2
  · exact hfinished

theorem Forwards.all (h : Forwards n k base waited sent r j s) (htidy : s.Tidy sv)
    (hfinished : r.finished = true) : j.state.isTerminal = true ∧ r.position = j.events.length ∧
      ∀ c m, j.outcome = some (.completed c m) → s.collection = some (merged base c) ∧
        ∃ earlier, sent = earlier ++ [.completed (numberOf n) (merged base c).size m] := by
  have hending := htidy.fine.ending h.job
  obtain ⟨hover, hle⟩ := Job.length_le_of_any_take hending (h.finished.symm.trans hfinished)
  refine ⟨hover, Nat.le_antisymm h.position hle, fun c m houtcome => ?_⟩
  obtain ⟨o, hend⟩ := hending.resolve_left fun hway => by simp [hway.state] at hover
  obtain rfl : o = .completed c m := Option.some.inj (hend.outcome.symm.trans houtcome)
  obtain ⟨earlier, hevents, -⟩ := hend.events
  obtain ⟨d, himage, hkept⟩ := h.image
  rw [List.take_of_length_le hle, hevents] at himage hkept
  obtain ⟨hcollection, rfl⟩ := hkept c m (by simp [JobOutcome.event])
  exact ⟨hcollection, _, by rw [himage, List.map_append]; rfl⟩

/-- **Everything reaches the client once, in order.** An operation is launched in a session of any
pipeline, and then anything happens as long as the operation is neither released nor replaced. Then
what was fetched since and what waits to be fetched are the messages about the events that its relay
has taken; what is left for it to take is what others wait for; and in the end nothing is left. -/
theorem forwarded_of_run (sv : Services) (settings : Settings) {p : Pipeline}
    (hp : Pipeline.Reaches sv (.ofSettings settings) p) (before : List Act) {s₀ s₁ : Session}
    (hbefore : (ofPipeline p).run? sv before = some s₀) {a : Act}
    (hact : s₀.act? sv a = some s₁) (hlaunch : s₁.launched = s₀.launched ++ [n])
    (after : List Act) (hafter : s₁.run? sv after = some s)
    (hspares : s₁.sparesAll sv after = true) :
    ∃ k r j, s.relays[k]? = some r ∧ r.operation = n ∧ s.pipeline.job? n = some j ∧
      Forwarded sv n k s₁.base (.endWait n ∈ after)
        (s₁.fetchedIn sv after ++ s.queue.messages) r j s := by
  have htidy₀ : s₀.Tidy sv := run_induction (I := Tidy sv) (fun hstep h => h.step hstep)
    (tidy_ofPipeline ((Pipeline.fine_ofSettings sv settings).reaches hp)) hbefore
  have hstep := step_of_act? hact
  obtain ⟨r₁, j₁, h₁⟩ := forwards_of_launch hstep hlaunch
  have htidy₁ := htidy₀.step hstep
  obtain ⟨r, j, h⟩ := h₁.run htidy₁ hafter hspares [] rfl
  have htidy : s.Tidy sv := run_induction (I := Tidy sv) (fun hstep h => h.step hstep) htidy₁ hafter
  rw [false_or, List.nil_append] at h
  refine ⟨_, r, j, h.relay, h.operation, h.job, ?_,
    fun hover hopen => h.remaining htidy hover hopen, fun hdone => h.all htidy ?_⟩
  · obtain ⟨d, himage, -⟩ := h.image
    exact ⟨d, himage⟩
  · exact hdone.elim (h.finished_of_not_isBusy htidy) h.waits

/-- The first message of a parse is fetched while it is under way, and the last one after somebody
has waited for it and somebody else has tried to continue a search. -/
def polled : List Act :=
  List.replicate 5 (.move (.advance 0)) ++
  [.relay 0, .fetch, .move (.take .parse), .move (.look .parse 0), .move (.start .parse 0),
    .move (.body .parse 0), .move (.settle .parse 0), .move (.advance 0), .move (.letGo .parse 0),
    .relay 0, .endWait 0, .more 1 none, .fetch]

/-- All of the parse was forwarded by then. -/
theorem forwarded_polled :
    ∃ s₁ s, (ofPipeline (.ofSettings (.standard 1))).act? Pipeline.failing
        (.parse .german [default] default none) = some s₁ ∧
      s₁.launched = [0] ∧ s₁.run? Pipeline.failing polled = some s ∧
      s₁.sparesAll Pipeline.failing polled = true ∧
      ∃ k r j, s.relays[k]? = some r ∧ r.operation = 0 ∧ s.pipeline.job? 0 = some j ∧
        Forwarded Pipeline.failing 0 k s₁.base (.endWait 0 ∈ polled)
          (s₁.fetchedIn Pipeline.failing polled ++ s.queue.messages) r j s := by
  have hend : ((ofPipeline (.ofSettings (.standard 1))).act? Pipeline.failing
      (.parse .german [default] default none)).any (fun s₁ => s₁.launched == [0] &&
        s₁.sparesAll Pipeline.failing polled &&
        (s₁.run? Pipeline.failing polled).isSome) = true := by
    decide +kernel
  obtain ⟨s₁, hact, hs₁⟩ := (Option.any_eq_true ..).1 hend
  simp only [Bool.and_eq_true, beq_iff_eq, Option.isSome_iff_exists] at hs₁
  obtain ⟨⟨hlaunch, hspares⟩, s, hrun⟩ := hs₁
  exact ⟨s₁, s, hact, hlaunch, hrun, hspares,
    forwarded_of_run Pipeline.failing (.standard 1) .rfl [] rfl hact hlaunch polled hrun hspares⟩

end Session

end GradedReading
