import GradedReading.Job.Basic

/-!
# GradedReading.Proofs.Job.Books

What one operation does to each part of a job's books.

**Key idea:** as long as the job is live, an operation first *records* something and may then
*close* the job. What it records is decided by the operation alone: the slots that it *reserves* and
*settles*, the events that it *reports*, the documents that it *collects*. Closing moves none of
these. `apply_of_isLive` says so once for all operations; later proofs read it and never open an
operation again.
-/

namespace GradedReading

open Search

namespace JobEvent

/-- The document that an event reports. -/
def document? : JobEvent → Option Document
  | .parsed d => some d
  | _ => none

/-- The result whose page was fetched, or could not be. -/
def fetched? : JobEvent → Option SearchResult
  | .crawled r _ => some r
  | _ => none

/-- The result whose page gave text. -/
def extracted? : JobEvent → Option SearchResult
  | .crawled r true => some r
  | _ => none

end JobEvent

namespace Job

/-- The documents that were reported. -/
def documents (j : Job) : List Document := j.events.filterMap JobEvent.document?

/-- The results that were reported as fetched, with or without text. -/
def fetched (j : Job) : List SearchResult := j.events.filterMap JobEvent.fetched?

/-- The results that were reported to have text. -/
def extracted (j : Job) : List SearchResult := j.events.filterMap JobEvent.extracted?

/-- The number of slots that were settled, with a document or without one. -/
def settled (j : Job) : Nat := j.collection.size + j.failures

namespace Op

/-- The state that an operation moves on to from this one. -/
def moves (s : JobState) : Op → JobState
  | .enter stage => if s.place < stage.place then stage else s
  | _ => s

/-- The slots that an operation reserves. -/
def reserves : Op → Nat
  | .reserve n => n
  | _ => 0

/-- The slots that an operation settles. -/
def settles : Op → Nat
  | .crawlComplete _ false | .parseComplete _ | .settleFailed => 1
  | _ => 0

/-- The slots that an operation settles without a document, in a job of this language. -/
def loses (l : Language) : Op → Nat
  | .crawlComplete _ false | .settleFailed => 1
  | .parseComplete d => if d.language = l then 0 else 1
  | _ => 0

/-- The operation says that the fan-out is done. -/
def isFanOutEnd : Op → Bool
  | .finishFanOut => true
  | _ => false

/-- The documents that an operation adds to a collection of this language. -/
def collects (l : Language) : Op → List Document
  | .parseComplete d => if d.language = l then [d] else []
  | _ => []

/-- The events that an operation reports, those about the end of the job left out. -/
def reports (l : Language) : Op → List JobEvent
  | .announce e => [e]
  | .crawlComplete r extracted => [.crawled r extracted]
  | .parseComplete d => if d.language = l then [.parsed d] else []
  | _ => []

/-- The books with everything that the operation adds to them. -/
def record (op : Op) (j : Job) : Job :=
  { j with
    state := op.moves j.state
    pending := addSlots j.pending op.reserves - op.settles
    fanOutDone := j.fanOutDone || op.isFanOutEnd
    collection := { j.collection with
      documents := j.collection.documents ++ op.collects j.collection.language }
    failures := j.failures + op.loses j.collection.language
    events := j.events ++ op.reports j.collection.language }

/-- What an operation does about the end of the job: it ends it, or completes it if it can be, or
leaves it alone. -/
def close : Op → Job → Job
  | .finishFanOut | .crawlComplete _ false | .parseComplete _ | .settleFailed => tryFinish
  | .fail e => finish .failed (.failed e)
  | .cancel => fun j => finish .cancelled .cancelled { j with flag := true }
  | _ => id

/-- The slots that an operation reserves can be counted together with `p` others. -/
def Fits (op : Op) (p : Nat) : Prop := addSlots p op.reserves = p + op.reserves

theorem fits_of_reserves {op : Op} (h : op.reserves = 0) (p : Nat) : op.Fits p := by
  rw [Fits, h, addSlots_zero, Nat.add_zero]

/-- Where none is out, as many can be reserved as there are. -/
theorem fits_zero (op : Op) : op.Fits 0 := by rw [Fits, zero_addSlots, Nat.zero_add]

/-- No operation reserves slots and settles one. -/
theorem reserves_eq_zero_or_settles_eq_zero (op : Op) : op.reserves = 0 ∨ op.settles = 0 := by
  cases op with
  | reserve n => exact Or.inr rfl
  | _ => exact Or.inl rfl

/-- A slot is settled with a document or without one. -/
theorem settles_eq (l : Language) (op : Op) :
    op.settles = (op.collects l).length + op.loses l := by
  cases op with
  | crawlComplete r extracted => cases extracted <;> rfl
  | parseComplete d => by_cases hl : d.language = l <;> simp [settles, collects, loses, hl]
  | _ => rfl

theorem settles_le_one (op : Op) : op.settles ≤ 1 := by
  unfold settles
  split <;> decide

theorem isFanOutEnd_iff (op : Op) : op.isFanOutEnd = true ↔ op = .finishFanOut := by
  cases op <;> simp [isFanOutEnd]

end Op

theorem isLive_of_isTerminal {j : Job} (h : j.state.isTerminal = true) : j.isLive = false := by
  simp [isLive, h]

theorem isLive_finish (j : Job) {s : JobState} (o : JobOutcome) (hs : s.isTerminal = true) :
    (j.finish s o).isLive = false :=
  isLive_of_isTerminal hs

/-! ### Closing a job

What `tryFinish` and `close` leave alone. -/

section Close

variable (op : Op) (j : Job)

@[simp] theorem pending_tryFinish : j.tryFinish.pending = j.pending := by
  unfold tryFinish; split <;> rfl

@[simp] theorem fanOutDone_tryFinish : j.tryFinish.fanOutDone = j.fanOutDone := by
  unfold tryFinish; split <;> rfl

@[simp] theorem collection_tryFinish : j.tryFinish.collection = j.collection := by
  unfold tryFinish; split <;> rfl

@[simp] theorem failures_tryFinish : j.tryFinish.failures = j.failures := by
  unfold tryFinish; split <;> rfl

/-- Completing a job may report its end, and nothing else. -/
theorem events_tryFinish :
    ∃ o : Option JobOutcome, j.tryFinish.events = j.events ++ (o.map JobOutcome.event).toList := by
  unfold tryFinish
  split
  · exact ⟨some _, rfl⟩
  · exact ⟨none, (List.append_nil _).symm⟩

@[simp] theorem pending_close : (op.close j).pending = j.pending := by
  unfold Op.close; split <;> first | exact pending_tryFinish j | rfl

@[simp] theorem fanOutDone_close : (op.close j).fanOutDone = j.fanOutDone := by
  unfold Op.close; split <;> first | exact fanOutDone_tryFinish j | rfl

@[simp] theorem collection_close : (op.close j).collection = j.collection := by
  unfold Op.close; split <;> first | exact collection_tryFinish j | rfl

@[simp] theorem failures_close : (op.close j).failures = j.failures := by
  unfold Op.close; split <;> first | exact failures_tryFinish j | rfl

/-- Closing a job may report its end, and nothing else. -/
theorem events_close :
    ∃ o : Option JobOutcome, (op.close j).events = j.events ++ (o.map JobOutcome.event).toList := by
  cases op with
  | finishFanOut | parseComplete d | settleFailed => exact events_tryFinish j
  | crawlComplete r extracted =>
      cases extracted with
      | true => exact ⟨none, (List.append_nil _).symm⟩
      | false => exact events_tryFinish j
  | fail e => exact ⟨some (.failed e), rfl⟩
  | cancel => exact ⟨some .cancelled, rfl⟩
  | enter stage | announce e | reserve n => exact ⟨none, (List.append_nil _).symm⟩

end Close

/-! ### Jobs that are not live -/

/-- A job that is not live answers no to everything, and only notes that its fan-out is done, unless
it is cancelled. -/
theorem apply_of_not_isLive {j : Job} (h : j.isLive = false) {op : Op} (hop : op ≠ .cancel) :
    (j.apply op).1 = false ∧
      (j.apply op).2 = { j with fanOutDone := (j.apply op).2.fanOutDone } := by
  cases op with
  | cancel => exact absurd rfl hop
  | finishFanOut =>
      have hdone : ({ j with fanOutDone := true } : Job).isLive = false := h
      simp [apply, finishFanOut, tryFinish, h, hdone]
  | _ =>
      simp [apply, enter, announce, reserve, crawlComplete, parseComplete, settleFailed, fail, h]

/-- A job that is over does not even take note of being cancelled. -/
theorem apply_of_isTerminal {j : Job} (h : j.state.isTerminal = true) (op : Op) :
    (j.apply op).1 = false ∧
      (j.apply op).2 = { j with fanOutDone := (j.apply op).2.fanOutDone } := by
  by_cases hop : op = .cancel
  · subst hop
    simp [apply, cancel, h]
  · exact apply_of_not_isLive (isLive_of_isTerminal h) hop

/-- Every operation but cancelling answers whether the job was live. -/
theorem answer_eq_isLive (j : Job) {op : Op} (h : op ≠ .cancel) : (j.apply op).1 = j.isLive := by
  have hwhen : ∀ f : Job → Job, (whenLive f j).1 = j.isLive := by
    intro f
    unfold whenLive
    split <;> simp_all
  cases op with
  | cancel => exact absurd rfl h
  | finishFanOut => rfl
  | _ => exact hwhen _

/-! ### Live jobs -/

section Live

variable {j : Job} (h : j.isLive = true) (op : Op)
include h

theorem not_isTerminal_of_isLive : j.state.isTerminal = false := by simp_all [isLive]

theorem whenLive_of_isLive (f : Job → Job) : whenLive f j = (true, f j) := by simp [whenLive, h]

theorem cancel_of_isLive :
    j.cancel = (true, finish .cancelled .cancelled { j with flag := true }) := by
  simp [cancel, not_isTerminal_of_isLive h]

/-- **What an operation does to a live job.** It records what it brings, and then it may close the
job. -/
theorem apply_of_isLive : (j.apply op).2 = op.close (op.record j) := by
  cases op with
  | enter stage =>
      -- a stage that the job is past is entered without a trace
      by_cases hlt : j.state.place < stage.place <;>
      simp [apply, enter, whenLive_of_isLive h, hlt, Op.close, Op.record, Op.moves, Op.reserves,
        Op.settles, Op.loses, Op.isFanOutEnd, Op.collects, Op.reports]
  | crawlComplete r extracted =>
      cases extracted <;>
      simp [apply, crawlComplete, whenLive_of_isLive h, loseSlot, report, Op.close, Op.record,
        Op.moves, Op.reserves, Op.settles, Op.loses, Op.isFanOutEnd, Op.collects, Op.reports]
  | parseComplete d =>
      -- a document of another language is lost where one of this language is collected
      by_cases hl : d.language = j.collection.language <;>
      simp [apply, parseComplete, whenLive_of_isLive h, Collection.add, hl, loseSlot, report,
        Op.close, Op.record, Op.moves, Op.reserves, Op.settles, Op.loses, Op.isFanOutEnd,
        Op.collects, Op.reports]
  | _ =>
      simp [apply, announce, reserve, finishFanOut, fail, settleFailed, cancel_of_isLive h,
        whenLive_of_isLive h, loseSlot, report, Op.close, Op.record, Op.moves, Op.reserves,
        Op.settles, Op.loses, Op.isFanOutEnd, Op.collects, Op.reports]

theorem pending_apply (hfits : op.Fits j.pending) :
    (j.apply op).2.pending = j.pending + op.reserves - op.settles := by
  rw [apply_of_isLive h, pending_close, ← hfits]
  rfl

theorem settled_apply : (j.apply op).2.settled = j.settled + op.settles := by
  -- what was settled is what was collected and what was lost
  rw [op.settles_eq j.collection.language, settled, apply_of_isLive h, collection_close,
    failures_close]
  simp only [Op.record, Collection.size, List.length_append, settled]
  omega

/-- The collection keeps its language and takes in what the operation collects. -/
theorem collection_apply : (j.apply op).2.collection =
    { j.collection with
      documents := j.collection.documents ++ op.collects j.collection.language } := by
  rw [apply_of_isLive h, collection_close]
  rfl

/-- An operation adds the events that it reports, and maybe one about the end of the job. -/
theorem events_apply : ∃ o : Option JobOutcome, (j.apply op).2.events =
    j.events ++ op.reports j.collection.language ++ (o.map JobOutcome.event).toList := by
  rw [apply_of_isLive h]
  exact events_close op (op.record j)

/-- What was reported stays, and what the operation reports is added. -/
theorem mem_events_apply {e : JobEvent}
    (he : e ∈ j.events ∨ e ∈ op.reports j.collection.language) : e ∈ (j.apply op).2.events := by
  obtain ⟨o, ho⟩ := events_apply h op
  rw [ho]
  exact List.mem_append_left _ (List.mem_append.2 he)

/-- Of the events that are not about the end, an operation adds those that it reports. -/
theorem filterMap_events_apply {α : Type} {f : JobEvent → Option α}
    (hend : ∀ o : JobOutcome, f o.event = none) : (j.apply op).2.events.filterMap f =
      j.events.filterMap f ++ (op.reports j.collection.language).filterMap f := by
  obtain ⟨o, ho⟩ := events_apply h op
  rw [ho]
  cases o <;> simp [hend]

end Live

/-- The fan-out is done once somebody said so, live or not. -/
theorem fanOutDone_apply (j : Job) (op : Op) :
    (j.apply op).2.fanOutDone = true ↔ j.fanOutDone = true ∨ op = .finishFanOut := by
  rw [← op.isFanOutEnd_iff]
  rcases hlive : j.isLive with _ | _
  · cases op with
    | finishFanOut => simp [apply, finishFanOut, Op.isFanOutEnd]
    | cancel =>
        simp only [apply, cancel]
        split <;> simp [finish, report, Op.isFanOutEnd]
    | _ =>
        simp [apply, enter, announce, reserve, crawlComplete, parseComplete, settleFailed, fail,
          hlive, Op.isFanOutEnd]
  · rw [apply_of_isLive hlive, fanOutDone_close]
    simp [Op.record]

end Job

end GradedReading
