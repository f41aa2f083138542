import GradedReading.Proofs.Session.Noted

/-!
# GradedReading.Proofs.Session.Refused

What a session is after a call that was refused.

**Key idea:** a call that begins an operation retires the last one before it asks for anything that
can be refused. So a refusal leaves a session that has retired its last operation, and this is as
much as the call has done: clients see the same documents and messages, and whatever they ask for
next is answered as it would have been without the refused call. A call that is refused because the
last operation is not over does nothing at all.

A call whose relay cannot be started is refused later than that: its operation is there and will
never begin. A search leaves the cursor where it was all the same. Otherwise what became of the
cursor is left open here, and so is what became of the messages.
-/

namespace GradedReading

open Search

namespace Session

/-! ### What clients see -/

/-- What clients can see of a session. -/
structure View where
  /-- The number of the current operation. -/
  active : Option Nat
  /-- What the wait for the current operation ends with, if that is settled. -/
  wait : Except OperationError (Option JobOutcome)
  collection : Option Collection
  /-- The messages that are still to be fetched. -/
  messages : List Message
  /-- Where the last search can be continued, if it can. -/
  position : Option Cursor

def view (s : Session) : View where
  active := s.active.map numberOf
  wait := s.beginWait.map fun n => (s.pipeline.job? n).bind (·.outcome)
  collection := s.collection
  messages := s.fetch.1
  position := s.stash.cursor

/-- Nothing is different but that there is no current operation. -/
def View.retired (v : View) : View := { v with active := none, wait := .error .notBegun }

variable {sv : Services} {s s' : Session} {a : Act} {e : OperationError} {l : Ledger}

theorem stash_of_active_eq_none (h : s.active = none) : s.stash = s := by
  rw [stash, h]

theorem stash_retire (s : Session) : s.retire.stash = s.retire := stash_of_active_eq_none rfl

theorem retire_retire (s : Session) : s.retire.retire = s.retire := by
  rw [retire, stash_retire]
  rfl

theorem view_retire (s : Session) : s.retire.view = s.view.retired := by
  have hcollection : s.retire.collection = s.collection := by rw [retire_rest]
  have hmessages : s.retire.fetch.1 = s.fetch.1 := by
    rw [retire_rest]
    rfl
  rw [view, hcollection, hmessages, stash_retire]
  rfl

/-- Without a current operation there is nothing to retire. -/
theorem retired_view (h : s.active = none) : s.view.retired = s.view := by
  simp [view, View.retired, beginWait, h, Except.map]

/-! ### What clients are told next -/

theorem hasRoom_retire (s : Session) : s.retire.HasRoom := ⟨rfl, rfl, rfl⟩

theorem makeRoom_of_hasRoom (h : s.HasRoom) : s.makeRoom = some (.ok s.retire) := by
  simp [makeRoom, h.unlocked, h.idle, h.relayed]

/-- A call retires the last operation, whether or not another call has done so. -/
theorem enter_retire (h : s.HasRoom) (create : Session → Except OperationError Nat × Session)
    (prepare : Session → Session) (obstacle : Option String) :
    enter create prepare obstacle s.retire = enter create prepare obstacle s := by
  simp only [enter, makeRoom_of_hasRoom h, makeRoom_of_hasRoom (hasRoom_retire s), retire_retire,
    Option.map_some]

theorem begins?_retire (sv : Services) (h : s.HasRoom) (b : Act) :
    s.retire.begins? sv b = s.begins? sv b := by
  cases b with
  | search | parse | more =>
      simp only [begins?, search, parse, more]
      exact enter_retire h _ _ _
  | _ => rfl

/-! ### Refusals -/

/-- The language that a call asks for. -/
def Act.language? : Act → Option Language
  | .search q .. => some q.language
  | .parse l .. => some l
  | _ => none

/-- The call begins a search of its own. -/
def Act.isSearch : Act → Bool
  | .search .. => true
  | _ => false

/-- The last operation of a session was retired, and that is all. -/
structure Retired (sv : Services) (s s' : Session) : Prop where
  /-- It was over, and everything about it was passed on. -/
  room : s.HasRoom
  view : s'.view = s.view.retired
  /-- If there was none, clients see no difference. -/
  idle : s.active = none → s'.view = s.view
  /-- The next call is answered as if this one had not been made. -/
  next : ∀ b, s'.begins? sv b = s.begins? sv b

theorem retired_retire (sv : Services) (h : s.HasRoom) : Retired sv s s.retire where
  room := h
  view := view_retire s
  idle hidle := (view_retire s).trans (retired_view hidle)
  next := begins?_retire sv h

/-- How a call that begins an operation can be refused, and the session after it. -/
inductive Refused (sv : Services) (s : Session) : Act → OperationError → Session → Prop
  | busy {a : Act} (hrunning : s.isRunning = true) : Refused sv s a .previousStateNotCleared s
  | unsupported {a : Act} {l : Language} {s' : Session} (hl : a.language? = some l)
      (hunsupported : sv.parsers.supports l = false) (h : Retired sv s s') :
      Refused sv s a (.unsupportedLanguage l) s'
  | noCursor {s' : Session} (target : Nat) (obstacle : Option String)
      (hposition : s.view.position = none) (h : Retired sv s s') :
      Refused sv s (.more target obstacle) .noCursor s'
  /-- All is as if the last operation had been retired, but for the messages, and the position if
  the call is no search. -/
  | unrelayed {a : Act} {reason : String} {s' : Session} (hroom : s.HasRoom)
      (hobstacle : a.obstacle = some reason)
      (hview : s'.view = { s.view.retired with
        messages := s'.view.messages, position := s'.view.position })
      (hposition : a.isSearch = true → s'.view.position = s.view.position) :
      Refused sv s a (.relayStart reason) s'

/-- **Every refusal is in the table.** A search is not refused when it is continued: its language
was supported when it began. -/
theorem Noted.refused (h : Noted sv l s) (hrefused : s.begins? sv a = some (.error e, s')) :
    Refused sv s a e s' := by
  cases answer_of_begins? hrefused with
  | busy _ hrunning => exact .busy hrunning
  | refused hroom hrefusal =>
      have hretired := retired_retire sv hroom
      cases hrefusal with
      | search hunsupported => exact .unsupported rfl hunsupported hretired
      | parse hunsupported => exact .unsupported rfl hunsupported hretired
      | noCursor hcursor target obstacle => exact .noCursor target obstacle hcursor hretired
      | more hc hunsupported =>
          have hsupports := (h.retire hroom).supports_cursor hc
          simp [hunsupported] at hsupports
  | unrelayed hroom herrand _ hobstacle =>
      have hcollection : s.retire.collection = s.collection := by rw [retire_rest]
      refine .unrelayed hroom hobstacle ?_ ?_
      · simp only [view, View.retired, hcollection]
        rfl
      · intro hsearch
        cases herrand with
        | search =>
            -- the cursor of the last operation was taken over before
            rw [view, stash_of_active_eq_none rfl]
            rfl
        | parse | more => simp [Act.isSearch] at hsearch

/-- **A refused call does nothing but retire the last operation.** Whatever clients do with a
session of any pipeline: a call that begins an operation is refused for one of four reasons. If the
last operation is not over, nothing happens. If the language is not supported, or there is nothing
to continue, the last operation is retired, and nothing else is different. If the relay cannot be
started, the last operation is retired, and the documents are the same; so is the place where the
last search can be continued, if the call is a search. -/
theorem refused_of_run (sv : Services) (settings : Settings) {p : Pipeline}
    (hp : Pipeline.Reaches sv (.ofSettings settings) p) {acts : List Act}
    (hrun : (ofPipeline p).run? sv acts = some s)
    (hrefused : s.begins? sv a = some (.error e, s')) : Refused sv s a e s' := by
  have hsteady := (Pipeline.steady_ofSettings sv settings).reaches hp
  exact ((noted_ofPipeline hsteady).run hrun).refused hrefused

/-- Services that know English only. -/
def monolingual : Services :=
  { Pipeline.fruitful with
    parsers := { Pipeline.fruitful.parsers with supports := (· == .english) } }

/-- A source is parsed, and everything about it is passed on. -/
def uploaded : List Act :=
  .parse .english [{ (default : Source) with text := "river" }] default none ::
    moves (Pipeline.advances 5 ++ Pipeline.serves .parse 0 3 1) ++ List.replicate 3 (.relay 0)

/-- The error of a call that was refused. -/
def refusal? : Option (Except OperationError Nat × Session) → Option OperationError
  | some (.error e, _) => some e
  | _ => none

theorem exists_of_refusal? {r : Option (Except OperationError Nat × Session)}
    (h : refusal? r = some e) : ∃ s', r = some (.error e, s') := by
  unfold refusal? at h
  split at h
  · next e' s' =>
    obtain rfl := Option.some.inj h
    exact ⟨s', rfl⟩
  · simp at h

/-- There is no search to continue. -/
theorem refused_uploaded : ∃ s s',
    (ofPipeline (.ofSettings (.standard 1))).run? monolingual uploaded = some s ∧
      s.view.messages.length = 3 ∧ s.view.collection.map Collection.size = some 1 ∧
      s.begins? monolingual (.more 1 none) = some (.error .noCursor, s') ∧
      Refused monolingual s (.more 1 none) .noCursor s' := by
  have hend : ((ofPipeline (.ofSettings (.standard 1))).run? monolingual uploaded).any (fun s =>
      s.view.messages.length == 3 && s.view.collection.map Collection.size == some 1 &&
        refusal? (s.begins? monolingual (.more 1 none)) == some .noCursor) = true := by
    decide +kernel
  obtain ⟨s, hrun, hend⟩ := (Option.any_eq_true ..).1 hend
  simp only [Bool.and_eq_true, beq_iff_eq] at hend
  obtain ⟨⟨hmessages, hcollection⟩, hrefusal⟩ := hend
  obtain ⟨s', hanswer⟩ := exists_of_refusal? hrefusal
  exact ⟨s, s', hrun, hmessages, hcollection, hanswer,
    refused_of_run monolingual (.standard 1) .rfl hrun hanswer⟩

/-- Calls that are refused, and why. -/
def turnedDown : List (Act × OperationError) :=
  [(.parse .german [{ (default : Source) with text := "Haus" }] default none,
      .unsupportedLanguage .german),
    (.more 1 none, .noCursor)]

/-- Before a refusal there is an operation to wait for, and after it there is none. -/
theorem retired_uploaded : ∃ s o,
    (ofPipeline (.ofSettings (.standard 1))).run? monolingual uploaded = some s ∧
      s.view.active = some 1 ∧ s.view.wait = .ok (some o) ∧
      ∀ r ∈ turnedDown, ∃ s', s.begins? monolingual r.1 = some (.error r.2, s') ∧
        s'.view.active = none ∧ s'.view.wait = .error .notBegun := by
  have hend : ((ofPipeline (.ofSettings (.standard 1))).run? monolingual uploaded).any (fun s =>
      s.active == some 0 && ((s.pipeline.job? 0).bind (·.outcome)).isSome &&
        turnedDown.all fun r =>
          refusal? (s.begins? monolingual r.1) == some r.2 &&
          (s.begins? monolingual r.1).all fun x => x.2.active.isNone) = true := by
    decide +kernel
  obtain ⟨s, hrun, hend⟩ := (Option.any_eq_true ..).1 hend
  simp only [Bool.and_eq_true, beq_iff_eq, Option.isSome_iff_exists, List.all_eq_true] at hend
  obtain ⟨⟨hactive, o, ho⟩, hrefused⟩ := hend
  refine ⟨s, o, hrun, ?_, ?_, ?_⟩
  · simp [view, hactive, numberOf]
  · simp [view, beginWait, hactive, Except.map, ho]
  · intro r hr
    obtain ⟨hrefusal, hgone⟩ := hrefused r hr
    obtain ⟨s', hanswer⟩ := exists_of_refusal? hrefusal
    simp only [hanswer, Option.all_some, Option.isNone_iff_eq_none] at hgone
    refine ⟨s', hanswer, ?_, ?_⟩
    · rw [view, hgone, Option.map_none]
    · simp [view, beginWait, hgone, Except.map]

/-- A search that fails leaves a message, and a cursor. -/
def failed : List Act := .search ⟨.english, "river", false⟩ 1 default none :: fails 0 0

/-- Calls whose relays cannot be started. -/
def unrelayed : List Act :=
  [.search ⟨.english, "lake", false⟩ 1 default (some "no thread"),
    .parse .english [] default (some "no thread"), .more 1 (some "no thread")]

/-- After such a call there is no message left to fetch, and no search left to continue unless the
call is a search. -/
theorem lost_failed : ∃ s,
    (ofPipeline (.ofSettings (.standard 1))).run? recovering failed = some s ∧
      s.view.messages.length = 1 ∧ s.view.position.isSome = true ∧
      ∀ a ∈ unrelayed, ∃ s',
        s.begins? recovering a = some (.error (.relayStart "no thread"), s') ∧
        s'.view.messages = [] ∧ s'.view.position.isSome = a.isSearch := by
  have hend : ((ofPipeline (.ofSettings (.standard 1))).run? recovering failed).any (fun s =>
      s.view.messages.length == 1 && s.view.position.isSome &&
        unrelayed.all fun a =>
          refusal? (s.begins? recovering a) == some (.relayStart "no thread") &&
          (s.begins? recovering a).all fun r =>
            r.2.view.messages.isEmpty && r.2.view.position.isSome == a.isSearch) = true := by
    decide +kernel
  obtain ⟨s, hrun, hend⟩ := (Option.any_eq_true ..).1 hend
  simp only [Bool.and_eq_true, beq_iff_eq, List.all_eq_true] at hend
  obtain ⟨⟨hmessages, hposition⟩, hlost⟩ := hend
  refine ⟨s, hrun, hmessages, hposition, ?_⟩
  intro a ha
  obtain ⟨hrefusal, hview⟩ := hlost a ha
  obtain ⟨s', hanswer⟩ := exists_of_refusal? hrefusal
  rw [hanswer, Option.all_some, Bool.and_eq_true] at hview
  exact ⟨s', hanswer, List.isEmpty_iff.1 hview.1, beq_iff_eq.1 hview.2⟩

/-- A refusal does not leave everything as it was: the last operation is retired, and if the relay
cannot be started its messages are lost, and so is the place where the last search can be continued
unless the call is a search. -/
theorem not_spared_uploaded :
    (∃ s o, (ofPipeline (.ofSettings (.standard 1))).run? monolingual uploaded = some s ∧
      s.view.active = some 1 ∧ s.view.wait = .ok (some o) ∧
      ∀ r ∈ turnedDown, ∃ s', s.begins? monolingual r.1 = some (.error r.2, s') ∧
        s'.view.active = none ∧ s'.view.wait = .error .notBegun) ∧
    ∃ s, (ofPipeline (.ofSettings (.standard 1))).run? recovering failed = some s ∧
      s.view.messages.length = 1 ∧ s.view.position.isSome = true ∧
      ∀ a ∈ unrelayed, ∃ s',
        s.begins? recovering a = some (.error (.relayStart "no thread"), s') ∧
        s'.view.messages = [] ∧ s'.view.position.isSome = a.isSearch :=
  ⟨retired_uploaded, lost_failed⟩

end Session

end GradedReading
