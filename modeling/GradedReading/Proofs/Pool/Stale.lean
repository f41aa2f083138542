import GradedReading.Proofs.Pool.Vigil
import Mathlib.Data.List.Chain

/-!
# GradedReading.Proofs.Pool.Stale

How many deadlines a watchdog holds.

**Key idea:** a deadline goes stale when its action is withdrawn, and in no other way. Just then the
stale deadlines are counted, and if they outnumber the waiting actions by more than the slack, they
are all dropped. What waits now is no measure for them later on, since a sweep takes waiting actions
away and leaves the stale deadlines behind it. The largest number of actions that have ever waited
at once is one (`Slack`): it never falls, and it was at least the number that the stale deadlines
were last compared with.

The main statement, `uncluttered_standings`, is about every place on the way through any number of
turns, also those within a sweep.
-/

namespace GradedReading.Watch

variable {α : Type}

/-! ### Deadlines and outstanding actions -/

theorem length_insert (d : Deadline) (heap : List Deadline) :
    (insert d heap).length = heap.length + 1 := by
  induction heap with
  | nil => rfl
  | cons x rest ih =>
      rw [insert]
      split
      · rw [List.length_cons, ih, List.length_cons]
      · rfl

namespace Kept

variable {l : Ledger α} {w : Watch α}

theorem nodup_heap (h : Kept l w) : w.heap.Nodup := by
  refine h.sorted.imp ?_
  rintro d d' hbefore rfl
  unfold Deadline.Before at hbefore
  omega

theorem nodup_outstanding (h : Kept l w) : (l.outstanding.map (·.1)).Nodup := by
  refine List.Nodup.of_map Deadline.key ?_
  rw [List.map_map]
  exact h.nodup_keys

/-- **What is outstanding has its deadline in the heap once**, and there is no other one under its
key. -/
theorem filter_heap (h : Kept l w) {e : Deadline × Action α} (he : e ∈ l.outstanding) :
    w.heap.filter (·.key == e.1.key) = [e.1] := by
  refine List.perm_singleton.1 ?_
  refine (List.perm_ext_iff_of_nodup (h.nodup_heap.filter _) (List.nodup_singleton _)).2 ?_
  intro d
  rw [List.mem_filter, List.mem_singleton, beq_iff_eq]
  constructor
  · rintro ⟨hd, hkey⟩
    exact (h.eq_of_mem_heap (Ledger.mem_outstanding.1 he).1 hd hkey.symm).symm
  · rintro rfl
    exact ⟨h.filed e he, rfl⟩

/-- The deadlines that are not stale are those of what is outstanding. -/
theorem mem_filter_isOpen (h : Kept l w) {d : Deadline} :
    d ∈ w.heap.filter (fun d => l.isOpen d.key) ↔ d ∈ l.outstanding.map (·.1) := by
  rw [List.mem_filter, List.mem_map]
  constructor
  · rintro ⟨hd, hopen⟩
    obtain ⟨e, he, rfl⟩ := List.mem_map.1 (h.known d hd)
    exact ⟨e, List.mem_filter.2 ⟨he, hopen⟩, rfl⟩
  · rintro ⟨e, he, rfl⟩
    exact ⟨h.filed e he, (List.mem_filter.1 he).2⟩

theorem length_filter_isOpen (h : Kept l w) :
    (w.heap.filter fun d => l.isOpen d.key).length = l.outstanding.length := by
  have hperm : (w.heap.filter fun d => l.isOpen d.key).Perm (l.outstanding.map (·.1)) := by
    refine (List.perm_ext_iff_of_nodup (h.nodup_heap.filter _) h.nodup_outstanding).2 ?_
    intro d
    exact h.mem_filter_isOpen
  rw [hperm.length_eq, List.length_map]

/-- **A heap that is rebuilt loses its stale deadlines**, and nothing else. -/
theorem heap_rebuild (h : Kept l w) :
    w.rebuild.heap =
      if 2 * l.outstanding.length + staleSlack < w.heap.length then
        w.heap.filter fun d => l.isOpen d.key
      else w.heap := by
  have hlength : w.actions.length = l.outstanding.length := by rw [h.actions, List.length_map]
  rw [Watch.rebuild, hlength, apply_ite Watch.heap]
  split
  · exact List.filter_congr fun d hd => h.isLive_eq hd
  · rfl

theorem length_heap_rebuild (h : Kept l w) :
    w.rebuild.heap.length ≤ 2 * l.outstanding.length + staleSlack := by
  rw [h.heap_rebuild]
  split
  · rw [h.length_filter_isOpen]
    omega
  · omega

/-- To run what one deadline asks for takes at most one action away. -/
theorem length_outstanding_run (h : Kept l w) (key : Nat) :
    l.outstanding.length ≤
      (l.run (w.actions.filter (·.1 == key))).outstanding.length + 1 := by
  have hone : (l.outstanding.map (·.1.key)).length - 1 ≤
      ((l.outstanding.map (·.1.key)).erase key).length := List.le_length_erase
  rw [h.nodup_keys.erase_eq_filter, List.filter_map, List.length_map, List.length_map] at hone
  rw [h.outstanding_run]
  exact Nat.le_add_of_sub_le hone

end Kept

/-! ### Places on the way -/

/-- Where a watchdog stands: what it was told and has run, and what it holds. -/
structure Standing (α : Type) where
  ledger : Ledger α
  watch : Watch α

namespace Standing

/-- Nothing was told yet. -/
def start : Standing α := ⟨.blank, .empty⟩

/-- How many actions were registered and neither run nor withdrawn. -/
def live (s : Standing α) : Nat := s.ledger.outstanding.length

/-- A command is taken in, if there is one. -/
def tell (command? : Option (WatchCommand α)) (s : Standing α) : Standing α :=
  match command? with
  | none => s
  | some command => ⟨s.ledger.tell (some command), s.watch.receive command⟩

/-- The places on the way through a sweep: one before each deadline that is taken from the heap, and
the one where no deadline is due any more. -/
def sweeping (now : Moment) (l : Ledger α) :
    List Deadline → List (Nat × Action α) → List (Standing α)
  | [], actions => [⟨l, ⟨[], actions⟩⟩]
  | d :: rest, actions =>
    ⟨l, ⟨d :: rest, actions⟩⟩ ::
      if d.moment.atMost now then
        sweeping now (l.run (actions.filter (·.1 == d.key))) rest
          (actions.filter (·.1 != d.key))
      else []

/-- The places on the way through one turn: the first one with the command taken in, and the last
one the end of the turn (`exists_through`). -/
def through (command? : Option (WatchCommand α)) (now : Moment) (s : Standing α) :
    List (Standing α) :=
  let s := s.tell command?
  sweeping now s.ledger s.watch.heap s.watch.actions

/-- Where the watchdog stands after a turn. -/
def turn (command? : Option (WatchCommand α)) (now : Moment) (s : Standing α) : Standing α :=
  ⟨s.ledger.after (s.watch.round command? now), (s.watch.turn command? now).2⟩

/-- The places on the way through one turn after the other. -/
def course : List (Option (WatchCommand α) × Moment) → Standing α → List (Standing α)
  | [], _ => []
  | (command?, now) :: ticks, s => s.through command? now ++ course ticks (s.turn command? now)

/-- The largest number of actions that waited at once. -/
def peak (ss : List (Standing α)) : Nat := ss.foldl (fun n s => max n s.live) 0

theorem peak_concat (ss : List (Standing α)) (s : Standing α) :
    peak (ss ++ [s]) = max (peak ss) s.live := by
  rw [peak, List.foldl_concat, peak]

/-- One step of a watchdog: it takes a command in, with a key that is new if it registers one, or
does what the first deadline asks for. -/
inductive Step : Standing α → Standing α → Prop
  | tell (s : Standing α) (command? : Option (WatchCommand α))
      (hfresh : ∀ e, command?.bind registration? = some e →
        e.1.key ∉ s.ledger.registered.map (·.1.key)) : Step s (s.tell command?)
  | run (l : Ledger α) (d : Deadline) (rest : List Deadline) (actions : List (Nat × Action α)) :
      Step ⟨l, ⟨d :: rest, actions⟩⟩
        ⟨l.run (actions.filter (·.1 == d.key)), ⟨rest, actions.filter (·.1 != d.key)⟩⟩

/-- A sweep goes step by step, -/
theorem isChain_sweeping (now : Moment) (s : Standing α) (l : Ledger α) (heap : List Deadline)
    (actions : List (Nat × Action α)) (hs : Step s ⟨l, ⟨heap, actions⟩⟩) :
    (s :: sweeping now l heap actions).IsChain Step := by
  induction heap generalizing s l actions with
  | nil => exact List.isChain_pair.2 hs
  | cons d rest ih =>
      rw [sweeping]
      split
      · exact List.isChain_cons_cons.2 ⟨hs, ih _ _ _ (.run l d rest actions)⟩
      · exact List.isChain_pair.2 hs

/-- and comes to its end. -/
theorem exists_sweeping (now : Moment) (l : Ledger α) (heap : List Deadline)
    (actions : List (Nat × Action α)) : ∃ ss, sweeping now l heap actions =
      ss ++ [⟨l.run (Watch.sweep now heap actions).1, (Watch.sweep now heap actions).2⟩] := by
  induction heap generalizing l actions with
  | nil => exact ⟨[], by rw [sweeping, Watch.sweep, Ledger.run_nil, List.nil_append]⟩
  | cons d rest ih =>
      rw [sweeping, Watch.sweep]
      split
      · obtain ⟨ss, hss⟩ := ih (l.run (actions.filter (·.1 == d.key)))
          (actions.filter (·.1 != d.key))
        refine ⟨⟨l, ⟨d :: rest, actions⟩⟩ :: ss, ?_⟩
        rw [hss, Ledger.run_run, List.cons_append]
      · exact ⟨[], by rw [Ledger.run_nil, List.nil_append]⟩

theorem exists_through (command? : Option (WatchCommand α)) (now : Moment) (s : Standing α) :
    ∃ ss, s.through command? now = ss ++ [s.turn command? now] := by
  obtain ⟨ss, hss⟩ := exists_sweeping now (s.tell command?).ledger (s.tell command?).watch.heap
    (s.tell command?).watch.actions
  refine ⟨ss, hss.trans ?_⟩
  cases command? <;> rfl

/-- **Turn after turn, a watchdog goes step by step.** -/
theorem isChain_course (s : Standing α) (ticks : List (Option (WatchCommand α) × Moment))
    (hdistinct : ((s.ledger.registered ++ registrations ticks).map (·.1.key)).Nodup) :
    (s :: s.course ticks).IsChain Step := by
  induction ticks generalizing s with
  | nil => exact List.isChain_singleton s
  | cons tick ticks ih =>
      obtain ⟨command?, now⟩ := tick
      have hturn : (s :: s.through command? now).IsChain Step :=
        isChain_sweeping now s _ _ _ (.tell s command? (fresh_of_nodup hdistinct))
      rw [registered_append_registrations s.ledger s.watch] at hdistinct
      obtain ⟨ss, hss⟩ := s.exists_through command? now
      rw [hss, ← List.cons_append] at hturn
      rw [course, hss, ← List.cons_append]
      exact hturn.append_overlap (ih _ hdistinct) (List.cons_ne_nil _ _)

/-! ### What one step keeps -/

/-- The watchdog has what the ledger says, and of its deadlines no more are stale than the largest
number of actions that waited at once, and the slack. -/
structure Slack (s : Standing α) (most : Nat) : Prop where
  kept : Kept s.ledger s.watch
  live_le : s.live ≤ most
  heap_le : s.watch.heap.length ≤ s.live + (most + staleSlack)

theorem slack_start : Slack (start : Standing α) 0 := ⟨kept_empty, Nat.zero_le _, Nat.zero_le _⟩

variable {s t : Standing α} {most : Nat}

/-- A new action brings its deadline with it. -/
theorem Slack.register (h : Slack s most) {key : Nat} (moment : Moment) (action : Action α)
    (hfresh : key ∉ s.ledger.registered.map (·.1.key)) :
    Slack (s.tell (some (.register key moment action)))
      (max most (s.tell (some (.register key moment action))).live) := by
  have hlive : (s.tell (some (.register key moment action))).live = s.live + 1 := by
    rw [live, tell, h.kept.outstanding_register hfresh, List.length_append, live]
    rfl
  have hheap : (s.tell (some (.register key moment action))).watch.heap.length =
      s.watch.heap.length + 1 := length_insert ..
  have hbefore := h.heap_le
  exact ⟨h.kept.register hfresh moment action, by omega, by omega⟩

/-- **Where a deadline goes stale**, the stale ones are compared with what waits. -/
theorem Slack.cancel (h : Slack s most) (key : Nat) :
    Slack (s.tell (some (.cancel key))) (max most (s.tell (some (.cancel key))).live) := by
  have hlive : (s.tell (some (.cancel key))).live ≤ s.live := by
    rw [live, tell, Ledger.outstanding_cancel]
    exact List.length_filter_le ..
  have hheap : (s.tell (some (.cancel key))).watch.heap.length ≤
      2 * (s.tell (some (.cancel key))).live + staleSlack := (h.kept.drop key).length_heap_rebuild
  have hbefore := h.live_le
  exact ⟨h.kept.cancel key, by omega, by omega⟩

/-- A deadline that is taken from the heap takes no more than its own action with it. -/
theorem Slack.run {l : Ledger α} {d : Deadline} {rest : List Deadline}
    {actions : List (Nat × Action α)} (h : Slack ⟨l, ⟨d :: rest, actions⟩⟩ most) :
    Slack ⟨l.run (actions.filter (·.1 == d.key)), ⟨rest, actions.filter (·.1 != d.key)⟩⟩
      (max most (l.run (actions.filter (·.1 == d.key))).outstanding.length) := by
  have hlive : l.outstanding.length ≤
      (l.run (actions.filter (·.1 == d.key))).outstanding.length + 1 :=
    h.kept.length_outstanding_run d.key
  have hbefore : rest.length + 1 ≤ l.outstanding.length + (most + staleSlack) := h.heap_le
  refine ⟨h.kept.run, Nat.le_max_right .., ?_⟩
  simp only [live]
  omega

theorem Slack.step (h : Slack s most) (hstep : Step s t) : Slack t (max most t.live) := by
  cases hstep with
  | tell _ command? hfresh =>
      rcases command? with _ | ⟨key, moment, action⟩ | key
      · rw [tell, Nat.max_eq_left h.live_le]
        exact h
      · exact h.register moment action (hfresh _ rfl)
      · exact h.cancel key
  | run l d rest actions => exact h.run

/-! ### The whole way -/

/-- Step after step, no more deadlines are stale than the largest number of actions that waited at
once so far, and the slack. -/
theorem slack_of_isChain {ss : List (Standing α)} (hchain : (ss ++ [s]).IsChain Step)
    (hstart : (ss ++ [s]).head? = some start) : Slack s (peak (ss ++ [s])) := by
  induction ss using List.reverseRecOn generalizing s with
  | nil =>
      obtain rfl : s = start := Option.some.inj hstart
      exact slack_start
  | append_singleton ss u ih =>
      rw [List.append_assoc, List.singleton_append, List.isChain_split, List.isChain_pair] at hchain
      obtain ⟨hbefore, hstep⟩ := hchain
      rw [peak_concat]
      exact (ih hbefore (by simpa using hstart)).step hstep

/-- The places on the way of a new watchdog through one turn after the other. -/
def standings (ticks : List (Option (WatchCommand α) × Moment)) : List (Standing α) :=
  start :: start.course ticks

/-- A heap on its way, with no more deadlines in it than it needs. -/
structure Uncluttered (ss : List (Standing α)) : Prop where
  /-- It is never longer than twice the largest number of actions that waited at once so far, and
  the slack. -/
  short : ∀ past s later, ss = past ++ s :: later →
    s.watch.heap.length ≤ 2 * peak (past ++ [s]) + staleSlack
  /-- The actions that wait are those that were registered and neither run nor withdrawn. -/
  waiting : ∀ s ∈ ss, s.watch.actions = s.ledger.outstanding.map named
  /-- Each of them has the deadline it was registered with in the heap, once, and there is no other
  one under its key. -/
  filed : ∀ s ∈ ss, ∀ e ∈ s.ledger.outstanding, s.watch.heap.filter (·.key == e.1.key) = [e.1]
  /-- A cancellation that finds too many stale deadlines drops those whose actions were run or
  withdrawn, and any other one drops none. -/
  rebuilt : ∀ s ∈ ss, ∀ key, (s.tell (some (.cancel key))).watch.heap =
    if 2 * (s.tell (some (.cancel key))).live + staleSlack < s.watch.heap.length then
      s.watch.heap.filter fun d => (s.tell (some (.cancel key))).ledger.isOpen d.key
    else s.watch.heap

/-- **A heap never grows beyond twice what has waited at once**, and the slack, whatever is told in
whatever order, as long as no key is registered twice, and whatever the clock says. -/
theorem uncluttered_standings (ticks : List (Option (WatchCommand α) × Moment))
    (hdistinct : ((registrations ticks).map (·.1.key)).Nodup) : Uncluttered (standings ticks) := by
  have hslack : ∀ past s later, standings ticks = past ++ s :: later →
      Slack s (peak (past ++ [s])) := by
    intro past s later hsplit
    have hchain : (standings ticks).IsChain Step := isChain_course start ticks hdistinct
    have hhead : (standings ticks).head? = some start := rfl
    rw [hsplit] at hchain hhead
    exact slack_of_isChain (List.isChain_split.1 hchain).1 (by simpa using hhead)
  have hkept : ∀ s ∈ standings ticks, Kept s.ledger s.watch := by
    intro s hs
    obtain ⟨past, later, hsplit⟩ := List.append_of_mem hs
    exact (hslack past s later hsplit).kept
  refine ⟨?_, fun s hs => (hkept s hs).actions, fun s hs e he => (hkept s hs).filter_heap he,
    fun s hs key => ((hkept s hs).drop key).heap_rebuild⟩
  intro past s later hsplit
  have hheap := (hslack past s later hsplit).heap_le
  have hlive := (hslack past s later hsplit).live_le
  omega

/-- Sixty-five alarms that are withdrawn, and an earlier one that is not. -/
def leftovers : List (Option (WatchCommand String) × Moment) :=
  ((List.range 65).map fun key => (some (.register key ⟨100⟩ ⟨toString key, .done⟩), ⟨0⟩)) ++
    [(some (.register 65 ⟨50⟩ ⟨"early", .panicked⟩), ⟨0⟩)] ++
    ((List.range 65).map fun key => (some (.cancel key), ⟨1⟩)) ++
    [(none, ⟨50⟩), (some (.cancel 65), ⟨51⟩)]

/-- Nothing waits any more when the early one was run, and still the heap holds more deadlines than
the slack, up to the next cancellation. -/
theorem uncluttered_leftovers : ((registrations leftovers).map (·.1.key)).Nodup ∧
    ((standings leftovers).map fun s => (s.live, s.watch.heap.length)).drop 132 =
      [(1, 66), (0, 65), (0, 0)] ∧
    Uncluttered (standings leftovers) := by
  have hdistinct : ((registrations leftovers).map (·.1.key)).Nodup := by decide +kernel
  exact ⟨hdistinct, by decide +kernel, uncluttered_standings leftovers hdistinct⟩

end Standing

end GradedReading.Watch
