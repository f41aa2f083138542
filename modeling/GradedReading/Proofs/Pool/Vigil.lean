import GradedReading.Pool.Watchdog
import Mathlib.Data.List.Nodup

/-!
# GradedReading.Proofs.Pool.Vigil

A watchdog runs every action once, as soon as it is due, unless the action was withdrawn before.

**Key idea:** a *ledger* keeps what a watchdog was told and what it ran, and knows nothing of heaps
or stale entries. What is outstanding by the ledger is what waits in the watchdog's dictionary, and
each outstanding action has its deadline in the heap (`Kept`). Commands and sweeps keep that, a
rebuilt heap as well, and everything that is promised of a turn follows from it.

Design points:

* keys are registered once, as a watchdog that gives them out makes sure;
* nothing is assumed of the clock, nor of whether an action panics when it runs.
-/

namespace GradedReading

/-- `a` is due before `b`: at an earlier moment, or at the same one under a smaller key. -/
def Deadline.Before (a b : Deadline) : Prop :=
  a.moment.nanos < b.moment.nanos ∨ a.moment.nanos = b.moment.nanos ∧ a.key < b.key

theorem Deadline.Before.trans {a b c : Deadline} (hab : a.Before b) (hbc : b.Before c) :
    a.Before c := by
  unfold Before at *
  omega

theorem Deadline.Before.le {a b : Deadline} (h : a.Before b) : a.moment.nanos ≤ b.moment.nanos := by
  unfold Before at h
  omega

theorem Deadline.before_of_atMost {a b : Deadline} (h : a.atMost b = true) (hne : a ≠ b) :
    a.Before b := by
  obtain ⟨⟨x⟩, k⟩ := a
  obtain ⟨⟨y⟩, l⟩ := b
  simp only [atMost, Bool.or_eq_true, decide_eq_true_eq, Bool.and_eq_true, beq_iff_eq] at h
  unfold Before
  rcases h with hless | ⟨rfl, hle⟩
  · exact .inl hless
  · refine .inr ⟨rfl, Nat.lt_of_le_of_ne hle ?_⟩
    rintro rfl
    exact hne rfl

theorem Deadline.before_of_not_atMost {a b : Deadline} (h : ¬ a.atMost b = true) : b.Before a := by
  simp only [atMost, Bool.or_eq_true, decide_eq_true_eq, Bool.and_eq_true, beq_iff_eq] at h
  unfold Before
  omega

/-- The command with another action. -/
def WatchCommand.map {α β : Type} (g : Action α → Action β) : WatchCommand α → WatchCommand β
  | .register key moment action => .register key moment (g action)
  | .cancel key => .cancel key

namespace Watch

variable {α : Type}

/-! ### What is told and what is run -/

/-- One turn as it was taken: what was told, what the clock said, what was run, and how many
actions waited afterwards. -/
structure Round (α : Type) where
  command? : Option (WatchCommand α)
  now : Moment
  ran : List (Nat × Action α)
  pending : Nat
deriving Repr

/-- Take one turn after the other, each with a command, or none, and a reading of the clock. -/
def rounds : List (Option (WatchCommand α) × Moment) → Watch α → List (Round α)
  | [], _ => []
  | (command?, now) :: later, w =>
    let (ran, w') := w.turn command? now
    ⟨command?, now, ran, w'.pending⟩ :: rounds later w'

/-- What a command registers. -/
def registration? : WatchCommand α → Option (Deadline × Action α)
  | .register key moment action => some (⟨moment, key⟩, action)
  | .cancel _ => none

/-- Everything that these commands register. -/
def registrations (ticks : List (Option (WatchCommand α) × Moment)) : List (Deadline × Action α) :=
  ticks.filterMap fun t => t.1.bind registration?

/-- An action with its key, without its deadline. -/
def named (e : Deadline × Action α) : Nat × Action α := (e.1.key, e.2)

/-- What a watchdog was told and what it ran. -/
structure Ledger (α : Type) where
  registered : List (Deadline × Action α)
  /-- Keys that were cancelled after they were registered. -/
  withdrawn : List Nat
  ran : List (Nat × Action α)

namespace Ledger

/-- Nothing was told. -/
def blank : Ledger α := ⟨[], [], []⟩

/-- Enter a command. To cancel what is not registered means nothing. -/
def tell (command? : Option (WatchCommand α)) (l : Ledger α) : Ledger α :=
  match command? with
  | none => l
  | some (.register key moment action) =>
    { l with registered := l.registered ++ [(⟨moment, key⟩, action)] }
  | some (.cancel key) =>
    if l.registered.any (·.1.key == key) then { l with withdrawn := key :: l.withdrawn } else l

/-- Enter what was run. -/
def run (rs : List (Nat × Action α)) (l : Ledger α) : Ledger α := { l with ran := l.ran ++ rs }

/-- Enter a turn. -/
def after (l : Ledger α) (r : Round α) : Ledger α := (l.tell r.command?).run r.ran

/-- What was registered under this key was neither run nor withdrawn. -/
def isOpen (l : Ledger α) (key : Nat) : Bool :=
  !l.ran.any (·.1 == key) && !l.withdrawn.contains key

/-- What was registered and neither run nor withdrawn. -/
def outstanding (l : Ledger α) : List (Deadline × Action α) :=
  l.registered.filter fun e => l.isOpen e.1.key

theorem isOpen_iff {l : Ledger α} {key : Nat} :
    l.isOpen key = true ↔ key ∉ l.ran.map (·.1) ∧ key ∉ l.withdrawn := by
  have hran : l.ran.any (·.1 == key) = true ↔ key ∈ l.ran.map (·.1) := by
    simp only [List.any_eq_true, beq_iff_eq, List.mem_map]
  rw [isOpen, Bool.and_eq_true, Bool.not_eq_true', ← Bool.not_eq_true, hran, Bool.not_eq_true',
    List.contains_eq_mem, decide_eq_false_iff_not]

theorem mem_outstanding {l : Ledger α} {e : Deadline × Action α} : e ∈ l.outstanding ↔
    e ∈ l.registered ∧ e.1.key ∉ l.ran.map (·.1) ∧ e.1.key ∉ l.withdrawn := by
  rw [outstanding, List.mem_filter, isOpen_iff]

theorem registered_cancel (l : Ledger α) (key : Nat) :
    (l.tell (some (.cancel key))).registered = l.registered := by
  rw [tell]
  split <;> rfl

theorem ran_cancel (l : Ledger α) (key : Nat) :
    (l.tell (some (.cancel key))).ran = l.ran := by
  rw [tell]
  split <;> rfl

theorem mem_withdrawn_cancel {l : Ledger α} {key k : Nat}
    (h : k ∈ (l.tell (some (.cancel key))).withdrawn) :
    k = key ∧ key ∈ l.registered.map (·.1.key) ∨ k ∈ l.withdrawn := by
  rw [tell] at h
  split at h
  · next hany =>
    rcases List.mem_cons.1 h with rfl | hmem
    · exact .inl ⟨rfl, by simpa using hany⟩
    · exact .inr hmem
  · exact .inr h

/-- What is withdrawn is outstanding no more. -/
theorem outstanding_cancel (l : Ledger α) (key : Nat) :
    (l.tell (some (.cancel key))).outstanding =
      l.outstanding.filter (fun e => e.1.key != key) := by
  rw [tell]
  split
  · rw [outstanding, outstanding, List.filter_filter]
    refine List.filter_congr fun e _ => ?_
    rw [isOpen, isOpen, List.contains_cons, Bool.not_or, bne, Bool.and_left_comm]
  · next hnone =>
    refine (List.filter_eq_self.2 fun e he => ?_).symm
    have hmem := (mem_outstanding.1 he).1
    simp only [List.any_eq_true, not_exists, not_and, beq_iff_eq] at hnone
    exact bne_iff_ne.2 (hnone e hmem)

theorem run_run (l : Ledger α) (rs rs' : List (Nat × Action α)) :
    (l.run rs).run rs' = l.run (rs ++ rs') := by
  simp only [run, List.append_assoc]

theorem run_nil (l : Ledger α) : l.run [] = l := by
  simp only [run, List.append_nil]

/-- What is run is outstanding no more. -/
theorem outstanding_run (l : Ledger α) (key : Nat) :
    (l.run ((l.outstanding.filter (·.1.key == key)).map named)).outstanding =
      l.outstanding.filter (·.1.key != key) := by
  obtain ⟨rs, hrs⟩ : ∃ rs, (l.outstanding.filter (·.1.key == key)).map named = rs := ⟨_, rfl⟩
  have hran : ∀ k, k ∈ rs.map (·.1) ↔ ∃ e ∈ l.outstanding, e.1.key = key ∧ e.1.key = k := by
    simp [← hrs, named, and_assoc]
  rw [hrs, outstanding, outstanding, List.filter_filter]
  refine List.filter_congr fun e he => Bool.eq_iff_iff.2 ?_
  rw [Bool.and_eq_true, isOpen_iff, isOpen_iff, run, List.map_append, List.mem_append, hran,
    not_or, bne_iff_ne]
  constructor
  · rintro ⟨⟨hrest, hnone⟩, hgone⟩
    exact ⟨fun hkey => hnone ⟨e, mem_outstanding.2 ⟨he, hrest, hgone⟩, hkey, rfl⟩, hrest, hgone⟩
  · rintro ⟨hkey, hrest, hgone⟩
    exact ⟨⟨hrest, fun ⟨e', _, hkey', hsame⟩ => hkey (hsame ▸ hkey')⟩, hgone⟩

end Ledger

/-- The ledger of a history. -/
def ledger (h : List (Round α)) : Ledger α := h.foldl .after .blank

/-! ### Heaps -/

theorem mem_insert {d d' : Deadline} {heap : List Deadline} :
    d' ∈ insert d heap ↔ d' = d ∨ d' ∈ heap := by
  induction heap with
  | nil => simp [insert]
  | cons x rest ih =>
      rw [insert]
      split
      · simp only [List.mem_cons, ih]
        tauto
      · simp only [List.mem_cons]

theorem pairwise_insert {d : Deadline} {heap : List Deadline} (h : heap.Pairwise Deadline.Before)
    (hnew : d ∉ heap) : (insert d heap).Pairwise Deadline.Before := by
  induction heap with
  | nil => exact List.pairwise_singleton ..
  | cons x rest ih =>
      obtain ⟨hx, hrest⟩ := List.pairwise_cons.1 h
      rw [List.mem_cons, not_or] at hnew
      obtain ⟨hne, hnotin⟩ := hnew
      rw [insert]
      split
      · next hle =>
        refine List.pairwise_cons.2 ⟨fun y hy => ?_, ih hrest hnotin⟩
        rcases mem_insert.1 hy with rfl | hy
        · exact Deadline.before_of_atMost hle (Ne.symm hne)
        · exact hx y hy
      · next hgt =>
        have hd : d.Before x := Deadline.before_of_not_atMost hgt
        refine List.pairwise_cons.2 ⟨fun y hy => ?_, h⟩
        rcases List.mem_cons.1 hy with rfl | hy
        · exact hd
        · exact hd.trans (hx y hy)

/-! ### The watchdog and the ledger -/

/-- The watchdog has what the ledger says. -/
structure Kept (l : Ledger α) (w : Watch α) : Prop where
  distinct : (l.registered.map (·.1.key)).Nodup
  sorted : w.heap.Pairwise Deadline.Before
  /-- The heap holds deadlines that were registered, -/
  known : ∀ d ∈ w.heap, d ∈ l.registered.map (·.1)
  /-- and among them those of all that is outstanding. -/
  filed : ∀ e ∈ l.outstanding, e.1 ∈ w.heap
  actions : w.actions = l.outstanding.map named
  once : (l.ran.map (·.1)).Nodup
  traced : ∀ p ∈ l.ran, p ∈ l.registered.map named
  withdrawn : ∀ key ∈ l.withdrawn, key ∈ l.registered.map (·.1.key)

theorem kept_empty : Kept (.blank : Ledger α) .empty where
  distinct := List.nodup_nil
  sorted := .nil
  known := nofun
  filed := nofun
  actions := rfl
  once := List.nodup_nil
  traced := nofun
  withdrawn := nofun

namespace Kept

variable {l : Ledger α} {w : Watch α} {key : Nat}

theorem eq_of_key_eq (h : Kept l w) {e e' : Deadline × Action α} (he : e ∈ l.registered)
    (he' : e' ∈ l.registered) (hkey : e.1.key = e'.1.key) : e = e' :=
  List.inj_on_of_nodup_map h.distinct he he' hkey

/-- A deadline in the heap is told by its key. -/
theorem eq_of_mem_heap (h : Kept l w) {e : Deadline × Action α} {d : Deadline}
    (he : e ∈ l.registered) (hd : d ∈ w.heap) (hkey : e.1.key = d.key) : e.1 = d := by
  obtain ⟨e', he', rfl⟩ := List.mem_map.1 (h.known d hd)
  rw [h.eq_of_key_eq he he' hkey]

theorem isOpen_of_fresh (h : Kept l w) (hfresh : key ∉ l.registered.map (·.1.key)) :
    l.isOpen key = true := by
  refine Ledger.isOpen_iff.2 ⟨fun hran => hfresh ?_, fun hgone => hfresh (h.withdrawn key hgone)⟩
  obtain ⟨p, hp, rfl⟩ := List.mem_map.1 hran
  obtain ⟨e, he, rfl⟩ := List.mem_map.1 (h.traced p hp)
  exact List.mem_map_of_mem he

theorem filter_actions (h : Kept l w) (p : Nat → Bool) :
    w.actions.filter (fun a => p a.1) = (l.outstanding.filter fun e => p e.1.key).map named := by
  rw [h.actions, List.filter_map]
  rfl

theorem outstanding_register (h : Kept l w) (hfresh : key ∉ l.registered.map (·.1.key))
    (moment : Moment) (action : Action α) :
    (l.tell (some (.register key moment action))).outstanding =
      l.outstanding ++ [(⟨moment, key⟩, action)] := by
  have hopen := h.isOpen_of_fresh hfresh
  simp only [Ledger.outstanding, Ledger.tell, List.filter_append]
  congr 1
  exact List.filter_cons_of_pos hopen

/-- **To register an action is to enter it.** -/
theorem register (h : Kept l w) (hfresh : key ∉ l.registered.map (·.1.key)) (moment : Moment)
    (action : Action α) : Kept (l.tell (some (.register key moment action)))
      (w.receive (.register key moment action)) := by
  have hout := h.outstanding_register hfresh moment action
  -- no action is replaced, for the key is new
  have hdrop : w.actions.filter (·.1 != key) = w.actions := by
    rw [h.actions, List.filter_eq_self]
    intro a ha
    obtain ⟨e, he, rfl⟩ := List.mem_map.1 ha
    have hmem : e.1.key ∈ l.registered.map (·.1.key) :=
      List.mem_map_of_mem (Ledger.mem_outstanding.1 he).1
    exact bne_iff_ne.2 fun heq => hfresh (heq ▸ hmem)
  have hnew : (⟨moment, key⟩ : Deadline) ∉ w.heap := fun hmem => by
    obtain ⟨e, he, heq⟩ := List.mem_map.1 (h.known _ hmem)
    have hkey : e.1.key = key := congrArg Deadline.key heq
    exact hfresh (hkey ▸ List.mem_map_of_mem he)
  refine ⟨?_, pairwise_insert h.sorted hnew, fun d hd => ?_, fun e he => ?_, ?_, h.once,
    fun p hp => ?_, fun k hk => ?_⟩
  · simp only [Ledger.tell, List.map_append, List.map_cons, List.map_nil]
    exact List.concat_eq_append ▸ h.distinct.concat hfresh
  · simp only [Ledger.tell, List.map_append, List.mem_append]
    rcases mem_insert.1 hd with rfl | hd
    · exact .inr (List.mem_singleton_self _)
    · exact .inl (h.known d hd)
  · rw [hout, List.mem_append, List.mem_singleton] at he
    rcases he with he | rfl
    · exact mem_insert.2 (.inr (h.filed e he))
    · exact mem_insert.2 (.inl rfl)
  · rw [hout, List.map_append, ← h.actions]
    exact congrArg (· ++ [(key, action)]) hdrop
  · simp only [Ledger.tell, List.map_append, List.mem_append]
    exact .inl (h.traced p hp)
  · simp only [Ledger.tell, List.map_append, List.mem_append]
    exact .inl (h.withdrawn k hk)

/-- A deadline is live exactly if its action is outstanding. -/
theorem isLive_eq (h : Kept l w) {d : Deadline} (hd : d ∈ w.heap) :
    w.isLive d.key = l.isOpen d.key := by
  obtain ⟨e, he, rfl⟩ := List.mem_map.1 (h.known d hd)
  refine Bool.eq_iff_iff.2 ?_
  rw [isLive, h.actions, List.any_map, List.any_eq_true]
  constructor
  · rintro ⟨e', he', hkey⟩
    obtain ⟨he', hopen⟩ := List.mem_filter.1 he'
    rwa [h.eq_of_key_eq he he' (beq_iff_eq.1 hkey).symm]
  · intro hopen
    exact ⟨e, List.mem_filter.2 ⟨he, hopen⟩, beq_self_eq_true _⟩

/-- Stale deadlines may be dropped. -/
theorem rebuild (h : Kept l w) : Kept l w.rebuild := by
  unfold Watch.rebuild
  split
  · refine { h with sorted := ?_, known := ?_, filed := ?_ }
    · exact h.sorted.sublist List.filter_sublist
    · exact fun d hd => h.known d (List.mem_filter.1 hd).1
    · intro e he
      refine List.mem_filter.2 ⟨h.filed e he, ?_⟩
      rw [h.isLive_eq (h.filed e he)]
      exact (List.mem_filter.1 he).2
  · exact h

/-- What is dropped is withdrawn, and its deadline stays. -/
theorem drop (h : Kept l w) (key : Nat) : Kept (l.tell (some (.cancel key))) (w.drop key) := by
  have hout := Ledger.outstanding_cancel l key
  have hregistered := Ledger.registered_cancel l key
  have hran := Ledger.ran_cancel l key
  refine ⟨hregistered ▸ h.distinct, h.sorted, hregistered ▸ h.known, fun e he => ?_, ?_,
    hran ▸ h.once, hregistered ▸ hran ▸ h.traced, fun k hk => ?_⟩
  · rw [hout] at he
    exact h.filed e (List.mem_filter.1 he).1
  · rw [hout]
    exact h.filter_actions (· != key)
  · rw [hregistered]
    rcases Ledger.mem_withdrawn_cancel hk with ⟨rfl, hmem⟩ | hmem
    · exact hmem
    · exact h.withdrawn k hmem

/-- **To withdraw an action is to enter that.** -/
theorem cancel (h : Kept l w) (key : Nat) :
    Kept (l.tell (some (.cancel key))) (w.receive (.cancel key)) := (h.drop key).rebuild

theorem receive (h : Kept l w) (command : WatchCommand α)
    (hfresh : ∀ e, registration? command = some e → e.1.key ∉ l.registered.map (·.1.key)) :
    Kept (l.tell (some command)) (w.receive command) := by
  cases command with
  | register key moment action => exact h.register (hfresh _ rfl) moment action
  | cancel key => exact h.cancel key

theorem sublist_outstanding (l : Ledger α) : l.outstanding.Sublist l.registered :=
  List.filter_sublist

theorem nodup_keys (h : Kept l w) : (l.outstanding.map (·.1.key)).Nodup :=
  h.distinct.sublist ((sublist_outstanding l).map _)

/-- What is outstanding under one key is at most one action. -/
theorem pairwise_filter_key (h : Kept l w) (key : Nat)
    (R : Deadline × Action α → Deadline × Action α → Prop) :
    (l.outstanding.filter (·.1.key == key)).Pairwise R := by
  have hkeys : (l.outstanding.filter (·.1.key == key)).Pairwise (fun e e' => e.1.key ≠ e'.1.key) :=
    List.pairwise_map.1 (h.nodup_keys.sublist (List.filter_sublist.map _))
  refine hkeys.imp_of_mem fun he he' hne => absurd ?_ hne
  exact (beq_iff_eq.1 (List.mem_filter.1 he).2).trans (beq_iff_eq.1 (List.mem_filter.1 he').2).symm

/-- What is run is outstanding no more. -/
theorem outstanding_run (h : Kept l w) (key : Nat) :
    (l.run (w.actions.filter (·.1 == key))).outstanding =
      l.outstanding.filter (·.1.key != key) := by
  rw [h.filter_actions (· == key)]
  exact Ledger.outstanding_run l key

/-- **To run what is due first is to enter that.** -/
theorem run {d : Deadline} {rest : List Deadline} {actions : List (Nat × Action α)}
    (h : Kept l ⟨d :: rest, actions⟩) :
    Kept (l.run (actions.filter (·.1 == d.key))) ⟨rest, actions.filter (·.1 != d.key)⟩ := by
  have hran : actions.filter (·.1 == d.key) =
      (l.outstanding.filter (·.1.key == d.key)).map named := h.filter_actions (· == d.key)
  have hout := Ledger.outstanding_run l d.key
  rw [hran]
  refine ⟨h.distinct, h.sorted.of_cons, fun d' hd' => h.known d' (List.mem_cons_of_mem _ hd'),
    fun e he => ?_, ?_, ?_, fun p hp => ?_, h.withdrawn⟩
  · rw [hout] at he
    obtain ⟨he, hkey⟩ := List.mem_filter.1 he
    refine (List.mem_cons.1 (h.filed e he)).resolve_left fun heq => ?_
    exact bne_iff_ne.1 hkey (congrArg Deadline.key heq)
  · rw [hout]
    exact h.filter_actions (· != d.key)
  · rw [Ledger.run, List.map_append, List.nodup_append]
    refine ⟨h.once, ?_, ?_⟩
    · rw [List.map_map]
      exact h.nodup_keys.sublist (List.filter_sublist.map _)
    · rintro k hk k' hk' rfl
      obtain ⟨p, hp, rfl⟩ := List.mem_map.1 hk'
      obtain ⟨e, he, rfl⟩ := List.mem_map.1 hp
      exact (Ledger.mem_outstanding.1 (List.mem_filter.1 he).1).2.1 hk
  · rcases List.mem_append.1 hp with hp | hp
    · exact h.traced p hp
    · obtain ⟨e, he, rfl⟩ := List.mem_map.1 hp
      exact List.mem_map_of_mem (Ledger.mem_outstanding.1 (List.mem_filter.1 he).1).1

end Kept

/-- What a sweep has run, and how it leaves the watchdog. -/
structure Swept (l : Ledger α) (now : Moment) (heap : List Deadline)
    (es : List (Deadline × Action α)) (w : Watch α) : Prop where
  ordered : es.Pairwise fun e e' => e.1.Before e'.1
  due : ∀ e ∈ es, e ∈ l.outstanding ∧ e.1 ∈ heap ∧ e.1.moment.nanos ≤ now.nanos
  kept : Kept (l.run (es.map named)) w
  rest : ∀ d ∈ w.heap, now.nanos < d.moment.nanos

/-- **A sweep runs everything that is due, in order.** -/
theorem Kept.sweep {l : Ledger α} {heap : List Deadline} {actions : List (Nat × Action α)}
    (h : Kept l ⟨heap, actions⟩) (now : Moment) :
    ∃ es, (Watch.sweep now heap actions).1 = es.map named ∧
      Swept l now heap es (Watch.sweep now heap actions).2 := by
  induction heap generalizing l actions with
  | nil => exact ⟨[], rfl, .nil, nofun, by rwa [List.map_nil, Ledger.run_nil], nofun⟩
  | cons d rest ih =>
      obtain ⟨hfirst, hsorted⟩ := List.pairwise_cons.1 h.sorted
      rw [Watch.sweep]
      split
      · next hdue =>
        have hle : d.moment.nanos ≤ now.nanos := of_decide_eq_true hdue
        obtain ⟨es, hran, hswept⟩ := ih h.run
        have hnow : actions.filter (·.1 == d.key) =
            (l.outstanding.filter (·.1.key == d.key)).map named := h.filter_actions (· == d.key)
        have hout := h.outstanding_run d.key
        have hdead : ∀ e ∈ l.outstanding.filter (·.1.key == d.key), e.1 = d := fun e he => by
          obtain ⟨he, hkey⟩ := List.mem_filter.1 he
          exact h.eq_of_mem_heap (Ledger.mem_outstanding.1 he).1 List.mem_cons_self
            (beq_iff_eq.1 hkey)
        refine ⟨l.outstanding.filter (·.1.key == d.key) ++ es, ?_, ?_, fun e he => ?_, ?_,
          hswept.rest⟩
        · rw [List.map_append, ← hran, ← hnow]
        · refine List.pairwise_append.2 ⟨h.pairwise_filter_key d.key _, hswept.ordered, ?_⟩
          intro e he e' he'
          rw [hdead e he]
          exact hfirst _ (hswept.due e' he').2.1
        · rcases List.mem_append.1 he with he | he
          · rw [hdead e he]
            exact ⟨(List.mem_filter.1 he).1, List.mem_cons_self, hle⟩
          · obtain ⟨hopen, hmem, hdue⟩ := hswept.due e he
            rw [hout] at hopen
            exact ⟨(List.mem_filter.1 hopen).1, List.mem_cons_of_mem _ hmem, hdue⟩
        · rw [List.map_append, ← hnow, ← Ledger.run_run]
          exact hswept.kept
      · next hlater =>
        have hlt : now.nanos < d.moment.nanos := by
          simpa only [Moment.atMost, decide_eq_true_eq, Int.not_le] using hlater
        refine ⟨[], rfl, .nil, nofun, by rwa [List.map_nil, Ledger.run_nil], fun d' hd' => ?_⟩
        rcases List.mem_cons.1 hd' with rfl | hd'
        · exact hlt
        · exact Int.lt_of_lt_of_le hlt (hfirst d' hd').le

/-! ### Turns -/

/-- What a turn does, given the ledger before it. -/
structure Attends (l : Ledger α) (r : Round α) : Prop where
  /-- It runs, in the order of deadlines, actions that are outstanding and due. -/
  runs : ∃ es : List (Deadline × Action α), r.ran = es.map named ∧
    es.Pairwise (fun e e' => e.1.Before e'.1) ∧
    ∀ e ∈ es, e ∈ (l.tell r.command?).outstanding ∧ e.1.moment.nanos ≤ r.now.nanos
  /-- After it, everything that is due has been run or was withdrawn. -/
  prompt : ∀ e ∈ (l.after r).registered, e.1.moment.nanos ≤ r.now.nanos →
    named e ∈ (l.after r).ran ∨ e.1.key ∈ (l.after r).withdrawn
  pending : r.pending = (l.after r).outstanding.length

/-- The turn that a watchdog takes. -/
def round (command? : Option (WatchCommand α)) (now : Moment) (w : Watch α) : Round α :=
  ⟨command?, now, (w.turn command? now).1, (w.turn command? now).2.pending⟩

theorem registered_after (l : Ledger α) (r : Round α) :
    (l.after r).registered = l.registered ++ (r.command?.bind registration?).toList := by
  rw [Ledger.after, Ledger.run]
  rcases r.command? with _ | (_ | key)
  · exact (List.append_nil _).symm
  · rfl
  · exact (Ledger.registered_cancel l key).trans (List.append_nil _).symm

variable {l : Ledger α} {w : Watch α}

/-- **A turn does what the ledger asks for.** -/
theorem Kept.turn (h : Kept l w) (command? : Option (WatchCommand α)) (now : Moment)
    (hfresh : ∀ e, command?.bind registration? = some e → e.1.key ∉ l.registered.map (·.1.key)) :
    Kept (l.after (w.round command? now)) (w.turn command? now).2 ∧
      Attends l (w.round command? now) := by
  obtain ⟨w', hturn, hkept⟩ : ∃ w' : Watch α,
      w.turn command? now = Watch.sweep now w'.heap w'.actions ∧ Kept (l.tell command?) w' := by
    rcases command? with _ | command
    · exact ⟨w, rfl, h⟩
    · exact ⟨_, rfl, h.receive command hfresh⟩
  obtain ⟨es, hran, hswept⟩ := hkept.sweep now
  rw [← hturn] at hran hswept
  have hafter : l.after (w.round command? now) = (l.tell command?).run (es.map named) := by
    rw [Ledger.after, round, hran]
  rw [hafter]
  refine ⟨hswept.kept, ⟨es, hran, hswept.ordered, fun e he => ?_⟩, fun e he hdue => ?_, ?_⟩
  · exact ⟨(hswept.due e he).1, (hswept.due e he).2.2⟩
  · rw [hafter] at he ⊢
    by_contra hmissed
    obtain ⟨hnotRun, hstanding⟩ := not_or.1 hmissed
    -- it would be outstanding, so that its deadline would be in the heap, and is not due
    have hopen : e ∈ ((l.tell command?).run (es.map named)).outstanding := by
      refine Ledger.mem_outstanding.2 ⟨he, fun hkey => hnotRun ?_, hstanding⟩
      obtain ⟨p, hp, hsame⟩ := List.mem_map.1 hkey
      obtain ⟨e', he', rfl⟩ := List.mem_map.1 (hswept.kept.traced p hp)
      rwa [hswept.kept.eq_of_key_eq he he' hsame.symm]
    have hlater : now.nanos < e.1.moment.nanos := hswept.rest _ (hswept.kept.filed e hopen)
    exact absurd hdue (Int.not_le.2 hlater)
  · rw [hafter, round, Watch.pending, hswept.kept.actions, List.length_map]

theorem registered_append_registrations (l : Ledger α) (w : Watch α)
    (command? : Option (WatchCommand α)) (now : Moment)
    (ticks : List (Option (WatchCommand α) × Moment)) :
    l.registered ++ registrations ((command?, now) :: ticks) =
      (l.after (w.round command? now)).registered ++ registrations ticks := by
  rw [registered_after, List.append_assoc]
  rcases hr : command?.bind registration? with _ | e <;> simp [registrations, round, hr]

/-- If no key is registered twice, the next one is new. -/
theorem fresh_of_nodup {command? : Option (WatchCommand α)} {now : Moment}
    {ticks : List (Option (WatchCommand α) × Moment)}
    (hdistinct : ((l.registered ++ registrations ((command?, now) :: ticks)).map (·.1.key)).Nodup)
    (e : Deadline × Action α) (he : command?.bind registration? = some e) :
    e.1.key ∉ l.registered.map (·.1.key) := by
  intro hmem
  have hnew : e ∈ registrations ((command?, now) :: ticks) :=
    List.mem_filterMap.2 ⟨_, List.mem_cons_self, he⟩
  rw [List.map_append] at hdistinct
  exact (List.nodup_append.1 hdistinct).2.2 _ hmem _ (List.mem_map_of_mem hnew) rfl

/-- Turn after turn, the watchdog has what the ledger says and does what it asks for. -/
theorem Kept.rounds (h : Kept l w) (ticks : List (Option (WatchCommand α) × Moment))
    (hdistinct : ((l.registered ++ registrations ticks).map (·.1.key)).Nodup) :
    (∃ w', Kept ((rounds ticks w).foldl .after l) w') ∧
      ∀ past r later, rounds ticks w = past ++ r :: later → Attends (past.foldl .after l) r := by
  induction ticks generalizing l w with
  | nil => exact ⟨⟨w, h⟩, by simp [Watch.rounds]⟩
  | cons tick ticks ih =>
      obtain ⟨command?, now⟩ := tick
      have hrounds : Watch.rounds ((command?, now) :: ticks) w =
          w.round command? now :: Watch.rounds ticks (w.turn command? now).2 := rfl
      obtain ⟨hkept, hattends⟩ := h.turn command? now (fresh_of_nodup hdistinct)
      rw [registered_append_registrations l w] at hdistinct
      obtain ⟨hlast, hlater⟩ := ih hkept hdistinct
      rw [hrounds]
      refine ⟨hlast, fun past r later hsplit => ?_⟩
      rcases past with _ | ⟨r', past⟩
      · obtain ⟨rfl, -⟩ := List.cons.inj hsplit
        exact hattends
      · obtain ⟨rfl, hrest⟩ := List.cons.inj hsplit
        exact hlater past r later hrest

theorem Ledger.withdrawn_subset_tell (l : Ledger α) (command? : Option (WatchCommand α)) :
    l.withdrawn ⊆ (l.tell command?).withdrawn := by
  rcases command? with _ | (_ | key)
  · exact fun _ h => h
  · exact fun _ h => h
  · rw [Ledger.tell]
    split
    · exact List.subset_cons_self ..
    · exact fun _ h => h

theorem Ledger.withdrawn_subset_foldl (l : Ledger α) (h : List (Round α)) :
    l.withdrawn ⊆ (h.foldl .after l).withdrawn := by
  induction h generalizing l with
  | nil => exact fun _ h => h
  | cons r h ih => exact List.Subset.trans (l.withdrawn_subset_tell r.command?) (ih (l.after r))

/-! ### How actions end

What a watchdog does is the same for any actions under the same keys. So in particular a run in
which actions panic is one in which they do not. -/

section Map

variable {β : Type} (g : Action α → Action β)

/-- The watchdog with other actions. -/
def map (w : Watch α) : Watch β := ⟨w.heap, w.actions.map (Prod.map id g)⟩

/-- The turn with other actions. -/
def Round.map (r : Round α) : Round β :=
  ⟨r.command?.map (.map g), r.now, r.ran.map (Prod.map id g), r.pending⟩

theorem drop_map (key : Nat) (w : Watch α) : (w.map g).drop key = (w.drop key).map g := by
  simp only [drop, map, List.filter_map]
  rfl

theorem rebuild_map (w : Watch α) : (w.map g).rebuild = w.rebuild.map g := by
  have hlive : ∀ key, (w.map g).isLive key = w.isLive key := by
    intro key
    simp only [isLive, map, List.any_map]
    rfl
  simp only [rebuild, hlive]
  simp only [map, List.length_map]
  split <;> rfl

theorem receive_map (c : WatchCommand α) (w : Watch α) :
    (w.map g).receive (c.map g) = (w.receive c).map g := by
  cases c with
  | register key moment action =>
      simp only [WatchCommand.map, receive, drop_map]
      simp only [map, List.map_append]
      rfl
  | cancel key => simp only [WatchCommand.map, receive, drop_map, rebuild_map]

theorem sweep_map (now : Moment) (heap : List Deadline) (actions : List (Nat × Action α)) :
    sweep now heap (actions.map (Prod.map id g)) =
      ((sweep now heap actions).1.map (Prod.map id g), (sweep now heap actions).2.map g) := by
  induction heap generalizing actions with
  | nil => rfl
  | cons d rest ih =>
      have hdue : (actions.map (Prod.map id g)).filter (·.1 == d.key) =
          (actions.filter (·.1 == d.key)).map (Prod.map id g) := List.filter_map
      have hleft : (actions.map (Prod.map id g)).filter (·.1 != d.key) =
          (actions.filter (·.1 != d.key)).map (Prod.map id g) := List.filter_map
      rw [sweep, sweep, hdue, hleft, ih]
      split
      · rw [List.map_append]
      · rfl

theorem turn_map (command? : Option (WatchCommand α)) (now : Moment) (w : Watch α) :
    (w.map g).turn (command?.map (.map g)) now =
      ((w.turn command? now).1.map (Prod.map id g), (w.turn command? now).2.map g) := by
  rcases command? with _ | c
  · exact sweep_map g now w.heap w.actions
  · simp only [turn, Option.map_some, receive_map]
    exact sweep_map g now _ _

/-- **How actions end makes no difference**, nor does anything else about them. -/
theorem rounds_map (ticks : List (Option (WatchCommand α) × Moment)) (w : Watch α) :
    rounds (ticks.map (Prod.map (Option.map (.map g)) id)) (w.map g) =
      (rounds ticks w).map (Round.map g) := by
  induction ticks generalizing w with
  | nil => rfl
  | cons tick ticks ih =>
      obtain ⟨command?, now⟩ := tick
      have hpending : ((w.turn command? now).2.map g).pending = (w.turn command? now).2.pending :=
        List.length_map ..
      simp only [List.map_cons, Prod.map_apply, id_eq, rounds, turn_map, ih, hpending]
      rfl

end Map

/-- What a watchdog does in all its turns. -/
structure Vigilant (h : List (Round α)) : Prop where
  /-- No action is run twice. -/
  once : ((ledger h).ran.map (·.1)).Nodup
  /-- What was withdrawn is not run. -/
  spared : ∀ past later, h = past ++ later → ∀ key ∈ (ledger past).withdrawn,
    ∀ r ∈ later, key ∉ r.ran.map (·.1)
  attends : ∀ past r later, h = past ++ r :: later → Attends (ledger past) r

/-- **A watchdog runs every action once, in the first turn in which it is due, unless it was
withdrawn before.** Whatever it is told in whatever order, as long as no key is registered twice,
and whatever the clock says: what a turn runs was registered, is due, and was neither run nor
withdrawn before, nor in this turn; it is run in the order of deadlines; and nothing else that is
due is left. What waits is what was registered and neither run nor withdrawn. -/
theorem vigilant_rounds (ticks : List (Option (WatchCommand α) × Moment))
    (hdistinct : ((registrations ticks).map (·.1.key)).Nodup) :
    Vigilant (rounds ticks (.empty : Watch α)) := by
  obtain ⟨⟨w, hkept⟩, hattends⟩ := kept_empty.rounds ticks hdistinct
  refine ⟨hkept.once, fun past later hsplit key hkey r hr hran => ?_, hattends⟩
  obtain ⟨before, after, rfl⟩ := List.append_of_mem hr
  obtain ⟨es, hes, -, hopen⟩ :=
    (hattends (past ++ before) r after (by rw [hsplit, List.append_assoc])).runs
  rw [hes] at hran
  obtain ⟨p, hp, rfl⟩ := List.mem_map.1 hran
  obtain ⟨e, he, rfl⟩ := List.mem_map.1 hp
  refine (Ledger.mem_outstanding.1 (hopen e he).1).2.2 (Ledger.withdrawn_subset_tell _ _ ?_)
  rw [List.foldl_append]
  exact Ledger.withdrawn_subset_foldl _ before hkey

/-- Seventy alarms at the same moment, and all but the last one withdrawn. An earlier one panics. -/
def alarms : List (Option (WatchCommand String) × Moment) :=
  ((List.range 70).map fun key => (some (.register key ⟨100⟩ ⟨toString key, .done⟩), ⟨0⟩)) ++
    ((List.range 69).map fun key => (some (.cancel key), ⟨1⟩)) ++
    [(some (.register 70 ⟨50⟩ ⟨"early", .panicked⟩), ⟨2⟩), (none, ⟨100⟩)]

/-- On the way the heap is rebuilt, and what is left runs in the last turn, in order and whatever it
ends in. -/
theorem vigilant_alarms : ((registrations alarms).map (·.1.key)).Nodup ∧
    ((rounds alarms .empty).map (·.ran)).flatten =
      [(70, ⟨"early", .panicked⟩), (69, ⟨"69", .done⟩)] ∧
    Vigilant (rounds alarms .empty) := by
  have hdistinct : ((registrations alarms).map (·.1.key)).Nodup := by decide +kernel
  exact ⟨hdistinct, by decide +kernel, vigilant_rounds alarms hdistinct⟩

end Watch

end GradedReading
