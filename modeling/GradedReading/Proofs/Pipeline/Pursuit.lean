import GradedReading.Proofs.Pipeline.Custody

/-!
# GradedReading.Proofs.Pipeline.Pursuit

What an operation finds is new to its cursor.

**Key idea:** an operation begins with a cursor and ends with one, and in between a task may have
it. There is one cursor at a time. It stays with the same query, its next rank only grows, and
whatever the tasks of the operation have collected is ranked from the next rank of the first cursor
to that of the present one. This is kept by every step of the table of custody.
-/

namespace GradedReading

open Search Instr

/-- The body of the task has not begun. -/
def Phase.isAhead {ρ : Type} : Phase ρ → Bool
  | .queued | .taken | .cleared => true
  | _ => false

/-! ### What a search knows -/

namespace PoolTask

variable {t : PoolTask SearchTask (List SearchResult)}

/-- A search knows nothing before its body begins, and gives nothing but what it has collected. -/
structure Collects (t : PoolTask SearchTask (List SearchResult)) : Prop where
  ahead : t.phase.isAhead = true → t.task.fetch = none ∧ t.outcome = none
  /-- Only a failure comes while the body runs. -/
  running : ∀ d o, t.phase = .running d → t.outcome = some o → ∃ e, o = .failed e
  returned : ∀ d rs, t.phase = .returned d (.completed rs) → ∃ f, t.task.fetch = some f ∧ f.out = rs
  outcome : ∀ rs, t.outcome = some (.completed rs) → ∃ f, t.task.fetch = some f ∧ f.out = rs

theorem collects_queued (number : Nat) {u : SearchTask} (hu : u.fetch = none) :
    (PoolTask.mk number u .queued none : PoolTask _ (List SearchResult)).Collects :=
  ⟨fun _ => ⟨hu, rfl⟩, by simp, by simp, by simp⟩

theorem Collects.turn (h : t.Collects) {flagged untold : Prop} {phase : Phase (List SearchResult)}
    {offer : Option (TaskOutcome (List SearchResult))}
    (hturn : t.phase.Turn flagged untold phase offer) : (t.turn phase offer).Collects := by
  obtain ⟨number, task, before, outcome⟩ := t
  refine ⟨fun hidle => ?_, fun d o hrun ho => ?_, fun d rs hreturned => ?_, fun rs hrs => ?_⟩
  · -- on the way to its body a task is given nothing
    have hahead := h.ahead
    cases hturn with
    | take | clear => simpa [PoolTask.turn] using hahead rfl
    | expire _ e hdeadline =>
        cases before <;> simp_all [PoolTask.turn, Phase.isAhead, Phase.deadline?]
    | _ => simp [PoolTask.turn, Phase.isAhead] at hidle
  · rcases Option.or_eq_some_iff.1 ho with hold | ⟨-, hoffer⟩
    · cases hturn with
      | run =>
          obtain rfl : outcome = none := (h.ahead rfl).2
          simp at hold
      | expire => exact h.running d o hrun hold
      | _ => simp [PoolTask.turn] at hrun
    · cases hturn with
      | expire _ e => exact ⟨e, by simpa [eq_comm] using hoffer⟩
      | _ => simp [PoolTask.turn] at hrun hoffer
  · cases hturn with
    | expire => exact h.returned d rs hreturned
    | _ => simp [PoolTask.turn] at hreturned
  · rcases Option.or_eq_some_iff.1 hrs with hold | ⟨-, hoffer⟩
    · exact h.outcome rs hold
    · -- of all that is offered only the end of a body is a success
      cases hturn with
      | settle d o =>
          obtain rfl := Option.some.inj hoffer
          exact h.returned d rs rfl
      | _ => simp at hoffer

/-- A search whose body runs may learn more. -/
theorem Collects.of_running (h : t.Collects) {d : Option Moment} (hrun : t.phase = .running d)
    (u : SearchTask) : ({ t with task := u } : PoolTask _ _).Collects where
  ahead hidle := by simp [hrun, Phase.isAhead] at hidle
  running := h.running
  returned d' rs hreturned := by simp [hrun] at hreturned
  outcome rs hrs := by
    obtain ⟨e, he⟩ := h.running d _ hrun hrs
    simp at he

/-- The body of a search ends. -/
theorem Collects.of_returned (h : t.Collects) {d : Option Moment}
    {o : TaskOutcome (List SearchResult)}
    (ho : ∀ rs, o = .completed rs → ∃ f, t.task.fetch = some f ∧ f.out = rs) :
    ({ t with phase := .returned d o } : PoolTask _ _).Collects where
  ahead hidle := by simp [Phase.isAhead] at hidle
  running := by simp
  returned d' rs hreturned := by
    obtain ⟨-, rfl⟩ : d = d' ∧ o = .completed rs := by simpa using hreturned
    exact ho rs rfl
  outcome := h.outcome

/-- The task has the cursor of the operation, in this call for results. -/
structure Holds (n : Nat) (f : Fetch) (t : PoolTask SearchTask (List SearchResult)) : Prop where
  operation : t.task.operation = n
  fetch : t.task.fetch = some f
  running : ∃ d, t.phase = .running d

/-- No turn of a task moves a cursor. -/
theorem holds_turn (h : t.Collects) {flagged untold : Prop} {phase : Phase (List SearchResult)}
    {offer : Option (TaskOutcome (List SearchResult))}
    (hturn : t.phase.Turn flagged untold phase offer) (n : Nat) (f : Fetch) :
    (t.turn phase offer).Holds n f ↔ t.Holds n f := by
  obtain ⟨number, task, before, outcome⟩ := t
  refine ⟨fun ⟨hop, hfetch, d, hrun⟩ => ?_, fun ⟨hop, hfetch, d, hrun⟩ => ?_⟩
  · cases hturn with
    | run =>
        -- a body that has just begun knows nothing
        have hnone : task.fetch = none := (h.ahead rfl).1
        simp [PoolTask.turn, hnone] at hfetch
    | expire => exact ⟨hop, hfetch, d, hrun⟩
    | _ => simp [PoolTask.turn] at hrun
  · cases hturn with
    | expire => exact ⟨hop, hfetch, d, hrun⟩
    | _ => simp at hrun

end PoolTask

namespace Pipeline

variable {sv : Services} {told : Prop} {p p' : Pipeline} {a : Act} {i j n : Nat}

theorem mem_searches_set {l : List (PoolTask SearchTask (List SearchResult))}
    {P : PoolTask SearchTask (List SearchResult) → Prop} (h : ∀ t ∈ l, P t)
    {t' : PoolTask SearchTask (List SearchResult)} (ht' : P t') :
    ∀ t ∈ l.set i t', P t := fun t ht =>
  (List.mem_or_eq_of_mem_set ht).elim (h t) fun heq => heq ▸ ht'

theorem collects_step (hs : p.Sound sv told) (h : ∀ t ∈ p.searches, t.Collects)
    (hstep : CursorStep sv p a p') : ∀ t ∈ p'.searches, t.Collects := by
  cases hstep with
  | rest htasks | leave _ htasks => exact htasks ▸ h
  | @submit _ _ x u number hx hu htasks =>
      have hfresh := (hs.scripts x hx).submits .search u hu
      have hnone : u.fetch = none := by rw [← hfresh]; rfl
      rw [htasks]
      intro t ht
      rcases List.mem_append.1 ht with hold | hnew
      · exact h t hold
      · rw [List.mem_singleton.1 hnew]
        exact PoolTask.collects_queued number hnone
  | turn ht hturn htasks =>
      exact htasks ▸ mem_searches_set h ((h _ (List.mem_of_getElem? ht)).turn hturn)
  | hold _ ht hrun _ _ htasks | goOn ht hrun _ _ htasks =>
      exact htasks ▸ mem_searches_set h ((h _ (List.mem_of_getElem? ht)).of_running hrun _)
  | miss e ht _ _ htasks =>
      exact htasks ▸ mem_searches_set h
        ((h _ (List.mem_of_getElem? ht)).of_returned fun rs hrs => by simp at hrs)
  | @giveBack _ _ i t d f verdict ht _ hfetch hverdict htasks =>
      have hmem := List.mem_of_getElem? ht
      have hnumbered : f.Numbered := (hs.tasks .search t hmem).numbered f hfetch
      refine htasks ▸ mem_searches_set h ((h t hmem).of_returned fun rs hrs => ⟨f, hfetch, ?_⟩)
      cases verdict with
      | value rs' =>
          obtain rfl : rs' = rs := by simpa [searchOutcome] using hrs
          exact (hnumbered.verdict rs' hverdict).symm
      | error e | panic m => simp [searchOutcome] at hrs

/-! ### Where the cursor is -/

/-- The task at a place has the cursor of the operation, in this call for results. -/
def HoldsAt (n j : Nat) (f : Fetch) (p : Pipeline) : Prop :=
  ∃ t, p.searches[j]? = some t ∧ t.Holds n f

/-- What the searches of an operation have collected. -/
def Collected (n : Nat) (p : Pipeline) (r : SearchResult) : Prop :=
  ∃ t ∈ p.searches, t.task.operation = n ∧ ∃ f, t.task.fetch = some f ∧ r ∈ f.out

/-- The operation has this cursor: it is in the operation, or a task has it. -/
inductive HasCursor (n : Nat) (p : Pipeline) : Cursor → Prop
  | here {c : Cursor} (h : p.place? n = some (.here c)) : HasCursor n p c
  | held {j : Nat} {f : Fetch} (h : p.HoldsAt n j f) : HasCursor n p f.cursor

/-- An operation pursues the search that it was created to continue. -/
structure Pursues (n : Nat) (c₀ : Cursor) (p : Pipeline) : Prop where
  known : (p.place? n).isSome = true
  /-- A task has the cursor if and only if the cursor is on loan. -/
  held_iff : p.place? n = some .held ↔ ∃ j f, p.HoldsAt n j f
  /-- One task at a time has the cursor. -/
  one : ∀ i j f g, p.HoldsAt n i f → p.HoldsAt n j g → i = j
  query : ∀ c, p.HasCursor n c → c.query = c₀.query ∧ c₀.nextRank ≤ c.nextRank
  /-- What was collected is new to the first cursor. -/
  fresh : ∀ r, p.Collected n r → c₀.nextRank ≤ r.rank
  /-- What was collected is known to the present cursor. -/
  seen : ∀ c, p.HasCursor n c → ∀ r, p.Collected n r → r.rank < c.nextRank

variable {c₀ : Cursor} {t t' : PoolTask SearchTask (List SearchResult)}

theorem getElem?_searches_set (ht : p.searches[i]? = some t)
    (htasks : p'.searches = p.searches.set i t') (j : Nat) :
    p'.searches[j]? = if j = i then some t' else p.searches[j]? := by
  obtain ⟨hi, -⟩ := List.getElem?_eq_some_iff.1 ht
  rw [htasks, List.getElem?_set]
  by_cases hj : j = i
  · subst hj
    simp [hi]
  · simp [hj, Ne.symm hj]

/-- Nobody else has a cursor after a change of one task than before. -/
theorem holdsAt_set (ht : p.searches[i]? = some t) (htasks : p'.searches = p.searches.set i t')
    {f : Fetch} : p'.HoldsAt n j f ↔ if j = i then t'.Holds n f else p.HoldsAt n j f := by
  unfold HoldsAt
  rw [getElem?_searches_set ht htasks]
  split
  · simp
  · exact Iff.rfl

/-- What was collected after a change of one task was collected before, or by this task. -/
theorem collected_set (htasks : p'.searches = p.searches.set i t') {r : SearchResult}
    (hr : p'.Collected n r) : p.Collected n r ∨
      t'.task.operation = n ∧ ∃ f, t'.task.fetch = some f ∧ r ∈ f.out := by
  obtain ⟨u, hu, hop, hfetch⟩ := hr
  rw [htasks] at hu
  rcases List.mem_or_eq_of_mem_set hu with hold | rfl
  · exact .inl ⟨u, hold, hop, hfetch⟩
  · exact .inr ⟨hop, hfetch⟩

/-- An operation goes on if nothing about its cursor changes. -/
theorem Pursues.of_same (h : p.Pursues n c₀) (hplace : p'.place? n = p.place? n)
    (hholds : ∀ j f, p'.HoldsAt n j f ↔ p.HoldsAt n j f)
    (hcollected : ∀ r, p'.Collected n r → p.Collected n r) : p'.Pursues n c₀ := by
  have hcursor : ∀ c, p'.HasCursor n c → p.HasCursor n c := by
    rintro c (hhere | hheld)
    · exact .here (hplace ▸ hhere)
    · exact .held ((hholds _ _).1 hheld)
  refine ⟨hplace ▸ h.known, ?_, fun i j f g hi hj => ?_, fun c hc => h.query c (hcursor c hc),
    fun r hr => h.fresh r (hcollected r hr),
    fun c hc r hr => h.seen c (hcursor c hc) r (hcollected r hr)⟩
  · simp only [hplace, hholds]
    exact h.held_iff
  · exact h.one i j f g ((hholds i f).1 hi) ((hholds j g).1 hj)

/-- The same for a change of one task. -/
theorem Pursues.set (h : p.Pursues n c₀) (hplace : p'.place? n = p.place? n)
    (ht : p.searches[i]? = some t) (htasks : p'.searches = p.searches.set i t')
    (hholds : ∀ f, t'.Holds n f ↔ t.Holds n f)
    (hfetch : t'.task.operation = n → t.task.operation = n ∧ t'.task.fetch = t.task.fetch) :
    p'.Pursues n c₀ := by
  refine h.of_same hplace (fun j f => ?_) fun r hr => ?_
  · rw [holdsAt_set ht htasks]
    split
    · next hj => simp [hj, HoldsAt, ht, hholds]
    · exact Iff.rfl
  · rcases collected_set htasks hr with hold | ⟨hop, f, hf, hr⟩
    · exact hold
    · obtain ⟨hop, hsame⟩ := hfetch hop
      exact ⟨t, List.mem_of_getElem? ht, hop, f, hsame ▸ hf, hr⟩

/-- A task of another operation changes. -/
theorem Pursues.set_of_ne (h : p.Pursues n c₀) (hplace : p'.place? n = p.place? n)
    (ht : p.searches[i]? = some t) (htasks : p'.searches = p.searches.set i t')
    (hne : t.task.operation ≠ n) (hsame : t'.task.operation = t.task.operation) :
    p'.Pursues n c₀ :=
  h.set hplace ht htasks
    (fun _ => ⟨fun hf => absurd (hsame.symm.trans hf.operation) hne,
      fun hf => absurd hf.operation hne⟩)
    fun hop => absurd (hsame.symm.trans hop) hne

/-- A task has the cursor, and all that was collected is known to it. -/
theorem pursues_of_holder {f : Fetch} (hplace : p'.place? n = some .held) (hi : p'.HoldsAt n i f)
    (hone : ∀ j g, p'.HoldsAt n j g → j = i ∧ g = f) (hquery : f.cursor.query = c₀.query)
    (hle : c₀.nextRank ≤ f.cursor.nextRank)
    (hout : ∀ r, p'.Collected n r → c₀.nextRank ≤ r.rank ∧ r.rank < f.cursor.nextRank) :
    p'.Pursues n c₀ := by
  have hcursor : ∀ c, p'.HasCursor n c → c = f.cursor := by
    rintro c (hhere | hheld)
    · simp [hplace] at hhere
    · rw [(hone _ _ hheld).2]
  refine ⟨by simp [hplace], iff_of_true hplace ⟨i, f, hi⟩, fun i' j g g' hi' hj => ?_,
    fun c hc => ?_, fun r hr => (hout r hr).1, fun c hc r hr => ?_⟩
  · rw [(hone i' g hi').1, (hone j g' hj).1]
  · rw [hcursor c hc]
    exact ⟨hquery, hle⟩
  · rw [hcursor c hc]
    exact (hout r hr).2

/-- Nobody has the cursor. It is in the operation, or it was taken for good. -/
theorem pursues_of_free {place : CursorPlace} (hplace : p'.place? n = some place)
    (hfree : place ≠ .held) (hnone : ∀ j f, ¬p'.HoldsAt n j f)
    (hquery : ∀ c, place = .here c → c.query = c₀.query ∧ c₀.nextRank ≤ c.nextRank)
    (hfresh : ∀ r, p'.Collected n r → c₀.nextRank ≤ r.rank)
    (hseen : ∀ c, place = .here c → ∀ r, p'.Collected n r → r.rank < c.nextRank) :
    p'.Pursues n c₀ := by
  have hcursor : ∀ c, p'.HasCursor n c → place = .here c := by
    rintro c (hhere | hheld)
    · exact Option.some.inj (hplace.symm.trans hhere)
    · exact absurd hheld (hnone _ _)
  refine ⟨by simp [hplace], iff_of_false (by simpa [hplace] using hfree) (by simpa using hnone),
    fun i j f g hi => absurd hi (hnone i f), fun c hc => hquery c (hcursor c hc), hfresh,
    fun c hc => hseen c (hcursor c hc)⟩

/-- The only cursor is that of the task that has it. -/
theorem Pursues.holder (h : p.Pursues n c₀) {f : Fetch} (ht : p.searches[i]? = some t)
    (hf : t.Holds n f) : p.place? n = some .held ∧ ∀ j g, p.HoldsAt n j g → j = i ∧ g = f := by
  have hi : p.HoldsAt n i f := ⟨t, ht, hf⟩
  refine ⟨h.held_iff.2 ⟨i, f, hi⟩, fun j g hj => ?_⟩
  obtain rfl := h.one j i g f hj hi
  obtain ⟨u, hu, hg⟩ := hj
  obtain rfl : t = u := Option.some.inj (ht.symm.trans hu)
  exact ⟨rfl, Option.some.inj (hg.fetch.symm.trans hf.fetch)⟩

/-- Nobody has a cursor that is somewhere else. -/
theorem Pursues.not_holdsAt (h : p.Pursues n c₀) (hplace : p.place? n ≠ some .held) (j : Nat)
    (f : Fetch) : ¬p.HoldsAt n j f := fun hj => hplace (h.held_iff.2 ⟨j, f, hj⟩)

theorem Puts.of_ne {m : Nat} {place : CursorPlace} (h : Puts m place p p') (hne : n ≠ m) :
    p'.place? n = p.place? n := (h n).trans (if_neg hne)

theorem Puts.of_some {place place' : CursorPlace} (h : Puts n place p p')
    (hplace : p.place? n = some place') : p'.place? n = some place := by
  rw [h n, if_pos rfl, hplace, Option.map_some]

/-- A search takes the cursor. -/
theorem Pursues.hold (h : p.Pursues n c₀) {d : Option Moment} {c : Cursor} (target : Nat)
    (ht : p.searches[i]? = some t) (hrun : t.phase = .running d) (hop : t.task.operation = n)
    (hplace : p.place? n = some (.here c))
    (htasks : p'.searches = p.searches.set i
      { t with task := { t.task with fetch := some (.start sv.blocked target c) } })
    (hplaces : Puts n .held p p') : p'.Pursues n c₀ := by
  have hfree := h.not_holdsAt (by simp [hplace])
  obtain ⟨hquery, hle⟩ := h.query c (.here hplace)
  obtain ⟨hquery', hle', hout⟩ := Fetch.goesOn_start sv.blocked target c
  have hi : p'.HoldsAt n i (.start sv.blocked target c) := (holdsAt_set ht htasks).2 (by
    rw [if_pos rfl]
    exact ⟨hop, rfl, d, hrun⟩)
  refine pursues_of_holder (hplaces.of_some hplace) hi (fun j g hj => ?_) (hquery'.trans hquery)
    (hle.trans hle') fun r hr => ?_
  · have hcases := (holdsAt_set ht htasks).1 hj
    split at hcases
    · next hj => exact ⟨hj, (Option.some.inj hcases.fetch).symm⟩
    · exact absurd hcases (hfree j g)
  · rcases collected_set htasks hr with hold | ⟨-, f, hf, hr⟩
    · exact ⟨h.fresh r hold, Nat.lt_of_lt_of_le (h.seen c (.here hplace) r hold) hle'⟩
    · obtain rfl := Option.some.inj hf
      obtain ⟨hlow, hhigh⟩ := (hout r hr).resolve_left (by simp)
      exact ⟨Nat.le_trans hle hlow, hhigh⟩

/-- A search that has the cursor goes on. -/
theorem Pursues.goOn (h : p.Pursues n c₀) {d : Option Moment} {f f' : Fetch} {arrived : Bool}
    (ht : p.searches[i]? = some t) (hrun : t.phase = .running d) (hop : t.task.operation = n)
    (hfetch : t.task.fetch = some f) (hf' : f'.GoesOn f.cursor f.out)
    (htasks : p'.searches = p.searches.set i
      { t with task := { t.task with fetch := some f', arrived } })
    (hplace : p'.place? n = p.place? n) : p'.Pursues n c₀ := by
  have hf : t.Holds n f := ⟨hop, hfetch, d, hrun⟩
  obtain ⟨hheld, hone⟩ := h.holder ht hf
  have hcursor : p.HasCursor n f.cursor := .held ⟨t, ht, hf⟩
  obtain ⟨hquery, hle⟩ := h.query _ hcursor
  have hmem := List.mem_of_getElem? ht
  -- what was collected before is known to the cursor before, and so to the one after
  have hold : ∀ r, p.Collected n r → c₀.nextRank ≤ r.rank ∧ r.rank < f'.cursor.nextRank :=
    fun r hr => ⟨h.fresh r hr, Nat.lt_of_lt_of_le (h.seen _ hcursor r hr) hf'.nextRank_le⟩
  have hi : p'.HoldsAt n i f' := (holdsAt_set ht htasks).2 (by
    rw [if_pos rfl]
    exact ⟨hop, rfl, d, hrun⟩)
  refine pursues_of_holder (hplace.trans hheld) hi (fun j g hj => ?_) (hf'.query.trans hquery)
    (hle.trans hf'.nextRank_le) fun r hr => ?_
  · have hcases := (holdsAt_set ht htasks).1 hj
    split at hcases
    · next hj => exact ⟨hj, (Option.some.inj hcases.fetch).symm⟩
    · next hj => exact absurd (hone j g hcases).1 hj
  · rcases collected_set htasks hr with hbefore | ⟨-, g, hg, hr⟩
    · exact hold r hbefore
    · obtain rfl := Option.some.inj hg
      rcases hf'.out r hr with hbefore | ⟨hlow, hhigh⟩
      · exact hold r ⟨t, hmem, hop, f, hfetch, hbefore⟩
      · exact ⟨Nat.le_trans hle hlow, hhigh⟩

/-- A search gives the cursor back. -/
theorem Pursues.giveBack (h : p.Pursues n c₀) {d : Option Moment} {f : Fetch}
    {o : TaskOutcome (List SearchResult)} (ht : p.searches[i]? = some t)
    (hrun : t.phase = .running d) (hop : t.task.operation = n) (hfetch : t.task.fetch = some f)
    (htasks : p'.searches = p.searches.set i { t with phase := .returned d o })
    (hplaces : Puts n (.here f.cursor) p p') : p'.Pursues n c₀ := by
  have hf : t.Holds n f := ⟨hop, hfetch, d, hrun⟩
  obtain ⟨hheld, hone⟩ := h.holder ht hf
  have hcursor : p.HasCursor n f.cursor := .held ⟨t, ht, hf⟩
  have hcollected : ∀ r, p'.Collected n r → p.Collected n r := fun r hr =>
    (collected_set htasks hr).elim id fun hnew => ⟨t, List.mem_of_getElem? ht, hnew⟩
  refine pursues_of_free (hplaces.of_some hheld) (by simp) (fun j g hj => ?_) ?_
    (fun r hr => h.fresh r (hcollected r hr)) ?_
  · have hcases := (holdsAt_set ht htasks).1 hj
    split at hcases
    · obtain ⟨d', hrun'⟩ := hcases.running
      simp at hrun'
    · next hj => exact hj (hone j g hcases).1
  · rintro c ⟨⟩
    exact h.query _ hcursor
  · rintro c ⟨⟩ r hr
    exact h.seen _ hcursor r (hcollected r hr)

/-- **Every step leaves an operation in pursuit of its search.** -/
theorem Pursues.step (h : p.Pursues n c₀) (hs : p.Sound sv told)
    (hcollects : ∀ t ∈ p.searches, t.Collects) (hstep : CursorStep sv p a p') :
    p'.Pursues n c₀ := by
  obtain ⟨place, hplace⟩ := Option.isSome_iff_exists.1 h.known
  have hsame : SamePlaces p p' → p'.place? n = p.place? n := fun hp => hp n (lt_of_place? hplace)
  cases hstep with
  | rest htasks hplaces =>
      exact h.of_same (hsame hplaces) (fun j f => by rw [HoldsAt, htasks, HoldsAt])
        fun r hr => by rwa [Collected, htasks] at hr
  | @submit _ _ x u number hx hu htasks hplaces =>
      have hnone : u.fetch = none := by
        rw [← (hs.scripts x hx).submits .search u hu]
        rfl
      refine h.of_same (hsame hplaces) (fun j f => ?_) fun r ⟨t, ht, hop, f, hf, hr⟩ => ?_
      · rw [HoldsAt, htasks, HoldsAt]
        refine ⟨fun ⟨t, ht, hf⟩ => ⟨t, ?_, hf⟩, fun ⟨t, ht, hf⟩ => ⟨t, ?_, hf⟩⟩
        · by_cases hj : j < p.searches.length
          · rwa [List.getElem?_append_left hj] at ht
          · -- the new task has no cursor
            rw [List.getElem?_append_right (Nat.le_of_not_lt hj)] at ht
            obtain rfl := List.mem_singleton.1 (List.mem_of_getElem? ht)
            simpa [hnone] using hf.fetch
        · exact (List.getElem?_append_left (List.getElem?_eq_some_iff.1 ht).1).trans ht
      · rw [htasks] at ht
        rcases List.mem_append.1 ht with hold | hnew
        · exact ⟨t, hold, hop, f, hf, hr⟩
        · rw [List.mem_singleton.1 hnew] at hf
          simp [hnone] at hf
  | turn ht hturn htasks hplaces =>
      exact h.set (hsame hplaces) ht htasks
        (PoolTask.holds_turn (hcollects _ (List.mem_of_getElem? ht)) hturn n) fun hop => ⟨hop, rfl⟩
  | miss e ht hrun hfetch htasks hplaces =>
      refine h.set (hsame hplaces) ht htasks (fun f => iff_of_false ?_ ?_) fun hop => ⟨hop, rfl⟩
      · rintro ⟨-, hf, -⟩
        simp [hfetch] at hf
      · rintro ⟨-, hf, -⟩
        simp [hfetch] at hf
  | @hold _ _ i t d c target ht hrun hfetch hhere htasks hplaces =>
      by_cases hop : t.task.operation = n
      · subst hop
        exact h.hold target ht hrun rfl hhere htasks hplaces
      · exact h.set_of_ne (hplaces.of_ne (Ne.symm hop)) ht htasks hop rfl
  | @goOn _ _ i t d f f' arrived ht hrun hfetch hf' htasks hplaces =>
      by_cases hop : t.task.operation = n
      · refine h.goOn ht hrun hop hfetch ?_ htasks (hsame hplaces)
        rcases hf' with rfl | ⟨-, calls, rfl⟩
        · exact ⟨rfl, Nat.le_refl _, fun r hr => .inl hr⟩
        · exact Fetch.goesOn_step sv.blocked _ f
      · exact h.set_of_ne (hsame hplaces) ht htasks hop rfl
  | @giveBack _ _ i t d f verdict ht hrun hfetch hverdict htasks hplaces =>
      by_cases hop : t.task.operation = n
      · subst hop
        exact h.giveBack ht hrun rfl hfetch htasks hplaces
      · exact h.set_of_ne (hplaces.of_ne (Ne.symm hop)) ht htasks hop rfl
  | @leave m c _ hhere htasks hplaces =>
      by_cases hm : n = m
      · subst hm
        have hcollected : ∀ r, p'.Collected n r → p.Collected n r := fun r hr => by
          rwa [Collected, htasks] at hr
        refine pursues_of_free (hplaces.of_some hhere) (by simp) (fun j f => ?_) (by simp)
          (fun r hr => h.fresh r (hcollected r hr)) (by simp)
        rw [HoldsAt, htasks]
        exact h.not_holdsAt (by simp [hhere]) j f
      · exact h.of_same (hplaces.of_ne hm) (fun j f => by rw [HoldsAt, htasks, HoldsAt])
          fun r hr => by rwa [Collected, htasks] at hr

/-- A cursor is taken for good by nothing but that, and it does not come back. -/
theorem Pursues.gone_iff (h : p.Pursues n c₀) (hstep : CursorStep sv p a p')
    (ha : ∀ m, a ≠ .call (.takeCursor m)) :
    p'.place? n = some .gone ↔ p.place? n = some .gone := by
  obtain ⟨place, hplace⟩ := Option.isSome_iff_exists.1 h.known
  cases hstep with
  | rest _ hplaces | submit _ _ _ hplaces | turn _ _ _ hplaces | goOn _ _ _ _ _ hplaces
  | miss _ _ _ _ _ hplaces => rw [hplaces n (lt_of_place? hplace)]
  | @hold _ _ i t d c target ht _ _ hhere _ hplaces =>
      by_cases hn : n = t.task.operation
      · subst hn
        simp [hplaces.of_some hhere, hhere]
      · rw [hplaces.of_ne hn]
  | @giveBack _ _ i t d f verdict ht hrun hfetch _ _ hplaces =>
      by_cases hn : n = t.task.operation
      · subst hn
        have hheld := (h.holder ht ⟨rfl, hfetch, d, hrun⟩).1
        simp [hplaces.of_some hheld, hheld]
      · rw [hplaces.of_ne hn]
  | @leave m => exact absurd rfl (ha m)

/-! ### Whatever happens -/

/-- A pipeline of which every task, script, course and search is as it should be. -/
structure Steady (sv : Services) (p : Pipeline) : Prop extends Fine sv p where
  searches : ∀ t ∈ p.searches, t.Collects

theorem steady_ofSettings (sv : Services) (settings : Settings) :
    (ofSettings settings).Steady sv where
  toFine := fine_ofSettings sv settings
  searches t ht := by simp [searches, ofSettings, Pools.ofSettings, Pool.ofSize] at ht

theorem Steady.act (h : p.Steady sv) (hp : p.act? sv a = some p') : p'.Steady sv where
  toFine := h.toFine.reaches (.of_act hp)
  searches := collects_step h.sound h.searches (cursorStep_act hp)

/-- What every act of a steady pipeline keeps, runs keep. -/
theorem Steady.run (h : p.Steady sv) {I : Pipeline → Prop} (hI : I p)
    (hstep : ∀ {p a p'}, p.Steady sv → p.act? sv a = some p' → I p → I p') {acts : List Act}
    (hrun : p.run? sv acts = some p') : p'.Steady sv ∧ I p' :=
  run_induction (I := fun p => p.Steady sv ∧ I p)
    (fun hp ⟨hsteady, hI⟩ => ⟨hsteady.act hp, hstep hsteady hp hI⟩) ⟨h, hI⟩ hrun

theorem Steady.reaches (h : p.Steady sv) (hp : Reaches sv p p') : p'.Steady sv := by
  obtain ⟨acts, hrun⟩ := hp
  exact (h.run (I := fun _ => True) trivial (fun _ _ h => h) hrun).1

theorem Pursues.reaches (h : p.Pursues n c₀) (hs : p.Steady sv) (hp : Reaches sv p p') :
    p'.Pursues n c₀ := by
  obtain ⟨acts, hrun⟩ := hp
  exact (hs.run h (fun hs hp h => h.step hs.sound hs.searches (cursorStep_act hp)) hrun).2

/-- An operation that has no cursor gets none. -/
theorem Steady.place?_eq_none (h : p.Steady sv) (hp : Reaches sv p p')
    (hn : n < p.operations.length) (hnone : p.place? n = none) :
    n < p'.operations.length ∧ p'.place? n = none := by
  obtain ⟨acts, hrun⟩ := hp
  refine (h.run (I := fun p => n < p.operations.length ∧ p.place? n = none) ⟨hn, hnone⟩
    (fun {p a p'} hs hp ⟨hn, hnone⟩ => ?_) hrun).2
  obtain ⟨ops, hops⟩ := hs.job?_reaches (.of_act hp)
    (job?_eq_some.2 ⟨_, List.getElem?_eq_getElem hn, rfl⟩)
  obtain ⟨o, ho, -⟩ := job?_eq_some.1 hops
  refine ⟨(List.getElem?_eq_some_iff.1 ho).1, ?_⟩
  have hsome := (cursorStep_act hp).isSome_place? hn
  rwa [hnone, Option.isSome_none, Option.isSome_eq_false_iff, Option.isNone_iff_eq_none] at hsome

/-- An operation that has a cursor before any task of it was there. -/
theorem pursues_new (hplace : p.place? n = some (.here c₀))
    (hnone : ∀ t ∈ p.searches, t.task.operation ≠ n) : p.Pursues n c₀ := by
  have hcollected : ∀ r, ¬p.Collected n r := by
    rintro r ⟨t, ht, hop, -⟩
    exact hnone t ht hop
  refine pursues_of_free hplace (by simp) ?_ ?_ (fun r hr => absurd hr (hcollected r))
    fun _ _ r hr => absurd hr (hcollected r)
  · rintro j f ⟨t, ht, hf⟩
    exact hnone t (List.mem_of_getElem? ht) hf.operation
  · rintro c ⟨⟩
    exact ⟨rfl, Nat.le_refl _⟩

end Pipeline

end GradedReading
