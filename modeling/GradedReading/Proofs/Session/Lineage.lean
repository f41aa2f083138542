import GradedReading.Proofs.Session.Ledger

/-!
# GradedReading.Proofs.Session.Lineage

What a session shows of a search that was continued.

**Key idea:** a session remembers one cursor and one collection, and either may come from an earlier
operation than the other. `Traced` says what ties them together. The cursor belongs to a search
whose documents are all in the collection, *if that search stands*: if the operation that began it
completed, or if there were no documents when it was launched. An operation that continues the
search begins with this cursor and adds to this collection, and when it completes the two belong
together again.

A search that did not complete leaves its cursor behind, but not a collection of its own. Whoever
continues it may add to the documents of another search.

Here is what ties them together, and that it lasts until the next launch.
-/

namespace GradedReading

open Search

namespace Session

variable {sv : Services} {s s' : Session} {a : Act} {l : Ledger} {n q : Nat} {x : Launch}
  {before : List Launch} {c₀ : Cursor}

/-- The relay of an operation has finished. -/
def isRelayed (n : Nat) (s : Session) : Bool := (s.relay? n).any (·.finished)

/-! ### What ties cursor and collection together -/

/-- The current operation, which was launched as `x` after all `before`, begins or continues the
search `q`, with the cursor `c₀`. What it brings in goes to the documents of the search. -/
structure Gathers (before : List Launch) (x : Launch) (q : Nat) (c₀ : Cursor) (s : Session) :
    Prop where
  continues : s.pipeline.Continues x.operation c₀
  root : q = x.operation ∨ Launch.Begun q before
  about : ∀ y ∈ before ++ [x], y.search = some q → y.query = some c₀.query
  ranks : ((Launch.documents q s.pipeline before).map (·.rank)).Nodup
  below : ∀ d ∈ Launch.documents q s.pipeline before, d.rank < c₀.nextRank
  /-- What the documents of the operation will be added to is there until they are. -/
  base : s.isRelayed x.operation = false →
    q = x.operation ∨ Launch.Stands q s.pipeline before →
    Shows c₀.query.language (Launch.documents q s.pipeline before) s.base
  /-- An operation that does not complete changes nothing. -/
  kept : s.isRelayed x.operation = false → s.pipeline.completion? x.operation = none →
    Launch.Stands q s.pipeline (before ++ [x]) →
    Shows c₀.query.language (Launch.documents q s.pipeline before) s.collection
  done : s.isRelayed x.operation = true → Launch.Stands q s.pipeline (before ++ [x]) →
    Shows c₀.query.language (Launch.documents q s.pipeline (before ++ [x])) s.collection
  stored : s.isRelayed x.operation = true →
    (s.pipeline.completion? x.operation).isSome = true → s.collection.isSome = true

/-- The same with what becomes of the cursor. -/
structure Searching (before : List Launch) (x : Launch) (q : Nat) (c₀ : Cursor) (l : Ledger)
    (s : Session) : Prop extends Gathers before x q c₀ s where
  /-- The cursor of the operation was taken over when the operation was over. -/
  taken : s.pipeline.place? x.operation = some .gone →
    s.pipeline.isOver x.operation = true ∧ l.continued = some q ∧
    ∃ c, s.cursor = some c ∧ c.query = c₀.query ∧ c₀.nextRank ≤ c.nextRank ∧
      ∀ d, s.pipeline.completion? x.operation = some d → ∀ y ∈ d.documents, y.rank < c.nextRank
  /-- Until then there may be a cursor of an earlier search. It is of use only if the operation,
  which begins a search of its own, does not complete. -/
  old : s.pipeline.place? x.operation ≠ some .gone → ∀ c, s.cursor = some c → q = x.operation ∧
    ∃ r, l.continued = some r ∧
      (s.isRelayed x.operation = true ∧ (s.pipeline.completion? x.operation).isSome = true ∨
        Ready before s.pipeline r c s.collection)

/-- The current operation was launched as `x` after all `before`. -/
def Current (before : List Launch) (x : Launch) (l : Ledger) (s : Session) : Prop :=
  x.search = none ∧ s.cursor = none ∧ s.pipeline.place? x.operation = none ∨
    ∃ q c₀, x.search = some q ∧ Searching before x q c₀ l s

/-- A session and its ledger. -/
structure Traced (sv : Services) (l : Ledger) (s : Session) : Prop where
  tidy : s.Tidy sv
  regular : s.pipeline.Regular sv
  launches : l.launches.map (·.operation) = s.launched
  relays : ∀ r ∈ s.relays, r.finished = true → s.pipeline.isOver r.operation = true
  /-- Every search was begun. -/
  begun : ∀ x ∈ l.launches, ∀ q, x.search = some q → Launch.Begun q l.launches
  idle : s.active = none → ∀ c, s.cursor = some c →
    ∃ r, l.continued = some r ∧ Ready l.launches s.pipeline r c s.collection
  current : ∀ n, s.active = some n →
    ∃ before x, l.launches = before ++ [x] ∧ x.operation = n ∧ Current before x l s

theorem traced_ofPipeline {p : Pipeline} (htidy : (ofPipeline p).Tidy sv)
    (hregular : p.Regular sv) : Traced sv .empty (ofPipeline p) where
  tidy := htidy
  regular := hregular
  launches := rfl
  relays r hr := by simp [ofPipeline] at hr
  begun x hx := by simp [Ledger.empty] at hx
  idle _ c hc := by simp [ofPipeline] at hc
  current n hn := by simp [ofPipeline] at hn

/-- All operations but the current one are over. -/
theorem Traced.isOver_before (h : Traced sv l s) (hactive : s.active = some x.operation)
    (hlaunches : l.launches = before ++ [x]) : ∀ y ∈ before,
      s.pipeline.isOver y.operation = true ∧ y.operation ≠ x.operation := by
  intro y hy
  have hdistinct := h.tidy.distinct
  rw [← h.launches, hlaunches, List.map_append, List.nodup_append] at hdistinct
  have hne : y.operation ≠ x.operation :=
    hdistinct.2.2 _ (List.mem_map_of_mem hy) _ (List.mem_map_of_mem (List.mem_singleton_self x))
  have hmem : y.operation ∈ s.launched := by
    rw [← h.launches, hlaunches]
    exact List.mem_map_of_mem (List.mem_append_left _ hy)
  refine ⟨(h.tidy.settled _ hmem).resolve_right fun hother => hne ?_, hne⟩
  exact Option.some.inj (hother.symm.trans hactive)

/-- The launch of the current operation is the only one. -/
theorem Traced.search?_eq (h : Traced sv l s) (hactive : s.active = some x.operation)
    (hlaunches : l.launches = before ++ [x]) :
    Launch.search? x.operation l.launches = x.search := by
  rw [hlaunches]
  exact Launch.search?_concat fun y hy => (h.isOver_before hactive hlaunches y hy).2

/-- With no current operation, all are over. -/
theorem Traced.isOver_all (h : Traced sv l s) (hactive : s.active = none) :
    ∀ y ∈ l.launches, s.pipeline.isOver y.operation = true := fun y hy => by
  have hmem : y.operation ∈ s.launched := h.launches ▸ List.mem_map_of_mem hy
  exact (h.tidy.settled _ hmem).resolve_right (by simp [hactive])

/-- An operation whose relay has finished is over. -/
theorem Traced.isOver_of_isRelayed (h : Traced sv l s) (hrelayed : s.isRelayed n = true) :
    s.pipeline.isOver n = true := by
  obtain ⟨r, hr, hfinished⟩ := (Option.any_eq_true ..).1 hrelayed
  have hop : r.operation = n := by simpa using List.find?_some hr
  exact hop ▸ h.relays r (List.mem_of_find?_eq_some hr) hfinished

/-- The current operation has a relay. -/
theorem Traced.isRelayed_of_active (h : Traced sv l s) (hactive : s.active = some n)
    (hrelayed : s.isRelaying = false) : s.isRelayed n = true := by
  obtain ⟨r, hr, hop⟩ := List.mem_map.1 (List.mem_of_getLast? (h.tidy.last n hactive))
  obtain ⟨k, hk⟩ := List.getElem?_of_mem hr
  have hrelay : s.relay? n = some r := hop ▸ h.tidy.relay?_eq hk
  rw [isRelaying, hactive, Option.bind_some, hrelay, Option.any_some] at hrelayed
  rw [isRelayed, hrelay, Option.any_some]
  simpa using hrelayed

/-! ### What the pipeline does -/

/-- Nothing happens any more to what was launched earlier. -/
theorem Traced.completion?_before (h : Traced sv l s) (hactive : s.active = some x.operation)
    (hlaunches : l.launches = before ++ [x]) {p : Pipeline}
    (hp : Pipeline.Reaches sv s.pipeline p) :
    ∀ y ∈ before, p.completion? y.operation = s.pipeline.completion? y.operation := fun y hy =>
  h.tidy.fine.completion?_reaches hp (h.isOver_before hactive hlaunches y hy).1

/-- Nor to the current operation once it is over. -/
theorem Traced.completion?_concat (h : Traced sv l s) (hactive : s.active = some x.operation)
    (hlaunches : l.launches = before ++ [x]) {p : Pipeline}
    (hp : Pipeline.Reaches sv s.pipeline p) (hover : s.pipeline.isOver x.operation = true) :
    ∀ y ∈ before ++ [x], p.completion? y.operation = s.pipeline.completion? y.operation := by
  intro y hy
  rcases List.mem_append.1 hy with hold | hnew
  · exact h.completion?_before hactive hlaunches hp y hold
  · rw [List.mem_singleton.1 hnew]
    exact h.tidy.fine.completion?_reaches hp hover

theorem Gathers.reaches (h : Gathers before x q c₀ s) (hs : Traced sv l s)
    (hkeep : sv.parsers.KeepsRanks) (hactive : s.active = some x.operation)
    (hlaunches : l.launches = before ++ [x]) (hp : Pipeline.Reaches sv s.pipeline s'.pipeline)
    (hrelayed : s'.isRelayed x.operation = s.isRelayed x.operation) (hbase : s'.base = s.base)
    (hcollection : s'.collection = s.collection) : Gathers before x q c₀ s' := by
  have hbefore := hs.completion?_before hactive hlaunches hp
  have hx := hs.tidy.fine.completion?_reaches (n := x.operation) hp
  have hall : s.isRelayed x.operation = true → ∀ y ∈ before ++ [x],
      s'.pipeline.completion? y.operation = s.pipeline.completion? y.operation := fun hdone =>
    hs.completion?_concat hactive hlaunches hp (hs.isOver_of_isRelayed hdone)
  refine ⟨h.continues.reaches hs.regular hkeep hp, h.root, h.about, ?_, ?_, ?_, ?_, ?_, ?_⟩
  · rw [Launch.documents_congr hbefore]
    exact h.ranks
  · rw [Launch.documents_congr hbefore]
    exact h.below
  · rw [hrelayed, Launch.documents_congr hbefore, Launch.stands_congr hbefore, hbase]
    exact h.base
  · rw [hrelayed, Launch.documents_congr hbefore, hcollection]
    intro hopen hnone hstands
    -- what has not completed by now had not completed before
    have hearlier : s.pipeline.completion? x.operation = none := by
      rcases hc : s.pipeline.completion? x.operation with _ | c
      · rfl
      · rw [hx (hs.tidy.fine.isOver_of_completion? hc), hc] at hnone
        exact absurd hnone (by simp)
    refine h.kept hopen hearlier ?_
    rcases hstands.of_concat with hold | ⟨hop, hblank⟩
    · obtain ⟨y, hy, hyop, hy'⟩ := (Launch.stands_congr hbefore q).1 hold
      exact ⟨y, List.mem_append_left _ hy, hyop, hy'⟩
    · rw [hnone] at hblank
      exact ⟨x, List.mem_append_right _ (List.mem_singleton_self x), hop,
        .inl (by simpa using hblank)⟩
  · rw [hrelayed, hcollection]
    intro hdone hstands
    rw [Launch.documents_congr (hall hdone)]
    exact h.done hdone ((Launch.stands_congr (hall hdone) q).1 hstands)
  · rw [hrelayed, hcollection]
    intro hdone hsome
    rw [hx (hs.isOver_of_isRelayed hdone)] at hsome
    exact h.stored hdone hsome

/-! ### What goes on by itself -/

/-- Nothing has happened to a session but to its pipeline and to relays, and no relay has passed on
the end of the current operation. -/
structure Onward (sv : Services) (s s' : Session) : Prop where
  reaches : Pipeline.Reaches sv s.pipeline s'.pipeline
  active : s'.active = s.active
  cursor : s'.cursor = s.cursor
  base : s'.base = s.base
  collection : s'.collection = s.collection
  launched : s'.launched = s.launched
  relayed : ∀ n, s.active = some n → s'.isRelayed n = s.isRelayed n
  finished : ∀ r ∈ s'.relays, r.finished = true → s'.pipeline.isOver r.operation = true
  gone : ∀ n c₀, s.active = some n → s.pipeline.Continues n c₀ →
    (s'.pipeline.place? n = some .gone ↔ s.pipeline.place? n = some .gone)
  absent : ∀ n, s.active = some n → s.pipeline.place? n = none → s'.pipeline.place? n = none

theorem Traced.onward_rfl (h : Traced sv l s) : Onward sv s s :=
  ⟨.rfl, rfl, rfl, rfl, rfl, rfl, fun _ _ => rfl, h.relays, fun _ _ _ _ => Iff.rfl,
    fun _ _ hnone => hnone⟩

/-- The pipeline makes a step by itself, or a client makes a call that takes no cursor. -/
theorem Traced.onward_act (h : Traced sv l s) {b : Pipeline.Act} {p : Pipeline}
    (hb : s.pipeline.act? sv b = some p) (hnot : ∀ m, b ≠ .call (.takeCursor m)) :
    Onward sv s (s.withPipeline p) where
  reaches := .of_act hb
  active := rfl
  cursor := rfl
  base := rfl
  collection := rfl
  launched := rfl
  relayed _ _ := rfl
  finished r hr hfinished := h.tidy.fine.isOver_reaches (.of_act hb) (h.relays r hr hfinished)
  gone n c₀ _ hcontinues := hcontinues.pursues.gone_iff (Pipeline.cursorStep_act hb) hnot
  absent n hn hnone := by
    have hlt := h.tidy.known n (List.mem_of_getLast? (h.tidy.last n hn))
    have hsame := (Pipeline.cursorStep_act hb).isSome_place? hlt
    rw [hnone, Option.isSome_none, Option.isSome_eq_false_iff, Option.isNone_iff_eq_none] at hsame
    exact hsame

theorem Searching.onward (h : Searching before x q c₀ l s) (hs : Traced sv l s)
    (hkeep : sv.parsers.KeepsRanks) (hactive : s.active = some x.operation)
    (hlaunches : l.launches = before ++ [x]) (h' : Onward sv s s') :
    Searching before x q c₀ l s' := by
  have hrelayed := h'.relayed _ hactive
  have hgone := h'.gone _ _ hactive h.continues
  have hx := hs.tidy.fine.completion?_reaches (n := x.operation) h'.reaches
  refine ⟨h.toGathers.reaches hs hkeep hactive hlaunches h'.reaches hrelayed h'.base h'.collection,
    ?_, ?_⟩
  · rw [hgone, h'.cursor]
    intro hplace
    obtain ⟨hend, hcontinued, hcursor⟩ := h.taken hplace
    refine ⟨hs.tidy.fine.isOver_reaches h'.reaches hend, hcontinued, ?_⟩
    rw [hx hend]
    exact hcursor
  · rw [ne_eq, hgone, h'.cursor, hrelayed, h'.collection]
    intro hplace c hc
    obtain ⟨hq, r, hcontinued, hready⟩ := h.old hplace c hc
    refine ⟨hq, r, hcontinued, hready.imp (fun ⟨hdone, hsome⟩ => ⟨hdone, ?_⟩) fun hready =>
      hready.congr (hs.completion?_before hactive hlaunches h'.reaches)⟩
    rw [hx (hs.isOver_of_isRelayed hdone)]
    exact hsome

theorem Traced.onward (h : Traced sv l s) (hkeep : sv.parsers.KeepsRanks)
    (htidy : s'.Tidy sv) (h' : Onward sv s s') : Traced sv l s' where
  tidy := htidy
  regular := h.regular.reaches hkeep h'.reaches
  launches := h.launches.trans h'.launched.symm
  relays := h'.finished
  begun := h.begun
  idle hidle c hc := by
    rw [h'.active] at hidle
    rw [h'.cursor] at hc
    rw [h'.collection]
    obtain ⟨r, hcontinued, hready⟩ := h.idle hidle c hc
    exact ⟨r, hcontinued, hready.congr fun y hy =>
      h.tidy.fine.completion?_reaches h'.reaches (h.isOver_all hidle y hy)⟩
  current n hn := by
    rw [h'.active] at hn
    obtain ⟨before, x, hlaunches, rfl, hcurrent⟩ := h.current n hn
    refine ⟨before, x, hlaunches, rfl, ?_⟩
    rcases hcurrent with ⟨hnone, hcursor, hplace⟩ | ⟨q, c₀, hq, hsearching⟩
    · exact .inl ⟨hnone, h'.cursor.trans hcursor, h'.absent _ hn hplace⟩
    · exact .inr ⟨q, c₀, hq, hsearching.onward h hkeep hn hlaunches h'⟩

/-- Nobody took a cursor over. -/
theorem Traced.taken_of_onward (h : Traced sv l s) (h' : Onward sv s s') : l.taken s s' = l := by
  refine if_neg fun hhands => ?_
  obtain ⟨n, hn, hplaces⟩ := (Option.any_eq_true ..).1 hhands
  split at hplaces
  · next c hhere hgone =>
    obtain ⟨before, x, -, rfl, hcurrent⟩ := h.current n hn
    rcases hcurrent with ⟨-, -, hnone⟩ | ⟨q, c₀, -, hsearching⟩
    · simp [hnone] at hhere
    · have hbefore := (h'.gone _ _ hn hsearching.continues).1 hgone
      simp [hhere] at hbefore
  · simp at hplaces

theorem after_of_launched_eq (l : Ledger) (h : s'.launched = s.launched) (a : Act) :
    l.after s a s' = l.taken s s' := by
  simp [Ledger.after, h]

/-- What goes on by itself is not noted. -/
theorem Traced.after_of_onward (h : Traced sv l s) (hkeep : sv.parsers.KeepsRanks)
    (htidy : s'.Tidy sv) (h' : Onward sv s s') (a : Act) : Traced sv (l.after s a s') s' := by
  rw [after_of_launched_eq l h'.launched, h.taken_of_onward h']
  exact h.onward hkeep htidy h'

/-! ### Relays -/

/-- What became of the relay that took an event. -/
theorem Tidy.isRelayed_set (h : s'.Tidy sv) {k : Nat} {r : Relay} {e : JobEvent}
    (hr : s.relays[k]? = some r) (hrelays : s'.relays = s.relays.set k (taking e r)) :
    s'.isRelayed r.operation = e.isTerminal := by
  have hk := (List.getElem?_eq_some_iff.1 hr).1
  have hget : s'.relays[k]? = some (taking e r) := by simp [hrelays, hk]
  have hrelay : s'.relay? r.operation = some (taking e r) := h.relay?_eq hget
  rw [isRelayed, hrelay]
  rfl

/-- Other relays are as they were. -/
theorem Tidy.isRelayed_set_of_ne (h : s.Tidy sv) (h' : s'.Tidy sv) {k : Nat} {r : Relay}
    {e : JobEvent} (hr : s.relays[k]? = some r)
    (hrelays : s'.relays = s.relays.set k (taking e r)) (hn : n ∈ s.launched)
    (hne : n ≠ r.operation) : s'.isRelayed n = s.isRelayed n := by
  obtain ⟨r', hr', rfl⟩ := List.mem_map.1 hn
  obtain ⟨k', hk'⟩ := List.getElem?_of_mem hr'
  have hplace : k ≠ k' := by
    rintro rfl
    obtain rfl : r = r' := Option.some.inj (hr.symm.trans hk')
    exact hne rfl
  have hget : s'.relays[k']? = some r' := by simp [hrelays, hplace, hk']
  rw [isRelayed, isRelayed, h.relay?_eq hk', h'.relay?_eq hget]

/-- A relay that has finished took the end of its operation. -/
theorem Traced.relays_set (h : Traced sv l s) {r : Relay} {e : JobEvent} {j : Job}
    (hj : s.pipeline.job? r.operation = some j) (he : j.events[r.position]? = some e) (k : Nat) :
    ∀ r' ∈ s.relays.set k (taking e r), r'.finished = true →
      s.pipeline.isOver r'.operation = true := by
  intro r' hr' hfinished
  rcases List.mem_or_eq_of_mem_set hr' with hold | rfl
  · exact h.relays r' hold hfinished
  · rw [Pipeline.isOver_eq]
    show (s.pipeline.job? r.operation).any _ = true
    rw [hj, Option.any_some]
    rcases h.tidy.fine.ending hj with hway | ⟨o, hend⟩
    · have hopen := hway.events e (List.mem_of_getElem? he)
      simp [taking, hopen] at hfinished
    · exact hend.isTerminal

/-- An operation that is over reported its end as the last thing. -/
theorem Traced.ended (h : Traced sv l s) {j : Job} (hj : s.pipeline.job? n = some j) {e : JobEvent}
    (he : e ∈ j.events) (hterminal : e.isTerminal = true) : ∃ o, j.Ended o ∧ o.event = e := by
  rcases h.tidy.fine.ending hj with hway | ⟨o, hend⟩
  · simp [hway.events e he] at hterminal
  · refine ⟨o, hend, ?_⟩
    obtain ⟨earlier, hevents, hearlier⟩ := hend.events
    rw [hevents, List.mem_append, List.mem_singleton] at he
    rcases he with hbefore | hlast
    · simp [hearlier e hbefore] at hterminal
    · exact hlast.symm

/-- The end of an operation is passed on, with the documents if there are any. -/
theorem Traced.pass_cases (h : Traced sv l s) {j : Job} (hj : s.pipeline.job? n = some j)
    {e : JobEvent} (he : e ∈ j.events) (hterminal : e.isTerminal = true) :
    s.pipeline.completion? n = none ∧ (s.pass n e).collection = s.collection ∨
      ∃ c, s.pipeline.completion? n = some c ∧
        (s.pass n e).collection = some (merged s.base c) := by
  obtain ⟨o, hend, rfl⟩ := h.ended hj he hterminal
  cases o with
  | completed c k => exact .inr ⟨c, Pipeline.completion?_eq_some.2 ⟨j, k, hj, hend.outcome⟩, rfl⟩
  | failed | cancelled => exact .inl ⟨by simp [Pipeline.completion?, hj, hend.outcome], rfl⟩

/-- The relay of a search takes its end, and the documents are added to those of the same search. -/
theorem Searching.pass (h : Searching before x q c₀ l s) (hs : Traced sv l s)
    (hopen : s.isRelayed x.operation = false) (hx : x.search = some q) {e : JobEvent} {j : Job}
    (hj : s.pipeline.job? x.operation = some j) (he : e ∈ j.events)
    (hterminal : e.isTerminal = true) {s' : Session} (hp : s'.pipeline = s.pipeline)
    (hcursor : s'.cursor = s.cursor) (hdone : s'.isRelayed x.operation = true)
    (hcollection : s'.collection = (s.pass x.operation e).collection) :
    Searching before x q c₀ l s' := by
  have hconcat := Launch.documents_concat q s.pipeline before x
  rw [if_pos hx] at hconcat
  have hcases := hs.pass_cases hj he hterminal
  rw [← hcollection] at hcases
  refine ⟨⟨hp ▸ h.continues, h.root, h.about, hp ▸ h.ranks, hp ▸ h.below, by simp [hdone],
    by simp [hdone], fun _ hstands => ?_, fun _ hsome => ?_⟩, ?_, fun hplace c hc => ?_⟩
  · rw [hp] at hstands ⊢
    rw [hconcat]
    rcases hcases with ⟨hnone, hsame⟩ | ⟨c, hc, hmerged⟩
    · simpa [hnone, hsame] using h.kept hopen hnone hstands
    · -- what the documents are added to is the search's own
      obtain ⟨j', k, hj', hout⟩ := Pipeline.completion?_eq_some.1 hc
      have hlanguage := (h.continues.harvest hs.regular hj' hout).1.language
      have hbase := h.base hopen (hstands.of_concat.elim .inr fun hroot => .inl hroot.1.symm)
      rw [hc, hmerged]
      exact hbase.merged hlanguage
  · rw [hp] at hsome
    rcases hcases with ⟨hnone, -⟩ | ⟨c, -, hmerged⟩
    · simp [hnone] at hsome
    · simp [hmerged]
  · rw [hp, hcursor]
    exact h.taken
  · rw [hp] at hplace ⊢
    obtain ⟨hq, r, hcontinued, hready⟩ := h.old hplace c (hcursor ▸ hc)
    have hready := hready.resolve_left fun ⟨hrelayed, _⟩ => by simp [hopen] at hrelayed
    refine ⟨hq, r, hcontinued, ?_⟩
    rcases hcases with ⟨-, hsame⟩ | ⟨c', hc', -⟩
    · exact .inr (hsame ▸ hready)
    · exact .inl ⟨hdone, by simp [hc']⟩

/-- A relay passes on an event of the current operation. -/
theorem Traced.pass (h : Traced sv l s) (hkeep : sv.parsers.KeepsRanks) {k : Nat} {r : Relay}
    {j : Job} {e : JobEvent} (hr : s.relays[k]? = some r) (hopen : r.finished = false)
    (hj : s.pipeline.job? r.operation = some j) (he : j.events[r.position]? = some e)
    (hcurrent : s.active = some r.operation)
    (htidy : Tidy sv { s.pass r.operation e with relays := s.relays.set k (taking e r) }) :
    Traced sv l { s.pass r.operation e with relays := s.relays.set k (taking e r) } := by
  have hp : (s.pass r.operation e).pipeline = s.pipeline := pipeline_pass ..
  have hcursor : (s.pass r.operation e).cursor = s.cursor := by cases e <;> rfl
  have hrelayed : s.isRelayed r.operation = false := by
    rw [isRelayed, h.tidy.relay?_eq hr, Option.any_some, hopen]
  have hnew := htidy.isRelayed_set hr rfl
  by_cases hterminal : e.isTerminal = true
  · refine ⟨htidy, by rw [hp]; exact h.regular, ?_, ?_, h.begun, fun hidle => ?_, fun n hn => ?_⟩
    · exact h.launches.trans (launched_set hr e).symm
    · rw [hp]
      exact h.relays_set hj he k
    · rw [active_pass, hcurrent] at hidle
      simp at hidle
    · rw [active_pass] at hn
      obtain ⟨before, x, hlaunches, hop, hcases⟩ := h.current n hn
      obtain rfl : r.operation = n := Option.some.inj (hcurrent.symm.trans hn)
      refine ⟨before, x, hlaunches, hop, ?_⟩
      rcases hcases with ⟨hnone, hc, hplace⟩ | ⟨q, c₀, hq, hsearching⟩
      · exact .inl ⟨hnone, hcursor.trans hc, by rw [hp]; exact hplace⟩
      · refine .inr ⟨q, c₀, hq, hsearching.pass h (hop ▸ hrelayed) hq (hop ▸ hj)
          (List.mem_of_getElem? he) hterminal hp hcursor ?_ (by rw [hop])⟩
        rw [hop, hnew, hterminal]
  · refine h.onward hkeep htidy ⟨?_, active_pass r.operation e s, hcursor, ?_, ?_,
      launched_set hr e, fun n hn => ?_, ?_, ?_, ?_⟩
    · rw [hp]
      exact .rfl
    · cases e with
      | completed => simp [JobEvent.isTerminal] at hterminal
      | _ => rfl
    · cases e with
      | completed => simp [JobEvent.isTerminal] at hterminal
      | _ => rfl
    · obtain rfl : r.operation = n := Option.some.inj (hcurrent.symm.trans hn)
      rw [hnew, hrelayed]
      simpa using hterminal
    · rw [hp]
      exact h.relays_set hj he k
    · rw [hp]
      exact fun _ _ _ _ => Iff.rfl
    · rw [hp]
      exact fun _ _ hnone => hnone

/-! ### Taking a cursor over -/

/-- The cursor of the current operation, which is over, is taken over. -/
theorem Searching.stash (h : Searching before x q c₀ l s) (hs : Traced sv l s)
    (hkeep : sv.parsers.KeepsRanks) (hactive : s.active = some x.operation)
    (hlaunches : l.launches = before ++ [x]) (hover : s.pipeline.isOver x.operation = true)
    {c : Cursor} (hhere : s.pipeline.place? x.operation = some (.here c))
    {p : Pipeline} (hp : Pipeline.Reaches sv s.pipeline p)
    (hgone : p.place? x.operation = some .gone) :
    Searching before x q c₀ { l with continued := some q }
      { s with pipeline := p, cursor := some c } := by
  have hcursor : s.pipeline.HasCursor x.operation c := .here hhere
  obtain ⟨hquery, hle⟩ := h.continues.pursues.query c hcursor
  refine ⟨h.toGathers.reaches hs hkeep hactive hlaunches hp rfl rfl rfl, fun _ => ?_,
    fun hplace => absurd hgone hplace⟩
  refine ⟨hs.tidy.fine.isOver_reaches hp hover, rfl, c, rfl, hquery, hle, fun d hd => ?_⟩
  rw [hs.tidy.fine.completion?_reaches hp hover] at hd
  obtain ⟨j, k, hj, hout⟩ := Pipeline.completion?_eq_some.1 hd
  exact (h.continues.harvest hs.regular hj hout).2 c hcursor

/-- Somebody looks whether the cursor of the current operation is there. -/
theorem Traced.stash (h : Traced sv l s) (hkeep : sv.parsers.KeepsRanks) :
    Traced sv (l.taken s s.stash) s.stash := by
  rcases stash_cases s with hsame | ⟨n, c, hactive, hover, htake, hstash⟩
  · rw [hsame, h.taken_of_onward h.onward_rfl]
    exact h
  · obtain ⟨before, x, hlaunches, rfl, hcases⟩ := h.current n hactive
    obtain ⟨hhere, hputs⟩ := Pipeline.place?_of_takeCursor htake
    have hgone := hputs.of_some hhere
    have hp : Pipeline.Reaches sv s.pipeline s.stash.pipeline := reaches_stash sv s
    have htidy : s.stash.Tidy sv := h.tidy.step (.stash (.inl rfl))
    rw [hstash] at hp htidy ⊢
    -- an operation with a cursor searches
    obtain ⟨q, c₀, hq, hsearching⟩ : ∃ q c₀, x.search = some q ∧ Searching before x q c₀ l s :=
      hcases.resolve_left fun ⟨_, _, hnone⟩ => by simp [hnone] at hhere
    have hsearch : Launch.search? x.operation l.launches = some q := by
      rw [h.search?_eq hactive hlaunches, hq]
    have htaken : l.taken s { s with
        pipeline := (s.pipeline.takeCursor x.operation).2, cursor := some c } =
        { l with continued := some q } := by
      rw [Ledger.taken, if_pos (by simp [handsOver, hactive, hhere, hgone])]
      simp [hactive, hsearch]
    rw [htaken]
    refine ⟨htidy, h.regular.reaches hkeep hp, h.launches, fun r hr hfinished =>
      h.tidy.fine.isOver_reaches hp (h.relays r hr hfinished), h.begun, fun hidle => ?_,
      fun n hn => ?_⟩
    · simp [hactive] at hidle
    · obtain rfl : x.operation = n := Option.some.inj (hactive.symm.trans hn)
      exact ⟨before, x, hlaunches, rfl, .inr ⟨q, c₀, hq,
        hsearching.stash h hkeep hactive hlaunches hover hhere hp hgone⟩⟩

/-- Once somebody has looked for it, the cursor of an operation that is over is not there. -/
theorem place?_stash (hactive : s.active = some n) (hover : s.pipeline.isOver n = true)
    (c : Cursor) : s.stash.pipeline.place? n ≠ some (.here c) := by
  rcases htake : (s.pipeline.takeCursor n).1 with _ | c'
  · obtain ⟨hsame, hnone⟩ := Pipeline.takeCursor_of_none htake
    rcases stash_cases s with hstash | ⟨n', c', hactive', -, htake', -⟩
    · rw [hstash]
      exact hnone c
    · obtain rfl : n = n' := Option.some.inj (hactive.symm.trans hactive')
      simp [htake] at htake'
  · obtain ⟨hhere, hputs⟩ := Pipeline.place?_of_takeCursor htake
    have hgone := hputs.of_some hhere
    have hstash : s.stash.pipeline = (s.pipeline.takeCursor n).2 := by
      rw [Session.stash, hactive]
      simp only [hover, if_true]
      split
      · next c p heq => rw [heq]
      · next heq => simp [heq] at htake
    rw [hstash, hgone]
    simp

/-! ### Between two operations -/

/-- No two documents of a search have the same rank. -/
theorem Gathers.ranks_concat (h : Gathers before x q c₀ s) (hs : Traced sv l s)
    (hx : x.search = some q) :
    ((Launch.documents q s.pipeline (before ++ [x])).map (·.rank)).Nodup := by
  rw [Launch.documents_concat, if_pos hx]
  rcases hd : s.pipeline.completion? x.operation with _ | d
  · simpa using h.ranks
  · obtain ⟨j, k, hj, hout⟩ := Pipeline.completion?_eq_some.1 hd
    have hharvest := (h.continues.harvest hs.regular hj hout).1
    -- what the operation brought in is ranked above what there was
    rw [Option.map_some, Option.getD_some, List.map_append]
    refine List.nodup_append.2 ⟨h.ranks, hharvest.ranks, fun m hm m' hm' heq => ?_⟩
    obtain ⟨y, hy, rfl⟩ := List.mem_map.1 hm
    obtain ⟨y', hy', rfl⟩ := List.mem_map.1 hm'
    have hlow := h.below y hy
    have hhigh := hharvest.fresh y' hy'
    omega

/-- A search that was brought to its end can be continued with the cursor that it left behind. -/
theorem Searching.ready_of_taken (h : Searching before x q c₀ l s) (hs : Traced sv l s)
    (hx : x.search = some q) (hrelayed : s.isRelayed x.operation = true)
    (hgone : s.pipeline.place? x.operation = some .gone) {c : Cursor} (hc : s.cursor = some c) :
    l.continued = some q ∧ Ready (before ++ [x]) s.pipeline q c s.collection := by
  obtain ⟨-, hcontinued, c', hc', hquery, hle, hbelow⟩ := h.taken hgone
  obtain rfl : c = c' := Option.some.inj (hc.symm.trans hc')
  refine ⟨hcontinued, ?_, hquery ▸ h.about, h.ranks_concat hs hx, fun y hy => ?_,
    hquery ▸ h.done hrelayed⟩
  · rcases h.root with rfl | hbegun
    · exact ⟨x, List.mem_append_right _ (List.mem_singleton_self x), rfl, hx⟩
    · exact hbegun.concat x
  · rw [Launch.documents_concat, if_pos hx] at hy
    rcases List.mem_append.1 hy with hold | hnew
    · exact Nat.lt_of_lt_of_le (h.below y hold) hle
    · rcases hd : s.pipeline.completion? x.operation with _ | d
      · simp [hd] at hnew
      · rw [hd] at hnew
        exact hbelow d hd y hnew

/-- An operation that is over, relayed and asked for its cursor leaves a session that can continue a
search. -/
theorem Traced.letGo (h : Traced sv l s) (hactive : s.active = some n)
    (hrelayed : s.isRelayed n = true) (hplace : ∀ c, s.pipeline.place? n ≠ some (.here c))
    {c : Cursor} (hc : s.cursor = some c) :
    ∃ r, l.continued = some r ∧ Ready l.launches s.pipeline r c s.collection := by
  obtain ⟨before, x, hlaunches, rfl, hcases⟩ := h.current n hactive
  rw [hlaunches]
  obtain ⟨q, c₀, hq, hsearching⟩ : ∃ q c₀, x.search = some q ∧ Searching before x q c₀ l s :=
    hcases.resolve_left fun ⟨_, hnone, _⟩ => by simp [hc] at hnone
  by_cases hgone : s.pipeline.place? x.operation = some .gone
  · exact ⟨q, hsearching.ready_of_taken h hq hrelayed hgone hc⟩
  · obtain ⟨rfl, r, hcontinued, hready⟩ := hsearching.old hgone c hc
    -- an operation that completed has its cursor, and it would have been taken over
    have hready : Ready before s.pipeline r c s.collection := by
      refine hready.resolve_left fun ⟨_, hsome⟩ => ?_
      obtain ⟨d, hd⟩ := Option.isSome_iff_exists.1 hsome
      obtain ⟨j, k, hj, hout⟩ := Pipeline.completion?_eq_some.1 hd
      obtain ⟨place, hknown⟩ := Option.isSome_iff_exists.1 hsearching.continues.pursues.known
      cases place with
      | here c' => exact hplace c' hknown
      | held => exact hsearching.continues.given_back h.regular hj hout hknown
      | gone => exact hgone hknown
    obtain ⟨y, hy, hop, -⟩ := hready.begun
    have hne : x.operation ≠ r := fun heq =>
      (h.isOver_before hactive hlaunches y hy).2 (hop.trans heq.symm)
    exact ⟨r, hcontinued, hready.concat (by simpa [hq] using hne) hne⟩

/-- The last operation is retired. -/
theorem Traced.retire (h : Traced sv l s) (hkeep : sv.parsers.KeepsRanks) (hroom : s.HasRoom) :
    Traced sv (l.taken s s.stash) s.retire := by
  have hstash := h.stash hkeep
  have hlaunched : s.retire.launched = s.launched := by
    rw [launched, retire_rest s]
    rfl
  have htidy : s.retire.Tidy sv :=
    h.tidy.step (.retire (a := .more 0 none) rfl hroom .rfl (.of_eq rfl) (.inl rfl) (.inl rfl))
  refine ⟨htidy, hstash.regular, ?_, hstash.relays, hstash.begun, fun _ c hc => ?_, fun n hn => ?_⟩
  · rw [hstash.launches, hlaunched, launched, stash_rest s]
    rfl
  · rcases hactive : s.active with _ | n
    · exact hstash.idle (by rw [stash_rest s]; exact hactive) c hc
    · have hactive' : s.stash.active = some n := by
        rw [stash_rest s]
        exact hactive
      refine hstash.letGo hactive' ?_ (place?_stash hactive (hroom.isOver hactive)) hc
      have hsame : s.stash.isRelayed n = s.isRelayed n := by
        rw [isRelayed, isRelayed, relay?, stash_rest s]
        rfl
      exact hsame.trans (h.isRelayed_of_active hactive hroom.relayed)
  · simp [Session.retire] at hn

end Session

end GradedReading
