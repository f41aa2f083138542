import GradedReading.Proofs.Session.Lineage

/-!
# GradedReading.Proofs.Session.Appended

What is found later is added to what was found before, if both belong to the same search.

**Key idea:** a new operation takes the cursor and the collection as they are. `Traced` says of them
what the operation needs, so it holds of every run, and at the end of a run it says what a client
sees. The condition is that the search *stands*. `misled` is a run in which it does not: there are
documents of a parse when the search fails, and what is found by continuing the search is dropped.
-/

namespace GradedReading

open Search

namespace Pipeline

variable {sv : Services}

theorem getElem?_launched (o : Operation) (p : Pipeline) :
    (p.launched o).operations[p.operations.length]? = some { o with begun := true } := by
  simp [launched, work, modifyOperation]

theorem place?_launched (o : Operation) (p : Pipeline) :
    (p.launched o).place? p.operations.length = o.place? := by
  rw [place?, getElem?_launched]
  rfl

theorem samePlaces_launched (o : Operation) (p : Pipeline) : p.SamePlaces (p.launched o) := by
  intro n hn
  have hadded : n < (p.added o).operations.length := by
    simp only [added, List.length_append]
    exact Nat.lt_add_right _ hn
  exact (samePlaces_modifyOperation p.operations.length ({ · with begun := true })
    (fun _ => rfl) (p.added o) n hadded).trans (samePlaces_added o p n hn)

/-- An operation that was just launched with a cursor. -/
theorem continues_launched (c : Cursor) (target : Nat) (keywords : KeywordSet) {p : Pipeline}
    (h : p.Regular sv) :
    (p.launched (.ofCursor c target keywords)).Continues p.operations.length c :=
  continues_new (getElem?_launched _ p) rfl rfl fun t ht =>
    Nat.ne_of_lt (h.sound.tasks .search t ht).operation

/-- A new operation has not completed. -/
theorem completion?_launched {o : Operation} {kind : JobKind} {language : Language}
    (hjob : o.job = .create kind language) (p : Pipeline) :
    (p.launched o).completion? p.operations.length = none := by
  simp [completion?, job?_launched, hjob, Job.create]

end Pipeline

namespace Session

variable {sv : Services} {s s' : Session} {a : Act} {l : Ledger} {n q : Nat} {x : Launch}
  {before : List Launch} {c₀ : Cursor}

/-! ### Launches -/

theorem taken_congr (l : Ledger) {s₁ s₂ : Session}
    (h : ∀ n, s.active = some n → s₂.pipeline.place? n = s₁.pipeline.place? n) :
    l.taken s s₂ = l.taken s s₁ := by
  have hsame : s.handsOver s₂ = s.handsOver s₁ := by
    unfold handsOver
    rcases hactive : s.active with _ | n
    · rfl
    · simp only [Option.any_some, h n hactive]
  rw [Ledger.taken, hsame, Ledger.taken]

/-- What happens once the last operation was retired leaves its cursor where it is. -/
theorem Tidy.taken_of_samePlaces (h : s.Tidy sv) (l : Ledger)
    (hplaces : s.retire.pipeline.SamePlaces s'.pipeline) : l.taken s s' = l.taken s s.stash :=
  taken_congr l fun n hn =>
    hplaces n (h.known_reaches (reaches_stash sv s) (List.mem_of_getLast? (h.last n hn)))

theorem launches_taken (l : Ledger) (s s' : Session) : (l.taken s s').launches = l.launches := by
  unfold Ledger.taken
  split <;> rfl

/-- Between two operations a cursor may be dropped, and nothing else matters. -/
theorem Traced.between (h : Traced sv l s) (hkeep : sv.parsers.KeepsRanks)
    (hidle : s.active = none) (htidy : s'.Tidy sv)
    (hp : Pipeline.Reaches sv s.pipeline s'.pipeline) (hactive : s'.active = none)
    (hcursor : s'.cursor = s.cursor ∨ s'.cursor = none) (hcollection : s'.collection = s.collection)
    (hrelays : s'.relays = s.relays) : Traced sv l s' where
  tidy := htidy
  regular := h.regular.reaches hkeep hp
  launches := h.launches.trans (by rw [launched, launched, hrelays])
  relays r hr hfinished := h.tidy.fine.isOver_reaches hp (h.relays r (hrelays ▸ hr) hfinished)
  begun := h.begun
  idle _ c hc := by
    rcases hcursor with hsame | hnone
    · obtain ⟨r, hcontinued, hready⟩ := h.idle hidle c (hsame ▸ hc)
      rw [hcollection]
      exact ⟨r, hcontinued, hready.congr fun y hy =>
        h.tidy.fine.completion?_reaches hp (h.isOver_all hidle y hy)⟩
    · simp [hnone] at hc
  current n hn := by simp [hactive] at hn

/-- What the launch of an operation is noted as. -/
def launchOf (a : Act) (l : Ledger) (s : Session) : Launch :=
  { operation := s.retire.pipeline.operations.length
    search := a.search? s.retire.pipeline.operations.length l.continued
    query := a.query? s
    blank := s.collection.isNone }

/-- A new operation has a new number. -/
theorem Traced.ne_of_mem (h : Traced sv l s) :
    ∀ y ∈ l.launches, y.operation ≠ s.pipeline.operations.length := fun _ hy =>
  Nat.ne_of_lt (h.tidy.known _ (h.launches ▸ List.mem_map_of_mem hy))

/-- What there was to continue can be continued when a new operation is launched. -/
theorem Traced.ready_launching (h : Traced sv l s) (hidle : s.active = none) {p : Pipeline}
    (hp : Pipeline.Reaches sv s.pipeline p) {c : Cursor} (hc : s.cursor = some c) :
    ∃ r, l.continued = some r ∧ Ready l.launches p r c s.collection := by
  obtain ⟨r, hcontinued, hready⟩ := h.idle hidle c hc
  exact ⟨r, hcontinued, hready.congr fun y hy =>
    h.tidy.fine.completion?_reaches hp (h.isOver_all hidle y hy)⟩

/-- The relay of a new operation has taken nothing. -/
theorem gathers_of_open (hopen : s.isRelayed x.operation = false)
    (hcontinues : s.pipeline.Continues x.operation c₀)
    (hroot : q = x.operation ∨ Launch.Begun q before)
    (habout : ∀ y ∈ before ++ [x], y.search = some q → y.query = some c₀.query)
    (hranks : ((Launch.documents q s.pipeline before).map (·.rank)).Nodup)
    (hbelow : ∀ d ∈ Launch.documents q s.pipeline before, d.rank < c₀.nextRank)
    (hbase : q = x.operation ∨ Launch.Stands q s.pipeline before →
      Shows c₀.query.language (Launch.documents q s.pipeline before) s.base)
    (hkept : Launch.Stands q s.pipeline (before ++ [x]) →
      Shows c₀.query.language (Launch.documents q s.pipeline before) s.collection) :
    Gathers before x q c₀ s :=
  ⟨hcontinues, hroot, habout, hranks, hbelow, fun _ => hbase, fun _ _ => hkept,
    fun hdone => by simp [hopen] at hdone, fun hdone => by simp [hopen] at hdone⟩

/-- A new operation begins a search. -/
theorem Traced.searching_search (h : Traced sv l s.retire) (query : Query) (target : Nat)
    (keywords : KeywordSet) (obstacle : Option String) {s' : Session}
    (hs' : s' = s.launching (.ofCursor (.start query) target keywords) s.retire.cursor none
      keywords)
    (hp : Pipeline.Reaches sv s.retire.pipeline s'.pipeline)
    (hopen : s'.isRelayed s.retire.pipeline.operations.length = false) :
    Searching l.launches (launchOf (.search query target keywords obstacle) l s)
      s.retire.pipeline.operations.length (.start query)
      (l.noting (launchOf (.search query target keywords obstacle) l s)) s' := by
  -- there is nothing of this search yet
  have hfirst : ∀ y ∈ l.launches, y.search ≠ some s.retire.pipeline.operations.length :=
    fun y hy hsearch => by
      obtain ⟨z, hz, hop, -⟩ := h.begun y hy _ hsearch
      exact h.ne_of_mem z hz hop
  have hdocuments := Launch.documents_eq_nil hfirst s'.pipeline
  have hcollection : s'.collection = s.collection := by
    rw [hs', launching, retire_rest s]
  have hnone : s'.pipeline.completion? s.retire.pipeline.operations.length = none := by
    rw [hs']
    exact Pipeline.completion?_launched rfl _
  have hplace : s'.pipeline.place? s.retire.pipeline.operations.length =
      some (.here (.start query)) := by
    rw [hs']
    exact Pipeline.place?_launched ..
  refine ⟨gathers_of_open hopen (hs' ▸ Pipeline.continues_launched _ _ _ h.regular) (.inl rfl)
    (fun y hy hsearch => ?_) (hdocuments ▸ List.nodup_nil) (fun d hd => ?_) (fun _ => ?_)
    fun hstands => ?_, fun hgone => ?_, fun _ c hc => ⟨rfl, ?_⟩⟩
  · rcases List.mem_append.1 hy with hold | hnew
    · exact absurd hsearch (hfirst y hold)
    · rw [List.mem_singleton.1 hnew]
      rfl
  · rw [hdocuments] at hd
    simp at hd
  · rw [hdocuments, hs']
    rfl
  · -- a search that has not completed stands only if there were no documents
    rcases hstands.of_concat with ⟨y, hy, hop, -⟩ | ⟨-, hblank⟩
    · exact absurd hop (h.ne_of_mem y hy)
    · have hblank := hblank.resolve_right fun hsome =>
        absurd (hsome.symm.trans (congrArg Option.isSome hnone)) (by simp)
      have hempty : s.collection = none := by simpa [launchOf] using hblank
      rw [hdocuments, hcollection, hempty]
      rfl
  · exact absurd (hplace.symm.trans hgone) (by simp)
  · rw [hs'] at hc hp
    obtain ⟨r, hcontinued, hready⟩ := h.ready_launching rfl hp hc
    exact ⟨r, hcontinued, .inr (hs' ▸ hready)⟩

/-- A new operation continues a search. -/
theorem Traced.searching_more (h : Traced sv l s.retire) {c : Cursor}
    (hcursor : s.retire.cursor = some c) (target : Nat) (obstacle : Option String) {s' : Session}
    (hs' : s' = s.launching (.ofCursor c target s.retire.keywords) none s.retire.collection
      s.retire.keywords)
    (hp : Pipeline.Reaches sv s.retire.pipeline s'.pipeline)
    (hopen : s'.isRelayed s.retire.pipeline.operations.length = false) :
    ∃ r, l.continued = some r ∧ Searching l.launches (launchOf (.more target obstacle) l s) r c
      (l.noting (launchOf (.more target obstacle) l s)) s' := by
  obtain ⟨r, hcontinued, hready⟩ := h.ready_launching rfl hp hcursor
  have hne : s.retire.pipeline.operations.length ≠ r := by
    obtain ⟨y, hy, hop, -⟩ := hready.begun
    exact fun heq => h.ne_of_mem y hy (hop.trans heq.symm)
  have hplace : s'.pipeline.place? s.retire.pipeline.operations.length = some (.here c) := by
    rw [hs']
    exact Pipeline.place?_launched ..
  have hbase : s'.base = s.retire.collection := by rw [hs', launching]
  have hcollection : s'.collection = s.retire.collection := by rw [hs', launching]
  refine ⟨r, hcontinued, gathers_of_open hopen (hs' ▸ Pipeline.continues_launched _ _ _ h.regular)
    (.inr hready.begun) (fun y hy hsearch => ?_) hready.ranks hready.below (fun hroot => ?_)
    fun hstands => ?_, fun hgone => ?_, fun _ c' hc' => ?_⟩
  · rcases List.mem_append.1 hy with hold | hnew
    · exact hready.about y hold hsearch
    · rw [List.mem_singleton.1 hnew]
      show s.stash.cursor.map _ = _
      rw [show s.stash.cursor = some c from hcursor]
      rfl
  · rw [hbase]
    exact hready.shown (hroot.resolve_left hne.symm)
  · rw [hcollection]
    exact hready.shown (hstands.of_concat.resolve_right fun hroot => hne hroot.1)
  · exact absurd (hplace.symm.trans hgone) (by simp)
  · simp [hs', launching] at hc'

/-- A new operation begins or continues a search, or it does neither. -/
theorem Traced.current_launching (h : Traced sv l s.retire) {o : Operation}
    {cursor : Option Cursor} {base : Option Collection} {keywords : KeywordSet}
    (herrand : Errand s.retire a o cursor base keywords)
    (hp : Pipeline.Reaches sv s.retire.pipeline (s.retire.pipeline.launched o))
    (hopen : (s.launching o cursor base keywords).isRelayed s.retire.pipeline.operations.length =
      false) :
    Current l.launches (launchOf a l s) (l.noting (launchOf a l s))
      (s.launching o cursor base keywords) := by
  cases herrand with
  | search query target keywords obstacle =>
      exact .inr ⟨_, _, rfl, h.searching_search query target keywords obstacle rfl hp hopen⟩
  | parse => exact .inl ⟨rfl, rfl, Pipeline.place?_launched ..⟩
  | more hcursor target obstacle =>
      obtain ⟨r, hcontinued, hsearching⟩ := h.searching_more hcursor target obstacle rfl hp hopen
      exact .inr ⟨r, _, hcontinued, hsearching⟩

/-- A launch is noted. -/
theorem Tidy.after_launching (h : s.Tidy sv) (l : Ledger) (a : Act) (o : Operation)
    (cursor : Option Cursor) (base : Option Collection) (keywords : KeywordSet) :
    l.after s a (s.launching o cursor base keywords) =
      (l.taken s s.stash).noting (launchOf a (l.taken s s.stash) s) := by
  have htaken : l.taken s (s.launching o cursor base keywords) = l.taken s s.stash :=
    h.taken_of_samePlaces l (Pipeline.samePlaces_launched o _)
  simp only [Ledger.after, htaken, launched_launching, List.drop_left, List.map_singleton]
  rfl

/-- A new operation is launched. -/
theorem Traced.launch (h : Traced sv l s) (hkeep : sv.parsers.KeepsRanks) (hroom : s.HasRoom)
    {o : Operation} {cursor : Option Cursor} {base : Option Collection} {keywords : KeywordSet}
    (herrand : Errand s.retire a o cursor base keywords)
    (hp : Pipeline.Reaches sv s.retire.pipeline (s.retire.pipeline.launched o))
    (htidy : (s.launching o cursor base keywords).Tidy sv) :
    Traced sv (l.after s a (s.launching o cursor base keywords))
      (s.launching o cursor base keywords) := by
  have hretire := h.retire hkeep hroom
  rw [h.tidy.after_launching]
  generalize l.taken s s.stash = l₁ at hretire ⊢
  have hrelay : (s.launching o cursor base keywords).relays[s.retire.relays.length]? =
      some (.ofOperation s.retire.pipeline.operations.length) := by simp [launching]
  have hopen : (s.launching o cursor base keywords).isRelayed s.retire.pipeline.operations.length =
      false := by
    have hfind := htidy.relay?_eq hrelay
    rw [Relay.ofOperation] at hfind
    rw [isRelayed, hfind, Option.any_some]
  have hcurrent := hretire.current_launching herrand hp hopen
  refine ⟨htidy, hretire.regular.reaches hkeep hp, ?_, fun r hr hfinished => ?_,
    fun x hx q hq => ?_, fun hidle => ?_, fun n hn => ?_⟩
  · rw [launched_launching, Ledger.noting, List.map_append, hretire.launches, launched,
      retire_rest s]
    rfl
  · rcases List.mem_append.1 hr with hold | hnew
    · exact hretire.tidy.fine.isOver_reaches hp (hretire.relays r hold hfinished)
    · rw [List.mem_singleton.1 hnew] at hfinished
      simp [Relay.ofOperation] at hfinished
  · rcases List.mem_append.1 hx with hold | hnew
    · exact (hretire.begun x hold q hq).concat _
    · obtain rfl := List.mem_singleton.1 hnew
      rcases hcurrent with ⟨hnone, -⟩ | ⟨q', c₀, hq', hsearching⟩
      · simp [hnone] at hq
      · obtain rfl : q = q' := Option.some.inj (hq.symm.trans hq')
        rcases hsearching.root with rfl | hbegun
        · exact ⟨_, hx, rfl, hq⟩
        · exact hbegun.concat _
  · simp [launching] at hidle
  · exact ⟨l₁.launches, launchOf a l₁ s, rfl, Option.some.inj hn, hcurrent⟩

/-! ### Every run -/

/-- A relay passes over an event of another operation. -/
theorem Traced.onward_skip (h : Traced sv l s) {k : Nat} {r : Relay} {j : Job} {e : JobEvent}
    (hr : s.relays[k]? = some r) (hj : s.pipeline.job? r.operation = some j)
    (he : j.events[r.position]? = some e) (hother : s.active ≠ some r.operation)
    (htidy : ({ s with relays := s.relays.set k (taking e r) } : Session).Tidy sv) :
    Onward sv s { s with relays := s.relays.set k (taking e r) } :=
  { h.onward_rfl with
    launched := launched_set hr e
    relayed := fun n hn =>
      h.tidy.isRelayed_set_of_ne htidy hr rfl (List.mem_of_getLast? (h.tidy.last n hn))
        fun heq => hother (heq ▸ hn)
    finished := h.relays_set hj he k }

theorem Traced.onward_cancel (h : Traced sv l s) : Onward sv s s.cancel.2 := by
  unfold cancel
  split
  · exact h.onward_act (b := .call (.cancel _)) rfl (by simp)
  · exact h.onward_rfl

/-- A client lets go of everything. -/
theorem Traced.release (h : Traced sv l s) (hkeep : sv.parsers.KeepsRanks)
    (htidy : s.release.Tidy sv) : Traced sv (l.after s .release s.release) s.release := by
  have honward := h.onward_cancel
  have hrelease := release_eq s
  have hp : s.release.pipeline = s.cancel.2.pipeline := by rw [hrelease]; rfl
  have hrelays : s.release.relays = s.relays := by rw [hrelease]
  have hcursor : s.release.cursor = none := by rw [hrelease]; rfl
  have hidle : s.release.active = none := by rw [hrelease]; rfl
  have hsame : s.release.launched = s.launched := by rw [launched, hrelays, launched]
  have htaken : l.taken s s.release = l :=
    (taken_congr l fun _ _ => by rw [hp]).trans (h.taken_of_onward honward)
  rw [after_of_launched_eq l hsame, htaken]
  refine ⟨htidy, hp ▸ h.regular.reaches hkeep honward.reaches, h.launches.trans hsame.symm, ?_,
    h.begun, fun _ c hc => by simp [hcursor] at hc, fun n hn => by simp [hidle] at hn⟩
  rw [hp, hrelays]
  exact fun r hr hfinished =>
    h.tidy.fine.isOver_reaches honward.reaches (h.relays r hr hfinished)

/-- **Every act leaves a session traced.** -/
theorem Traced.step (h : Traced sv l s) (hkeep : sv.parsers.KeepsRanks)
    (hstep : Step sv s a s') : Traced sv (l.after s a s') s' := by
  have htidy := h.tidy.step hstep
  cases hstep with
  | idle => exact h.after_of_onward hkeep htidy h.onward_rfl _
  | move hmove =>
      exact h.after_of_onward hkeep htidy (h.onward_act (b := .move _) hmove (by simp)) _
  | shutDown drain =>
      exact h.after_of_onward hkeep htidy
        (h.onward_act (b := .call (.shutDown drain)) rfl (by simp)) _
  | @cancel n =>
      exact h.after_of_onward hkeep htidy (h.onward_act (b := .call (.cancel n)) rfl (by simp)) _
  | @pass k r j e hr hopen _ hj he hcurrent =>
      have htaken : l.taken s { s.pass r.operation e with
          relays := s.relays.set k (taking e r) } = l :=
        (taken_congr l fun _ _ => by rw [pipeline_pass]).trans (h.taken_of_onward h.onward_rfl)
      rw [after_of_launched_eq l, htaken]
      · exact h.pass hkeep hr hopen hj he hcurrent htidy
      · exact launched_set hr e
  | skip hr _ _ hj he hother =>
      exact h.after_of_onward hkeep htidy (h.onward_skip hr hj he hother htidy) _
  | fetch => exact h.after_of_onward hkeep htidy { h.onward_rfl with } _
  | release => exact h.release hkeep htidy
  | stash =>
      rw [after_of_launched_eq l]
      · exact h.stash hkeep
      · rw [launched, stash_rest s]
        rfl
  | retire _ hroom hp hplaces hcursor =>
      rw [after_of_launched_eq l, h.tidy.taken_of_samePlaces l hplaces]
      · exact (h.retire hkeep hroom).between hkeep rfl htidy hp rfl hcursor rfl rfl
      · rw [launched, retire_rest s]
        rfl
  | launch hroom herrand hp => exact h.launch hkeep hroom herrand hp htidy

theorem ledger_cons (sv : Services) (l : Ledger) (ha : s.act? sv a = some s') (acts : List Act) :
    s.ledger sv l (a :: acts) = s'.ledger sv (l.after s a s') acts := by rw [ledger, ha]

theorem Traced.run (h : Traced sv l s) (hkeep : sv.parsers.KeepsRanks) {acts : List Act}
    (hrun : s.run? sv acts = some s') : Traced sv (s.ledger sv l acts) s' := by
  induction acts generalizing s l with
  | nil =>
      obtain rfl : s = s' := by simpa using hrun
      exact h
  | cons a acts ih =>
      obtain ⟨s₁, ha, hrest⟩ := Option.bind_eq_some_iff.1 hrun
      rw [ledger_cons sv l ha]
      exact ih (h.step hkeep (step_of_act? ha)) hrest

theorem ledger_append (sv : Services) {s s₁ : Session} (l : Ledger) {acts : List Act}
    (hrun : s.run? sv acts = some s₁) (later : List Act) :
    s.ledger sv l (acts ++ later) = s₁.ledger sv (s.ledger sv l acts) later := by
  induction acts generalizing s l with
  | nil =>
      obtain rfl : s = s₁ := by simpa using hrun
      rfl
  | cons a acts ih =>
      obtain ⟨s₂, ha, hrest⟩ := Option.bind_eq_some_iff.1 hrun
      rw [List.cons_append, ledger_cons sv l ha, ledger_cons sv l ha]
      exact ih _ hrest

/-- What was noted of a launch stays. -/
theorem launches_prefix (sv : Services) (s : Session) (l : Ledger) (acts : List Act) :
    l.launches <+: (s.ledger sv l acts).launches := by
  induction acts generalizing s l with
  | nil => exact List.prefix_rfl
  | cons a acts ih =>
      rw [ledger]
      split
      · next s' _ =>
        refine List.IsPrefix.trans ?_ (ih s' _)
        simp only [Ledger.after, launches_taken]
        exact List.prefix_append ..
      · exact List.prefix_rfl

/-- An operation that is launched to continue a search continues one that was begun before. -/
theorem Traced.launched_more (h : Traced sv l s) (hkeep : sv.parsers.KeepsRanks) {target : Nat}
    {obstacle : Option String} (hact : s.act? sv (.more target obstacle) = some s')
    (hlaunch : s'.launched = s.launched ++ [n]) :
    ∃ x r, (l.after s (.more target obstacle) s').launches = l.launches ++ [x] ∧
      x.operation = n ∧ x.search = some r ∧ Launch.Begun r l.launches := by
  rcases (step_of_act? hact).launched_cases with hsame | ⟨o, cursor, base, keywords, hroom, herrand,
    rfl⟩
  · simp [hsame] at hlaunch
  · have hretire := h.retire hkeep hroom
    rw [launched_launching, List.append_cancel_left_eq, List.cons.injEq] at hlaunch
    obtain ⟨rfl, -⟩ := hlaunch
    cases herrand with
    | @more c hcursor =>
        obtain ⟨r, hcontinued, hready⟩ := hretire.idle rfl c hcursor
        have hbegun := hready.begun
        rw [launches_taken] at hbegun
        refine ⟨launchOf (.more target obstacle) (l.taken s s.stash) s, r, ?_, rfl, hcontinued,
          hbegun⟩
        rw [h.tidy.after_launching, Ledger.noting, launches_taken]

/-! ### The main statement -/

/-- What a session shows when an operation that continues the search `r` has completed with
documents. -/
structure Appended (n r : Nat) (c : Collection) (l : Ledger) (s : Session) : Prop where
  /-- The search was begun by another operation. -/
  begun : Launch.Begun r l.launches ∧ r ≠ n
  continued : Launch.search? n l.launches = some r
  /-- All operations of the search have the same query. -/
  query : ∃ q, ∀ x ∈ l.launches, x.search = some r → x.query = some q
  /-- Their documents have different ranks. -/
  ranks : ((Launch.documents r s.pipeline l.launches).map (·.rank)).Nodup
  /-- The documents of the last operation are among them, all of them. -/
  added : c.documents <:+ Launch.documents r s.pipeline l.launches
  /-- If the search stands, a client sees its documents and nothing else. -/
  shown : Launch.Stands r s.pipeline l.launches → ∃ kept, s.collection = some kept ∧
    kept.documents = Launch.documents r s.pipeline l.launches

theorem Searching.appended (h : Searching before x q c₀ l s) (hs : Traced sv l s)
    (hactive : s.active = some x.operation) (hlaunches : l.launches = before ++ [x])
    (hx : x.search = some q) (hbegun : Launch.Begun q l.launches) (hne : q ≠ x.operation)
    (hrelayed : s.isRelayed x.operation = true) {c : Collection}
    (hc : s.pipeline.completion? x.operation = some c) : Appended x.operation q c l s := by
  refine ⟨⟨hbegun, hne⟩, (hs.search?_eq hactive hlaunches).trans hx,
    ⟨c₀.query, hlaunches ▸ h.about⟩, hlaunches ▸ h.ranks_concat hs hx, ?_, fun hstands => ?_⟩
  · rw [hlaunches, Launch.documents_concat, if_pos hx, hc]
    exact List.suffix_append ..
  · have hshown := h.done hrelayed (hlaunches ▸ hstands)
    obtain ⟨kept, hkept⟩ := Option.isSome_iff_exists.1 (h.stored hrelayed (by simp [hc]))
    rw [hkept] at hshown
    exact ⟨kept, hkept, hlaunches ▸ hshown.1⟩

/-- **What is found later is added to the documents of the same search.** A session of any pipeline
launches an operation that continues a search, and clients do not release or replace it. When it has
completed and all of it was passed on, a client sees the documents of the completed operations of
this search, in their order, each once and no others: *if the search stands*, that is, if the
operation that began it completed, or if there were no documents to be seen when it was launched. -/
theorem appended_of_run (sv : Services) (hkeep : sv.parsers.KeepsRanks) (settings : Settings)
    {p : Pipeline} (hp : Pipeline.Reaches sv (.ofSettings settings) p) (before : List Act)
    {s₀ s₁ : Session} (hbefore : (ofPipeline p).run? sv before = some s₀) {target : Nat}
    {obstacle : Option String} (hact : s₀.act? sv (.more target obstacle) = some s₁)
    (hlaunch : s₁.launched = s₀.launched ++ [n]) (after : List Act)
    (hafter : s₁.run? sv after = some s) (hactive : s.active = some n) (hidle : s.isBusy = false)
    {c : Collection} (hc : s.pipeline.completion? n = some c) :
    ∃ r, Appended n r c ((ofPipeline p).ledger sv .empty (before ++ .more target obstacle :: after))
      s := by
  have htidy := tidy_ofPipeline ((Pipeline.fine_ofSettings sv settings).reaches hp)
  have h₀ := (traced_ofPipeline htidy ((Pipeline.regular_ofSettings sv settings).reaches hkeep
    hp)).run hkeep hbefore
  rw [ledger_append sv .empty hbefore, ledger_cons sv _ hact]
  generalize (ofPipeline p).ledger sv .empty before = l₀ at h₀ ⊢
  obtain ⟨x, r, hnoted, hop, hx, ⟨y, hy, hbegun⟩⟩ := h₀.launched_more hkeep hact hlaunch
  have h₁ := h₀.step hkeep (step_of_act? hact)
  have h := h₁.run hkeep hafter
  have hprefix := launches_prefix sv s₁ (l₀.after s₀ (.more target obstacle) s₁) after
  rw [hnoted] at hprefix
  generalize s₁.ledger sv (l₀.after s₀ (.more target obstacle) s₁) after = l at h hprefix ⊢
  have hmem : ∀ z ∈ l₀.launches ++ [x], z ∈ l.launches := fun z hz => hprefix.subset hz
  -- the launch that was noted is the one of the current operation
  obtain ⟨earlier, x', hlaunches, hop', hcases⟩ := h.current n hactive
  have hdistinct : (l.launches.map (·.operation)).Nodup := h.launches ▸ h.tidy.distinct
  obtain rfl : x = x' := List.inj_on_of_nodup_map hdistinct (hmem x (by simp))
    (by simp [hlaunches]) (hop.trans hop'.symm)
  subst hop
  obtain ⟨q, c₀, hq, hsearching⟩ := hcases.resolve_left fun ⟨hnone, _⟩ => by simp [hx] at hnone
  obtain rfl : r = q := Option.some.inj (hx.symm.trans hq)
  refine ⟨r, hsearching.appended h hactive hlaunches hx ⟨y, hmem y (by simp [hy]), hbegun⟩ ?_
    (h.isRelayed_of_active hactive (Bool.or_eq_false_iff.1 hidle).2) hc⟩
  -- the one that began the search was launched earlier
  rintro rfl
  have hnew := h₁.tidy.distinct
  rw [hlaunch, ← h₀.launches, List.nodup_append] at hnew
  exact hnew.2.2 _ (List.mem_map_of_mem hy) _ (List.mem_singleton_self _) hbegun.1

/-- Services whose provider cannot be reached at first. Then it finds two results. -/
def recovering : Services where
  provider := ⟨fun calls _ _ =>
    if calls.isEmpty then .error (.unreachable "down")
    else .value ⟨["a", "b"].map fun url => { (default : SearchResult) with url }, true⟩⟩
  crawler := ⟨fun _ result => .value ⟨result.url, "", "river"⟩⟩
  parsers := Pipeline.fruitful.parsers
  blocked := .empty
  waits := .none

/-- The moves among the acts of a pipeline. -/
def moves (acts : List Pipeline.Act) : List Act :=
  acts.filterMap fun
    | .move m => some (.move m)
    | .call _ => none

/-- The search `i` of the operation `n` fails. -/
def fails (n i : Nat) : List Act :=
  moves (Pipeline.advances 2 ++ Pipeline.serves .search i 3 1) ++ [.relay n]

/-- The search `i` of the operation `n` takes so many steps to find one result, which becomes a
document. -/
def finds (n i steps crawl parse : Nat) : List Act :=
  moves (Pipeline.advances 2 ++ Pipeline.serves .search i steps 4 ++
    Pipeline.serves .crawl crawl 1 3 ++ Pipeline.serves .parse parse 3 1) ++
    List.replicate 3 (.relay n)

/-- A search fails, and is continued. -/
def retried : List Act :=
  .search ⟨.english, "river", false⟩ 1 default none :: fails 0 0 ++ .more 1 none :: finds 1 1 3 0 0

/-- When it is continued once more, a client sees both documents. -/
theorem appended_retried : recovering.parsers.KeepsRanks ∧ ∃ s₀ s₁ s c,
    (ofPipeline (.ofSettings (.standard 1))).run? recovering retried = some s₀ ∧
      s₀.act? recovering (.more 1 none) = some s₁ ∧ s₁.launched = s₀.launched ++ [2] ∧
      s₁.run? recovering (finds 2 2 2 1 1) = some s ∧ s.active = some 2 ∧ s.isBusy = false ∧
      s.pipeline.completion? 2 = some c ∧ c.documents.map (·.rank) = [1] ∧
      (s.collection.map fun kept => kept.documents.map (·.rank)) = some [0, 1] ∧
      ∃ r, Appended 2 r c ((ofPipeline (.ofSettings (.standard 1))).ledger recovering .empty
        (retried ++ .more 1 none :: finds 2 2 2 1 1)) s := by
  have hend : ((ofPipeline (.ofSettings (.standard 1))).run? recovering retried).any (fun s₀ =>
      (s₀.act? recovering (.more 1 none)).any fun s₁ => s₁.launched == s₀.launched ++ [2] &&
        (s₁.run? recovering (finds 2 2 2 1 1)).any fun s =>
          s.active == some 2 && s.isBusy == false &&
          (s.pipeline.completion? 2).any (fun c => c.documents.map (·.rank) == [1]) &&
          (s.collection.map fun kept => kept.documents.map (·.rank)) == some [0, 1]) = true := by
    decide +kernel
  obtain ⟨s₀, hbefore, hend⟩ := (Option.any_eq_true ..).1 hend
  obtain ⟨s₁, hact, hend⟩ := (Option.any_eq_true ..).1 hend
  obtain ⟨hlaunch, hend⟩ := Bool.and_eq_true_iff.1 hend
  obtain ⟨s, hafter, hend⟩ := (Option.any_eq_true ..).1 hend
  simp only [Bool.and_eq_true, beq_iff_eq, Option.any_eq_true] at hlaunch hend
  obtain ⟨⟨⟨hactive, hidle⟩, c, hc, hranks⟩, hkept⟩ := hend
  have hkeep : recovering.parsers.KeepsRanks := Pipeline.keepsRanks_fruitful
  exact ⟨hkeep, s₀, s₁, s, c, hbefore, hact, hlaunch, hafter, hactive, hidle, hc, hranks, hkept,
    appended_of_run recovering hkeep (.standard 1) .rfl retried hbefore hact hlaunch _ hafter
      hactive hidle hc⟩

/-- A source is parsed. Then a search in another language fails, and is continued. -/
def misled : List Act :=
  .parse .german [{ (default : Source) with text := "Haus" }] default none ::
    moves (Pipeline.advances 5 ++ Pipeline.serves .parse 0 3 1) ++ List.replicate 3 (.relay 0) ++
    .search ⟨.english, "river", false⟩ 1 default none :: fails 1 0 ++
    .more 1 none :: finds 2 1 3 0 1

/-- The search is continued by an operation that completes with one document. A client sees the
document that was parsed, which belongs to no search, and the new one is nowhere. -/
theorem not_appended_misled : ∃ s l c kept,
    (ofPipeline (.ofSettings (.standard 1))).run? recovering misled = some s ∧
      (ofPipeline (.ofSettings (.standard 1))).ledger recovering .empty misled = l ∧
      s.active = some 2 ∧ s.isBusy = false ∧ s.pipeline.completion? 2 = some c ∧
      s.collection = some kept ∧ Launch.search? 2 l.launches = some 1 ∧
      c.documents.map (·.language) = [.english] ∧ kept.documents.map (·.language) = [.german] ∧
      kept.documents ≠ Launch.documents 1 s.pipeline l.launches ∧
      ∀ d ∈ c.documents, d ∉ kept.documents := by
  have hend : ((ofPipeline (.ofSettings (.standard 1))).run? recovering misled).any (fun s =>
      let l := (ofPipeline (.ofSettings (.standard 1))).ledger recovering .empty misled
      s.active == some 2 && s.isBusy == false && Launch.search? 2 l.launches == some 1 &&
        (Launch.documents 1 s.pipeline l.launches).map (·.language) == [.english] &&
        (s.pipeline.completion? 2).any (·.documents.map (·.language) == [.english]) &&
        s.collection.any (·.documents.map (·.language) == [.german])) = true := by
    decide +kernel
  obtain ⟨s, hrun, hend⟩ := (Option.any_eq_true ..).1 hend
  simp only [Bool.and_eq_true, beq_iff_eq, Option.any_eq_true] at hend
  obtain ⟨⟨⟨⟨⟨hactive, hidle⟩, hsearch⟩, hsought⟩, c, hc, hnew⟩, kept, hkept, hold⟩ := hend
  refine ⟨s, _, c, kept, hrun, rfl, hactive, hidle, hc, hkept, hsearch, hnew, hold, fun heq => ?_,
    fun d hd hmem => ?_⟩
  · rw [← heq, hold] at hsought
    simp at hsought
  · have hfirst := List.mem_map_of_mem (f := fun d : Document => d.language) hd
    have hsecond := List.mem_map_of_mem (f := fun d : Document => d.language) hmem
    rw [hnew, List.mem_singleton] at hfirst
    rw [hold, List.mem_singleton, hfirst] at hsecond
    simp at hsecond

end Session

end GradedReading
