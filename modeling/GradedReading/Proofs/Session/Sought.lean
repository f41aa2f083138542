import GradedReading.Proofs.Session.Noted

/-!
# GradedReading.Proofs.Session.Sought

Which search a session continues.

**Key idea:** clients mean the search that they began last. The session means the search whose
cursor it has. Both are the same as soon as the cursor of the last search was taken over, and then
they stay the same. Until then the session keeps the cursor of an earlier search, and if the
operation is retired while a task still has its cursor, this earlier search is the one that will be
continued. `outrun` is a run in which it is.
-/

namespace GradedReading

open Search

namespace Session

/-- A search that clients mean to continue. -/
structure Sought where
  /-- The operation that began it. -/
  operation : Nat
  query : Query
deriving DecidableEq, Repr

/-- The search that clients mean after an act: the one that was just begun, or none if sources are
parsed. Calls that were refused change nothing. -/
def soughtAfter (sv : Services) (s : Session) (a : Act) (x? : Option Sought) : Option Sought :=
  match a, s.begins? sv a with
  | .search q .., some (.ok n, _) => some ⟨n, q⟩
  | .parse .., some (.ok _, _) => none
  | _, _ => x?

/-- The search that clients mean after a run. -/
def sought (sv : Services) : Session → Option Sought → List Act → Option Sought
  | _, x?, [] => x?
  | s, x?, a :: acts =>
    match s.act? sv a with
    | some s' => s'.sought sv (s.soughtAfter sv a x?) acts
    | none => x?

variable {sv : Services} {s s' : Session} {a : Act} {l : Ledger} {n : Nat} {x : Sought}
  {x? : Option Sought}

theorem soughtAfter_of_not_ok (h : ∀ n s', s.begins? sv a ≠ some (.ok n, s')) (x? : Option Sought) :
    s.soughtAfter sv a x? = x? := by
  unfold soughtAfter
  split
  · next hok => exact absurd hok (h _ _)
  · next hok => exact absurd hok (h _ _)
  · rfl

/-! ### Where the cursor of the last search is -/

/-- The session has a cursor of the search if and only if it has taken one over. -/
structure Follows (x : Sought) (l : Ledger) (s : Session) : Prop where
  begun : Launch.BegunWith x.operation x.query l.launches
  cursor : ∀ c, s.cursor = some c →
    (l.continued = some x.operation ↔ s.pipeline.place? x.operation = some .gone)
  /-- An operation that was launched since continues what the session had a cursor of. -/
  current : ∀ n, s.active = some n → n ≠ x.operation →
    (Launch.search? n l.launches = some x.operation ↔
      s.pipeline.place? x.operation = some .gone)

/-- A session of which it is known which search clients mean. -/
structure Seeks (sv : Services) (l : Ledger) (x? : Option Sought) (s : Session) : Prop
    extends Noted sv l s where
  /-- If clients mean none, there is nothing to continue. -/
  nothing : x? = none → s.cursor = none ∧ ∀ n, s.active = some n → s.pipeline.place? n = none
  follows : ∀ x, x? = some x → Follows x l s

theorem seeks_ofPipeline {p : Pipeline} (hp : p.Steady sv) :
    Seeks sv .empty none (ofPipeline p) where
  toNoted := noted_ofPipeline hp
  nothing _ := ⟨rfl, by simp [ofPipeline]⟩
  follows := by simp

/-- The search that clients mean was launched. -/
theorem Follows.lt (h : Follows x l s) (hs : Noted sv l s) :
    x.operation < s.pipeline.operations.length := by
  obtain ⟨y, hy, hop, -⟩ := h.begun
  exact hop ▸ hs.lt hy

theorem Follows.gone_iff (h : Follows x l s) (hs : Noted sv l s) (hleave : Untaken sv s s') :
    s'.pipeline.place? x.operation = some .gone ↔
      s.pipeline.place? x.operation = some .gone := by
  obtain ⟨y, hy, hop, -⟩ := h.begun
  exact hop ▸ hs.gone_iff hleave hy

theorem Seeks.untaken (h : Seeks sv l x? s) (htidy : s'.Tidy sv) (hleave : Untaken sv s s') :
    Seeks sv l x? s' where
  toNoted := h.toNoted.untaken htidy hleave
  nothing hx := by
    obtain ⟨hcursor, hplaces⟩ := h.nothing hx
    refine ⟨hleave.cursor.elim (·.trans hcursor) id, fun n hn => ?_⟩
    rcases hleave.active with hsame | hnone
    · rw [hsame] at hn
      obtain ⟨y, hy, rfl⟩ := h.exists_current hn
      exact (h.steady.place?_eq_none hleave.reaches (h.lt hy) (hplaces _ hn)).2
    · simp [hnone] at hn
  follows x hx := by
    have hfollows := h.follows x hx
    have hgone := hfollows.gone_iff h.toNoted hleave
    refine ⟨hfollows.begun, fun c hc => ?_, fun n hn hne => ?_⟩
    · rcases hleave.cursor with hsame | hnone
      · exact (hfollows.cursor c (hsame ▸ hc)).trans hgone.symm
      · simp [hnone] at hc
    · rcases hleave.active with hsame | hnone
      · exact (hfollows.current n (hsame ▸ hn) hne).trans hgone.symm
      · simp [hnone] at hn

/-- The cursor of the current operation is taken over. -/
theorem Follows.stash (h : Follows x l s) (hs : Noted sv l s) :
    Follows x (l.taken s s.stash) s.stash := by
  rcases stash_cases s with hsame | ⟨n, c, hactive, -, htake, hstash⟩
  · rw [hsame, taken_self]
    exact h
  have hputs := (Pipeline.place?_of_takeCursor htake).2
  have hpipeline : s.stash.pipeline = (s.pipeline.takeCursor n).2 := by rw [hstash]
  have hwas : s.stash.active = some n := (active_stash s).trans hactive
  rw [taken_stash hactive htake hstash]
  by_cases hn : n = x.operation
  · -- it is the cursor of the search that clients mean
    subst hn
    have hgone : s.stash.pipeline.place? x.operation = some .gone :=
      hpipeline ▸ hputs.of_some (Pipeline.place?_of_takeCursor htake).1
    exact ⟨h.begun, fun _ _ => iff_of_true (h.begun.search? hs.distinct) hgone,
      fun m hm hne => absurd (Option.some.inj (hm.symm.trans hwas)) hne⟩
  · have hplace : s.stash.pipeline.place? x.operation = s.pipeline.place? x.operation :=
      hpipeline ▸ hputs.of_ne (Ne.symm hn)
    refine ⟨h.begun, fun _ _ => ?_, fun m hm hne => ?_⟩
    · rw [hplace]
      exact h.current n hactive hn
    · rw [hplace]
      exact h.current m ((active_stash s).symm.trans hm) hne

theorem Seeks.stash (h : Seeks sv l x? s) : Seeks sv (l.taken s s.stash) x? s.stash where
  toNoted := h.toNoted.stash
  nothing hx := by
    obtain ⟨hcursor, hplaces⟩ := h.nothing hx
    rcases stash_cases s with hsame | ⟨n, c, hactive, -, htake, -⟩
    · rw [hsame]
      exact ⟨hcursor, hplaces⟩
    · have hhere := (Pipeline.place?_of_takeCursor htake).1
      simp [hplaces n hactive] at hhere
  follows x hx := (h.follows x hx).stash h.toNoted

theorem Seeks.retire (h : Seeks sv l x? s) (hroom : s.HasRoom) :
    Seeks sv (l.taken s s.stash) x? s.retire where
  toNoted := h.toNoted.retire hroom
  nothing hx := ⟨(h.stash.nothing hx).1, by simp [Session.retire]⟩
  follows x hx :=
    { (h.stash.follows x hx) with current := by simp [Session.retire] }

/-! ### Launching -/

section Launch

variable {o : Operation} {cursor : Option Cursor} {base : Option Collection}
  {keywords : KeywordSet}

/-- A new search is the one that clients mean. The session still has the cursor of an earlier one. -/
theorem Noted.follows_search (h : Noted sv l s.retire) (q : Query) (target : Nat)
    (obstacle : Option String) :
    Follows ⟨s.retire.pipeline.operations.length, q⟩
      (l.noting (launchOf (.search q target keywords obstacle) l s))
      (s.launching (.ofCursor (.start q) target keywords) s.retire.cursor none keywords) where
  begun := ⟨_, List.mem_append_right _ (List.mem_singleton_self _), rfl, rfl, rfl⟩
  cursor c hc := by
    have hplace := Pipeline.place?_launched (.ofCursor (.start q) target keywords)
      s.retire.pipeline
    obtain ⟨r, hcontinued, y, hy, hop, -⟩ := h.cursor c hc
    refine iff_of_false (fun hnew => ?_) (fun hgone => ?_)
    · have hlt := h.lt hy
      rw [hop, Option.some.inj (hcontinued.symm.trans hnew)] at hlt
      exact Nat.lt_irrefl _ hlt
    · simpa [Operation.ofCursor, Operation.place?] using hplace.symm.trans hgone
  current n hn hne := absurd (Option.some.inj hn).symm hne

/-- Whoever continues a search takes the cursor that the session has. -/
theorem Follows.launch_more (h : Follows x l s.retire) (hs : Noted sv l s.retire) {c : Cursor}
    (hcursor : s.retire.cursor = some c) (target : Nat) (obstacle : Option String)
    (base : Option Collection) (keywords : KeywordSet) :
    Follows x (l.noting (launchOf (.more target obstacle) l s))
      (s.launching (.ofCursor c target keywords) none base keywords) where
  begun := h.begun.concat _
  cursor c' hc' := by simp [launching] at hc'
  current n hn _ := by
    obtain rfl : s.retire.pipeline.operations.length = n := Option.some.inj hn
    have hsearch : Launch.search? s.retire.pipeline.operations.length
        (l.noting (launchOf (.more target obstacle) l s)).launches = l.continued :=
      Launch.search?_concat (x := launchOf (.more target obstacle) l s)
        fun y hy => Nat.ne_of_lt (hs.lt hy)
    have hplace := Pipeline.samePlaces_launched (.ofCursor c target keywords) s.retire.pipeline
      x.operation (h.lt hs)
    rw [hsearch, h.cursor c hcursor]
    exact (Eq.congr_left hplace).symm

theorem Seeks.launch (h : Seeks sv l x? s.retire)
    (herrand : Errand s.retire a o cursor base keywords)
    (hsupports : sv.parsers.supports o.job.language = true)
    (htidy : (s.launching o cursor base keywords).Tidy sv)
    (hanswer : s.begins? sv a = some (.ok s.retire.pipeline.operations.length,
      s.launching o cursor base keywords)) :
    Seeks sv (l.noting (launchOf a l s)) (s.soughtAfter sv a x?)
      (s.launching o cursor base keywords) := by
  refine ⟨h.toNoted.launch herrand hsupports htidy, ?_, ?_⟩
  · intro hnone
    cases herrand with
    | search q target keywords obstacle => simp [soughtAfter, hanswer] at hnone
    | parse =>
        refine ⟨rfl, fun n hn => ?_⟩
        obtain rfl : s.retire.pipeline.operations.length = n := Option.some.inj hn
        exact Pipeline.place?_launched ..
    | more hcursor => simp [(h.nothing hnone).1] at hcursor
  · intro x hx
    cases herrand with
    | search q target keywords obstacle =>
        simp only [soughtAfter, hanswer, Option.some.injEq] at hx
        subst hx
        exact h.toNoted.follows_search q target obstacle
    | parse => simp [soughtAfter, hanswer] at hx
    | more hcursor target obstacle =>
        exact (h.follows x hx).launch_more h.toNoted hcursor target obstacle _ _

end Launch

/-! ### Whatever happens -/

theorem Seeks.act (h : Seeks sv l x? s) (hact : s.act? sv a = some s') :
    Seeks sv (l.after s a s') (s.soughtAfter sv a x?) s' := by
  have htidy := h.tidy.step (step_of_act? hact)
  cases handling_of_act? hact with
  | @leave s₁ _ hstash hleave hanswer =>
      have hseeks : Seeks sv (l.taken s s₁) x? s₁ := by
        rcases hstash with rfl | rfl
        · exact (taken_self l s₁).symm ▸ h
        · exact h.stash
      rw [(h.toNoted.after_leave hstash hleave a).1, soughtAfter_of_not_ok hanswer]
      exact hseeks.untaken htidy hleave
  | launch hroom herrand hsupports hanswer =>
      rw [h.tidy.after_launching]
      exact (h.retire hroom).launch herrand hsupports htidy hanswer

theorem sought_cons (sv : Services) (x? : Option Sought) (ha : s.act? sv a = some s')
    (acts : List Act) :
    s.sought sv x? (a :: acts) = s'.sought sv (s.soughtAfter sv a x?) acts := by rw [sought, ha]

theorem Seeks.run (h : Seeks sv l x? s) {acts : List Act} (hrun : s.run? sv acts = some s') :
    Seeks sv (s.ledger sv l acts) (s.sought sv x? acts) s' := by
  induction acts generalizing s l x? with
  | nil =>
      obtain rfl : s = s' := by simpa using hrun
      exact h
  | cons a acts ih =>
      obtain ⟨s₁, ha, hrest⟩ := Option.bind_eq_some_iff.1 hrun
      rw [ledger_cons sv l ha, sought_cons sv x? ha]
      exact ih (h.act ha) hrest

/-! ### The main statement -/

/-- What the operation `n` continues that was launched when clients meant the search `x`. -/
structure Continued (n : Nat) (x : Sought) (l : Ledger) (s : Session) : Prop where
  /-- The search that clients mean was begun with its query. -/
  begun : Launch.BegunWith x.operation x.query l.launches
  /-- The operation has a cursor of a search that was begun, in place of the one that it has now. -/
  continues : ∃ r c, Launch.search? n l.launches = some r ∧
    s.pipeline.place? n = some (.here c) ∧ Launch.BegunWith r c.query l.launches
  /-- If the cursor of what clients mean was taken over, this is what is continued. -/
  taken : s.pipeline.place? x.operation = some .gone →
    Launch.search? n l.launches = some x.operation ∧
      ∀ c, s.pipeline.place? n = some (.here c) → c.query = x.query
  /-- Otherwise another search is continued. -/
  left : s.pipeline.place? x.operation ≠ some .gone →
    Launch.search? n l.launches ≠ some x.operation

/-- What is launched to continue a search continues what the session had the cursor of. -/
theorem Seeks.continued (h : Seeks sv l x? s) {target : Nat} {obstacle : Option String}
    (hmore : s.more sv target obstacle = some (.ok n, s')) :
    ∃ x, x? = some x ∧ Continued n x (l.after s (.more target obstacle) s') s' := by
  cases answer_of_begins? (a := .more target obstacle) hmore with
  | launched hroom herrand =>
  have hretire := h.retire hroom
  rw [h.tidy.after_launching]
  generalize l.taken s s.stash = l₁ at hretire ⊢
  cases herrand with
  | @more c hcursor =>
  obtain ⟨r, hcontinued, hbegun⟩ := hretire.cursor c hcursor
  obtain ⟨x, rfl⟩ : ∃ x, x? = some x := Option.ne_none_iff_exists'.1 fun hnone => by
    simp [(hretire.nothing hnone).1] at hcursor
  have hfollows := hretire.follows x rfl
  have hnew : s.retire.pipeline.operations.length ≠ x.operation :=
    Nat.ne_of_gt (hfollows.lt hretire.toNoted)
  have hsearch : Launch.search? s.retire.pipeline.operations.length
      (l₁.noting (launchOf (.more target obstacle) l₁ s)).launches = some r :=
    (Launch.search?_concat (x := launchOf (.more target obstacle) l₁ s)
      fun y hy => Nat.ne_of_lt (hretire.lt hy)).trans hcontinued
  have hplace : (s.retire.pipeline.launched (.ofCursor c target s.retire.keywords)).place?
      s.retire.pipeline.operations.length = some (.here c) := Pipeline.place?_launched ..
  have hmeant := (hfollows.launch_more hretire.toNoted hcursor target obstacle
    s.retire.collection s.retire.keywords).current _ rfl hnew
  refine ⟨x, rfl, hfollows.begun.concat _, ⟨r, c, hsearch, hplace, hbegun.concat _⟩,
    fun hgone => ⟨hmeant.2 hgone, fun c' hc' => ?_⟩, fun hleft hsame => hleft (hmeant.1 hsame)⟩
  -- the search has one query
  obtain rfl : r = x.operation := Option.some.inj (hsearch.symm.trans (hmeant.2 hgone))
  obtain ⟨rfl⟩ : c = c' := by simpa using hplace.symm.trans hc'
  exact hbegun.query_eq hfollows.begun hretire.distinct

theorem sought_append (sv : Services) {s s₁ : Session} (x? : Option Sought) {acts : List Act}
    (hrun : s.run? sv acts = some s₁) (later : List Act) :
    s.sought sv x? (acts ++ later) = s₁.sought sv (s.sought sv x? acts) later := by
  induction acts generalizing s x? with
  | nil =>
      obtain rfl : s = s₁ := by simpa using hrun
      rfl
  | cons a acts ih =>
      obtain ⟨s₂, ha, hrest⟩ := Option.bind_eq_some_iff.1 hrun
      rw [List.cons_append, sought_cons sv x? ha, sought_cons sv x? ha]
      exact ih _ hrest

/-- **What is continued is the last search, if its cursor was taken over.** Whatever clients do with
a session of any pipeline: if a call to continue the last search succeeds, a search was begun, and
no sources were parsed since. If the session has taken the cursor of this search over, the new
operation continues it, with its query. Otherwise the operation was retired while its cursor was
away, and the new one continues an earlier search. -/
theorem continued_of_run (sv : Services) (settings : Settings) {p : Pipeline}
    (hp : Pipeline.Reaches sv (.ofSettings settings) p) (acts : List Act)
    (hrun : (ofPipeline p).run? sv acts = some s) {target : Nat} {obstacle : Option String}
    (hmore : s.more sv target obstacle = some (.ok n, s')) :
    ∃ x, (ofPipeline p).sought sv none (acts ++ [.more target obstacle]) = some x ∧
      Continued n x ((ofPipeline p).ledger sv .empty (acts ++ [.more target obstacle])) s' := by
  have h := (seeks_ofPipeline ((Pipeline.steady_ofSettings sv settings).reaches hp)).run hrun
  have hact : s.act? sv (.more target obstacle) = some s' := act?_of_begins? hmore
  rw [ledger_append sv .empty hrun, ledger_cons sv _ hact, sought_append sv none hrun,
    sought_cons sv _ hact]
  exact h.continued hmore

/-- The English search that everybody means. -/
def river : Query := ⟨.english, "river", false⟩

/-- A run in which the number of the operation that is launched in the end is known. -/
theorem more_eq_ok {s : Session} {r : Except OperationError Nat × Session}
    (h : s.more sv n none = some r) {k : Nat} (hk : r.1.toOption = some k) :
    s.more sv n none = some (.ok k, r.2) := by
  obtain ⟨answer, s'⟩ := r
  cases answer with
  | ok m =>
      obtain rfl : m = k := Option.some.inj hk
      exact h
  | error => simp [Except.toOption] at hk

/-- A search that fails is continued, since its cursor is back when it is continued. -/
theorem continued_failed : ∃ s s' l, (ofPipeline (.ofSettings (.standard 1))).run? recovering
      (.search river 1 default none :: fails 0 0) = some s ∧
    s.more recovering 1 none = some (.ok 1, s') ∧
    (ofPipeline (.ofSettings (.standard 1))).ledger recovering .empty
      (.search river 1 default none :: fails 0 0 ++ [.more 1 none]) = l ∧
    Launch.search? 1 l.launches = some 0 ∧
    ∃ x, (ofPipeline (.ofSettings (.standard 1))).sought recovering none
        (.search river 1 default none :: fails 0 0 ++ [.more 1 none]) = some x ∧
      x.query = river ∧ Continued 1 x l s' := by
  have hend : ((ofPipeline (.ofSettings (.standard 1))).run? recovering
      (.search river 1 default none :: fails 0 0)).any (fun s =>
        (s.more recovering 1 none).any (·.1.toOption == some 1)) = true ∧
      Launch.search? 1 ((ofPipeline (.ofSettings (.standard 1))).ledger recovering .empty
        (.search river 1 default none :: fails 0 0 ++ [.more 1 none])).launches = some 0 ∧
      (ofPipeline (.ofSettings (.standard 1))).sought recovering none
        (.search river 1 default none :: fails 0 0 ++ [.more 1 none]) = some ⟨0, river⟩ := by
    decide +kernel
  obtain ⟨hend, hsearch, hsought⟩ := hend
  obtain ⟨s, hrun, hend⟩ := (Option.any_eq_true ..).1 hend
  obtain ⟨r, hr, hok⟩ := (Option.any_eq_true ..).1 hend
  have hmore := more_eq_ok hr (by simpa using hok)
  obtain ⟨x, hx, hcontinued⟩ :=
    continued_of_run recovering (.standard 1) .rfl _ hrun hmore
  obtain rfl : x = ⟨0, river⟩ := Option.some.inj (hx.symm.trans hsought)
  exact ⟨s, r.2, _, hrun, hmore, rfl, hsearch, _, hx, rfl, hcontinued⟩

/-- A search completes. The next one is cancelled while it waits for the provider. -/
def outrun : List Act :=
  .search ⟨.german, "Fluss", false⟩ 0 default none ::
    moves (Pipeline.advances 2 ++ Pipeline.serves .search 0 2 3) ++ .relay 0 ::
    .search river 1 default none :: moves (Pipeline.advances 2 ++
      [.move (.take .search), .move (.look .search 1), .move (.start .search 1),
        .move (.body .search 1)]) ++ [.cancel, .relay 1]

/-- What is continued is the search before. -/
theorem not_continued_outrun : ∃ s s' c,
    (ofPipeline (.ofSettings (.standard 1))).run? recovering outrun = some s ∧
      s.more recovering 1 none = some (.ok 2, s') ∧
      (ofPipeline (.ofSettings (.standard 1))).sought recovering none
        (outrun ++ [.more 1 none]) = some ⟨1, river⟩ ∧
      Launch.search? 2 ((ofPipeline (.ofSettings (.standard 1))).ledger recovering .empty
        (outrun ++ [.more 1 none])).launches = some 0 ∧
      s'.pipeline.place? 2 = some (.here c) ∧ c.query = ⟨.german, "Fluss", false⟩ ∧
      c.query ≠ river := by
  have hend : ((ofPipeline (.ofSettings (.standard 1))).run? recovering outrun).any (fun s =>
      (s.more recovering 1 none).any fun r =>
        r.1.toOption == some 2 &&
          (r.2.pipeline.takeCursor 2).1.any (·.query == ⟨.german, "Fluss", false⟩)) = true ∧
      (ofPipeline (.ofSettings (.standard 1))).sought recovering none
        (outrun ++ [.more 1 none]) = some ⟨1, river⟩ ∧
      Launch.search? 2 ((ofPipeline (.ofSettings (.standard 1))).ledger recovering .empty
        (outrun ++ [.more 1 none])).launches = some 0 := by
    decide +kernel
  obtain ⟨hend, hsought, hsearch⟩ := hend
  obtain ⟨s, hrun, hend⟩ := (Option.any_eq_true ..).1 hend
  obtain ⟨r, hr, hend⟩ := (Option.any_eq_true ..).1 hend
  obtain ⟨hok, hcursor⟩ := Bool.and_eq_true_iff.1 hend
  obtain ⟨c, hcursor, hquery⟩ := (Option.any_eq_true ..).1 hcursor
  have hquery : c.query = ⟨.german, "Fluss", false⟩ := by simpa using hquery
  exact ⟨s, r.2, c, hrun, more_eq_ok hr (by simpa using hok), hsought, hsearch,
    (Pipeline.place?_of_takeCursor hcursor).1, hquery, by simp [hquery, river]⟩

end Session

end GradedReading
