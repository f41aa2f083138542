import GradedReading.Proofs.Pipeline.Origin

/-!
# GradedReading.Proofs.Pipeline.Blame

Why an operation failed.

**Key idea:** only its beginning submits the search of an operation, and the fan-out of an operation
is done once; so an operation has one search at most. What makes a job fail is what follows a search
that failed, or stands for one that was refused. So a failed operation failed because of its search,
or no search of it ever came to be.
-/

namespace GradedReading

open Search Instr

/-! ### One search -/

/-- Two things weigh together no more than all. -/
theorem add_le_sum_map {α : Type} (f : α → Nat) {m : Multiset α} {x y : α} (hx : x ∈ m)
    (hy : y ∈ m) (hne : x ≠ y) : f x + f y ≤ (m.map f).sum := by
  obtain ⟨rest, rfl⟩ := Multiset.exists_cons_of_mem hx
  obtain ⟨others, rfl⟩ :=
    Multiset.exists_cons_of_mem ((Multiset.mem_cons.1 hy).resolve_left hne.symm)
  simp only [Multiset.map_cons, Multiset.sum_cons]
  omega

theorem le_sum_map {α : Type} (f : α → Nat) {m : Multiset α} {x : α} (hx : x ∈ m) :
    f x ≤ (m.map f).sum := by
  obtain ⟨rest, rfl⟩ := Multiset.exists_cons_of_mem hx
  simp

namespace Pipeline

variable {sv : Services} {p p' p₁ : Pipeline} {a : Act} {s : Stage} {i j : Instr} {k n : Nat}

/-- A pipeline in which the fan-out of an operation is done once. -/
structure Even (sv : Services) (p : Pipeline) : Prop extends Proper sv p where
  balanced : ∀ n c, p.course? n = some c → c.Balanced

theorem Even.total_ends_le (h : p.Even sv) (hn : n < p.operations.length) :
    total ends (p.share n).1 ≤ 1 := by
  have hc := course?_of_eq (List.getElem?_eq_getElem hn) rfl
  have hends := (h.balanced n _ hc).ends_le
  have hbegun := Bool.toNat_le (Course.of (p.share n) p.operations[n]).begun
  have hagenda : (Course.of (p.share n) p.operations[n]).agenda = (p.share n).1 := rfl
  rw [hagenda] at hends
  omega

/-- The scripts on the agenda of an operation. -/
theorem exists_rest (h : p.Fine sv) {x : Script} (hx : x ∈ p.scripts) (hi : i ∈ x.rest)
    (hop : i.operation? = some n) : n < p.operations.length ∧ x.rest ∈ (x.share n).1 := by
  obtain ⟨about, hall, hlt⟩ := (h.sound.scripts x hx).about
  obtain rfl : about = some n := (hall i hi).symm.trans hop
  obtain ⟨j, rest, hrest⟩ := List.exists_cons_of_ne_nil (List.ne_nil_of_mem hi)
  have hj := hall j (hrest ▸ List.mem_cons_self ..)
  exact ⟨hlt n rfl, by simp [Script.share, hrest, hj]⟩

/-- At most one instruction about an operation ends its fan-out. -/
theorem Even.eq_of_ends (h : p.Even sv) {x y : Script} (hx : x ∈ p.scripts) (hi : i ∈ x.rest)
    (hy : y ∈ p.scripts) (hj : j ∈ y.rest) (hiop : i.operation? = some n)
    (hjop : j.operation? = some n) (hiends : ends i = 1) (hjends : ends j = 1) : i = j := by
  obtain ⟨hn, hxshare⟩ := exists_rest h.toFine hx hi hiop
  obtain ⟨-, hyshare⟩ := exists_rest h.toFine hy hj hjop
  have hle := h.total_ends_le hn
  have hxmem : x.rest ∈ (p.share n).1 := Multiset.mem_add.2 (.inl (mem_agenda_sum hx hxshare))
  have hymem : y.rest ∈ (p.share n).1 := Multiset.mem_add.2 (.inl (mem_agenda_sum hy hyshare))
  by_contra hne
  by_cases hsame : x.rest = y.rest
  · -- they would be in one script
    have htwo : ends i + ends j ≤ weigh ends x.rest :=
      add_le_sum_map ends (m := ↑x.rest) hi (hsame ▸ hj) hne
    have hone : weigh ends x.rest ≤ total ends (p.share n).1 := le_sum_map _ hxmem
    omega
  · have htwo : weigh ends x.rest + weigh ends y.rest ≤ total ends (p.share n).1 :=
      add_le_sum_map _ hxmem hymem hsame
    have hi₁ : ends i ≤ weigh ends x.rest := le_sum_map ends (m := ↑x.rest) hi
    have hj₁ : ends j ≤ weigh ends y.rest := le_sum_map ends (m := ↑y.rest) hj
    omega

/-- As long as the search of an operation has no outcome, nothing else ends the fan-out. -/
theorem Even.ends_of_search (h : p.Even sv) {t : PoolTask SearchTask (List SearchResult)}
    (ht : t ∈ p.searches) (hnone : t.outcome = none) {x : Script} (hx : x ∈ p.scripts)
    (hi : i ∈ x.rest) (hop : i.operation? = some t.task.operation) : ends i = 0 := by
  obtain ⟨hn, hxshare⟩ := exists_rest h.toFine hx hi hop
  have hle := h.total_ends_le hn
  have hscripts : weigh ends x.rest ≤
      total ends ((p.scripts.map (Script.share t.task.operation)).sum).1 :=
    le_sum_map _ (mem_agenda_sum hx hxshare)
  have hpools : 1 ≤ total ends (p.pools.share t.task.operation).1 :=
    le_sum_map (weigh ends) (mem_share_of_search ht rfl hnone)
  have hi₁ : ends i ≤ weigh ends x.rest := le_sum_map ends (m := ↑x.rest) hi
  rw [share, Prod.fst_add, total_add] at hle
  omega

theorem even_ofSettings (sv : Services) (settings : Settings) : (ofSettings settings).Even sv where
  toProper := proper_ofSettings sv settings
  balanced n c hc := by simp [course?, ofSettings] at hc

theorem Even.act (h : p.Even sv) (hp : p.act? sv a = some p') : p'.Even sv where
  toProper := h.toProper.act hp
  balanced n c hc := by
    have hfollows : Follows sv False p p' := follows_act h.sound (fun hf => hf.elim) hp
    rcases hbefore : p.course? n with _ | c₀
    · exact (hfollows.new n c hbefore hc).balanced
    · obtain ⟨c', hc', hchange⟩ := hfollows.step n c₀ hbefore
      obtain rfl : c' = c := Option.some.inj (hc'.symm.trans hc)
      rcases hchange with rfl | hstep
      · exact h.balanced n _ hbefore
      · exact (h.balanced n c₀ hbefore).step (h.tidy n c₀ hbefore) hstep

/-- A search after an act was there before, or a script has just submitted it. -/
theorem CursorStep.mem_searches (h : CursorStep sv p a p')
    {t' : PoolTask SearchTask (List SearchResult)} (ht' : t' ∈ p'.searches) :
    (∃ t ∈ p.searches, t.task.operation = t'.task.operation) ∨
      t'.outcome = none ∧ ∃ x ∈ p.scripts, Instr.submit .search t'.task ∈ x.rest := by
  -- a change of one task leaves its operation as it is
  have hset : ∀ {k t u}, p.searches[k]? = some t → p'.searches = p.searches.set k u →
      u.task.operation = t.task.operation →
      ∃ t ∈ p.searches, t.task.operation = t'.task.operation := by
    intro k t u ht htasks hop
    rw [htasks] at ht'
    rcases List.mem_or_eq_of_mem_set ht' with hold | rfl
    · exact ⟨t', hold, rfl⟩
    · exact ⟨t, List.mem_of_getElem? ht, hop.symm⟩
  cases h with
  | rest htasks | leave _ htasks => exact .inl ⟨t', htasks ▸ ht', rfl⟩
  | submit hx hu htasks =>
      rw [htasks] at ht'
      rcases List.mem_append.1 ht' with hold | hnew
      · exact .inl ⟨t', hold, rfl⟩
      · rw [List.mem_singleton.1 hnew]
        exact .inr ⟨rfl, _, hx, hu⟩
  | turn ht _ htasks | hold _ ht _ _ _ htasks | goOn ht _ _ _ htasks
  | giveBack ht _ _ _ htasks | miss _ ht _ _ htasks => exact .inl (hset ht htasks rfl)

/-- Something that counts for the same takes the place of another. -/
theorem map_set_of_eq {α β : Type} {f : α → β} {l : List α} {x y : α} (h : l[k]? = some x)
    (hy : f y = f x) : (l.set k y).map f = l.map f := by
  obtain ⟨hk, rfl⟩ := List.getElem?_eq_some_iff.1 h
  have hlt : k < (l.map f).length := by simpa using hk
  have hself : f l[k] = (l.map f)[k] := by simp
  rw [List.map_set, hy, hself, List.set_getElem_self]

/-- What is in a list stays there when another thing is replaced. -/
theorem mem_set_or_eq {α : Type} {l : List α} {x y : α} (h : l[k]? = some x) (hy : y ∈ l) (z : α) :
    y ∈ l.set k z ∨ y = x := by
  obtain ⟨j, hj⟩ := List.mem_iff_getElem?.1 hy
  by_cases hjk : j = k
  · subst hjk
    exact .inr (Option.some.inj (hj.symm.trans h))
  · refine .inl (List.mem_of_getElem? (i := j) ?_)
    rw [List.getElem?_set_ne (Ne.symm hjk), hj]

/-- A pipeline in which an operation has one search at most. -/
structure Sole (sv : Services) (p : Pipeline) : Prop extends Even sv p where
  nodup : (p.searches.map (·.task.operation)).Nodup
  /-- An operation that has a search gets no other one. -/
  ahead : ∀ t ∈ p.searches, ∀ x ∈ p.scripts, ∀ u : SearchTask, submit .search u ∈ x.rest →
    u.operation ≠ t.task.operation

theorem sole_ofSettings (sv : Services) (settings : Settings) : (ofSettings settings).Sole sv where
  toEven := even_ofSettings sv settings
  nodup := by simp [searches, ofSettings, Pools.ofSettings, Pool.ofSize]
  ahead t ht := by simp [searches, ofSettings, Pools.ofSettings, Pool.ofSize] at ht

/-- The search of an operation. -/
theorem Sole.eq_of_operation (h : p.Sole sv) {t u : PoolTask SearchTask (List SearchResult)}
    (ht : t ∈ p.searches) (hu : u ∈ p.searches) (hop : t.task.operation = u.task.operation) :
    t = u :=
  List.inj_on_of_nodup_map h.nodup ht hu hop

theorem Sole.nodup_act (h : p.Sole sv) (hstep : CursorStep sv p a p') :
    (p'.searches.map (·.task.operation)).Nodup := by
  have hset : ∀ {k t u}, p.searches[k]? = some t → p'.searches = p.searches.set k u →
      u.task.operation = t.task.operation → (p'.searches.map (·.task.operation)).Nodup := by
    intro k t u ht htasks hop
    rw [htasks, map_set_of_eq (f := (·.task.operation)) ht hop]
    exact h.nodup
  cases hstep with
  | rest htasks | leave _ htasks => exact htasks ▸ h.nodup
  | @submit _ _ x u number hx hu htasks =>
      rw [htasks, List.map_append, List.map_singleton, List.nodup_append]
      refine ⟨h.nodup, by simp, fun m hm m' hm' => ?_⟩
      obtain ⟨t, ht, rfl⟩ := List.mem_map.1 hm
      obtain rfl := List.mem_singleton.1 hm'
      exact (h.ahead t ht x hx u hu).symm
  | turn ht _ htasks | hold _ ht _ _ _ htasks | goOn ht _ _ _ htasks
  | giveBack ht _ _ _ htasks | miss _ ht _ _ htasks => exact hset ht htasks rfl

theorem Sole.act (h : p.Sole sv) (hp : p.act? sv a = some p') : p'.Sole sv where
  toEven := h.toEven.act hp
  nodup := h.nodup_act (cursorStep_act hp)
  ahead t' ht' x hx u hu hop := by
    rcases (cursorStep_act hp).mem_searches ht' with ⟨t, ht, hsame⟩ | ⟨hnone, -⟩
    · -- what submits another search was there before, or its operation was not begun
      rcases (origin_act hp hx hu).submits with ⟨y, hy, hold⟩ | hnot
      · exact h.ahead t ht y hy u hold (hop.trans hsame.symm)
      · have hbegun : p.hasBegun t.task.operation = true := h.begun .search t ht
        simp [hop, ← hsame, hbegun] at hnot
    · have hends := (h.toEven.act hp).ends_of_search ht' hnone hx hu (congrArg some hop)
      simp [searchOf] at hends

/-! ### Why an operation failed -/

/-- No search of the operation came to be, and none will. -/
structure Searchless (n : Nat) (p : Pipeline) : Prop where
  begun : p.hasBegun n = true
  searches : ∀ t ∈ p.searches, t.task.operation ≠ n
  scripts : ∀ x ∈ p.scripts, ∀ u : SearchTask, submit .search u ∈ x.rest → u.operation ≠ n

/-- The operation fails with this error because of its search, or it has none. -/
def Blames (n : Nat) (e : OperationError) (p : Pipeline) : Prop :=
  (∃ t ∈ p.searches, FailedBy n e t) ∨ p.Searchless n

theorem Searchless.act (h : p.Searchless n) (hfine : p.Fine sv) (hp : p.act? sv a = some p') :
    p'.Searchless n where
  begun := hfine.hasBegun_act hp h.begun
  searches t' ht' hop := by
    rcases (cursorStep_act hp).mem_searches ht' with ⟨t, ht, hsame⟩ | ⟨-, x, hx, hu⟩
    · exact h.searches t ht (hsame.trans hop)
    · exact h.scripts x hx _ hu hop
  scripts x hx u hu hop := by
    rcases (origin_act hp hx hu).submits with ⟨y, hy, hold⟩ | hnot
    · exact h.scripts y hy u hold hop
    · simp [hop, h.begun] at hnot

/-- A search that has an outcome keeps it. -/
theorem CursorStep.keeps (h : CursorStep sv p a p') {t : PoolTask SearchTask (List SearchResult)}
    (ht : t ∈ p.searches) {o : TaskOutcome (List SearchResult)} (ho : t.outcome = some o) :
    ∃ t' ∈ p'.searches, t'.task.operation = t.task.operation ∧ t'.outcome = some o := by
  have hset : ∀ {k t₀ u}, p.searches[k]? = some t₀ → p'.searches = p.searches.set k u →
      (t₀ = t → u.task.operation = t.task.operation ∧ u.outcome = some o) →
      ∃ t' ∈ p'.searches, t'.task.operation = t.task.operation ∧ t'.outcome = some o := by
    intro k t₀ u ht₀ htasks hkeep
    rw [htasks]
    rcases mem_set_or_eq ht₀ ht u with hstays | rfl
    · exact ⟨t, hstays, rfl, ho⟩
    · exact ⟨u, List.mem_set (List.getElem?_eq_some_iff.1 ht₀).1 u, hkeep rfl⟩
  cases h with
  | rest htasks | leave _ htasks => exact ⟨t, htasks ▸ ht, rfl, ho⟩
  | submit _ _ htasks => exact ⟨t, htasks ▸ List.mem_append_left _ ht, rfl, ho⟩
  | turn ht₀ _ htasks =>
      refine hset ht₀ htasks ?_
      rintro rfl
      exact ⟨rfl, by simp [PoolTask.turn, ho]⟩
  | hold _ ht₀ _ _ _ htasks | goOn ht₀ _ _ _ htasks | giveBack ht₀ _ _ _ htasks
  | miss _ ht₀ _ _ htasks =>
      refine hset ht₀ htasks ?_
      rintro rfl
      exact ⟨rfl, ho⟩

variable {e : OperationError}

theorem Blames.act (h : p.Blames n e) (hfine : p.Fine sv) (hp : p.act? sv a = some p') :
    p'.Blames n e := by
  rcases h with ⟨t, ht, hop, e', ho, he⟩ | hnone
  · obtain ⟨t', ht', hsame, ho'⟩ := (cursorStep_act hp).keeps ht ho
    exact .inl ⟨t', ht', hsame.trans hop, e', ho', he⟩
  · exact .inr (hnone.act hfine hp)

end Pipeline

/-- A job fails because something on the agenda says so. -/
theorem Course.Step.failed {sv : Services} {n : Nat} {c c' : Course} (h : Course.Step sv n c c')
    {e : OperationError} (hout : c'.job.outcome = some (.failed e)) :
    c.job.outcome = some (.failed e) ∨
      ∃ i rest, i :: rest ∈ c.agenda ∧ i.op? = some (.fail e) := by
  cases h with
  | begin | accept | refuse | settle => exact .inl hout
  | cancel => exact .inl ((Job.failed_of_apply hout).resolve_right (by simp))
  | @tell i op rest rest' others he hop =>
      rcases Job.failed_of_apply hout with hold | rfl
      · exact .inl hold
      · exact .inr ⟨i, rest, he ▸ Multiset.mem_cons_self .., hop⟩

theorem exists_of_mem_agenda_sum {α : Type} {f : α → Share} {l : List α} {e : List Instr}
    (he : e ∈ (l.map f).sum.1) : ∃ x ∈ l, e ∈ (f x).1 := by
  induction l with
  | nil => simp at he
  | cons y l ih =>
      rw [List.map_cons, List.sum_cons, Prod.fst_add] at he
      rcases Multiset.mem_add.1 he with hhead | htail
      · exact ⟨y, List.mem_cons_self .., hhead⟩
      · obtain ⟨x, hx, hmem⟩ := ih htail
        exact ⟨x, List.mem_cons_of_mem _ hx, hmem⟩

/-- What a task has on the agenda tells a job nothing. -/
theorem PoolTask.op?_of_mem_share {n : Nat} {s : Stage} {t : PoolTask s.Task s.Yield} {i : Instr}
    {rest : List Instr} (h : i :: rest ∈ (t.share n s).1) : i.op? = none := by
  unfold PoolTask.share at h
  split at h
  · split at h
    · obtain ⟨rfl, -⟩ : i = submit s (s.fresh t.task) ∧ rest = [] := by simpa using h
      rfl
    · simp at h
  · simp at h

namespace Pipeline

variable {sv : Services} {p p' : Pipeline} {a : Act} {i : Instr} {n : Nat} {e : OperationError}

/-- What tells a job something is in a script. -/
theorem exists_script_of_agenda {rest : List Instr} (h : i :: rest ∈ (p.share n).1)
    {op : Job.Op} (hop : i.op? = some op) :
    ∃ x ∈ p.scripts, i ∈ x.rest ∧ i.operation? = some n := by
  have hpool : ∀ {s : Stage} {pool : Pool s.Task s.Yield}, i :: rest ∉ (pool.share n s).1 := by
    intro s pool hmem
    obtain ⟨t, -, ht⟩ := exists_of_mem_agenda_sum hmem
    simp [PoolTask.op?_of_mem_share ht] at hop
  rw [share, Pools.share, Prod.fst_add, Prod.fst_add, Prod.fst_add] at h
  rcases Multiset.mem_add.1 h with hscripts | hpools
  · obtain ⟨x, hx, hmem⟩ := exists_of_mem_agenda_sum hscripts
    refine ⟨x, hx, ?_⟩
    unfold Script.share at hmem
    split at hmem
    · simp at hmem
    · next j rest' hrest =>
      split at hmem
      · next hj =>
        obtain ⟨rfl, rfl⟩ : i = j ∧ rest = rest' := by simpa using hmem
        exact ⟨hrest ▸ List.mem_cons_self .., hj⟩
      · simp at hmem
  · rcases Multiset.mem_add.1 hpools with hfirst | hparse
    · rcases Multiset.mem_add.1 hfirst with hsearch | hcrawl
      · exact absurd hsearch (hpool (s := .search))
      · exact absurd hcrawl (hpool (s := .crawl))
    · exact absurd hparse (hpool (s := .parse))

/-- A pipeline in which every failure of an operation has its reason. -/
structure Blamed (sv : Services) (p : Pipeline) : Prop extends Sole sv p where
  told : ∀ x ∈ p.scripts, ∀ i ∈ x.rest, ∀ n e, i.operation? = some n → i.op? = some (.fail e) →
    p.Blames n e
  failed : ∀ n j e, p.job? n = some j → j.outcome = some (.failed e) → p.Blames n e

theorem blamed_ofSettings (sv : Services) (settings : Settings) :
    (ofSettings settings).Blamed sv where
  toSole := sole_ofSettings sv settings
  told x hx := by simp [ofSettings] at hx
  failed n j e hj := by simp [job?, ofSettings] at hj

/-- Once a script says that an operation whose search was refused has failed, there is no search of
it. -/
theorem Sole.searchless (h : p.Sole sv) (hp : p.act? sv a = some p') {x y : Script}
    {u : SearchTask} (hx : x ∈ p.scripts) (hu : submit .search u ∈ x.rest) (hop : u.operation = n)
    (hy : y ∈ p'.scripts) (hi : i ∈ y.rest) (hiop : i.operation? = some n)
    (hfail : i.op? = some (.fail e)) : p'.Searchless n := by
  have h' := h.toEven.act hp
  have hends : ends i = 1 := weight_of_op? hfail
  refine ⟨h.hasBegun_act hp (h.hasBegun_of_script hx hu (congrArg some hop)), fun t' ht' hop' => ?_,
    fun z hz v hv hvop => ?_⟩
  · rcases (cursorStep_act hp).mem_searches ht' with ⟨t, ht, hsame⟩ | ⟨hnone, -⟩
    · exact h.ahead t ht x hx u hu (hop.trans (hop'.symm.trans hsame.symm))
    · have hzero := h'.ends_of_search ht' hnone hy hi (hop' ▸ hiop)
      omega
  · obtain rfl := h'.eq_of_ends hy hi hz hv hiop (congrArg some hvop) hends rfl
    simp [op?] at hfail

theorem Blamed.act (h : p.Blamed sv) (hp : p.act? sv a = some p') : p'.Blamed sv where
  toSole := h.toSole.act hp
  told y hy i hi n e hop hfail := by
    rcases (origin_act hp hy hi).fails hop hfail with ⟨x, hx, hold⟩ | ⟨x, hx, u, hu, huop⟩ | hfailed
    · exact (h.told x hx i hold n e hop hfail).act h.toFine hp
    · exact .inr (h.toSole.searchless hp hx hu huop hy hi hop hfail)
    · exact .inl hfailed
  failed n j' e hj' hout := by
    have hfollows : Follows sv False p p' := follows_act h.sound (fun hf => hf.elim) hp
    obtain ⟨o', ho', rfl⟩ := job?_eq_some.1 hj'
    have hc' := course?_of_eq ho' rfl
    rcases hbefore : p.course? n with _ | c
    · obtain ⟨kind, l, hjob⟩ := (hfollows.new n _ hbefore hc').job
      have hnone : o'.job.outcome = none := congrArg Job.outcome hjob
      simp [hnone] at hout
    · obtain ⟨o, ho, rfl⟩ := course?_eq_some.1 hbefore
      obtain ⟨c', hc'', hchange⟩ := hfollows.step n _ hbefore
      obtain rfl : c' = _ := Option.some.inj (hc''.symm.trans hc')
      have hreason : o.job.outcome = some (.failed e) ∨
          ∃ i rest, i :: rest ∈ (p.share n).1 ∧ i.op? = some (.fail e) := by
        rcases hchange with hsame | hstep
        · exact .inl ((congrArg (·.job.outcome) hsame).symm.trans hout)
        · exact hstep.failed hout
      rcases hreason with hold | ⟨i, rest, hmem, hfail⟩
      · exact (h.failed n _ e (job?_eq_some.2 ⟨o, ho, rfl⟩) hold).act h.toFine hp
      · obtain ⟨x, hx, hi, hop⟩ := exists_script_of_agenda hmem hfail
        exact (h.told x hx i hi n e hop hfail).act h.toFine hp

theorem Blamed.run (h : p.Blamed sv) {acts : List Act} (hrun : p.run? sv acts = some p') :
    p'.Blamed sv :=
  run_induction (I := Blamed sv) (fun hp h => h.act hp) h hrun

end Pipeline

end GradedReading
