import GradedReading.Proofs.Pipeline.Account
import GradedReading.Proofs.Pipeline.Pursuit

/-!
# GradedReading.Proofs.Pipeline.Harvest

What an operation that continues a search brings in when it completes.

**Key idea:** its documents are of results that its searches have collected, so they are ranked
between the cursor with which it began and the cursor that there is now. And there is a cursor, or
somebody took it for good: a task that still has it was given up by the watchdog, and then the
operation is *futile*. Nothing that is under way for it will say that the fan-out is done, so it
does not complete.
-/

namespace GradedReading

open Search Instr

namespace Instr

/-- How often the fan-out may still be done. -/
def lasts : Instr → Nat :=
  weight (fun op => match op with | .finishFanOut => 1 | _ => 0) searchOf

theorem lasts_le_ends (i : Instr) : lasts i ≤ ends i := by
  cases i with
  | tell n op | require n op => cases op <;> simp [lasts, ends, weight, Job.Op.ends]
  | _ => exact Nat.le_refl _

theorem total_lasts_le (agenda : Multiset (List Instr)) : total lasts agenda ≤ total ends agenda :=
  Multiset.sum_map_le_sum_map _ _ fun _ _ => List.sum_le_sum fun i _ => lasts_le_ends i

theorem lasts_refused (s : Stage) (t : s.Task) (e : TaskError) : lasts (refused s t e) = 0 := by
  cases s <;> rfl

/-- Only a search is followed by a fan-out. -/
theorem lasts_after {s : Stage} {t : s.Task} (h : searchOf s t = 0) (o : TaskOutcome s.Yield) :
    weigh lasts (after s t o) = 0 := by
  cases s with
  | search => simp [searchOf] at h
  | crawl | parse => cases o <;> rfl

end Instr

namespace Course

/-- The fan-out of the operation will not be done. -/
structure Futile (c : Course) : Prop where
  begun : c.begun = true
  undone : c.job.fanOutDone = false
  none : total lasts c.agenda = 0

variable {sv : Services} {n : Nat} {c c' : Course}

/-- An operation whose search failed is futile. -/
theorem Balanced.futile (h : c.Balanced) {e : OperationError}
    (hmem : [tell n (.fail e)] ∈ c.agenda) : c.Futile := by
  obtain ⟨others, hothers⟩ := Multiset.exists_cons_of_mem hmem
  have hends := h.ends_le
  have hbegun := Bool.toNat_le c.begun
  have hle := total_lasts_le others
  have hone : ends (tell n (.fail e)) = 1 := rfl
  have hzero : lasts (tell n (.fail e)) = 0 := rfl
  simp only [hothers, total_cons, weigh_cons, weigh_nil, hone] at hends
  refine ⟨?_, ?_, ?_⟩
  · rcases hb : c.begun with _ | _
    · simp only [hb, Bool.toNat_false] at hends
      omega
    · rfl
  · rcases hd : c.job.fanOutDone with _ | _
    · rfl
    · simp only [hd, Bool.toNat_true] at hends
      omega
  · simp only [hothers, total_cons, weigh_cons, weigh_nil, hzero]
    omega

theorem Futile.step (h : c.Futile) (hstep : Step sv n c c') : c'.Futile := by
  obtain ⟨hbegun, hundone, hnone⟩ := h
  -- what is told is not that the fan-out is done
  have htell : ∀ op, op ≠ .finishFanOut → (c.job.apply op).2.fanOutDone = false := fun op hop => by
    have hiff := Job.fanOutDone_apply c.job op
    simpa [hundone, hop] using hiff
  cases hstep with
  | begin hnot => simp [hbegun] at hnot
  | cancel => exact ⟨hbegun, htell .cancel (by simp), hnone⟩
  | @tell i op rest rest' others he hop hrest =>
      rw [total_tell lasts he, Nat.add_eq_zero_iff] at hnone
      refine ⟨hbegun, htell op ?_, ?_⟩
      · rintro rfl
        have hone : lasts i = 1 := weight_of_op? hop
        omega
      · exact Nat.le_zero.1 (hnone.2 ▸ total_entry_add_le lasts (hrest.imp_right And.left))
  | @accept s t rest others he =>
      refine ⟨hbegun, hundone, ?_⟩
      rw [total_accept lasts (searchOf_fresh s t) rest others, ← he, hnone]
  | @refuse s t rest others he e =>
      simp only [he, total_cons, weigh_cons, Nat.add_eq_zero_iff] at hnone
      refine ⟨hbegun, hundone, ?_⟩
      simp [lasts_refused, hnone]
  | @settle s t others he o =>
      simp only [he, total_cons, weigh_cons, weigh_nil, Nat.add_eq_zero_iff] at hnone
      refine ⟨hbegun, hundone, ?_⟩
      simp [lasts_after (s := s) (t := t) hnone.1.1, hnone.2]

/-- A futile operation does not complete. -/
theorem Futile.not_completed (h : c.Futile) (ht : c.Tidy) (d : Collection) (k : Nat) :
    c.job.outcome ≠ some (.completed d k) := fun hout => by
  have hdone := (ht.accounted.completed d k hout).2.1
  simp [h.undone] at hdone

end Course

/-! ### What is on the agenda of an operation -/

theorem mem_agenda_sum {α : Type} {f : α → Share} {l : List α} {x : α} (hx : x ∈ l)
    {e : List Instr} (he : e ∈ (f x).1) : e ∈ (l.map f).sum.1 := by
  induction l with
  | nil => simp at hx
  | cons y l ih =>
      rw [List.map_cons, List.sum_cons]
      rcases List.mem_cons.1 hx with rfl | hrest
      · exact Multiset.mem_add.2 (.inl he)
      · exact Multiset.mem_add.2 (.inr (ih hrest))

namespace Pipeline

variable {sv : Services} {p p' : Pipeline} {a : Act} {n : Nat}

/-- A script about an operation is on its agenda. -/
theorem mem_agenda_of_script {x : Script} (hx : x ∈ p.scripts) {i : Instr} {rest : List Instr}
    (hrest : x.rest = i :: rest) (hop : i.operation? = some n) : i :: rest ∈ (p.share n).1 := by
  have hshare : i :: rest ∈ (x.share n).1 := by simp [Script.share, hrest, hop]
  exact Multiset.mem_add.2 (.inl (mem_agenda_sum hx hshare))

/-- A search without an outcome is in what the pools hold for its operation. -/
theorem mem_share_of_search {t : PoolTask SearchTask (List SearchResult)} (ht : t ∈ p.searches)
    (hop : t.task.operation = n) (hout : t.outcome = none) :
    [submit .search (.ofOperation n)] ∈ (p.pools.share n).1 := by
  have hshare : [submit .search (.ofOperation n)] ∈ (t.share n .search).1 := by
    rw [PoolTask.share_of_none (s := .search) hop hout, ← hop]
    exact Multiset.mem_singleton_self _
  have hpool := mem_agenda_sum (f := PoolTask.share n .search) ht hshare
  exact Multiset.mem_add.2 (.inl (Multiset.mem_add.2 (.inl hpool)))

/-- A search without an outcome is on the agenda of its operation. -/
theorem mem_agenda_of_search {t : PoolTask SearchTask (List SearchResult)} (ht : t ∈ p.searches)
    (hop : t.task.operation = n) (hout : t.outcome = none) :
    [submit .search (.ofOperation n)] ∈ (p.share n).1 :=
  Multiset.mem_add.2 (.inr (mem_share_of_search ht hop hout))

/-! ### Every pipeline that can be reached -/

/-- What is true of every task, script and course of a pipeline. -/
structure Regular (sv : Services) (p : Pipeline) : Prop where
  sound : p.Sound sv False
  courses : ∀ n c, p.course? n = some c → c.Sound sv
  searches : ∀ t ∈ p.searches, t.Collects
  /-- An operation is futile if the watchdog gave up on a search whose body still runs. -/
  futile : ∀ t ∈ p.searches, (∃ d, t.phase = .running d) → t.outcome ≠ none →
    ∀ c, p.course? t.task.operation = some c → c.Futile

theorem regular_ofSettings (sv : Services) (settings : Settings) :
    (ofSettings settings).Regular sv := by
  refine ⟨sound_ofSettings sv False settings, fun n c hc => ?_, fun t ht => ?_, fun t ht => ?_⟩
  · simp [course?, ofSettings] at hc
  · simp [searches, ofSettings, Pools.ofSettings, Pool.ofSize] at ht
  · simp [searches, ofSettings, Pools.ofSettings, Pool.ofSize] at ht

theorem courses_step (h : ∀ n c, p.course? n = some c → c.Sound sv)
    (hkeep : sv.parsers.KeepsRanks) (hfollows : Follows sv False p p') :
    ∀ n c, p'.course? n = some c → c.Sound sv := by
  intro n c hc
  rcases hbefore : p.course? n with _ | c₀
  · exact (hfollows.new n c hbefore hc).sound
  · obtain ⟨c', hc', hchange⟩ := hfollows.step n c₀ hbefore
    obtain rfl : c' = c := Option.some.inj (hc'.symm.trans hc)
    rcases hchange with rfl | hstep
    · exact h n _ hbefore
    · exact (h n c₀ hbefore).step hkeep hstep

/-- A search that the watchdog had given up on stays one of a futile operation. -/
theorem Regular.futile_of_follows (h : p.Regular sv) (hfollows : Follows sv False p p')
    {t : PoolTask SearchTask (List SearchResult)} (ht : t ∈ p.searches)
    (hrun : ∃ d, t.phase = .running d) (hout : t.outcome ≠ none) {c' : Course}
    (hc' : p'.course? t.task.operation = some c') : c'.Futile := by
  have hlt : t.task.operation < p.operations.length := (h.sound.tasks .search t ht).operation
  have hc := course?_of_eq (List.getElem?_eq_getElem hlt) rfl
  have hfutile := h.futile t ht hrun hout _ hc
  obtain ⟨c'', hc'', hchange⟩ := hfollows.step _ _ hc
  obtain rfl : c'' = c' := Option.some.inj (hc''.symm.trans hc')
  rcases hchange with rfl | hstep
  · exact hfutile
  · exact hfutile.step hstep

theorem Regular.futile_step (h : p.Regular sv) (hkeep : sv.parsers.KeepsRanks)
    (hfollows : Follows sv False p p') (hstep : CursorStep sv p a p') :
    ∀ t ∈ p'.searches, (∃ d, t.phase = .running d) → t.outcome ≠ none →
      ∀ c, p'.course? t.task.operation = some c → c.Futile := by
  intro t' ht' hrun' hout' c' hc'
  -- all but the task that changed were there before
  have hset : ∀ {i t u}, p.searches[i]? = some t → p'.searches = p.searches.set i u →
      (t' = u → c'.Futile) → c'.Futile := by
    intro i t u _ htasks hchanged
    rw [htasks] at ht'
    rcases List.mem_or_eq_of_mem_set ht' with hold | hnew
    · exact h.futile_of_follows hfollows hold hrun' hout' hc'
    · exact hchanged hnew
  cases hstep with
  | rest htasks | leave _ htasks =>
      exact h.futile_of_follows hfollows (htasks ▸ ht') hrun' hout' hc'
  | submit _ _ htasks =>
      rw [htasks] at ht'
      rcases List.mem_append.1 ht' with hold | hnew
      · exact h.futile_of_follows hfollows hold hrun' hout' hc'
      · rw [List.mem_singleton.1 hnew] at hout'
        simp at hout'
  | hold _ ht _ _ _ htasks | goOn ht _ _ _ htasks =>
      refine hset ht htasks fun heq => ?_
      subst heq
      exact h.futile_of_follows hfollows (List.mem_of_getElem? ht) hrun' hout' hc'
  | giveBack ht _ _ _ htasks | miss _ ht _ _ htasks =>
      refine hset ht htasks fun heq => ?_
      subst heq
      obtain ⟨d, hd⟩ := hrun'
      simp at hd
  | @turn _ _ i t _ _ phase offer ht hturn htasks _ hscript =>
      refine hset ht htasks fun heq => ?_
      subst heq
      have hmem := List.mem_of_getElem? ht
      obtain ⟨number, task, before, outcome⟩ := t
      obtain ⟨d, hd⟩ := hrun'
      cases hturn with
      | run =>
          obtain rfl : outcome = none := ((h.searches _ hmem).ahead rfl).2
          exact absurd rfl hout'
      | expire _ e =>
          rcases outcome with _ | o
          · -- the watchdog gives up on it now, and somebody is about to say that the search failed
            obtain ⟨owner, hx⟩ := hscript (.failed e) rfl
            have hagenda := mem_agenda_of_script hx rfl rfl
            obtain ⟨op, hop, rfl⟩ := course?_eq_some.1 hc'
            have hsound := courses_step h.courses hkeep hfollows _ _ hc'
            exact hsound.balanced.futile hagenda
          · exact h.futile_of_follows hfollows hmem ⟨d, hd⟩ (by simp) hc'
      | _ => simp [PoolTask.turn] at hd

theorem Regular.act (h : p.Regular sv) (hkeep : sv.parsers.KeepsRanks)
    (hp : p.act? sv a = some p') : p'.Regular sv := by
  have hfollows : Follows sv False p p' := follows_act h.sound (fun hf => hf.elim) hp
  have hstep := cursorStep_act hp
  exact ⟨hfollows.sound, courses_step h.courses hkeep hfollows,
    collects_step h.sound h.searches hstep, h.futile_step hkeep hfollows hstep⟩

theorem Regular.run (h : p.Regular sv) (hkeep : sv.parsers.KeepsRanks) {I : Pipeline → Prop}
    (hI : I p) (hstep : ∀ {p a p'}, p.Regular sv → p.act? sv a = some p' → I p → I p')
    {acts : List Act} (hrun : p.run? sv acts = some p') : p'.Regular sv ∧ I p' :=
  run_induction (I := fun p => p.Regular sv ∧ I p)
    (fun hp ⟨hregular, hI⟩ => ⟨hregular.act hkeep hp, hstep hregular hp hI⟩) ⟨h, hI⟩ hrun

theorem Regular.reaches (h : p.Regular sv) (hkeep : sv.parsers.KeepsRanks)
    (hp : Reaches sv p p') : p'.Regular sv := by
  obtain ⟨acts, hrun⟩ := hp
  exact (h.run hkeep (I := fun _ => True) trivial (fun _ _ h => h) hrun).1

/-! ### Operations that continue a search -/

/-- The operation continues the search with this cursor. -/
structure Continues (n : Nat) (c₀ : Cursor) (p : Pipeline) : Prop where
  pursues : p.Pursues n c₀
  language : ∀ j, p.job? n = some j → Job.InLanguage c₀.query.language j.collection

variable {c₀ : Cursor}

theorem Continues.act (h : p.Continues n c₀) (hregular : p.Regular sv)
    (hp : p.act? sv a = some p') : p'.Continues n c₀ := by
  refine ⟨h.pursues.step hregular.sound hregular.searches (cursorStep_act hp), fun j' hj' => ?_⟩
  have hfollows : Follows sv False p p' := follows_act hregular.sound (fun hf => hf.elim) hp
  obtain ⟨place, hplace⟩ := Option.isSome_iff_exists.1 h.pursues.known
  obtain ⟨o, ho, -⟩ := Option.bind_eq_some_iff.1 hplace
  have hj : p.job? n = some o.job := job?_eq_some.2 ⟨o, ho, rfl⟩
  obtain ⟨ops, hops⟩ := hfollows.job? hj
  obtain rfl : _ = j' := Option.some.inj (hops.symm.trans hj')
  have haccounted := (hregular.courses n _ (course?_of_eq ho rfl)).tidy.accounted
  exact (h.language _ hj).applyAll haccounted ops

theorem Continues.reaches (h : p.Continues n c₀) (hregular : p.Regular sv)
    (hkeep : sv.parsers.KeepsRanks) (hp : Reaches sv p p') : p'.Continues n c₀ := by
  obtain ⟨acts, hrun⟩ := hp
  exact (hregular.run hkeep h (fun hregular hp h => h.act hregular hp) hrun).2

/-- An operation that is created with a cursor continues its search. -/
theorem continues_new {o : Operation} {target : Nat} (ho : p.operations[n]? = some o)
    (hplan : o.plan = .search (.here c₀) target) {kind : JobKind}
    (hjob : o.job = .create kind c₀.query.language)
    (hnone : ∀ t ∈ p.searches, t.task.operation ≠ n) : p.Continues n c₀ := by
  have hplace : p.place? n = some (.here c₀) := by
    rw [place?, ho, Option.bind_some, Operation.place?, hplan]
  refine ⟨pursues_new hplace hnone, fun j hj => ?_⟩
  obtain ⟨o', ho', rfl⟩ := job?_eq_some.1 hj
  obtain rfl : o = o' := Option.some.inj (ho.symm.trans ho')
  rw [hjob]
  exact ⟨rfl, by simp [Job.create]⟩

/-- **An operation that completed has given its cursor back.** -/
theorem Continues.given_back (h : p.Continues n c₀) (hregular : p.Regular sv) {j : Job}
    (hj : p.job? n = some j) {d : Collection} {k : Nat} (hout : j.outcome = some (.completed d k)) :
    p.place? n ≠ some .held := by
  intro hheld
  obtain ⟨i, f, t, ht, hf⟩ := h.pursues.held_iff.1 hheld
  have hmem := List.mem_of_getElem? ht
  obtain ⟨o, ho, rfl⟩ := job?_eq_some.1 hj
  have hcourse := course?_of_eq ho rfl
  have hsound := hregular.courses n _ hcourse
  by_cases hnone : t.outcome = none
  · -- the search is under way, and nothing is under way for what is complete
    obtain ⟨others, hothers⟩ :=
      Multiset.exists_cons_of_mem (mem_agenda_of_search hmem hf.operation hnone)
    have hends := (hsound.counted.clear d k hout).2
    simp [Course.of, hothers, ends, weight, searchOf] at hends
  · have hfutile : (Course.of (p.share n) o).Futile :=
      hregular.futile t hmem hf.running hnone _ (by rw [hf.operation]; exact hcourse)
    exact hfutile.not_completed hsound.tidy d k hout

/-- What a search found it has collected. -/
theorem Regular.collected_of_found (h : p.Regular sv) {r : SearchResult} (hr : r ∈ p.found n) :
    p.Collected n r := by
  obtain ⟨t, ht, hr⟩ := List.mem_flatMap.1 hr
  unfold foundBy at hr
  split at hr
  · next rs hout =>
    split at hr
    · next hop =>
      obtain ⟨f, hfetch, rfl⟩ := (h.searches t ht).outcome rs hout
      exact ⟨t, ht, hop, f, hfetch, hr⟩
    · simp at hr
  · simp at hr

/-- What an operation that continues a search brings in. -/
structure Harvest (c₀ : Cursor) (d : Collection) : Prop where
  language : Job.InLanguage c₀.query.language d
  ranks : (d.documents.map (·.rank)).Nodup
  /-- The documents are new to the cursor with which the operation began. -/
  fresh : ∀ x ∈ d.documents, c₀.nextRank ≤ x.rank

/-- **What an operation that continues a search brings in.** The documents are new to its first
cursor, and known to its present one. -/
theorem Continues.harvest (h : p.Continues n c₀) (hregular : p.Regular sv) {j : Job}
    (hj : p.job? n = some j) {d : Collection} {k : Nat} (hout : j.outcome = some (.completed d k)) :
    Harvest c₀ d ∧ ∀ c, p.HasCursor n c → ∀ x ∈ d.documents, x.rank < c.nextRank := by
  obtain ⟨place, hplace⟩ := Option.isSome_iff_exists.1 h.pursues.known
  obtain ⟨o, ho, hsearch⟩ := Option.bind_eq_some_iff.1 hplace
  obtain ⟨o', ho', rfl⟩ := job?_eq_some.1 hj
  obtain rfl : o = o' := Option.some.inj (ho.symm.trans ho')
  have hsound := hregular.courses n _ (course?_of_eq ho rfl)
  have hplan : (Course.of (p.share n) o).sources? = none := by
    unfold Operation.place? at hsearch
    split at hsearch
    · next hplan => simp [Course.of, Operation.sources?, hplan]
    · simp at hsearch
  have haccount := hsound.searchAccount hplan (found_share n p)
  have hd : d = o.job.collection := (hsound.tidy.accounted.completed d k hout).2.2.2.1
  have hdocuments : o.job.documents = d.documents := hd ▸ hsound.tidy.documents
  -- each document is of a result that was collected
  have hcollected : ∀ x ∈ d.documents, ∃ r, p.Collected n r ∧ r.rank = x.rank := fun x hx => by
    rw [← hdocuments] at hx
    obtain ⟨e, he, hex⟩ := List.mem_filterMap.1 hx
    obtain ⟨before, later, hsplit⟩ := List.append_of_mem he
    cases e with
    | parsed x' =>
        obtain rfl := Option.some.inj hex
        obtain ⟨r, hr, -, hrank⟩ := haccount.precedes before x' later hsplit
        exact ⟨r, hregular.collected_of_found hr, hrank⟩
    | _ => simp [JobEvent.document?] at hex
  refine ⟨⟨hd ▸ h.language _ hj, hdocuments ▸ haccount.documents, fun x hx => ?_⟩,
    fun c hc x hx => ?_⟩
  · obtain ⟨r, hr, hrank⟩ := hcollected x hx
    exact hrank ▸ h.pursues.fresh r hr
  · obtain ⟨r, hr, hrank⟩ := hcollected x hx
    exact hrank ▸ h.pursues.seen c hc r hr

end Pipeline

end GradedReading
