import GradedReading.Proofs.Pipeline.Balance
import Mathlib.Data.Multiset.OrderedMonoid
import Mathlib.Tactic.Abel

/-!
# GradedReading.Proofs.Pipeline.Counts

No result, document or slot of an operation is counted twice.

**Key idea:** what a job has reported and what its agenda will report are together no more than what
the searches found and the parses gave, because each step moves a thing from the agenda to the job,
or drops it. While the job is live nothing is dropped, so then they are equal; and the step that
completes the job finds the agenda empty of them.
-/

namespace GradedReading

open Search Instr

namespace Job

/-! ### What an operation adds to the reports -/

section Reports

variable {j : Job} {op : Op} (hproper : ∀ e, op = .announce e → ∃ sources, e = .begins sources)
include hproper

theorem coe_fetched_apply (hlive : j.isLive = true) :
    ((j.apply op).2.fetched : Multiset SearchResult) = ↑j.fetched + op.fetches := by
  have hevents : (j.apply op).2.fetched =
      j.fetched ++ (op.reports j.collection.language).filterMap JobEvent.fetched? :=
    filterMap_events_apply hlive op (by intro o; cases o <;> rfl)
  rw [hevents, ← Multiset.coe_add]
  congr 1
  cases op with
  | announce e =>
      obtain ⟨sources, rfl⟩ := hproper e rfl
      rfl
  | parseComplete d => by_cases hl : d.language = j.collection.language <;> simp [Op.reports,
      Op.fetches, hl, JobEvent.fetched?]
  | _ => rfl

theorem coe_extracted_apply (hlive : j.isLive = true) :
    ((j.apply op).2.extracted : Multiset SearchResult).map (·.rank) =
      (j.extracted : Multiset SearchResult).map (·.rank) + op.extracts := by
  have hevents : (j.apply op).2.extracted =
      j.extracted ++ (op.reports j.collection.language).filterMap JobEvent.extracted? :=
    filterMap_events_apply hlive op (by intro o; cases o <;> rfl)
  rw [hevents, ← Multiset.coe_add, Multiset.map_add]
  congr 1
  cases op with
  | announce e =>
      obtain ⟨sources, rfl⟩ := hproper e rfl
      rfl
  | crawlComplete r extracted => cases extracted <;> rfl
  | parseComplete d => by_cases hl : d.language = j.collection.language <;> simp [Op.reports,
      Op.extracts, hl, JobEvent.extracted?]
  | _ => rfl

theorem coe_documents_apply_le (hlive : j.isLive = true) :
    ((j.apply op).2.documents : Multiset Document) ≤ ↑j.documents + op.delivers := by
  have hevents : (j.apply op).2.documents =
      j.documents ++ (op.reports j.collection.language).filterMap JobEvent.document? :=
    filterMap_events_apply hlive op (by intro o; cases o <;> rfl)
  rw [hevents, ← Multiset.coe_add]
  refine add_le_add le_rfl ?_
  cases op with
  | announce e =>
      obtain ⟨sources, rfl⟩ := hproper e rfl
      exact le_rfl
  | parseComplete d => by_cases hl : d.language = j.collection.language <;> simp [Op.reports,
      Op.delivers, hl, JobEvent.document?]
  | _ => exact le_rfl

end Reports

/-- Nothing that is under way was dropped: the job is live, or it is complete. -/
def IsIntact (j : Job) : Prop := j.isLive = true ∨ ∃ c k, j.outcome = some (.completed c k)

theorem Accounted.isIntact_of_apply {j : Job} (h : j.Accounted) {op : Op}
    (hintact : (j.apply op).2.IsIntact) : j.IsIntact := by
  rcases hlive : j.isLive with _ | _
  · rwa [(apply_of_isTerminal (h.isTerminal hlive) op).2] at hintact
  · exact Or.inl hlive

theorem not_isIntact_cancel {j : Job} (hlive : j.isLive = true) :
    ¬(j.apply .cancel).2.IsIntact := by
  rintro (hstill | ⟨c, k, hout⟩)
  · simp [isLive_cancel] at hstill
  · simp [apply, cancel_of_isLive hlive, finish] at hout

end Job

namespace Instr

/-! ### What a script leaves to count -/

section Weight

variable {M : Type} [AddCommMonoid M] (w : Instr → M) {i : Instr} {rest rest' : List Instr}
  {others agenda : Multiset (List Instr)}

theorem total_tell (he : agenda = (i :: rest) ::ₘ others) :
    total w agenda = w i + total w (entry rest + others) := by
  simp [he, add_assoc]

/-- A script that ends early leaves no more than one that goes on. -/
theorem total_entry_add_le [PartialOrder M] [IsOrderedAddMonoid M] [CanonicallyOrderedAdd M]
    (h : rest' = rest ∨ rest' = []) :
    total w (entry rest' + others) ≤ total w (entry rest + others) := by
  simp only [total_add, total_entry]
  rcases h with rfl | rfl
  · exact le_rfl
  · exact add_le_add zero_le le_rfl

end Weight

section Task

variable (s : Stage) (t : s.Task)

@[simp] theorem resultOf_fresh : resultOf s (s.fresh t) = resultOf s t := by cases s <;> rfl

theorem fetches_refused (e : TaskError) : fetches (refused s t e) = fetches (submit s t) := by
  cases s <;> rfl

theorem delivers_refused (e : TaskError) : delivers (refused s t e) = delivers (submit s t) := by
  cases s <;> rfl

theorem searches_refused (e : TaskError) : searches (refused s t e) = 0 := by cases s <;> rfl

/-- A task stands for a slot, or it is a search. -/
theorem slotOf_add_searchOf : slotOf s t + searchOf s t = 1 := by cases s <;> rfl

variable {s} (o : TaskOutcome s.Yield)

/-- Each result that was found is left to be fetched, and a fetched one to be reported. -/
theorem fetches_after (ho : o ≠ .discarded) :
    weigh fetches (after s t o) = resultOf s t + s.found o := by
  cases o with
  | discarded => exact absurd rfl ho
  | failed e => cases s <;> rfl
  | completed y =>
      cases s with
      | search => simp [after, afterSearch, weigh_fanOut, fetches, weight, resultOf, Stage.found,
          Job.Op.fetches, CrawlTask.ofResult, sum_map_singleton]
      | crawl | parse => rfl

theorem fetches_after_le : weigh fetches (after s t o) ≤ resultOf s t + s.found o := by
  by_cases ho : o = .discarded
  · subst ho
    cases s <;> exact zero_le
  · exact le_of_eq (fetches_after t o ho)

/-- A document is left to be brought. -/
theorem delivers_after : weigh delivers (after s t o) = (s.given t o).map Prod.snd := by
  cases o with
  | discarded | failed e => cases s <;> rfl
  | completed y =>
      cases s with
      | search => simp [after, afterSearch, weigh_fanOut, delivers, weight, Stage.given,
          Job.Op.delivers]
      | crawl | parse => rfl

/-- A search leaves a slot for each result that it found. -/
theorem slots_after_found (ho : o ≠ .discarded) :
    weigh slots (after s t o) = slotOf s t + (s.found o).card := by
  cases o with
  | discarded => exact absurd rfl ho
  | failed e => cases s <;> rfl
  | completed y =>
      cases s with
      | search => simp [after, afterSearch, weigh_fanOut, slots, weight, slotOf, Stage.found,
          Job.Op.settles]
      | crawl | parse => rfl

/-- Only a search finds something. -/
theorem found_of_searchOf (h : searchOf s t = 0) : s.found o = 0 := by
  cases s with
  | search => simp [searchOf] at h
  | crawl | parse => cases o <;> rfl

theorem searches_after : weigh searches (after s t o) = 0 := by
  cases o with
  | discarded | failed e => cases s <;> rfl
  | completed y =>
      cases s with
      | search => simp [after, afterSearch, weigh_fanOut, searches, weight, searchOf]
      | crawl | parse => rfl

end Task

theorem searches_le_ends (i : Instr) : searches i ≤ ends i := by
  cases i <;> simp [searches, ends, weight]

theorem total_searches_le (agenda : Multiset (List Instr)) :
    total searches agenda ≤ total ends agenda := by
  refine Multiset.sum_map_le_sum_map _ _ fun e _ => ?_
  exact List.sum_le_sum fun i _ => searches_le_ends i

/-- With no slot left there is no result left. -/
theorem total_fetches_eq_zero {agenda : Multiset (List Instr)} (h : ∀ e ∈ agenda, Orderly e)
    (hslots : total slots agenda = 0) : total fetches agenda = 0 := by
  have hle : (total fetches agenda).card ≤ total slots agenda := by
    have hcard : (total fetches agenda).card =
        ((agenda.map (weigh fetches)).map Multiset.card).sum :=
      map_multiset_sum Multiset.cardHom _
    rw [hcard, Multiset.map_map]
    exact Multiset.sum_map_le_sum_map _ _ fun e he => (h e he).isFair.fetches_le
  rw [← Multiset.card_eq_zero]
  omega

/-- Once the fan-out is done no more slots will be reserved. -/
theorem total_reserves_eq_zero {agenda : Multiset (List Instr)} (h : ∀ e ∈ agenda, Orderly e)
    (hends : total ends agenda = 0) : total reserves agenda = 0 := by
  refine Multiset.sum_eq_zero fun x hx => ?_
  obtain ⟨e, he, rfl⟩ := Multiset.mem_map.1 hx
  refine (h e he).isFair.reserves_eq ?_
  have hmem := Multiset.mem_map_of_mem (weigh ends) he
  have hle := Multiset.single_le_sum (fun x _ => zero_le) _ hmem
  exact Nat.le_zero.1 (hends ▸ hle)

end Instr

namespace Course

/-- The sources that the operation was begun with. -/
def assigned (c : Course) : List Source := if c.begun then c.sources?.getD [] else []

/-- What is counted is counted once. -/
structure Counted (sv : Services) (c : Course) : Prop where
  gives : ∀ x ∈ c.given, sv.Gives x.1 x.2
  ranks : (c.found.map (·.rank)).Nodup
  /-- There is one search. -/
  unsearched : total searches c.agenda ≠ 0 → c.found = 0
  /-- What is reported as fetched was found. -/
  fetched_le : ↑c.job.fetched + total fetches c.agenda ≤ c.found
  fetched_eq : c.job.IsIntact → ↑c.job.fetched + total fetches c.agenda = c.found
  /-- What is reported as parsed was given. -/
  documents_le : ↑c.job.documents + total delivers c.agenda ≤ c.given.map Prod.snd
  /-- Each source and each result is settled or has a slot. -/
  settled_eq : c.job.IsIntact →
    c.job.settled + total slots c.agenda = c.assigned.length + c.found.card
  /-- A complete job has nothing left to count. -/
  clear : ∀ d k, c.job.outcome = some (.completed d k) →
    total slots c.agenda = 0 ∧ total ends c.agenda = 0

theorem IsNew.counted {sv : Services} {c : Course} (h : c.IsNew) : c.Counted sv := by
  obtain ⟨kind, l, hjob⟩ := h.job
  constructor <;> simp [h.agenda, h.found, h.given, h.begun, assigned, hjob, Job.create,
    Job.fetched, Job.documents, Job.settled, Collection.size, Collection.empty]

theorem gives_of_mem_given {sv : Services} {s : Stage} {t : s.Task} {o : TaskOutcome s.Yield}
    (hyield : ∀ y, o = .completed y → s.Yields sv t y) {x : Source × Document}
    (hx : x ∈ s.given t o) : sv.Gives x.1 x.2 := by
  cases s with
  | search | crawl => cases o <;> simp [Stage.given] at hx
  | parse =>
      cases o with
      | completed d =>
          obtain rfl : x = (t.source, d) := by simpa [Stage.given] using hx
          exact hyield d rfl
      | failed e | discarded => simp [Stage.given] at hx

theorem ranks_found {sv : Services} {s : Stage} {t : s.Task} {o : TaskOutcome s.Yield}
    (hyield : ∀ y, o = .completed y → s.Yields sv t y) :
    ((s.found o).map (·.rank)).Nodup := by
  cases s with
  | crawl | parse => cases o <;> exact Multiset.nodup_zero
  | search =>
      cases o with
      | completed rs =>
          obtain ⟨first, hranks⟩ := hyield rs rfl
          exact Multiset.coe_nodup.2 hranks.nodup
      | failed e | discarded => exact Multiset.nodup_zero

section Step

variable {sv : Services} {n : Nat} {c : Course} {others : Multiset (List Instr)}

theorem slots_script_eq (n : Nat) (c : Course) :
    weigh slots (c.script n) = (c.sources?.getD []).length := by
  unfold script
  split
  · next hnone => simp [beginSearch, slots, weight, slotOf, hnone, Job.Op.settles]
  · next ss hsome => simp [beginParses, weigh_fanOut, slots, weight, slotOf, Job.Op.settles, hsome]

theorem fetches_script (n : Nat) (c : Course) : weigh fetches (c.script n) = 0 := by
  unfold script
  split
  · rfl
  · simp [beginParses, weigh_fanOut, fetches, weight, resultOf, Job.Op.fetches]

theorem delivers_script (n : Nat) (c : Course) : weigh delivers (c.script n) = 0 := by
  unfold script
  split
  · rfl
  · simp [beginParses, weigh_fanOut, delivers, weight, Job.Op.delivers]

theorem Counted.begin (h : c.Counted sv) (ht : c.Tidy) (hnot : c.begun = false) :
    ({ c with begun := true, agenda := entry (c.script n) + c.agenda } : Course).Counted sv := by
  obtain ⟨hagenda, hfound, hgiven, hdone⟩ := ht.idle hnot
  -- so far nothing was settled and nothing has a slot
  have hempty := h.settled_eq
  simp only [hagenda, total_zero, assigned, hnot, hfound] at hempty
  refine ⟨h.gives, h.ranks, fun _ => hfound, ?_, ?_, ?_, ?_, ?_⟩
  · simpa [hagenda, fetches_script] using h.fetched_le
  · intro hintact
    simpa [hagenda, fetches_script] using h.fetched_eq hintact
  · simpa [hagenda, delivers_script] using h.documents_le
  · intro hintact
    have hsettled : c.job.settled = 0 := by simpa using hempty hintact
    simp [hagenda, hfound, hsettled, slots_script_eq, assigned]
  · intro d k hout
    -- a job whose fan-out is not done is not complete
    have htrue := (ht.accounted.completed d k hout).2.1
    simp [hdone] at htrue

/-- What is under way is no more than before, whatever is counted. -/
def Shrinks (old new : Multiset (List Instr)) : Prop :=
  ∀ (M : Type) [AddCommMonoid M] [PartialOrder M] [IsOrderedAddMonoid M] [CanonicallyOrderedAdd M]
    (w : Instr → M), total w new ≤ total w old

/-- A job that is over counts nothing more, so it does not matter what is dropped. -/
theorem Counted.of_not_isLive (h : c.Counted sv) (ht : c.Tidy) (hlive : c.job.isLive = false)
    (op : Job.Op) {agenda : Multiset (List Instr)} (hle : Shrinks c.agenda agenda) :
    ({ c with job := (c.job.apply op).2, agenda } : Course).Counted sv := by
  have hjob := (Job.apply_of_isTerminal (ht.accounted.isTerminal hlive) op).2
  have hfetched : (c.job.apply op).2.fetched = c.job.fetched := by rw [hjob]; rfl
  have hdocuments : (c.job.apply op).2.documents = c.job.documents := by rw [hjob]; rfl
  have hsettled : (c.job.apply op).2.settled = c.job.settled := by rw [hjob]; rfl
  have hclear : ∀ d k, c.job.outcome = some (.completed d k) →
      total slots agenda = 0 ∧ total ends agenda = 0 := fun d k hout =>
    ⟨Nat.le_zero.1 ((h.clear d k hout).1 ▸ hle _ slots),
      Nat.le_zero.1 ((h.clear d k hout).2 ▸ hle _ ends)⟩
  -- what is intact is complete, and then there was nothing left to drop
  have hover : (c.job.apply op).2.IsIntact → ∃ d k, c.job.outcome = some (.completed d k) := by
    intro hintact
    exact (ht.accounted.isIntact_of_apply hintact).resolve_left (by simp [hlive])
  refine ⟨h.gives, h.ranks, fun hsearch => h.unsearched fun hzero => ?_, ?_, ?_, ?_, ?_, ?_⟩
  · exact hsearch (Nat.le_zero.1 (hzero ▸ hle _ searches))
  · rw [hfetched]
    exact le_trans (add_le_add le_rfl (hle _ fetches)) h.fetched_le
  · intro hintact
    obtain ⟨d, k, hout⟩ := hover hintact
    have hold := total_fetches_eq_zero ht.orderly (h.clear d k hout).1
    have hnew : total fetches agenda = 0 := Multiset.le_zero.1 (hold ▸ hle _ fetches)
    have heq := h.fetched_eq (Or.inr ⟨d, k, hout⟩)
    rw [hold] at heq
    rw [hfetched, hnew]
    exact heq
  · rw [hdocuments]
    exact le_trans (add_le_add le_rfl (hle _ delivers)) h.documents_le
  · intro hintact
    obtain ⟨d, k, hout⟩ := hover hintact
    have heq := h.settled_eq (Or.inr ⟨d, k, hout⟩)
    rw [(h.clear d k hout).1] at heq
    rw [hsettled, (hclear d k hout).1]
    exact heq
  · intro d k hout
    rw [hjob] at hout
    exact hclear d k hout

/-- Another agenda with the same to count. -/
theorem Counted.of_totals (h : c.Counted sv) {agenda : Multiset (List Instr)}
    (hfetches : total fetches agenda = total fetches c.agenda)
    (hdelivers : total delivers agenda = total delivers c.agenda)
    (hslots : total slots agenda = total slots c.agenda)
    (hends : total ends agenda = total ends c.agenda)
    (hsearches : total searches agenda ≤ total searches c.agenda) :
    ({ c with agenda } : Course).Counted sv where
  gives := h.gives
  ranks := h.ranks
  unsearched hsearch := h.unsearched fun hzero => hsearch (Nat.le_zero.1 (hzero ▸ hsearches))
  fetched_le := hfetches ▸ h.fetched_le
  fetched_eq hintact := hfetches ▸ h.fetched_eq hintact
  documents_le := hdelivers ▸ h.documents_le
  settled_eq hintact := hslots ▸ h.settled_eq hintact
  clear d k hout := hslots ▸ hends ▸ h.clear d k hout

theorem Counted.cancel (h : c.Counted sv) (ht : c.Tidy) :
    ({ c with job := (c.job.apply .cancel).2 } : Course).Counted sv := by
  rcases hlive : c.job.isLive with _ | _
  · exact h.of_not_isLive ht hlive .cancel fun M _ _ _ _ w => le_rfl
  · have hproper : ∀ e, Job.Op.cancel = .announce e → ∃ sources, e = .begins sources := by simp
    have hfetched := Job.coe_fetched_apply hproper hlive
    have hdocuments := Job.coe_documents_apply_le hproper hlive
    have hbroken := Job.not_isIntact_cancel hlive
    refine ⟨h.gives, h.ranks, h.unsearched, ?_, fun hintact => absurd hintact hbroken, ?_,
      fun hintact => absurd hintact hbroken, fun d k hout => absurd (Or.inr ⟨d, k, hout⟩) hbroken⟩
    · rw [hfetched]
      simpa [Job.Op.fetches] using h.fetched_le
    · refine le_trans (add_le_add hdocuments le_rfl) ?_
      simpa [Job.Op.delivers] using h.documents_le

/-- What a live job is told moves from the agenda to the job. If that completes the job, nothing is
left to do in any slot. -/
theorem Counted.tell (h : c.Counted sv) (ht : c.Tidy) (hb : c.Balanced) {i : Instr} {op : Job.Op}
    {rest : List Instr} (he : c.agenda = (i :: rest) ::ₘ others) (hop : i.op? = some op)
    (hlive : c.job.isLive = true)
    (hnew : ({ c with job := (c.job.apply op).2, agenda := entry rest + others } : Course).Tidy)
    (hnewb : ({ c with job := (c.job.apply op).2, agenda := entry rest + others } :
      Course).Balanced) :
    ({ c with job := (c.job.apply op).2, agenda := entry rest + others } : Course).Counted sv := by
  have hproper := ht.isProper he
  have hfetched := Job.coe_fetched_apply (hproper op hop).2 hlive
  have hdocuments := Job.coe_documents_apply_le (hproper op hop).2 hlive
  have hsettled := Job.settled_apply hlive op
  -- each weight of the agenda is split into what the job is told and what is left
  have hfetches : total fetches c.agenda = op.fetches + total fetches (entry rest + others) := by
    rw [total_tell fetches he, fetches, weight_of_op? hop]
  have hdelivers : total delivers c.agenda =
      op.delivers + total delivers (entry rest + others) := by
    rw [total_tell delivers he, delivers, weight_of_op? hop]
  have hslots : total slots c.agenda = op.settles + total slots (entry rest + others) := by
    rw [total_tell slots he, slots, weight_of_op? hop]
  have hsearches : total searches c.agenda = total searches (entry rest + others) := by
    rw [total_tell searches he, searches, weight_of_op? hop, zero_add]
  have hintact : c.job.IsIntact := Or.inl hlive
  refine ⟨h.gives, h.ranks, fun hsearch => h.unsearched (hsearches ▸ hsearch), ?_, ?_, ?_, ?_, ?_⟩
  · have hle := h.fetched_le
    rwa [hfetches, ← add_assoc, ← hfetched] at hle
  · intro _
    have heq := h.fetched_eq hintact
    rwa [hfetches, ← add_assoc, ← hfetched] at heq
  · refine le_trans (add_le_add hdocuments le_rfl) ?_
    rw [add_assoc, ← hdelivers]
    exact h.documents_le
  · intro _
    have heq := h.settled_eq hintact
    rw [hslots] at heq
    simp only [hsettled, assigned] at heq ⊢
    omega
  · intro d k hout
    have hdone : (c.job.apply op).2.fanOutDone = true := (hnew.accounted.completed d k hout).2.1
    have hpending : (c.job.apply op).2.pending = 0 := (hnew.accounted.completed d k hout).2.2.1
    -- the fan-out is done, so nothing more will be reserved, and no slot is out
    have hends := hnewb.ends_le
    have hbegun := Bool.toNat_le c.begun
    simp only [hdone, Bool.toNat_true] at hends
    have hzero : total ends (entry rest + others) = 0 := by omega
    have hreserves := total_reserves_eq_zero hnew.orderly hzero
    have hout := hb.slots_tell ht he hop hlive
    rw [hpending, hreserves] at hout
    exact ⟨hout.symm, hzero⟩

/-- Everything that a settled task gave is left to be counted, as long as it matters. -/
theorem Counted.settle (h : c.Counted sv) (hb : c.Balanced) {s : Stage} {t : s.Task}
    (he : c.agenda = [submit s t] ::ₘ others) (o : TaskOutcome s.Yield)
    (hdiscard : o = .discarded → c.job.flag = true)
    (hyield : ∀ y, o = .completed y → s.Yields sv t y) :
    ({ c with
      agenda := entry (after s t o) + others
      found := s.found o + c.found
      given := s.given t o + c.given } : Course).Counted sv := by
  -- a complete job has no task, so what is intact is live and discards nothing
  have hopen : ∀ d k, c.job.outcome ≠ some (.completed d k) := by
    intro d k hout
    obtain ⟨hslots, hends⟩ := h.clear d k hout
    have hone := slotOf_add_searchOf s t
    simp only [he, total_cons, weigh_cons, weigh_nil, slots_submit] at hslots
    simp only [he, total_cons, weigh_cons, weigh_nil, ends_submit] at hends
    omega
  have hkeep : c.job.IsIntact → o ≠ .discarded := by
    rintro (hlive | ⟨d, k, hout⟩) ho
    · simp [Job.isLive, hdiscard ho] at hlive
    · exact hopen d k hout
  have hfetches : total fetches c.agenda = resultOf s t + total fetches others := by
    simp [he, fetches, weight]
  have hdelivers : total delivers c.agenda = total delivers others := by
    simp [he, delivers, weight]
  have hslots : total slots c.agenda = slotOf s t + total slots others := by simp [he]
  have hsearches : total searches c.agenda = searchOf s t + total searches others := by
    simp [he, searches, weight]
  -- there is no other search, so a search that finds something finds all there is
  have hfirst : s.found o = 0 ∨ c.found = 0 ∧ total searches others = 0 := by
    by_cases hsearch : searchOf s t = 0
    · exact Or.inl (found_of_searchOf t o hsearch)
    · have hends := hb.ends_le
      have hbegun := Bool.toNat_le c.begun
      have hle := total_searches_le c.agenda
      exact Or.inr ⟨h.unsearched (by omega), by omega⟩
  refine ⟨?_, ?_, ?_, ?_, ?_, ?_, ?_, fun d k hout => absurd hout (hopen d k)⟩
  · intro x hx
    rcases Multiset.mem_add.1 hx with hnew | hold
    · exact gives_of_mem_given hyield hnew
    · exact h.gives x hold
  · rcases hfirst with hnone | ⟨hnone, -⟩
    · simpa [hnone] using h.ranks
    · simpa [hnone] using ranks_found hyield
  · intro hsearch
    simp only [total_add, total_entry, searches_after, zero_add] at hsearch
    rcases hfirst with hnone | ⟨-, hzero⟩
    · simp [hnone, h.unsearched (by omega)]
    · exact absurd hzero hsearch
  · have hle := h.fetched_le
    rw [hfetches] at hle
    simp only [total_add, total_entry]
    calc ↑c.job.fetched + (weigh fetches (after s t o) + total fetches others)
        ≤ ↑c.job.fetched + (resultOf s t + s.found o + total fetches others) :=
          add_le_add le_rfl (add_le_add (fetches_after_le t o) le_rfl)
      _ = s.found o + (↑c.job.fetched + (resultOf s t + total fetches others)) := by abel
      _ ≤ s.found o + c.found := add_le_add le_rfl hle
  · intro hintact
    have heq := h.fetched_eq hintact
    rw [hfetches] at heq
    simp only [total_add, total_entry, fetches_after t o (hkeep hintact), ← heq]
    abel
  · have hle := h.documents_le
    rw [hdelivers] at hle
    simp only [total_add, total_entry, delivers_after, Multiset.map_add]
    calc ↑c.job.documents + ((s.given t o).map Prod.snd + total delivers others)
        = (s.given t o).map Prod.snd + (↑c.job.documents + total delivers others) := by abel
      _ ≤ (s.given t o).map Prod.snd + c.given.map Prod.snd := add_le_add le_rfl hle
  · intro hintact
    have heq := h.settled_eq hintact
    have hafter := slots_after_found t o (hkeep hintact)
    simp only [total_add, total_entry, hafter, Multiset.card_add, assigned] at heq ⊢
    omega

theorem Counted.step {c' : Course} (h : c.Counted sv) (ht : c.Tidy) (hb : c.Balanced)
    (hstep : Step sv n c c') : c'.Counted sv := by
  have hnew := ht.step hstep
  have hnewb := hb.step ht hstep
  cases hstep with
  | begin hnot => exact h.begin ht hnot
  | cancel => exact h.cancel ht
  | @tell i op rest rest' others he hop hrest =>
      rcases hlive : c.job.isLive with _ | _
      · refine h.of_not_isLive ht hlive op fun M _ _ _ _ w => ?_
        rw [total_tell w he]
        have hle : total w (entry rest' + others) ≤ total w (entry rest + others) :=
          total_entry_add_le w (hrest.imp_right And.left)
        exact le_trans hle (le_add_of_nonneg_left zero_le)
      · obtain rfl : rest' = rest := ht.rest_eq hlive hrest
        exact h.tell ht hb he hop hlive hnew hnewb
  | @accept s t rest others he =>
      have hsearches := total_accept searches (searchOf_fresh s t) rest others
      refine h.of_totals ?_ ?_ ?_ ?_ (le_of_eq (he ▸ hsearches)) <;> rw [he]
      · exact total_accept fetches (resultOf_fresh s t) rest others
      · exact total_accept delivers rfl rest others
      · exact total_accept slots (slotOf_fresh s t) rest others
      · exact total_accept ends (searchOf_fresh s t) rest others
  | @refuse s t rest others he err =>
      refine h.of_totals ?_ ?_ ?_ ?_ ?_ <;> rw [he]
      · exact total_refuse fetches (fetches_refused s t err) rest others
      · exact total_refuse delivers (delivers_refused s t err) rest others
      · exact total_refuse slots (slots_refused s t err) rest others
      · exact total_refuse ends (ends_refused s t err) rest others
      · simp [searches_refused]
  | @settle s t others he o hdiscard hyield => exact h.settle hb he o hdiscard hyield

end Step

end Course

end GradedReading
