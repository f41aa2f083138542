import GradedReading.Proofs.Job.Ending

/-!
# GradedReading.Proofs.Job.Slots

The slots of a job add up.

**Key idea:** two counts are kept beside the job, over the operations that find it live: the slots
that were *reserved* and those that were *settled*. As long as nobody settles more than was
reserved, and no more are out than a word can count, the slots that are out are the difference, and
the documents and failures together are what was settled. So a job that completes, which it does
with no slot out, has exactly as many documents and failures as slots were reserved.

What holds whatever is counted is in `Accounted`: a job is complete only with no slot out. That a
live job whose fan-out is done has a slot out (`Awaits`) is kept by all operations but a reservation
that wraps around.
-/

namespace GradedReading

open Search

namespace Job

/-! ### Completing -/

/-- A job that is still live when it might have been completed has a slot out, unless more may be
reserved. -/
theorem pending_pos_of_isLive_tryFinish {j : Job} (h : j.tryFinish.isLive = true)
    (hdone : j.fanOutDone = true) : 0 < j.pending := by
  unfold tryFinish at h
  split at h
  · simp [isLive_finish j (s := .complete) _ rfl] at h
  · next hcond =>
    have hne : ¬j.pending = 0 := by simpa [h, hdone] using hcond
    exact Nat.pos_of_ne_zero hne

/-- Whether and with what a job is complete fits the slots that are out. -/
structure Accounted (j : Job) : Prop where
  flag : j.flag = true → j.state.isTerminal = true
  completed : ∀ c k, j.outcome = some (.completed c k) → j.state.isTerminal = true ∧
    j.fanOutDone = true ∧ j.pending = 0 ∧ c = j.collection ∧ k = j.failures

theorem accounted_create (kind : JobKind) (l : Language) : Accounted (create kind l) where
  flag := by simp [create]
  completed := by simp [create]

/-- A live job has no outcome that would be about completing. -/
theorem Accounted.not_completed {j : Job} (h : j.Accounted) (hlive : j.isLive = true)
    (c : Collection) (k : Nat) : j.outcome ≠ some (.completed c k) := by
  intro hout
  have hover := (h.completed c k hout).1
  rw [not_isTerminal_of_isLive hlive] at hover
  exact Bool.false_ne_true hover

theorem Accounted.isTerminal {j : Job} (h : j.Accounted) (hlive : j.isLive = false) :
    j.state.isTerminal = true := by
  rcases hflag : j.flag with _ | _
  · simpa [isLive, hflag] using hlive
  · exact h.flag hflag

theorem accounted_tryFinish {j : Job} (hflag : j.flag = true → j.state.isTerminal = true)
    (hout : ∀ c k, j.outcome ≠ some (.completed c k)) : j.tryFinish.Accounted := by
  constructor
  · unfold tryFinish
    split
    · exact fun _ => rfl
    · exact hflag
  · unfold tryFinish
    split
    · next hcond =>
      have hcond : (j.isLive = true ∧ j.fanOutDone = true) ∧ j.pending = 0 := by
        simpa using hcond
      intro c k hck
      obtain ⟨rfl, rfl⟩ : j.collection = c ∧ j.failures = k := by simpa [finish] using hck
      exact ⟨rfl, hcond.1.2, hcond.2, rfl, rfl⟩
    · exact fun c k hck => absurd hck (hout c k)

theorem accounted_finish {j : Job} {s : JobState} {o : JobOutcome} (hs : s.isTerminal = true)
    (ho : ∀ c k, o ≠ .completed c k) : (j.finish s o).Accounted where
  flag _ := hs
  completed c k hck := absurd (by simpa [finish] using hck) (ho c k)

/-- A change of the books that ends nothing. -/
theorem Accounted.of_live {j j' : Job} (h : j.Accounted) (hlive : j.isLive = true)
    (hflag : j'.flag = j.flag) (hout : j'.outcome = j.outcome) : j'.Accounted where
  flag hf := by
    have hnot : j.flag = false := by simp_all [isLive]
    simp [hflag, hnot] at hf
  completed c k hck := absurd (hout ▸ hck) (h.not_completed hlive c k)

/-- One operation, whatever it settles. -/
theorem Accounted.apply {j : Job} (h : j.Accounted) (op : Op) : (j.apply op).2.Accounted := by
  rcases hlive : j.isLive with _ | _
  · rw [(apply_of_isTerminal (h.isTerminal hlive) op).2]
    refine ⟨h.flag, ?_⟩
    intro c k hck
    obtain ⟨hterm, hdone, hrest⟩ := h.completed c k hck
    exact ⟨hterm, (fanOutDone_apply j op).2 (Or.inl hdone), hrest⟩
  have htry : ∀ j' : Job, j'.flag = j.flag → j'.state = j.state → j'.outcome = j.outcome →
      j'.tryFinish.Accounted := by
    intro j' hf hs ho
    refine accounted_tryFinish ?_ ?_
    · rw [hf, hs]
      exact h.flag
    · rw [ho]
      exact h.not_completed hlive
  rw [apply_of_isLive hlive]
  cases op with
  | enter stage | announce e | reserve n => exact h.of_live hlive rfl rfl
  | crawlComplete r extracted =>
      cases extracted with
      | true => exact h.of_live hlive rfl rfl
      | false => exact htry _ rfl rfl rfl
  | finishFanOut | parseComplete d | settleFailed => exact htry _ rfl rfl rfl
  | fail e => exact accounted_finish rfl (by simp)
  | cancel => exact accounted_finish rfl (by simp)

/-- No operation brings a job back to life. -/
theorem Accounted.isLive_of_apply {j : Job} (h : j.Accounted) {op : Op}
    (hlive : (j.apply op).2.isLive = true) : j.isLive = true := by
  rcases hj : j.isLive with _ | _
  · rw [(apply_of_isTerminal (h.isTerminal hj) op).2] at hlive
    exact (hlive.symm.trans hj).symm
  · decide

/-- Every operation answers whether the job was live. -/
theorem Accounted.answer_eq {j : Job} (h : j.Accounted) (op : Op) : (j.apply op).1 = j.isLive := by
  by_cases hop : op = .cancel
  · subst hop
    rcases hlive : j.isLive with _ | _
    · exact (apply_of_isTerminal (h.isTerminal hlive) .cancel).1
    · simp [Job.apply, cancel_of_isLive hlive]
  · exact answer_eq_isLive j hop

theorem Accounted.applyAll {j : Job} (h : j.Accounted) (ops : List Op) :
    (applyAll ops j).Accounted := by
  induction ops generalizing j with
  | nil => exact h
  | cons op ops ih => exact ih (h.apply op)

/-! ### Waiting for a slot -/

/-- The end of the fan-out and whatever settles a slot may complete the job. -/
theorem close_eq_tryFinish {op : Op} (h : op = .finishFanOut ∨ op.settles = 1) :
    op.close = tryFinish := by
  cases op with
  | finishFanOut | parseComplete d | settleFailed => rfl
  | crawlComplete r extracted =>
      cases extracted with
      | true => simp [Op.settles] at h
      | false => rfl
  | _ => simp [Op.settles] at h

/-- An operation that may complete a job leaves it with a slot out, if it leaves it live. -/
theorem pending_pos_of_isLive_apply {j : Job} (h : j.isLive = true) {op : Op}
    (hop : op = .finishFanOut ∨ op.settles = 1) (hlive : (j.apply op).2.isLive = true)
    (hdone : (j.apply op).2.fanOutDone = true) : 0 < (j.apply op).2.pending := by
  rw [apply_of_isLive h, close_eq_tryFinish hop] at hlive hdone ⊢
  rw [fanOutDone_tryFinish] at hdone
  rw [pending_tryFinish]
  exact pending_pos_of_isLive_tryFinish hlive hdone

/-- A live job whose fan-out is done waits for a slot. -/
def Awaits (j : Job) : Prop := j.isLive = true → j.fanOutDone = true → 0 < j.pending

theorem awaits_create (kind : JobKind) (l : Language) : Awaits (create kind l) := by
  intro _ hdone
  simp [create] at hdone

/-- One operation, if what it reserves can be counted. -/
theorem Awaits.apply {j : Job} (h : j.Awaits) (hacc : j.Accounted) {op : Op}
    (hfits : op.Fits j.pending) : (j.apply op).2.Awaits := by
  intro hlive hdone
  have hbefore := hacc.isLive_of_apply hlive
  by_cases hop : op = .finishFanOut ∨ op.settles = 1
  · exact pending_pos_of_isLive_apply hbefore hop hlive hdone
  · -- anything else takes no slot back, and is not the end of the fan-out
    obtain ⟨hfan, hset⟩ := not_or.1 hop
    have hpos := h hbefore (((fanOutDone_apply j op).1 hdone).resolve_right hfan)
    have hle := op.settles_le_one
    rw [pending_apply hbefore op hfits]
    omega

/-- The fan-out is done exactly if an operation said so. -/
theorem fanOutDone_applyAll (ops : List Op) (j : Job) :
    (applyAll ops j).fanOutDone = true ↔ j.fanOutDone = true ∨ .finishFanOut ∈ ops := by
  induction ops generalizing j with
  | nil => simp
  | cons op ops ih =>
      rw [applyAll_cons, ih, fanOutDone_apply, List.mem_cons, or_assoc]
      simp only [eq_comm]

/-! ### When a job is completed -/

theorem completed_mem_tryFinish_iff {j : Job} (h : j.isLive = true)
    (hnone : ∀ c k, .completed c k ∉ j.events) :
    (∃ c k, .completed c k ∈ j.tryFinish.events) ↔ j.fanOutDone = true ∧ j.pending = 0 := by
  unfold tryFinish
  split
  · next hcond =>
    have hdone : j.fanOutDone = true ∧ j.pending = 0 := by simpa [h] using hcond
    have hmem : .completed j.collection j.failures ∈
        (j.finish .complete (.completed j.collection j.failures)).events :=
      List.mem_append_right _ (List.mem_singleton_self _)
    exact iff_of_true ⟨_, _, hmem⟩ hdone
  · next hcond =>
    have hdone : ¬(j.fanOutDone = true ∧ j.pending = 0) := by simpa [h] using hcond
    exact iff_of_false (fun ⟨c, k, hmem⟩ => hnone c k hmem) hdone

/-- The operation that completes a job settles its last slot, or says that the fan-out is done when
no slot is out. -/
theorem completed_mem_events_apply_iff {j : Job} (h : j.isLive = true)
    (hnone : ∀ c k, .completed c k ∉ j.events) {op : Op}
    (hop : ∀ c k, op ≠ .announce (.completed c k)) :
    (∃ c k, .completed c k ∈ (j.apply op).2.events) ↔
      (op = .finishFanOut ∧ j.pending = 0) ∨
      (op.settles = 1 ∧ j.fanOutDone = true ∧ j.pending - 1 = 0) := by
  -- nothing that is recorded is about the end, so it is left to what closes the job
  have hrecord : ∀ c k, .completed c k ∉ (op.record j).events := by
    intro c k hmem
    rcases List.mem_append.1 hmem with hold | hnew
    · exact hnone c k hold
    · cases op with
      | announce e => exact hop c k (by rw [List.mem_singleton.1 hnew])
      | crawlComplete r extracted => simp [Op.reports] at hnew
      | parseComplete d =>
          by_cases hl : d.language = j.collection.language <;> simp [Op.reports, hl] at hnew
      | _ => simp [Op.reports] at hnew
  have htry := fun hlive => completed_mem_tryFinish_iff (j := op.record j) hlive hrecord
  rw [apply_of_isLive h]
  cases op with
  | finishFanOut =>
      simpa [Op.close, Op.record, Op.reserves, Op.settles, Op.isFanOutEnd] using htry h
  | crawlComplete r extracted =>
      cases extracted with
      | true => simpa [Op.close, Op.settles] using hrecord
      | false =>
          simpa [Op.close, Op.record, Op.reserves, Op.settles, Op.isFanOutEnd] using htry h
  | parseComplete d | settleFailed =>
      simpa [Op.close, Op.record, Op.reserves, Op.settles, Op.isFanOutEnd] using htry h
  | enter stage | announce e | reserve n => simpa [Op.close, Op.settles] using hrecord
  | fail e | cancel =>
      simpa [Op.close, Op.settles, finish, report, JobOutcome.event] using hrecord

/-- A live job has reported no completion. -/
def Unfinished (j : Job) : Prop := j.isLive = true → ∀ c k, .completed c k ∉ j.events

theorem Unfinished.apply {j : Job} (h : j.Unfinished) (hacc : j.Accounted) {op : Op}
    (hop : ∀ c k, op ≠ .announce (.completed c k)) : (j.apply op).2.Unfinished := by
  intro hlive c k hmem
  have hbefore := hacc.isLive_of_apply hlive
  -- an operation that may complete a job leaves a slot out, and here there would be none
  have hslot := fun hclose => pending_pos_of_isLive_apply hbefore hclose hlive
  rw [fanOutDone_apply] at hslot
  rcases (completed_mem_events_apply_iff hbefore (h hbefore) hop).1 ⟨c, k, hmem⟩ with
    ⟨rfl, hzero⟩ | ⟨hset, hdone, hzero⟩
  · have hout := hslot (Or.inl rfl) (Or.inr rfl)
    rw [pending_apply hbefore _ (Op.fits_of_reserves rfl _)] at hout
    simp only [Op.reserves, Op.settles] at hout
    omega
  · have hout := hslot (Or.inr hset) (Or.inl hdone)
    have hkind := op.reserves_eq_zero_or_settles_eq_zero
    have hreserves : op.reserves = 0 := by omega
    rw [pending_apply hbefore op (Op.fits_of_reserves hreserves _)] at hout
    omega

theorem Unfinished.applyAll {j : Job} (h : j.Unfinished) (hacc : j.Accounted) {ops : List Op}
    (hops : ∀ c k, .announce (.completed c k) ∉ ops) : (applyAll ops j).Unfinished := by
  induction ops generalizing j with
  | nil => exact h
  | cons op ops ih =>
      refine ih (h.apply hacc fun c k hop => hops c k ?_) (hacc.apply op) fun c k hmem => ?_
      · rw [hop]
        exact List.mem_cons_self ..
      · exact hops c k (List.mem_cons_of_mem _ hmem)

/-- The state of a complete job comes with a completion. -/
def Concluded (j : Job) : Prop := j.state = .complete → ∃ c k, j.outcome = some (.completed c k)

theorem concluded_tryFinish {j : Job} (h : j.state ≠ .complete) : j.tryFinish.Concluded := by
  unfold Concluded tryFinish
  split
  · intro _
    exact ⟨j.collection, j.failures, rfl⟩
  · intro hstate
    exact absurd hstate h

/-- Only who enters the state of a complete job gets there without completing the job. -/
theorem Concluded.apply {j : Job} (h : j.Concluded) (hacc : j.Accounted) {op : Op}
    (hop : op ≠ .enter .complete) : (j.apply op).2.Concluded := by
  rcases hlive : j.isLive with _ | _
  · rw [(apply_of_isTerminal (hacc.isTerminal hlive) op).2]
    exact h
  have hstate : j.state ≠ .complete := by
    intro hstate
    simp [isLive, hstate, JobState.isTerminal] at hlive
  rw [apply_of_isLive hlive]
  cases op with
  | enter stage =>
      intro hmoved
      simp only [Op.close, Op.record, Op.moves, id_eq] at hmoved
      split at hmoved
      · exact absurd (congrArg Op.enter hmoved) hop
      · exact absurd hmoved hstate
  | crawlComplete r extracted =>
      cases extracted with
      | true =>
          intro hsame
          exact absurd hsame hstate
      | false => exact concluded_tryFinish hstate
  | finishFanOut | parseComplete d | settleFailed => exact concluded_tryFinish hstate
  | announce e | reserve n =>
      intro hsame
      exact absurd hsame hstate
  | fail e | cancel =>
      intro hended
      cases hended

theorem Concluded.applyAll {j : Job} (h : j.Concluded) (hacc : j.Accounted) {ops : List Op}
    (hops : .enter .complete ∉ ops) : (applyAll ops j).Concluded := by
  induction ops generalizing j with
  | nil => exact h
  | cons op ops ih =>
      obtain ⟨hop, hops⟩ := not_or.1 (mt List.mem_cons.2 hops)
      exact ih (h.apply hacc (Ne.symm hop)) (hacc.apply op) hops

/-! ### Documents -/

/-- An operation reports what it collects, unless it announces a document by itself. -/
theorem filterMap_reports (l : Language) {op : Op} (h : ∀ d, op ≠ .announce (.parsed d)) :
    (op.reports l).filterMap JobEvent.document? = op.collects l := by
  cases op with
  | announce e =>
      cases e with
      | parsed d => exact absurd rfl (h d)
      | _ => rfl
  | parseComplete d => by_cases hl : d.language = l <;> simp [Op.reports, Op.collects, hl,
      JobEvent.document?]
  | _ => rfl

theorem documents_apply {j : Job} (h : j.documents = j.collection.documents) (hacc : j.Accounted)
    {op : Op} (hop : ∀ d, op ≠ .announce (.parsed d)) :
    (j.apply op).2.documents = (j.apply op).2.collection.documents := by
  rcases hlive : j.isLive with _ | _
  · rw [(apply_of_isTerminal (hacc.isTerminal hlive) op).2]
    exact h
  · have hevents : (j.apply op).2.documents =
        j.documents ++ (op.reports j.collection.language).filterMap JobEvent.document? :=
      filterMap_events_apply hlive op (by intro o; cases o <;> rfl)
    rw [hevents, collection_apply hlive, filterMap_reports _ hop, h]

/-- The documents that were reported are those of the collection, in the same order. -/
theorem documents_applyAll {j : Job} (h : j.documents = j.collection.documents)
    (hacc : j.Accounted) {ops : List Op} (hops : ∀ d, .announce (.parsed d) ∉ ops) :
    (applyAll ops j).documents = (applyAll ops j).collection.documents := by
  induction ops generalizing j with
  | nil => exact h
  | cons op ops ih =>
      refine ih (documents_apply h hacc fun d hd => hops d ?_) (hacc.apply op) fun d hmem => ?_
      · rw [hd]
        exact List.mem_cons_self ..
      · exact hops d (List.mem_cons_of_mem _ hmem)

/-- The collection has this language, and so have its documents. -/
def InLanguage (l : Language) (c : Collection) : Prop :=
  c.language = l ∧ ∀ d ∈ c.documents, d.language = l

theorem InLanguage.apply {l : Language} {j : Job} (h : InLanguage l j.collection)
    (hacc : j.Accounted) (op : Op) : InLanguage l (j.apply op).2.collection := by
  rcases hlive : j.isLive with _ | _
  · rw [(apply_of_isTerminal (hacc.isTerminal hlive) op).2]
    exact h
  · rw [collection_apply hlive]
    refine ⟨h.1, fun d hmem => ?_⟩
    rcases List.mem_append.1 hmem with hold | hnew
    · exact h.2 d hold
    · cases op with
      | parseComplete d' =>
          by_cases hl : d'.language = j.collection.language
          · obtain rfl : d = d' := by simpa [Op.collects, hl] using hnew
            exact hl.trans h.1
          · simp [Op.collects, hl] at hnew
      | _ => simp [Op.collects] at hnew

theorem InLanguage.applyAll {l : Language} {j : Job} (h : InLanguage l j.collection)
    (hacc : j.Accounted) (ops : List Op) : InLanguage l (applyAll ops j).collection := by
  induction ops generalizing j with
  | nil => exact h
  | cons op ops ih => exact ih (h.apply hacc op) (hacc.apply op)

/-! ### Counting -/

/-- The sum of a count over those operations that find the job live. -/
def liveTotal (count : Op → Nat) : List Op → Job → Nat
  | [], _ => 0
  | op :: ops, j => (if j.isLive then count op else 0) + liveTotal count ops (j.apply op).2

/-- The slots that operations reserve. -/
abbrev totalReserved : List Op → Job → Nat := liveTotal Op.reserves

/-- The slots that operations settle. -/
abbrev totalSettled : List Op → Job → Nat := liveTotal Op.settles

/-- At all times the slots that were reserved and those that were settled are in this relation. -/
def AtAllTimes (R : Nat → Nat → Prop) (ops : List Op) (j : Job) : Prop :=
  ∀ before after, ops = before ++ after → R (totalReserved before j) (totalSettled before j)

/-- It is enough to look at the first so many operations. -/
theorem atAllTimes_iff (R : Nat → Nat → Prop) (ops : List Op) (j : Job) : AtAllTimes R ops j ↔
    ∀ n < ops.length + 1, R (totalReserved (ops.take n) j) (totalSettled (ops.take n) j) := by
  constructor
  · intro h n _
    exact h (ops.take n) (ops.drop n) (List.take_append_drop n ops).symm
  · intro h before after hsplit
    have hlen := h before.length (by rw [hsplit, List.length_append]; omega)
    rwa [hsplit, List.take_left] at hlen

instance (R : Nat → Nat → Prop) [DecidableRel R] (ops : List Op) (j : Job) :
    Decidable (AtAllTimes R ops j) :=
  decidable_of_iff _ (atAllTimes_iff R ops j).symm

/-- What holds at all times holds during the first operations. -/
theorem AtAllTimes.take {R : Nat → Nat → Prop} {before after : List Op} {j : Job}
    (h : AtAllTimes R (before ++ after) j) : AtAllTimes R before j := by
  intro first last hbefore
  exact h first (last ++ after) (by rw [hbefore, List.append_assoc])

/-- At no time more slots are settled than were reserved. -/
abbrev NeverOverdrawn : List Op → Job → Prop := AtAllTimes fun reserved settled =>
  settled ≤ reserved

/-- At no time more slots are out than can be counted. -/
abbrev NeverOverflows : List Op → Job → Prop := AtAllTimes fun reserved settled =>
  reserved < settled + slotLimit

theorem liveTotal_append (count : Op → Nat) (a b : List Op) (j : Job) :
    liveTotal count (a ++ b) j = liveTotal count a j + liveTotal count b (applyAll a j) := by
  induction a generalizing j with
  | nil => simp [liveTotal]
  | cons op a ih =>
      rw [List.cons_append, liveTotal, ih, liveTotal, applyAll_cons]
      omega

/-- So many slots were reserved, and so many of them settled. -/
structure Balanced (reserved settled : Nat) (j : Job) : Prop where
  pending : j.pending + settled = reserved
  settled : j.settled = settled
  awaits : j.Awaits

/-- Slots are counted right within these bounds: none is settled that was not reserved, and no more
are out than a word can count. -/
def InBounds (reserved settled : Nat) : Prop := settled ≤ reserved ∧ reserved < settled + slotLimit

theorem Balanced.apply {r s : Nat} {j : Job} (h : Balanced r s j) (hacc : j.Accounted) (op : Op)
    (hbounds : InBounds (r + totalReserved [op] j) (s + totalSettled [op] j)) :
    Balanced (r + totalReserved [op] j) (s + totalSettled [op] j) (j.apply op).2 := by
  rcases hlive : j.isLive with _ | _
  · rw [(apply_of_isTerminal (hacc.isTerminal hlive) op).2]
    -- what finds the job over is not counted
    simp only [liveTotal, hlive, Bool.false_eq_true, if_false, Nat.add_zero]
    refine ⟨h.pending, h.settled, fun hstill => ?_⟩
    exact absurd hstill (Bool.eq_false_iff.1 hlive)
  · have hpending := h.pending
    have hsettled := h.settled
    obtain ⟨hle, hlt⟩ := hbounds
    simp only [liveTotal, hlive, if_true, Nat.add_zero] at hle hlt ⊢
    have hfits : op.Fits j.pending := by
      by_cases hreserves : op.reserves = 0
      · exact Op.fits_of_reserves hreserves _
      · have hkind := op.reserves_eq_zero_or_settles_eq_zero
        exact addSlots_of_lt (by omega)
    have hp := pending_apply hlive op hfits
    have hs := settled_apply hlive op
    exact ⟨by omega, by omega, h.awaits.apply hacc hfits⟩

theorem Balanced.applyAll {r s : Nat} {j : Job} (h : Balanced r s j) (hacc : j.Accounted)
    (ops : List Op) (hbounds : ∀ before after, ops = before ++ after →
      InBounds (r + totalReserved before j) (s + totalSettled before j)) :
    Balanced (r + totalReserved ops j) (s + totalSettled ops j) (applyAll ops j) := by
  induction ops generalizing j r s with
  | nil => exact h
  | cons op ops ih =>
      have hstep := h.apply hacc op (hbounds [op] ops rfl)
      have hrest := ih hstep (hacc.apply op) fun before after hsplit => by
        have hlong := hbounds (op :: before) after (by rw [hsplit]; rfl)
        simpa only [InBounds, totalReserved, totalSettled, liveTotal, Nat.add_zero,
          Nat.add_assoc] using hlong
      simpa only [liveTotal, Nat.add_zero, Nat.add_assoc, applyAll_cons] using hrest

theorem balanced_create (kind : JobKind) (l : Language) : Balanced 0 0 (create kind l) :=
  ⟨rfl, rfl, awaits_create kind l⟩

theorem balanced_applyAll {kind : JobKind} {l : Language} {ops : List Op}
    (hdrawn : NeverOverdrawn ops (create kind l)) (hword : NeverOverflows ops (create kind l)) :
    Balanced (totalReserved ops (create kind l)) (totalSettled ops (create kind l))
      (applyAll ops (create kind l)) := by
  have hrun := (balanced_create kind l).applyAll (accounted_create kind l) ops
    fun before after hsplit => by
      have hle := hdrawn before after hsplit
      have hlt := hword before after hsplit
      exact ⟨by omega, by omega⟩
  simpa using hrun

/-! ### The main statement -/

/-- What operations reserve and settle is counted. -/
structure SlotsCounted (ops : List Op) (start : Job) : Prop where
  /-- The slots that are out are those that were reserved and not settled. -/
  pending : (applyAll ops start).pending + totalSettled ops start = totalReserved ops start
  /-- No operation settles a slot when none is out. -/
  in_hand : ∀ before op after, ops = before ++ op :: after →
    (applyAll before start).isLive = true → op.settles ≤ (applyAll before start).pending
  /-- A live job whose fan-out is done has a slot out. -/
  outstanding : (applyAll ops start).isLive = true → .finishFanOut ∈ ops →
    0 < (applyAll ops start).pending
  /-- A completion is reported by the operation that settles the last slot after the fan-out, or by
  the end of the fan-out if no slot is out, and by no other, if nobody announces one by himself. -/
  completes_iff : (∀ c k, .announce (.completed c k) ∉ ops) → ∀ before op after,
    ops = before ++ op :: after →
      ((∃ c k, .completed c k ∈ ((applyAll before start).apply op).2.events ∧
        .completed c k ∉ (applyAll before start).events) ↔
      (applyAll before start).isLive = true ∧
        ((op = .finishFanOut ∧ (applyAll before start).pending = 0) ∨
        (op.settles = 1 ∧ .finishFanOut ∈ before ∧ (applyAll before start).pending = 1)))
  /-- A job that completes has a document or a failure for each slot. -/
  total : ∀ c k, (applyAll ops start).outcome = some (.completed c k) →
    c.size + k = totalReserved ops start

/-- What operations reserve and settle adds up. -/
structure SlotsAddUp (ops : List Op) (start : Job) : Prop where
  /-- Documents are reported as they are collected, if nobody announces one by himself. -/
  documents : (∀ d, .announce (.parsed d) ∉ ops) →
    (applyAll ops start).documents = (applyAll ops start).collection.documents
  language : ∀ d ∈ (applyAll ops start).collection.documents, d.language = start.language
  /-- A job is complete because it completed, if nobody sends it to that state by himself. -/
  complete : .enter .complete ∉ ops → (applyAll ops start).state = .complete →
    ∃ c k, (applyAll ops start).outcome = some (.completed c k)
  /-- Slots are counted right, as long as a word can count them. -/
  counted : NeverOverflows ops start → SlotsCounted ops start

theorem completes_iff_of_isLive {j : Job} (h : j.Unfinished) (hacc : j.Accounted) {op : Op}
    (hop : ∀ c k, op ≠ .announce (.completed c k))
    (hhand : j.isLive = true → op.settles ≤ j.pending) :
    (∃ c k, .completed c k ∈ (j.apply op).2.events ∧ .completed c k ∉ j.events) ↔
      j.isLive = true ∧ ((op = .finishFanOut ∧ j.pending = 0) ∨
        (op.settles = 1 ∧ j.fanOutDone = true ∧ j.pending = 1)) := by
  rcases hlive : j.isLive with _ | _
  · rw [(apply_of_isTerminal (hacc.isTerminal hlive) op).2]
    simp
  · have hcount : op.settles = 1 → (j.pending - 1 = 0 ↔ j.pending = 1) := by
      intro hset
      have := hhand hlive
      omega
    simp only [h hlive, not_false_eq_true, and_true, true_and]
    rw [completed_mem_events_apply_iff hlive (h hlive) hop]
    constructor
    · rintro (hfan | ⟨hset, hdone, hpend⟩)
      · exact Or.inl hfan
      · exact Or.inr ⟨hset, hdone, (hcount hset).1 hpend⟩
    · rintro (hfan | ⟨hset, hdone, hpend⟩)
      · exact Or.inl hfan
      · exact Or.inr ⟨hset, hdone, (hcount hset).2 hpend⟩

section Create

variable {kind : JobKind} {l : Language} {ops : List Op}
  (hdrawn : NeverOverdrawn ops (create kind l)) (hword : NeverOverflows ops (create kind l))
include hdrawn hword

theorem settles_le_pending (before : List Op) (op : Op) (after : List Op)
    (hsplit : ops = before ++ op :: after)
    (hlive : (applyAll before (create kind l)).isLive = true) :
    op.settles ≤ (applyAll before (create kind l)).pending := by
  subst hsplit
  have hp := (balanced_applyAll hdrawn.take hword.take).pending
  -- one more operation would overdraw
  have hnext := hdrawn (before ++ [op]) after (by simp)
  simp only [totalReserved, totalSettled, liveTotal_append, liveTotal, hlive, if_true] at hp hnext
  have hkind := op.reserves_eq_zero_or_settles_eq_zero
  omega

theorem slotsCounted_applyAll : SlotsCounted ops (create kind l) := by
  have hacc : ∀ ops, (applyAll ops (create kind l)).Accounted := (accounted_create kind l).applyAll
  have hbalanced := balanced_applyAll hdrawn hword
  refine ⟨hbalanced.pending, settles_le_pending hdrawn hword, ?_, ?_, ?_⟩
  · intro hlive hfan
    exact hbalanced.awaits hlive ((fanOutDone_applyAll ops _).2 (Or.inr hfan))
  · intro hquiet before op after hsplit
    have hstart : (create kind l).Unfinished := fun _ => by simp [create]
    have hbefore : (applyAll before (create kind l)).Unfinished :=
      hstart.applyAll (accounted_create kind l) fun c k hmem =>
        hquiet c k (hsplit ▸ List.mem_append_left _ hmem)
    have hop : ∀ c k, op ≠ .announce (.completed c k) := fun c k hop =>
      hquiet c k (by simp [hsplit, hop])
    have hdone : (applyAll before (create kind l)).fanOutDone = true ↔ .finishFanOut ∈ before := by
      simp [fanOutDone_applyAll, create]
    have hhand := settles_le_pending hdrawn hword before op after hsplit
    rw [completes_iff_of_isLive hbefore (hacc before) hop hhand, hdone]
  · intro c k hout
    -- no slot is out, so as many were settled as were reserved
    obtain ⟨-, -, hpending, rfl, rfl⟩ := (hacc ops).completed c k hout
    have hp := hbalanced.pending
    have hs := hbalanced.settled
    simp only [Job.settled] at hs
    omega

end Create

/-- **Slots add up.** Whatever operations a new job goes through, in any order: as long as at no
time more slots are settled than were reserved, documents are collected as they are reported, and as
long as a word can count the slots that are out, none is lost and none is counted twice, and the job
is completed by the last of them. -/
theorem slotsAddUp_of_neverOverdrawn (kind : JobKind) (l : Language) (ops : List Op)
    (h : NeverOverdrawn ops (create kind l)) : SlotsAddUp ops (create kind l) where
  documents := documents_applyAll rfl (accounted_create kind l)
  language := (InLanguage.applyAll ⟨rfl, by simp [create]⟩ (accounted_create kind l) ops).2
  complete hops := by
    have hstart : (create kind l).Concluded := by
      intro hstate
      cases hstate
    exact hstart.applyAll (accounted_create kind l) hops
  counted hword := slotsCounted_applyAll h hword

/-- Two slots, one for a result without text and one for a document, with the end of the fan-out in
between: the last slot completes the job. -/
theorem slotsAddUp_of_two :
    let ops : List Op := [.reserve 2, .crawlComplete default false, .finishFanOut,
      .crawlComplete default true, .parseComplete default]
    NeverOverdrawn ops (create .searchAndParse .english) ∧
      NeverOverflows ops (create .searchAndParse .english) ∧
      (applyAll ops (create .searchAndParse .english)).state = .complete ∧
      SlotsAddUp ops (create .searchAndParse .english) :=
  ⟨by decide, by decide, by decide, slotsAddUp_of_neverOverdrawn _ _ _ (by decide)⟩

/-- Slots do not add up without the provisos. Somebody announces a document, or a completion, or
sends a job to the state of a complete one; or more slots are reserved than a word can count, and
the job completes with all of them out, or its fan-out is done and it waits for nothing, and a first
failure, which finds no slot to take back, completes it. -/
theorem slots_astray :
    let new := create .searchAndParse .english
    let wrapped : List Op := [.reserve (slotLimit - 1), .reserve 1, .finishFanOut]
    let late : List Op := [.reserve (slotLimit - 1), .finishFanOut, .reserve 1]
    (NeverOverdrawn [.announce (.parsed default)] new ∧
      (applyAll [.announce (.parsed default)] new).documents ≠
        (applyAll [.announce (.parsed default)] new).collection.documents) ∧
    (NeverOverdrawn [.announce (.completed (.empty .english) 0)] new ∧
      .completed (.empty .english) 0 ∈
        (applyAll [.announce (.completed (.empty .english) 0)] new).events ∧
      (applyAll [.announce (.completed (.empty .english) 0)] new).isLive = true) ∧
    (NeverOverdrawn [.reserve 1, .enter .complete] new ∧
      (applyAll [.reserve 1, .enter .complete] new).state = .complete ∧
      (applyAll [.reserve 1, .enter .complete] new).settled <
        totalReserved [.reserve 1, .enter .complete] new) ∧
    (NeverOverdrawn wrapped new ∧ totalReserved wrapped new = slotLimit ∧
      (applyAll wrapped new).outcome = some (.completed (.empty .english) 0)) ∧
    NeverOverdrawn (late ++ [.settleFailed]) new ∧ (applyAll late new).isLive = true ∧
      .finishFanOut ∈ late ∧ (applyAll late new).pending = 0 ∧
      (applyAll (late ++ [.settleFailed]) new).outcome =
        some (.completed (.empty .english) 1) := by
  intro new wrapped late
  have hfull : slotLimit - 1 ≠ 0 := by decide
  have hwraps : addSlots (slotLimit - 1) 1 = 0 := by decide
  refine ⟨⟨by decide, ?_⟩, ⟨by decide, ?_, by decide⟩, ⟨by decide, by decide, by decide⟩,
    ⟨by decide, by decide, ?_⟩, by decide, by decide, ?_, by decide, ?_⟩
  · exact List.cons_ne_nil _ _
  · exact List.mem_singleton_self _
  · simp [wrapped, new, applyAll, Job.apply, create, reserve, whenLive, isLive,
      JobState.isTerminal, finishFanOut, tryFinish, finish, hwraps]
  · exact List.mem_cons_of_mem _ List.mem_cons_self
  · simp [late, new, applyAll, Job.apply, create, reserve, whenLive, isLive,
      JobState.isTerminal, finishFanOut, settleFailed, loseSlot, tryFinish, finish, hfull, hwraps]

end Job

end GradedReading
