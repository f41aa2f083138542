import GradedReading.Proofs.Pipeline.Sound

/-!
# GradedReading.Proofs.Pipeline.Simulation

Whatever happens to a pipeline, an operation notices one step of its course or nothing.

**Key idea:** everything that can happen to a pipeline changes one script, or one task, or one job,
and so one summand of one operation's course. `Follows` says this of two pipelines, and that what is
true of every task and script stays true. It is shown here for calls, for scripts that go on and
for the turns of tasks.
-/

namespace GradedReading.Pipeline

open Search Instr

variable {sv : Services} {told : Prop} {p p' : Pipeline}

/-- The second pipeline may come right after the first. -/
structure Follows (sv : Services) (told : Prop) (p p' : Pipeline) : Prop where
  sound : p'.Sound sv told
  step : ∀ n c, p.course? n = some c →
    ∃ c', p'.course? n = some c' ∧ (c' = c ∨ Course.Step sv n c c')
  new : ∀ n c, p.course? n = none → p'.course? n = some c → c.IsNew

/-! ### Courses that do not change -/

theorem Follows.of_eq (hs : p'.Sound sv told) (h : ∀ n, p'.course? n = p.course? n) :
    Follows sv told p p' where
  sound := hs
  step n c hc := ⟨c, (h n).trans hc, Or.inl rfl⟩
  new n c hnone hc := by
    rw [h n, hnone] at hc
    exact absurd hc (by simp)

/-- The operations are the same but for their cursors. -/
structure SameOperations (p p' : Pipeline) : Prop where
  length : p'.operations.length = p.operations.length
  course : ∀ (n : Nat) (share : Share), p'.operations[n]?.map (Course.of share) =
    p.operations[n]?.map (Course.of share)

theorem SameOperations.of_eq (h : p'.operations = p.operations) : SameOperations p p' :=
  ⟨by rw [h], by simp [h]⟩

theorem sameOperations_moveCursor (n : Nat) (place : CursorPlace) (p : Pipeline) :
    SameOperations p (p.modifyOperation n (·.moveCursor place)) := by
  refine ⟨by simp [modifyOperation], fun k share => ?_⟩
  simp only [modifyOperation, List.getElem?_modify]
  split
  · simp [Function.comp_def]
  · simp

theorem SameOperations.course?_eq (h : SameOperations p p') {n : Nat}
    (hshare : p'.share n = p.share n) : p'.course? n = p.course? n := by
  unfold course?
  rw [hshare]
  exact h.course n _

theorem course?_eq_some {n : Nat} {c : Course} :
    p.course? n = some c ↔ ∃ o, p.operations[n]? = some o ∧ Course.of (p.share n) o = c :=
  Option.map_eq_some_iff

theorem course?_of_eq {n : Nat} {share : Share} {o : Operation} (ho : p.operations[n]? = some o)
    (hshare : p.share n = share) : p.course? n = some (.of share o) :=
  course?_eq_some.2 ⟨o, ho, by rw [hshare]⟩

/-- A share that is added to that of an operation. -/
theorem of_add (agenda : Multiset (List Instr)) (found : Multiset SearchResult)
    (given : Multiset (Source × Document)) (share : Share) (o : Operation) :
    Course.of ((agenda, found, given) + share) o =
      { Course.of share o with
        agenda := agenda + share.1, found := found + share.2.1, given := given + share.2.2 } := rfl

/-! ### Calls -/

/-- An operation that is not there has nothing under way. -/
theorem Sound.share_eq_zero (h : p.Sound sv told) {n : Nat} (hn : p.operations.length ≤ n) :
    p.share n = 0 := by
  refine part_share_eq_zero (AddMonoidHom.id Share) (fun x hx => ?_) fun s t ht => ?_
  · obtain ⟨owner, rest⟩ := x
    obtain ⟨k, hk, hlt⟩ := (h.scripts _ hx).about
    have hne : ¬k = some n := by
      intro hkn
      have hlow := hlt n hkn
      omega
    exact (Script.share_of_about hk n).trans (if_neg hne)
  · have hlow := (h.tasks s t ht).operation
    exact PoolTask.share_of_ne (by omega)

theorem follows_add (h : p.Sound sv told) {o : Operation} (hbegun : o.begun = false)
    {kind : JobKind} {l : Language} (hjob : o.job = .create kind l) :
    Follows sv told p { p with operations := p.operations ++ [o] } := by
  have hlen : p.operations.length ≤ (p.operations ++ [o]).length := by simp
  refine ⟨
    ⟨fun x hx => (h.scripts x hx).mono hlen, fun s t ht => (h.tasks s t ht).mono hlen, h.parsers⟩,
    ?_, ?_⟩
  · intro n c hc
    obtain ⟨o', ho', rfl⟩ := course?_eq_some.1 hc
    obtain ⟨hn, -⟩ := List.getElem?_eq_some_iff.1 ho'
    refine ⟨_, course?_of_eq (o := o') ?_ rfl, Or.inl rfl⟩
    exact (List.getElem?_append_left hn).trans ho'
  · intro n c hnone hc
    have hn : p.operations.length ≤ n := by simpa [course?] using hnone
    obtain ⟨o', ho', rfl⟩ := course?_eq_some.1 hc
    have hshare : share n { p with operations := p.operations ++ [o] } = 0 := h.share_eq_zero hn
    -- the operation that was added is the only new one
    obtain rfl : o = o' := by
      have hlast : n = p.operations.length := by
        have := (List.getElem?_eq_some_iff.1 ho').1
        simp at this
        omega
      simpa [hlast] using ho'
    rw [hshare]
    exact ⟨⟨kind, l, hjob⟩, hbegun, rfl, rfl, rfl⟩

theorem share_work (n : Nat) (owner : Owner) (rest : List Instr) (p : Pipeline) :
    (p.work owner rest).share n = (Script.mk owner rest).share n + p.share n := by
  simp only [share, work, List.map_append, List.sum_append, List.map_singleton,
    List.sum_singleton]
  rw [add_comm _ (Script.share n _), add_assoc]

theorem Sound.work (h : p.Sound sv told) {owner : Owner} {rest : List Instr}
    (hrest : Instr.Sound p.operations.length rest) : (p.work owner rest).Sound sv told where
  scripts x hx := by
    rcases List.mem_append.1 hx with hold | hnew
    · exact h.scripts x hold
    · rw [List.mem_singleton.1 hnew]
      exact hrest
  tasks := h.tasks
  parsers := h.parsers

theorem follows_shutDown (h : p.Sound sv told) (drain : Bool) :
    Follows sv told p (p.shutDown drain) := by
  have habout : ∀ i ∈ Instr.shutDown drain, i.operation? = none := by
    simp [Instr.shutDown, operation?]
  have hsubmits : ∀ s t, submit s t ∉ Instr.shutDown drain := fun s t ht => by
    simpa [operation?] using habout _ ht
  refine .of_eq (h.work ⟨⟨none, habout, by simp⟩, fun s t ht => absurd ht (hsubmits s t)⟩)
    fun n => ?_
  have hsame : SameOperations p (p.shutDown drain) := .of_eq rfl
  refine hsame.course?_eq ?_
  rw [shutDown, share_work, Script.share_of_about habout]
  simp

theorem getElem?_eq_ite {m : Nat} {o : Operation} (ho : p.operations[m]? = some o) (n : Nat) :
    p.operations[n]? = if m = n then some o else p.operations[n]? := by
  split
  · next hn => exact hn ▸ ho
  · rfl

theorem getElem?_modifyOperation {m : Nat} {o : Operation} (ho : p.operations[m]? = some o)
    (f : Operation → Operation) (n : Nat) : (p.modifyOperation m f).operations[n]? =
      if m = n then some (f o) else p.operations[n]? := by
  simp only [modifyOperation, List.getElem?_modify]
  split
  · next hn => simp [← hn, ho]
  · simp

theorem Sound.modifyOperation (h : p.Sound sv told) (m : Nat) (f : Operation → Operation) :
    (p.modifyOperation m f).Sound sv told := by
  have hlen : (p.modifyOperation m f).operations.length = p.operations.length := by
    simp [Pipeline.modifyOperation]
  exact ⟨fun x hx => hlen ▸ h.scripts x hx, fun s t ht => hlen ▸ h.tasks s t ht, h.parsers⟩

/-- A change of one operation, and of the share of that one, is a step of its course. -/
theorem Follows.of_one (hs : p'.Sound sv told) {m : Nat} {o : Operation} (o' : Operation)
    (ho : p.operations[m]? = some o)
    (hops : ∀ n, p'.operations[n]? = if m = n then some o' else p.operations[n]?)
    (hshare : ∀ n, n ≠ m → p'.share n = p.share n)
    (hstep : Course.Step sv m (.of (p.share m) o) (.of (p'.share m) o')) :
    Follows sv told p p' := by
  refine ⟨hs, ?_, ?_⟩
  · intro n c hc
    obtain ⟨o₁, ho₁, rfl⟩ := course?_eq_some.1 hc
    by_cases hn : m = n
    · subst hn
      obtain rfl : o = o₁ := by simpa [ho] using ho₁
      exact ⟨_, course?_of_eq (by rw [hops, if_pos rfl]) rfl, Or.inr hstep⟩
    · exact ⟨_, course?_of_eq (by rw [hops, if_neg hn, ho₁]) (hshare n (Ne.symm hn)), Or.inl rfl⟩
  · intro n c hnone hc
    by_cases hn : m = n
    · subst hn
      simp [course?, ho] at hnone
    · simp only [course?, hops, if_neg hn] at hc
      simp only [course?, Option.map_eq_none_iff] at hnone
      simp [hnone] at hc

theorem follows_begin (h : p.Sound sv told) {n : Nat} {o : Operation}
    (ho : p.operations[n]? = some o) (hnot : o.begun = false) :
    Follows sv told p
      ((p.modifyOperation n ({ · with begun := true })).work (.beginning n) (o.script n)) := by
  have hn : n < p.operations.length := (List.getElem?_eq_some_iff.1 ho).1
  have hconcerns := concerns_script n o
  have hshare : ∀ k, ((p.modifyOperation n ({ · with begun := true })).work (.beginning n)
      (o.script n)).share k = (if some n = some k then (entry (o.script n), 0, 0) else 0) +
        p.share k := by
    intro k
    rw [share_work, Script.share_of_about fun i hi => (hconcerns i hi).operation]
    rfl
  refine .of_one ?_ { o with begun := true } ho ?_ ?_ ?_
  · have hsound := h.modifyOperation n ({ · with begun := true })
    refine hsound.work (sound_of_concerns ?_ hconcerns)
    simpa [modifyOperation] using hn
  · exact getElem?_modifyOperation ho _
  · intro k hk
    rw [hshare, if_neg (by simpa using hk.symm), zero_add]
  · rw [hshare, if_pos rfl, of_add, zero_add, zero_add]
    have hstep : Course.Step sv n (.of (p.share n) o) _ := .begin hnot
    rw [Operation.script_eq] at hstep
    exact hstep

theorem tell_eq {n : Nat} {o : Operation} (ho : p.operations[n]? = some o) (op : Job.Op) :
    p.tell n op = ((o.job.apply op).1,
      p.modifyOperation n ({ · with job := (o.job.apply op).2 })) := by
  simp [tell, job?, ho]

theorem follows_cancel (h : p.Sound sv told) (n : Nat) : Follows sv told p (p.cancel n).2 := by
  rcases ho : p.operations[n]? with _ | o
  · have hsame : (p.cancel n).2 = p := by simp [cancel, tell, job?, ho]
    rw [hsame]
    exact .of_eq h fun _ => rfl
  · rw [cancel, tell_eq ho]
    exact .of_one (h.modifyOperation ..) { o with job := (o.job.apply .cancel).2 } ho
      (getElem?_modifyOperation ho _) (fun _ _ => rfl) (Course.Step.cancel (.of (p.share n) o))

/-! ### Scripts -/

/-- What becomes of the scripts when the one at a place goes on. -/
def putBack (k : Nat) (x : Script) (rest : List Instr) (xs : List Script) : List Script :=
  if rest.isEmpty then xs.eraseIdx k else xs.set k { x with rest }

section PutBack

variable {k : Nat} {x : Script} {xs : List Script}

theorem exists_share_putBack (hx : xs[k]? = some x) (n : Nat) : ∃ others,
    (xs.map (Script.share n)).sum = x.share n + others ∧
    ∀ rest, ((putBack k x rest xs).map (Script.share n)).sum =
      (Script.mk x.owner rest).share n + others := by
  refine ⟨_, sum_map_eq_add_eraseIdx _ hx, fun rest => ?_⟩
  unfold putBack
  cases rest with
  | nil => exact (zero_add _).symm
  | cons i rest => exact sum_map_set _ hx _

theorem mem_putBack {rest : List Instr} {y : Script} (h : y ∈ putBack k x rest xs) :
    y ∈ xs ∨ y = { x with rest } := by
  unfold putBack at h
  split at h
  · exact Or.inl (List.mem_of_mem_eraseIdx h)
  · exact List.mem_or_eq_of_mem_set h

theorem Sound.putBack (h : p.Sound sv told) {rest : List Instr}
    (hrest : Instr.Sound p.operations.length rest) :
    ({ p with scripts := Pipeline.putBack k x rest p.scripts } : Pipeline).Sound sv told where
  scripts y hy := by
    rcases mem_putBack hy with hold | rfl
    · exact h.scripts y hold
    · exact hrest
  tasks := h.tasks
  parsers := h.parsers

end PutBack

theorem advance_eq_some {k : Nat} (h : p.advance k = some p') : ∃ x rest p₁,
    p.scripts[k]? = some x ∧ p.carryOut x.rest = some (rest, p₁) ∧
    p' = { p₁ with scripts := putBack k x rest p₁.scripts } := by
  simp only [advance, Option.bind_eq_bind, Option.bind_eq_some_iff] at h
  obtain ⟨x, hx, ⟨rest, p₁⟩, hcarry, hp'⟩ := h
  exact ⟨x, rest, p₁, hx, hcarry, (Option.some.inj hp').symm⟩

/-- A share that is all on the agenda. -/
theorem of_agenda (agenda : Multiset (List Instr)) (share : Share) (o : Operation) :
    Course.of ((agenda, 0, 0) + share) o =
      { Course.of share o with agenda := agenda + share.1 } := by
  rw [of_add, zero_add, zero_add]
  rfl

/-- The part of a share that is owed to one script about the operation `about`. -/
def scriptShare (about : Option Nat) (rest : List Instr) (n : Nat) : Share :=
  if about = some n then (entry rest, 0, 0) else 0

/-- A script that goes on changes its own part of a share, and a pool may add to it. -/
theorem exists_share_advance {k : Nat} {x : Script} (hx : p.scripts[k]? = some x)
    {about : Option Nat} (habout : ∀ i ∈ x.rest, i.operation? = about) (n : Nat) : ∃ others,
    p.share n = scriptShare about x.rest n + others ∧
    ∀ (p₁ : Pipeline) (rest : List Instr) (more : Share), p₁.scripts = p.scripts →
      (∀ i ∈ rest, i.operation? = about) → p₁.pools.share n = more + p.pools.share n →
      share n { p₁ with scripts := putBack k x rest p₁.scripts } =
        more + (scriptShare about rest n + others) := by
  obtain ⟨others, hold, hnew⟩ := exists_share_putBack hx n
  refine ⟨others + p.pools.share n, ?_, ?_⟩
  · rw [share, hold, scriptShare, ← Script.share_of_about habout, add_assoc]
  · intro p₁ rest more hscripts hrest hpools
    rw [share, hscripts, hnew, hpools, scriptShare, ← Script.share_of_about hrest, add_left_comm,
      add_assoc]

/-- The script at a place is as it should be, and the operation that it is about is there. -/
theorem Sound.of_script (h : p.Sound sv told) {k : Nat} {x : Script}
    (hx : p.scripts[k]? = some x) {i : Instr} {rest : List Instr} (hi : x.rest = i :: rest)
    {m : Nat} (hm : i.operation? = some m) : Instr.Sound p.operations.length (i :: rest) ∧
      (∃ o, p.operations[m]? = some o) ∧ ∀ j ∈ i :: rest, j.operation? = some m := by
  have hscript : Instr.Sound p.operations.length (i :: rest) :=
    hi ▸ h.scripts x (List.mem_of_getElem? hx)
  obtain ⟨hlt, hall⟩ := hscript.of_head hm
  exact ⟨hscript, ⟨_, List.getElem?_eq_getElem hlt⟩, hall⟩

/-- An instruction that is about no operation. -/
theorem follows_advance_none {k : Nat} {x : Script} (hx : p.scripts[k]? = some x)
    (habout : ∀ i ∈ x.rest, i.operation? = none) {p₁ : Pipeline} {rest : List Instr}
    (hs : p₁.Sound sv told) (hops : p₁.operations = p.operations)
    (hscripts : p₁.scripts = p.scripts) (hrest : ∀ i ∈ rest, i.operation? = none)
    (hpools : ∀ n, p₁.pools.share n = p.pools.share n) :
    Follows sv told p { p₁ with scripts := putBack k x rest p₁.scripts } := by
  have hsound : Instr.Sound p₁.operations.length rest :=
    ⟨⟨none, hrest, by simp⟩, fun s t ht => by simpa [operation?] using hrest _ ht⟩
  refine .of_eq (hs.putBack hsound) fun n => ?_
  have hsame : SameOperations p { p₁ with scripts := putBack k x rest p₁.scripts } := .of_eq hops
  refine hsame.course?_eq ?_
  obtain ⟨others, hold, hnew⟩ := exists_share_advance hx habout n
  rw [hold, hnew p₁ rest 0 hscripts hrest ((hpools n).trans (zero_add _).symm), zero_add]
  rfl

/-- An instruction that is about an operation. It changes the operation from `o` to `o'`, and what
the pools hold for it by `more`. -/
theorem follows_advance (h : p.Sound sv told) {k : Nat} {x : Script} (hx : p.scripts[k]? = some x)
    {i : Instr} {rest : List Instr} (hi : x.rest = i :: rest) {m : Nat}
    (hm : i.operation? = some m) {o : Operation} (ho : p.operations[m]? = some o)
    {p₁ : Pipeline} (hs : p₁.Sound sv told) (hscripts : p₁.scripts = p.scripts) (o' : Operation)
    (hops : ∀ n, p₁.operations[n]? = if m = n then some o' else p.operations[n]?)
    {rest' : List Instr} (hrest : Instr.Sound p₁.operations.length rest')
    (habout : ∀ j ∈ rest', j.operation? = some m) (more : Nat → Share)
    (hmore : ∀ n, n ≠ m → more n = 0) (hpools : ∀ n, p₁.pools.share n = more n + p.pools.share n)
    (hstep : ∀ others, Course.Step sv m (.of (({i :: rest}, 0, 0) + others) o)
      (.of (more m + ((entry rest', 0, 0) + others)) o')) :
    Follows sv told p { p₁ with scripts := putBack k x rest' p₁.scripts } := by
  have hall : ∀ j ∈ x.rest, j.operation? = some m := hi ▸ (h.of_script hx hi hm).2.2
  have hshare : ∀ n, ∃ others, p.share n = scriptShare (some m) (i :: rest) n + others ∧
      share n { p₁ with scripts := putBack k x rest' p₁.scripts } =
        more n + (scriptShare (some m) rest' n + others) := by
    intro n
    obtain ⟨others, hold, hnew⟩ := exists_share_advance hx hall n
    exact ⟨others, hi ▸ hold, hnew p₁ rest' (more n) hscripts habout (hpools n)⟩
  refine .of_one (hs.putBack hrest) o' ho hops (fun n hn => ?_) ?_
  · obtain ⟨others, hold, hnew⟩ := hshare n
    have hne : ¬some m = some n := by simpa using hn.symm
    rw [scriptShare, if_neg hne] at hold hnew
    rw [hold, hnew, hmore n hn, zero_add]
  · obtain ⟨others, hold, hnew⟩ := hshare m
    rw [scriptShare, if_pos rfl, entry] at hold
    rw [scriptShare, if_pos rfl] at hnew
    rw [hold, hnew]
    exact hstep others

/-- The job of an operation is told something. -/
theorem follows_advance_tell (h : p.Sound sv told) {k : Nat} {x : Script}
    (hx : p.scripts[k]? = some x) {i : Instr} {rest rest' : List Instr} (hi : x.rest = i :: rest)
    {m : Nat} {op : Job.Op} (hm : i.operation? = some m) (hop : i.op? = some op)
    (hrest : rest' = rest ∨ rest' = [] ∧ (p.tell m op).1 = false) :
    Follows sv told p
      { (p.tell m op).2 with scripts := putBack k x rest' (p.tell m op).2.scripts } := by
  obtain ⟨hscript, ⟨o, ho⟩, hall⟩ := h.of_script hx hi hm
  have hsub : rest' ⊆ i :: rest := by
    rcases hrest with rfl | ⟨rfl, -⟩
    · exact List.subset_cons_self ..
    · exact List.nil_subset _
  rw [tell_eq ho] at hrest ⊢
  refine follows_advance h hx hi hm ho (h.modifyOperation m _) rfl
    { o with job := (o.job.apply op).2 } (getElem?_modifyOperation ho _) ?_
    (fun j hj => hall j (hsub hj)) (fun _ => 0) (fun _ _ => rfl) (fun n => (zero_add _).symm)
    fun others => ?_
  · have hlen : (p.modifyOperation m ({ · with job := (o.job.apply op).2 })).operations.length =
        p.operations.length := by simp [modifyOperation]
    exact hlen ▸ hscript.subset hsub
  · rw [zero_add]
    exact .tell (Multiset.singleton_add ..) hop hrest

theorem Sound.setPool (h : p.Sound sv told) {s : Stage} {pool : Pool s.Task s.Yield}
    (hpool : ∀ t ∈ pool.tasks, t.Sound sv told s p.operations.length) :
    ({ p with pools := p.pools.set s pool } : Pipeline).Sound sv told where
  scripts := h.scripts
  tasks s' t ht := by
    by_cases hs : s' = s
    · subst hs
      exact hpool t (by simpa using ht)
    · exact h.tasks s' t (by simpa [Pools.get_set_of_ne _ hs] using ht)
  parsers := h.parsers

/-- A task is handed to a pool that takes it. -/
theorem follows_advance_accept (h : p.Sound sv told) {k : Nat} {x : Script}
    (hx : p.scripts[k]? = some x) {s : Stage} {t : s.Task} {rest : List Instr}
    (hi : x.rest = submit s t :: rest) {pool : Pool s.Task s.Yield} {number : Nat}
    (hpool : pool.tasks = (p.pools.get s).tasks ++ [⟨number, t, .queued, none⟩]) :
    Follows sv told p
      { p with pools := p.pools.set s pool, scripts := putBack k x rest p.scripts } := by
  obtain ⟨hscript, ⟨o, ho⟩, hall⟩ := h.of_script hx hi rfl
  have hsub : rest ⊆ submit s t :: rest := List.subset_cons_self ..
  have hsound : ({ p with pools := p.pools.set s pool } : Pipeline).Sound sv told := by
    refine h.setPool fun t' ht' => ?_
    rw [hpool] at ht'
    rcases List.mem_append.1 ht' with hold | hnew
    · exact h.tasks s t' hold
    · rw [List.mem_singleton.1 hnew]
      exact PoolTask.sound_queued (hscript.of_head rfl).1
        (Stage.isNumbered_of_fresh (hscript.submits s t (List.mem_cons_self ..)))
  refine follows_advance h hx hi rfl ho hsound rfl o (getElem?_eq_ite ho) (hscript.subset hsub)
    (fun j hj => hall j (hsub hj)) (fun n => (PoolTask.mk number t .queued none).share n s)
    (fun n hn => PoolTask.share_of_ne hn.symm) (Pools.share_set_append hpool) fun others => ?_
  have hshare : (PoolTask.mk number t .queued none).share (s.operationOf t) s =
      ({[submit s (s.fresh t)]}, 0, 0) := PoolTask.share_of_none rfl rfl
  rw [hshare, of_agenda, of_agenda, of_agenda]
  exact .accept (Multiset.singleton_add ..)

/-- A task is handed to a pool that refuses it. -/
theorem follows_advance_refuse (h : p.Sound sv told) {k : Nat} {x : Script}
    (hx : p.scripts[k]? = some x) {s : Stage} {t : s.Task} {rest : List Instr}
    (hi : x.rest = submit s t :: rest) {pool : Pool s.Task s.Yield}
    (hpool : pool.tasks = (p.pools.get s).tasks) (e : TaskError) :
    Follows sv told p { p with
      pools := p.pools.set s pool, scripts := putBack k x (refused s t e :: rest) p.scripts } := by
  obtain ⟨hscript, ⟨o, ho⟩, -⟩ := h.of_script hx hi rfl
  have hsound : ({ p with pools := p.pools.set s pool } : Pipeline).Sound sv told :=
    h.setPool fun t' ht' => h.tasks s t' (hpool ▸ ht')
  have hrest : Instr.Sound p.operations.length (refused s t e :: rest) :=
    hscript.replace (operation?_refused s t e) fun s' t' hsubmit => by
      cases s <;> simp [refused] at hsubmit
  refine follows_advance h hx hi rfl ho hsound rfl o (getElem?_eq_ite ho) hrest
    (hrest.of_head (operation?_refused s t e)).2 (fun _ => 0) (fun _ _ => rfl) (fun n => ?_)
    fun others => ?_
  · rw [zero_add]
    exact Pools.share_set_of_tasks_eq hpool n
  · rw [zero_add]
    exact .refuse (Multiset.singleton_add ..) e

theorem follows_advance_submit (h : p.Sound sv told) {k : Nat} {x : Script}
    (hx : p.scripts[k]? = some x) {s : Stage} {t : s.Task} {tail rest : List Instr}
    (hi : x.rest = submit s t :: tail) {p₁ : Pipeline}
    (hcarry : p.carryOut (submit s t :: tail) = some (rest, p₁)) :
    Follows sv told p { p₁ with scripts := putBack k x rest p₁.scripts } := by
  rcases Pool.submit_cases t (p.pools.get s) with ⟨number, hanswer, htasks⟩ | ⟨e, hanswer, htasks⟩
  · simp only [carryOut, hanswer, Option.some.injEq, Prod.mk.injEq] at hcarry
    obtain ⟨rfl, rfl⟩ := hcarry
    exact follows_advance_accept h hx hi htasks
  · simp only [carryOut, hanswer, Option.some.injEq, Prod.mk.injEq] at hcarry
    obtain ⟨rfl, rfl⟩ := hcarry
    exact follows_advance_refuse h hx hi htasks e

/-- A script goes on. -/
theorem follows_advance_script (h : p.Sound sv told) {k : Nat} (hp : p.advance k = some p') :
    Follows sv told p p' := by
  obtain ⟨x, rest, p₁, hx, hcarry, rfl⟩ := advance_eq_some hp
  have hscript := h.scripts x (List.mem_of_getElem? hx)
  -- what is left of a script that begins with something about no operation is about none
  have hnone : ∀ {i tail}, x.rest = i :: tail → i.operation? = none →
      (∀ j ∈ x.rest, j.operation? = none) ∧ ∀ j ∈ tail, j.operation? = none := by
    intro i tail hi hop
    obtain ⟨about, habout, -⟩ := hscript.about
    obtain rfl : about = none := by
      rw [← hop]
      exact (habout i (hi ▸ List.mem_cons_self ..)).symm
    exact ⟨habout, fun j hj => habout j (hi ▸ List.mem_cons_of_mem _ hj)⟩
  rcases hi : x.rest with _ | ⟨i, tail⟩
  · rw [hi] at hcarry
    -- a script at its end goes on to nothing
    obtain ⟨rfl, rfl⟩ : [] = rest ∧ p = p₁ := by simpa [carryOut] using hcarry
    exact follows_advance_none hx (by simp [hi]) h rfl rfl (by simp) fun _ => rfl
  rw [hi] at hcarry
  cases i with
  | tell m op =>
      obtain ⟨rfl, rfl⟩ : tail = rest ∧ _ = p₁ := by simpa [carryOut] using hcarry
      exact follows_advance_tell h hx hi rfl rfl (Or.inl rfl)
  | require m op =>
      obtain ⟨rfl, rfl⟩ : (if (p.tell m op).1 then tail else []) = rest ∧ _ = p₁ := by
        simpa [carryOut] using hcarry
      refine follows_advance_tell h hx hi rfl rfl ?_
      rcases (p.tell m op).1 with _ | _
      · exact Or.inr ⟨rfl, rfl⟩
      · exact Or.inl rfl
  | submit s t => exact follows_advance_submit h hx hi hcarry
  | close s drain =>
      obtain ⟨hall, htail⟩ := hnone hi rfl
      obtain ⟨hrest, rfl⟩ : _ = rest ∧ _ = p₁ := by simpa [carryOut] using hcarry
      have htasks := Pool.tasks_close drain (p.pools.get s)
      refine follows_advance_none hx hall (h.setPool fun t ht => h.tasks s t (htasks ▸ ht)) rfl rfl
        (fun j hj => ?_) (Pools.share_set_of_tasks_eq htasks)
      -- whoever closes a pool may have to wait for its workers
      rw [← hrest] at hj
      split at hj
      · rcases List.mem_cons.1 hj with rfl | hmem
        · rfl
        · exact htail j hmem
      · exact htail j hj
  | join s =>
      obtain ⟨hall, htail⟩ := hnone hi rfl
      obtain ⟨-, rfl, rfl⟩ : _ ∧ tail = rest ∧ p = p₁ := by simpa [carryOut] using hcarry
      exact follows_advance_none hx hall h rfl rfl htail fun _ => rfl
  | stopWatchdog =>
      obtain ⟨hall, htail⟩ := hnone hi rfl
      obtain ⟨-, rfl, rfl⟩ : _ ∧ tail = rest ∧ _ = p₁ := by simpa [carryOut] using hcarry
      exact follows_advance_none hx hall ⟨h.scripts, h.tasks, h.parsers⟩ rfl rfl htail
        fun _ => rfl

/-! ### Tasks -/

section Task

variable {s : Stage} {i : Nat} {pool : Pool s.Task s.Yield} {flagged untold : Prop}

/-- A change of one task leaves a pool of tasks that are as they should be. -/
theorem Sound.setTask (h : p.Sound sv told) {t' : PoolTask s.Task s.Yield}
    (ht' : t'.Sound sv told s p.operations.length)
    (hpool : pool.tasks = (p.pools.get s).tasks.set i t') :
    ({ p with pools := p.pools.set s pool } : Pipeline).Sound sv told := by
  refine h.setPool fun t ht => ?_
  rw [hpool] at ht
  rcases List.mem_or_eq_of_mem_set ht with hold | rfl
  · exact h.tasks s t hold
  · exact ht'

/-- A task takes a turn without an outcome. -/
theorem follows_turn_none (h : p.Sound sv told)
    (hturn : Pool.Turns flagged untold i (p.pools.get s) none pool) (htold : told → ¬untold) :
    Follows sv told p { p with pools := p.pools.set s pool } := by
  obtain ⟨t, phase, offer, ht, hphase, hanswer, htasks⟩ := hturn
  have hsound := h.tasks s t (List.mem_of_getElem? ht)
  refine .of_eq (h.setTask (hsound.turn hphase htold) htasks) fun n => ?_
  have hsame : SameOperations p { p with pools := p.pools.set s pool } := .of_eq rfl
  refine hsame.course?_eq ?_
  obtain ⟨others, hold, hnew⟩ := Pools.exists_share_set_task ht n
  have hshare : (t.turn phase offer).share n s = t.share n s :=
    PoolTask.share_congr rfl (PoolTask.outcome_turn_of_none hanswer.symm)
  simp only [share, hold, hnew _ pool htasks, hshare]

/-- A task gets its outcome, and somebody follows it up. -/
theorem follows_settle (h : p.Sound sv told) {t t' : PoolTask s.Task s.Yield}
    (ht : (p.pools.get s).tasks[i]? = some t) (ht' : t'.Sound sv told s p.operations.length)
    (htasks : pool.tasks = (p.pools.get s).tasks.set i t') (hsame : t'.task = t.task)
    {o : TaskOutcome s.Yield} (hnone : t.outcome = none) (hsome : t'.outcome = some o)
    (hdiscard : o = .discarded → p.isFlagged (s.operationOf t.task) = true)
    (hyield : ∀ y, o = .completed y → s.Yields sv t.task y) (owner : Owner) :
    Follows sv told p ({ p with pools := p.pools.set s pool }.work owner (after s t.task o)) := by
  have hlt : s.operationOf t.task < p.operations.length := hsame ▸ ht'.operation
  obtain ⟨op, hop⟩ : ∃ op, p.operations[s.operationOf t.task]? = some op :=
    ⟨_, List.getElem?_eq_getElem hlt⟩
  have hconcerns := concerns_after s t.task o
  have hshare : ∀ n, ∃ others, p.share n = t.share n s + others ∧
      share n ({ p with pools := p.pools.set s pool }.work owner (after s t.task o)) =
        scriptShare (some (s.operationOf t.task)) (after s t.task o) n +
          (t'.share n s + others) := by
    intro n
    obtain ⟨others, hold, hnew⟩ := Pools.exists_share_set_task ht n
    refine ⟨(p.scripts.map (Script.share n)).sum + others, ?_, ?_⟩
    · rw [share, hold, add_left_comm]
    · rw [share_work, Script.share_of_about fun j hj => (hconcerns j hj).operation, share,
        hnew t' pool htasks, add_left_comm _ (t'.share n s)]
      rfl
  refine .of_one ((h.setTask ht' htasks).work (sound_of_concerns hlt hconcerns)) op hop
    (getElem?_eq_ite hop) (fun n hn => ?_) ?_
  · obtain ⟨others, hold, hnew⟩ := hshare n
    have hne : ¬some (s.operationOf t.task) = some n := by simpa using hn.symm
    rw [hold, hnew, PoolTask.share_of_ne hn.symm, PoolTask.share_of_ne (hsame ▸ hn.symm),
      scriptShare, if_neg hne, zero_add]
  · obtain ⟨others, hold, hnew⟩ := hshare (s.operationOf t.task)
    have hflag : o = .discarded → op.job.flag = true := fun ho => by
      simpa [isFlagged, job?, hop] using hdiscard ho
    -- the script that follows and the outcome are the two halves of one share
    have hsum : ∀ agenda found given, ((agenda, 0, 0) : Share) + ((0, found, given) + others) =
        (agenda, found, given) + others := by
      intro agenda found given
      rw [← add_assoc]
      simp
    rw [hold, hnew, PoolTask.share_of_none rfl hnone,
      PoolTask.share_of_some (congrArg s.operationOf hsame) hsome, hsame, scriptShare, if_pos rfl,
      hsum, of_agenda, of_add, ← s.given_fresh, ← after_fresh]
    exact .settle (Multiset.singleton_add ..) o hflag fun y hy => Stage.yields_fresh (hyield y hy)

/-- A step of a pool that may give a task its outcome. -/
theorem follows_withPool (h : p.Sound sv told) {owner : Owner}
    {r : Option (Option (TaskOutcome s.Yield) × Pool s.Task s.Yield)}
    (hturn : ∀ a pool, r = some (a, pool) → Pool.Turns flagged untold i (p.pools.get s) a pool)
    (htold : told → ¬untold) (hflag : flagged → ∀ t, (p.pools.get s).tasks[i]? = some t →
      p.isFlagged (s.operationOf t.task) = true)
    (hp : p.withPool s i owner r = some p') : Follows sv told p p' := by
  obtain ⟨⟨a, pool⟩, hr, rfl⟩ := Option.map_eq_some_iff.1 hp
  have hturns := hturn a pool hr
  rcases a with _ | o
  · exact follows_turn_none h hturns htold
  · obtain ⟨t, phase, offer, ht, hphase, hanswer, htasks⟩ := hturns
    obtain ⟨rfl, hnone, hsome⟩ := PoolTask.outcome_turn_of_some phase hanswer.symm
    have htask := h.tasks s t (List.mem_of_getElem? ht)
    obtain ⟨hdiscard, hyield⟩ := htask.of_offer hphase
    have hget : pool.tasks[i]? = some (t.turn phase (some o)) := by
      obtain ⟨hi, -⟩ := List.getElem?_eq_some_iff.1 ht
      simp [htasks, hi]
    simp only [hget]
    exact follows_settle h ht (htask.turn hphase htold) htasks rfl hnone hsome
      (fun ho => hflag (hdiscard ho) t ht) hyield owner

end Task

end GradedReading.Pipeline
