import GradedReading.Proofs.Pipeline.Origin

/-!
# GradedReading.Proofs.Pipeline.Staff

Who works through what.

**Key idea:** a worker hands tasks to later stages only, the watchdog hands on none, and nobody but
whoever shuts the pools down closes one. A worker who is at it has a task that is settling, so that
the pool of his stage is not quiet. These facts hold in every pipeline whose pools are drained and
not abandoned. Acts are told apart once: a script goes on, or something else happens meanwhile,
which keeps the pools and may be the beginning of a script.
-/

namespace GradedReading

open Instr

/-- The place of a stage in the order in which work goes through them. -/
def Stage.rank : Stage → Nat
  | .search => 0
  | .crawl => 1
  | .parse => 2

namespace Instr

/-- The stage that the instruction hands a task to. -/
def submits? : Instr → Option Stage
  | .submit s _ => some s
  | _ => none

/-- How the instruction closes a pool. -/
def closes? : Instr → Option Bool
  | .close _ drain => some drain
  | _ => none

end Instr

/-- What the owner of a script may have to do. -/
def Owner.Allows (w : Owner) (i : Instr) : Prop :=
  match w with
  | .beginning n => i.operation? = some n
  | .worker s _ => i.operation?.isSome = true ∧ ∀ r, i.submits? = some r → s.rank < r.rank
  | .watchdog => i.operation?.isSome = true ∧ i.submits? = none
  | .shutdown drain => i.operation? = none ∧ ∀ d, i.closes? = some d → d = drain

namespace Owner

variable {w : Owner} {i j : Instr}

/-- Whoever may do one thing may do another for the same operation, if it hands no task to a pool
and closes none. -/
theorem Allows.of_operation (h : w.Allows i) (hop : j.operation? = i.operation?)
    (hsubmits : j.submits? = none) (hcloses : j.closes? = none) : w.Allows j := by
  cases w with
  | beginning n => exact hop.trans h
  | worker s k => exact ⟨hop ▸ h.1, by simp [hsubmits]⟩
  | watchdog => exact ⟨hop ▸ h.1, hsubmits⟩
  | shutdown drain => exact ⟨hop.trans h.1, by simp [hcloses]⟩

theorem Allows.refused {s : Stage} {u : s.Task} (h : w.Allows (submit s u)) (e : TaskError) :
    w.Allows (Instr.refused s u e) := by
  refine h.of_operation (operation?_refused s u e) ?_ ?_ <;> cases s <;> rfl

theorem Allows.join {s : Stage} {drain : Bool} (h : w.Allows (close s drain)) :
    w.Allows (Instr.join s) := h.of_operation rfl rfl rfl

/-- Only a shutdown is about no operation. -/
theorem Allows.eq_shutdown (h : w.Allows i) (hop : i.operation? = none) :
    ∃ drain, w = .shutdown drain := by
  cases w with
  | beginning n => simp [Allows, hop] at h
  | worker s k | watchdog => simp [Allows, hop] at h
  | shutdown drain => exact ⟨drain, rfl⟩

theorem allows_script (n : Nat) (o : Operation) (hi : i ∈ o.script n) :
    (beginning n).Allows i := (concerns_script n o i hi).operation

theorem isSome_operation?_after {s : Stage} {u : s.Task} {o : TaskOutcome s.Yield}
    (hi : i ∈ after s u o) : i.operation?.isSome = true := by
  rw [(concerns_after s u o i hi).operation]
  rfl

/-- What follows a task goes on to the next stage. -/
theorem allows_after {s : Stage} {u : s.Task} {o : TaskOutcome s.Yield} (hi : i ∈ after s u o)
    (k : Nat) : (worker s k).Allows i := by
  refine ⟨isSome_operation?_after hi, ?_⟩
  have hall : ∀ j ∈ after s u o, ∀ r, j.submits? = some r → s.rank < r.rank := by
    cases s <;> cases o <;> simp [after, afterSearch, afterCrawl, afterParse, fanOut, submits?,
      Stage.rank, or_imp, forall_and]
  exact hall i hi

/-- What follows a failure hands no task to a pool. -/
theorem allows_failed {s : Stage} {u : s.Task} {e : TaskError} (hi : i ∈ after s u (.failed e)) :
    watchdog.Allows i := by
  refine ⟨isSome_operation?_after hi, ?_⟩
  have hall : ∀ j ∈ after s u (.failed e), j.submits? = none := by
    cases s <;> simp [after, afterSearch, afterCrawl, afterParse, submits?]
  exact hall i hi

theorem allows_shutDown {drain : Bool} (hi : i ∈ Instr.shutDown drain) :
    (shutdown drain).Allows i := by
  have hall : ∀ j ∈ Instr.shutDown drain, (shutdown drain).Allows j := by
    simp [Instr.shutDown, Allows, operation?, closes?]
  exact hall i hi

end Owner

/-- What is true of a pool that takes the place of another, and of the others, is true of all. -/
theorem Pools.forall_set {ps : Pools} {s : Stage} {pool : Pool s.Task s.Yield}
    {R : (r : Stage) → Pool r.Task r.Yield → Prop} (hpool : R s pool)
    (hothers : ∀ r, R r (ps.get r)) (r : Stage) : R r ((ps.set s pool).get r) := by
  by_cases hr : r = s
  · subst hr
    rwa [get_set_same]
  · rw [get_set_of_ne _ hr]
    exact hothers r

namespace Pipeline

variable {sv : Services} {p p' p₁ : Pipeline} {a : Act} {s : Stage} {i k : Nat}

theorem isAtWork_iff {w : Owner} : p.isAtWork w = true ↔ ∃ x ∈ p.scripts, x.owner = w := by
  simp [isAtWork]

theorem isAtWork_eq_false_iff {w : Owner} :
    p.isAtWork w = false ↔ ∀ x ∈ p.scripts, x.owner ≠ w := by
  simp [isAtWork]

/-! ### Pools -/

/-- What an act keeps of every pool, if none is abandoned. -/
def Minds (p p' : Pipeline) : Prop :=
  ∀ s, (p.pools.get s).Minds (fun i => p.isAtWork (.worker s i) = true) (p'.pools.get s)

/-- What an act keeps, if no pool is closed and the watchdog is not stopped. -/
structure Keeps (p p' : Pipeline) : Prop where
  watching : p'.watching = p.watching
  pools : ∀ s, (p.pools.get s).Keeps (fun i => p.isAtWork (.worker s i) = true) (p'.pools.get s)

theorem Keeps.minds (h : Keeps p p') : Minds p p' := fun s => (h.pools s).toMinds

theorem Keeps.of_eq (hwatching : p'.watching = p.watching) (hpools : p'.pools = p.pools) :
    Keeps p p' := ⟨hwatching, fun _ => hpools ▸ Pool.Keeps.rfl⟩

theorem Minds.of_set {pool : Pool s.Task s.Yield} (hpools : p'.pools = p.pools.set s pool)
    (h : (p.pools.get s).Minds (fun i => p.isAtWork (.worker s i) = true) pool) : Minds p p' := by
  rw [Minds, hpools]
  exact Pools.forall_set h fun _ => Pool.Keeps.rfl.toMinds

theorem Keeps.of_set {pool : Pool s.Task s.Yield} (hwatching : p'.watching = p.watching)
    (hpools : p'.pools = p.pools.set s pool)
    (h : (p.pools.get s).Keeps (fun i => p.isAtWork (.worker s i) = true) pool) : Keeps p p' := by
  refine ⟨hwatching, ?_⟩
  rw [hpools]
  exact Pools.forall_set h fun _ => Pool.Keeps.rfl

theorem keeps_body (hp : p.body sv s i = some p') : Keeps p p' := by
  cases bodyStep_body hp with
  | goOn hp' hbefore ht hrun =>
      subst hp'
      refine .of_set hbefore.watching (by rw [setTask, hbefore.pools]) ?_
      exact Pool.keeps_setTask ht (by rw [hrun]; rfl) _
  | ends hp' hbefore ho =>
      obtain ⟨pool, hpool, rfl⟩ := Option.map_eq_some_iff.1 hp'
      rw [hbefore.pools] at hpool
      exact .of_set hbefore.watching (by rw [hbefore.pools]) (Pool.keeps_finish ho hpool)

theorem watching_tell (n : Nat) (op : Job.Op) (p : Pipeline) :
    (p.tell n op).2.watching = p.watching := by
  unfold tell
  split <;> rfl

/-- Nothing but the instructions of a shutdown closes a pool or stops the watchdog. -/
theorem carryOut_cases {script rest : List Instr} (h : p.carryOut script = some (rest, p₁)) :
    Keeps p p₁ ∨
    (∃ s drain tail, script = close s drain :: tail ∧
      p₁ = { p with pools := p.pools.set s ((p.pools.get s).close drain) }) ∨
    ∃ tail, script = stopWatchdog :: tail ∧ p₁ = { p with watching := false } := by
  rcases script with _ | ⟨j, tail⟩
  · obtain ⟨-, rfl⟩ : [] = rest ∧ p = p₁ := by simpa [carryOut] using h
    exact .inl (.of_eq rfl rfl)
  cases j with
  | tell m op | require m op =>
      obtain ⟨-, rfl⟩ : _ = rest ∧ (p.tell m op).2 = p₁ := by simpa [carryOut] using h
      exact .inl (.of_eq (watching_tell m op p) (pools_tell m op p))
  | submit s u =>
      have hpool : p₁ = { p with pools := p.pools.set s ((p.pools.get s).submit u).2 } := by
        simp only [carryOut] at h
        split at h <;> exact (Prod.mk.inj (Option.some.inj h)).2.symm
      subst hpool
      exact .inl (.of_set rfl rfl (Pool.keeps_submit u _))
  | close s drain =>
      obtain ⟨-, rfl⟩ := Prod.mk.inj (Option.some.inj h)
      exact .inr (.inl ⟨s, drain, tail, rfl, rfl⟩)
  | join s =>
      obtain ⟨-, -, rfl⟩ : _ ∧ tail = rest ∧ p = p₁ := by simpa [carryOut] using h
      exact .inl (.of_eq rfl rfl)
  | stopWatchdog =>
      obtain ⟨-, -, rfl⟩ : _ ∧ tail = rest ∧ _ = p₁ := by simpa [carryOut] using h
      exact .inr (.inr ⟨tail, rfl, rfl⟩)

/-! ### What happens while no script goes on -/

/-- A script that was not there before. -/
inductive NewScript (p : Pipeline) (a : Act) (p' : Pipeline) : Script → Prop
  | beginning {n : Nat} {o : Operation} (ho : p.operations[n]? = some o)
      (hnot : o.begun = false) : NewScript p a p' ⟨.beginning n, o.script n⟩
  | worker {s : Stage} {i : Nat} (hphase : (p'.pools.get s).phase? i = some .settling)
      (u : s.Task) (o : TaskOutcome s.Yield) : NewScript p a p' ⟨.worker s i, after s u o⟩
  | watchdog (hwatching : p.watching = true) (s : Stage) (u : s.Task) (e : TaskError) :
      NewScript p a p' ⟨.watchdog, after s u (.failed e)⟩
  | shutdown {drain : Bool} (ha : a = .call (.shutDown drain)) :
      NewScript p a p' ⟨.shutdown drain, Instr.shutDown drain⟩

/-- What happens while no script goes on. -/
structure Meanwhile (p : Pipeline) (a : Act) (p' : Pipeline) : Prop where
  keeps : Keeps p p'
  scripts : ∃ more, p'.scripts = p.scripts ++ more ∧ ∀ x ∈ more, NewScript p a p' x

theorem Meanwhile.of_scripts (hkeeps : Keeps p p') (hscripts : p'.scripts = p.scripts) :
    Meanwhile p a p' := ⟨hkeeps, [], by simp [hscripts], by simp⟩

theorem Meanwhile.of_script (hkeeps : Keeps p p') {x : Script}
    (hscripts : p'.scripts = p.scripts ++ [x]) (hx : NewScript p a p' x) : Meanwhile p a p' :=
  ⟨hkeeps, [x], hscripts, by simpa using hx⟩

/-- A task may get its outcome. -/
theorem meanwhile_withPool {owner : Owner}
    {x : Option (Option (TaskOutcome s.Yield) × Pool s.Task s.Yield)}
    (hkeeps : ∀ answer pool, x = some (answer, pool) →
      (p.pools.get s).Keeps (fun i => p.isAtWork (.worker s i) = true) pool)
    (hnew : ∀ o pool, x = some (some o, pool) → p'.pools.get s = pool → ∀ u,
      NewScript p a p' ⟨owner, after s u o⟩)
    (hp : p.withPool s i owner x = some p') : Meanwhile p a p' := by
  obtain ⟨⟨answer, pool⟩, hx, hp'⟩ := Option.map_eq_some_iff.1 hp
  have hpool := hkeeps answer pool hx
  dsimp only at hp'
  split at hp'
  · next o t ht =>
    subst hp'
    exact .of_script (.of_set rfl rfl hpool) rfl
      (hnew o pool hx (Pools.get_set_same ..) t.task)
  · subst hp'
    exact .of_scripts (.of_set rfl rfl hpool) rfl

/-- A worker who gave a task its outcome tells whom it concerns. -/
theorem meanwhile_worker
    {x : Option (Option (TaskOutcome s.Yield) × Pool s.Task s.Yield)}
    (hends : ∀ answer pool, x = some (answer, pool) →
      (p.pools.get s).Ends (fun i => p.isAtWork (.worker s i) = true) i answer pool)
    (hp : p.withPool s i (.worker s i) x = some p') : Meanwhile p a p' := by
  refine meanwhile_withPool (fun answer pool hx => (hends answer pool hx).keeps) ?_ hp
  intro o pool hx hget u
  refine .worker ?_ u o
  rw [hget]
  exact (hends _ pool hx).settling rfl

theorem meanwhile_move {m : Move} (hm : ∀ k, m ≠ .advance k) (hp : p.move? sv m = some p') :
    Meanwhile p (.move m) p' := by
  cases m with
  | advance k => exact absurd rfl (hm k)
  | take s =>
      obtain ⟨pool, hpool, rfl⟩ := Option.map_eq_some_iff.1 hp
      exact .of_scripts (.of_set rfl rfl (Pool.keeps_take hpool)) rfl
  | look s i => exact meanwhile_worker (fun _ _ hx => Pool.ends_look hx) hp
  | start s i => exact meanwhile_worker (fun _ _ hx => Pool.ends_start hx) hp
  | body s i => exact .of_scripts (keeps_body hp) (unscripted_body hp).scripts
  | settle s i => exact meanwhile_worker (fun _ _ hx => Pool.ends_settle hx) hp
  | letGo s i =>
      simp only [move?] at hp
      split at hp
      · simp at hp
      · next hfree =>
        obtain ⟨pool, hpool, rfl⟩ := Option.map_eq_some_iff.1 hp
        exact .of_scripts (.of_set rfl rfl (Pool.keeps_letGo hfree hpool)) rfl
  | expire s i =>
      simp only [move?] at hp
      split at hp
      · next hwatching =>
        refine meanwhile_withPool (fun _ _ hx => Pool.keeps_expire hx) ?_ hp
        intro o pool hx _ u
        obtain ⟨e, rfl⟩ := Pool.failed_of_expire hx
        exact .watchdog hwatching s u e
      · simp at hp
  | tick moment | openGate name =>
      obtain rfl := Option.some.inj hp
      exact .of_scripts (.of_eq rfl rfl) rfl

theorem watching_call (c : Call) (p : Pipeline) : (p.call sv c).watching = p.watching := by
  cases c with
  | search | searchMore | parse =>
      simp only [call, search, searchMore, parse, add]
      split <;> rfl
  | begin n =>
      simp only [call, begin]
      split
      · split <;> rfl
      · rfl
  | cancel n => exact watching_tell n .cancel p
  | takeCursor n =>
      simp only [call, takeCursor]
      split <;> rfl
  | shutDown | parserFor => rfl

theorem meanwhile_call (c : Call) (p : Pipeline) : Meanwhile p (.call c) (p.call sv c) := by
  have hkeeps : Keeps p (p.call sv c) := .of_eq (watching_call c p) (pools_call c p)
  cases c with
  | search | searchMore | parse => exact .of_scripts hkeeps (scripts_add ..)
  | begin n =>
      simp only [call, begin] at hkeeps ⊢
      split
      · next o ho =>
        split
        · exact .of_scripts (.of_eq rfl rfl) rfl
        · next hnot => exact .of_script (.of_eq rfl rfl) rfl (.beginning ho (by simpa using hnot))
      · exact .of_scripts (.of_eq rfl rfl) rfl
  | cancel n => exact .of_scripts hkeeps (scripts_tell n .cancel p)
  | takeCursor n =>
      refine .of_scripts hkeeps ?_
      simp only [call, takeCursor]
      split <;> rfl
  | shutDown drain => exact .of_script hkeeps rfl (.shutdown rfl)
  | parserFor l => exact .of_scripts hkeeps rfl

/-- **A script goes on, or something else happens meanwhile.** -/
theorem act_cases (hp : p.act? sv a = some p') :
    (∃ k, a = .move (.advance k) ∧ p.advance k = some p') ∨ Meanwhile p a p' := by
  cases a with
  | call c =>
      obtain rfl := Option.some.inj hp
      exact .inr (meanwhile_call c p)
  | move m =>
      by_cases hm : ∃ k, m = .advance k
      · obtain ⟨k, rfl⟩ := hm
        exact .inl ⟨k, rfl, hp⟩
      · exact .inr (meanwhile_move (fun k hk => hm ⟨k, hk⟩) hp)

/-! ### The staff -/

/-- Nobody but whoever shuts the pools down does so, and the pools are drained. -/
structure Manned (p : Pipeline) : Prop where
  allowed : ∀ x ∈ p.scripts, ∀ i ∈ x.rest, x.owner.Allows i
  settling : ∀ x ∈ p.scripts, ∀ s i, x.owner = .worker s i →
    (p.pools.get s).phase? i = some .settling
  drains : ∀ x ∈ p.scripts, x.owner ≠ .shutdown false
  kept : ∀ s, (p.pools.get s).abandoned = false
  unclosed : ∀ s, ∀ t ∈ (p.pools.get s).tasks, t.Unclosed

theorem manned_ofSettings (settings : Settings) : (ofSettings settings).Manned where
  allowed x hx := by simp [ofSettings] at hx
  settling x hx := by simp [ofSettings] at hx
  drains x hx := by simp [ofSettings] at hx
  kept s := by cases s <;> rfl
  unclosed s t ht := by
    cases s <;> simp [ofSettings, Pools.ofSettings, Pools.get, Pool.ofSize] at ht

namespace Manned

theorem allowed_new (h : NewScript p a p' x) : ∀ i ∈ x.rest, x.owner.Allows i := by
  cases h with
  | beginning => exact fun i hi => Owner.allows_script _ _ hi
  | worker => exact fun i hi => Owner.allows_after hi _
  | watchdog => exact fun i hi => Owner.allows_failed hi
  | shutdown => exact fun i hi => Owner.allows_shutDown hi

/-- Whoever was there before goes on, and others may come. -/
theorem goOn (h : p.Manned) (hminds : Minds p p') (ha : a ≠ .call (.shutDown false))
    (hscripts : ∀ y ∈ p'.scripts, NewScript p a p' y ∨
      ∃ x ∈ p.scripts, x.owner = y.owner ∧ ∀ i ∈ y.rest, x.owner.Allows i) : p'.Manned where
  allowed y hy i hi := by
    rcases hscripts y hy with hnew | ⟨x, hx, howner, hallows⟩
    · exact allowed_new hnew i hi
    · exact howner ▸ hallows i hi
  settling y hy s i hw := by
    rcases hscripts y hy with hnew | ⟨x, hx, howner, -⟩
    · cases hnew with
      | worker hphase =>
          cases hw
          exact hphase
      | beginning | watchdog | shutdown => simp at hw
    · have hwx : x.owner = .worker s i := howner.trans hw
      exact (hminds s).settling i (isAtWork_iff.2 ⟨x, hx, hwx⟩) (h.settling x hx s i hwx)
  drains y hy hw := by
    rcases hscripts y hy with hnew | ⟨x, hx, howner, -⟩
    · cases hnew with
      | shutdown hcall =>
          cases hw
          exact ha hcall
      | beginning | watchdog | worker => simp at hw
    · exact h.drains x hx (howner.trans hw)
  kept s := (hminds s).abandoned.trans (h.kept s)
  unclosed s := (hminds s).unclosed (h.kept s) (h.unclosed s)

/-- Carrying out an instruction abandons no pool. -/
theorem minds_carryOut (h : p.Manned) {x : Script} (hx : x ∈ p.scripts) {rest : List Instr}
    (hcarry : p.carryOut x.rest = some (rest, p₁)) : Minds p p₁ := by
  rcases carryOut_cases hcarry with hkeeps | ⟨s, drain, tail, hrest, rfl⟩ | ⟨tail, -, rfl⟩
  · exact hkeeps.minds
  · have hallows := h.allowed x hx _ (hrest ▸ List.mem_cons_self ..)
    obtain ⟨d, hw⟩ := hallows.eq_shutdown rfl
    have hdrain : drain = true := by
      have hd : d ≠ false := fun hd => h.drains x hx (hd ▸ hw)
      rw [hw] at hallows
      rw [hallows.2 drain rfl]
      simpa using hd
    subst hdrain
    exact .of_set rfl (Pool.minds_close _)
  · exact fun _ => Pool.Keeps.rfl.toMinds

theorem advance (h : p.Manned) (hp : p.advance k = some p') : p'.Manned := by
  obtain ⟨x, rest, p₁, hx, hcarry, rfl⟩ := advance_eq_some hp
  have hmem := List.mem_of_getElem? hx
  have hcarried := carried_of_carryOut hcarry
  have hminds := h.minds_carryOut hmem hcarry
  refine h.goOn (a := .move (.advance k)) (fun s => hminds s) (by simp) fun y hy => ?_
  rcases mem_putBack hy with hold | rfl
  · have hold : y ∈ p.scripts := hcarried.scripts ▸ hold
    exact .inr ⟨y, hold, rfl, h.allowed y hold⟩
  · refine .inr ⟨x, hmem, rfl, fun i hi => ?_⟩
    rcases hcarried.rest i hi with hold | ⟨s, u, e, hu, rfl⟩ | ⟨s, drain, hclose, rfl⟩
    · exact h.allowed x hmem i hold
    · exact (h.allowed x hmem _ hu).refused e
    · exact (h.allowed x hmem _ hclose).join

theorem act (h : p.Manned) (ha : a ≠ .call (.shutDown false)) (hp : p.act? sv a = some p') :
    p'.Manned := by
  rcases act_cases hp with ⟨k, -, hp⟩ | hmeanwhile
  · exact h.advance hp
  · obtain ⟨more, hmore, hnew⟩ := hmeanwhile.scripts
    refine h.goOn hmeanwhile.keeps.minds ha fun y hy => ?_
    rw [hmore] at hy
    rcases List.mem_append.1 hy with hold | hy
    · exact .inr ⟨y, hold, rfl, h.allowed y hold⟩
    · exact .inl (hnew y hy)

/-- As long as a worker is at it, the pool of his stage is not quiet. -/
theorem isQuiet_eq_false (h : p.Manned) {x : Script} (hx : x ∈ p.scripts)
    (hw : x.owner = .worker s i) : (p.pools.get s).isQuiet = false := by
  obtain ⟨t, ht, hsettling⟩ := Pool.exists_of_phase? (h.settling x hx s i hw)
  refine Bool.eq_false_iff.2 fun hquiet => ?_
  have hclosed := Pool.isOpen_of_isQuiet hquiet (List.mem_of_getElem? ht)
  simp [hsettling, Phase.isOpen, Phase.isQueued, Phase.isBusy] at hclosed

end Manned

end Pipeline

end GradedReading
