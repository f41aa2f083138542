import GradedReading.Proofs.Pipeline.Rest
import GradedReading.Proofs.Pipeline.Staff

/-!
# GradedReading.Proofs.Pipeline.Drain

A draining shutdown loses no work.

**Key idea:** the pools are closed in the order in which work goes through them, and each one is
closed only when those before it are quiet. Whoever has a task to hand on is a worker of a pool that
is not quiet, or has begun an operation. So the pool of the next stage is still open, and when the
last pool is quiet and the watchdog is done nothing is left to do. `Closing` says how far a shutdown
has come and what is true of the pools by then.
-/

namespace GradedReading

open Instr

/-! ### The order of the stages -/

namespace Stage

variable {s r : Stage} {done todo : List Stage}

theorem mem_all (s : Stage) : s ∈ all := by cases s <;> simp [all]

theorem pairwise_all : all.Pairwise fun s r => s.rank < r.rank := by
  simp [all, rank]

/-- A stage that comes after one of those that are left is left, and it is not the next one. -/
theorem mem_tail_of_rank_lt (hall : done ++ todo = all) (hs : s ∉ done) (hlt : s.rank < r.rank) :
    r ∈ todo.tail := by
  have hsorted := hall ▸ pairwise_all
  obtain ⟨-, htodo, hacross⟩ := List.pairwise_append.1 hsorted
  have hleft : s ∈ todo := (List.mem_append.1 (hall ▸ mem_all s)).resolve_left hs
  rcases List.mem_append.1 (hall ▸ mem_all r) with hr | hr
  · have hbefore := hacross r hr s hleft
    omega
  · cases todo with
    | nil => simp at hr
    | cons t todo =>
        obtain ⟨hnext, -⟩ := List.pairwise_cons.1 htodo
        rcases List.mem_cons.1 hr with rfl | hr
        · rcases List.mem_cons.1 hleft with rfl | hs
          · omega
          · have hafter := hnext s hs
            omega
        · exact hr

/-- The next stage is neither done nor among the others that are left. -/
theorem not_mem_of_split (hall : done ++ s :: todo = all) : s ∉ done ∧ s ∉ todo := by
  have hsorted := hall ▸ pairwise_all
  obtain ⟨-, htodo, hacross⟩ := List.pairwise_append.1 hsorted
  refine ⟨fun hs => ?_, fun hs => ?_⟩
  · have hlt := hacross s hs s (List.mem_cons_self ..)
    omega
  · have hlt := (List.pairwise_cons.1 htodo).1 s hs
    omega

end Stage

/-- Whoever shuts the pools down. -/
def Owner.isShutdown : Owner → Bool
  | .shutdown _ => true
  | _ => false

namespace Pipeline

variable {sv : Services} {p p' p₁ q : Pipeline} {a : Act} {s r : Stage} {k n : Nat}
  {rest : List Instr} {x : Script} {xs : List Script}

/-! ### Scripts -/

/-- The scripts of those who shut the pools down. -/
def closers (p : Pipeline) : List Script := p.scripts.filter (·.owner.isShutdown)

theorem not_isShutdown_of_closers (h : p.closers = []) (hx : x ∈ p.scripts) :
    x.owner.isShutdown = false := by
  have hnone := List.filter_eq_nil_iff.1 h x hx
  simpa using hnone

/-- A script goes on in its place, or leaves it. -/
theorem exists_putBack (hx : xs[k]? = some x) : ∃ before later, xs = before ++ x :: later ∧
    ∀ rest, putBack k x rest xs =
      before ++ (if rest.isEmpty then [] else [{ x with rest }]) ++ later := by
  obtain ⟨hk, rfl⟩ := List.getElem?_eq_some_iff.1 hx
  refine ⟨xs.take k, xs.drop (k + 1), ?_, fun rest => ?_⟩
  · rw [List.getElem_cons_drop hk, List.take_append_drop]
  · unfold putBack
    split
    · simp [List.eraseIdx_eq_take_drop_succ]
    · simp [List.set_eq_take_append_cons_drop, hk]

/-- Somebody else goes on. -/
theorem filter_putBack_of_not (hx : xs[k]? = some x) (hw : x.owner.isShutdown = false) :
    (putBack k x rest xs).filter (·.owner.isShutdown) = xs.filter (·.owner.isShutdown) := by
  obtain ⟨before, later, rfl, hput⟩ := exists_putBack hx
  rw [hput rest]
  split <;> simp [hw]

/-- The only one who shuts the pools down goes on. -/
theorem filter_putBack_of_only (hx : xs[k]? = some x) (hw : x.owner.isShutdown = true)
    {y : Script} (honly : xs.filter (·.owner.isShutdown) = [y]) :
    x = y ∧ ∀ rest, (putBack k x rest xs).filter (·.owner.isShutdown) =
      if rest.isEmpty then [] else [{ x with rest }] := by
  obtain ⟨before, later, rfl, hput⟩ := exists_putBack hx
  simp only [List.filter_append, List.filter_cons, hw, if_true,
    List.append_eq_singleton_iff] at honly
  obtain ⟨hbefore, hx⟩ | ⟨-, hnil⟩ := honly
  · obtain ⟨rfl, hlater⟩ := List.cons.inj hx
    refine ⟨rfl, fun rest => ?_⟩
    rw [hput rest, List.filter_append, List.filter_append, hbefore, hlater]
    split <;> simp [hw]
  · simp at hnil

theorem isAtWork_putBack (hx : p.scripts[k]? = some x) {w : Owner} (h : p.isAtWork w = false)
    (hscripts : p'.scripts = putBack k x rest p.scripts) : p'.isAtWork w = false := by
  rw [isAtWork_eq_false_iff] at h ⊢
  intro y hy
  rw [hscripts] at hy
  rcases mem_putBack hy with hold | rfl
  · exact h y hold
  · exact h x (List.mem_of_getElem? hx)

/-! ### How far a shutdown has come -/

/-- What is left to do if the pools of these stages are to be closed. -/
def closings (todo : List Stage) : List Instr := todo.map (close · true) ++ [stopWatchdog]

/-- The pool takes no more tasks, and nothing is left to be done there. -/
structure Drained (p : Pipeline) (s : Stage) : Prop where
  closed : (p.pools.get s).accepts = false
  quiet : (p.pools.get s).isQuiet = true

theorem Minds.drained (h : Minds p p') (hs : p.Drained s) : p'.Drained s :=
  ⟨(h s).closed hs.closed, (h s).quiet hs.closed hs.quiet⟩

/-- How far the shutdown has come of which these are the scripts. -/
inductive Closing (p : Pipeline) : List Script → Prop
  | closes {done todo : List Stage} (hall : done ++ todo = Stage.all)
      (hdone : ∀ s ∈ done, p.Drained s) (htodo : ∀ s ∈ todo, (p.pools.get s).accepts = true) :
      Closing p [⟨.shutdown true, closings todo⟩]
  | joins {done todo : List Stage} {s : Stage} (hall : done ++ s :: todo = Stage.all)
      (hdone : ∀ s ∈ done, p.Drained s) (hclosed : (p.pools.get s).accepts = false)
      (htodo : ∀ s ∈ todo, (p.pools.get s).accepts = true) :
      Closing p [⟨.shutdown true, join s :: closings todo⟩]
  | closed (hall : ∀ s, p.Drained s) (hwatching : p.watching = false)
      (hidle : p.isAtWork .watchdog = false) : Closing p []

namespace Closing

/-- Whatever does not go on with the shutdown leaves it where it is. -/
theorem keeps (h : p.Closing xs) (hkeeps : Keeps p p')
    (hidle : p.watching = false → p.isAtWork .watchdog = false → p'.isAtWork .watchdog = false) :
    p'.Closing xs := by
  have hdrained : ∀ s, p.Drained s → p'.Drained s := fun s hs => hkeeps.minds.drained hs
  cases h with
  | closes hall hdone htodo =>
      exact .closes hall (fun s hs => hdrained s (hdone s hs))
        fun s hs => (hkeeps.pools s).accepts (htodo s hs)
  | joins hall hdone hclosed htodo =>
      exact .joins hall (fun s hs => hdrained s (hdone s hs)) ((hkeeps.pools _).closed hclosed)
        fun s hs => (hkeeps.pools s).accepts (htodo s hs)
  | closed hall hwatching hnone =>
      exact .closed (fun s => hdrained s (hall s)) (hkeeps.watching.trans hwatching)
        (hidle hwatching hnone)

/-- The shutdown goes on. -/
theorem goOn (h : p.Closing [x]) (hcarry : p.carryOut x.rest = some (rest, p₁))
    (hpools : p'.pools = p₁.pools) (hwatching : p'.watching = p₁.watching)
    (hidle : p.isAtWork .watchdog = false → p'.isAtWork .watchdog = false) :
    p'.Closing (if rest.isEmpty then [] else [{ x with rest }]) := by
  have hdrained : ∀ r, p₁.pools.get r = p.pools.get r → p.Drained r → p'.Drained r := by
    intro r hr hdone
    refine ⟨?_, ?_⟩
    · rw [hpools, hr, hdone.closed]
    · rw [hpools, hr, hdone.quiet]
  cases h with
  | @closes done todo hall hdone htodo =>
      cases todo with
      | nil =>
          -- all pools are drained, and the watchdog is stopped
          obtain ⟨hnone, rfl, rfl⟩ :
              p.isAtWork .watchdog = false ∧ [] = rest ∧ { p with watching := false } = p₁ := by
            simpa [closings, carryOut] using hcarry
          rw [List.append_nil] at hall
          exact .closed (fun s => hdrained s rfl (hdone s (hall ▸ Stage.mem_all s))) hwatching
            (hidle hnone)
      | cons s todo =>
          obtain ⟨hndone, hntodo⟩ := Stage.not_mem_of_split hall
          have hopen := htodo s (List.mem_cons_self ..)
          obtain ⟨rfl, rfl⟩ : join s :: closings todo = rest ∧
              { p with pools := p.pools.set s ((p.pools.get s).close true) } = p₁ := by
            simpa [closings, carryOut, hopen] using hcarry
          have hother : ∀ r, r ≠ s →
              (p.pools.set s ((p.pools.get s).close true)).get r = p.pools.get r :=
            fun r hr => Pools.get_set_of_ne _ hr _
          refine .joins hall (fun r hr => ?_) ?_ fun r hr => ?_
          · exact hdrained r (hother r fun hrs => hndone (hrs ▸ hr)) (hdone r hr)
          · rw [hpools, Pools.get_set_same]
            simp [Pool.close, hopen]
          · rw [hpools, hother r fun hrs => hntodo (hrs ▸ hr)]
            exact htodo r (List.mem_cons_of_mem s hr)
  | @joins done todo s hall hdone hclosed htodo =>
      obtain ⟨hquiet, rfl, rfl⟩ :
          (p.pools.get s).isQuiet = true ∧ closings todo = rest ∧ p = p₁ := by
        simpa [carryOut] using hcarry
      have hsame : ∀ r, p.Drained r → p'.Drained r := fun r => hdrained r rfl
      have hne : (closings todo).isEmpty = false := by simp [closings]
      rw [if_neg (by simp [hne])]
      have hall : (done ++ [s]) ++ todo = Stage.all := by simpa using hall
      refine .closes hall (fun r hr => ?_) fun r hr => ?_
      · rcases List.mem_append.1 hr with hr | hr
        · exact hsame r (hdone r hr)
        · rw [List.mem_singleton.1 hr]
          exact hsame s ⟨hclosed, hquiet⟩
      · rw [hpools]
        exact htodo r hr

/-- As long as the pool of a stage is not drained, those of later stages are open. -/
theorem accepts_of_rank_lt (h : p.Closing xs) (hs : ¬p.Drained s) (hlt : s.rank < r.rank) :
    (p.pools.get r).accepts = true := by
  cases h with
  | closes hall hdone htodo =>
      have hr := Stage.mem_tail_of_rank_lt hall (fun hmem => hs (hdone s hmem)) hlt
      exact htodo r (List.mem_of_mem_tail hr)
  | joins hall hdone hclosed htodo =>
      exact htodo r (Stage.mem_tail_of_rank_lt hall (fun hmem => hs (hdone s hmem)) hlt)
  | closed hall => exact absurd (hall s) hs

end Closing

/-! ### Acts -/

/-- Whoever does not shut the pools down closes none. -/
theorem Manned.keeps_carryOut (h : p.Manned) (hx : x ∈ p.scripts)
    (hw : x.owner.isShutdown = false) (hcarry : p.carryOut x.rest = some (rest, p₁)) :
    Keeps p p₁ := by
  have hnot : ∀ i tail, x.rest = i :: tail → i.operation? ≠ none := by
    intro i tail hrest hop
    obtain ⟨drain, howner⟩ :=
      (h.allowed x hx i (hrest ▸ List.mem_cons_self ..)).eq_shutdown hop
    simp [howner, Owner.isShutdown] at hw
  rcases carryOut_cases hcarry with hkeeps | ⟨s, drain, tail, hrest, -⟩ | ⟨tail, hrest, -⟩
  · exact hkeeps
  · exact absurd rfl (hnot _ tail hrest)
  · exact absurd rfl (hnot _ tail hrest)

theorem NewScript.isShutdown (h : NewScript p a p' x) (ha : ∀ drain, a ≠ .call (.shutDown drain)) :
    x.owner.isShutdown = false := by
  cases h with
  | beginning | worker | watchdog => rfl
  | shutdown hcall => exact absurd hcall (ha _)

/-- Nobody begins to shut the pools down. -/
theorem Meanwhile.closers (h : Meanwhile p a p') (ha : ∀ drain, a ≠ .call (.shutDown drain)) :
    p'.closers = p.closers := by
  obtain ⟨more, hmore, hnew⟩ := h.scripts
  have hnone : more.filter (·.owner.isShutdown) = [] := by
    refine List.filter_eq_nil_iff.2 fun x hx => ?_
    simp [(hnew x hx).isShutdown ha]
  rw [Pipeline.closers, hmore, List.filter_append, hnone, List.append_nil, Pipeline.closers]

/-- Nobody is at work who was not, unless something new came up for him. -/
theorem Meanwhile.isAtWork (h : Meanwhile p a p') {w : Owner} (hw : p.isAtWork w = false)
    (hnone : ∀ x, NewScript p a p' x → x.owner ≠ w) : p'.isAtWork w = false := by
  obtain ⟨more, hmore, hnew⟩ := h.scripts
  rw [isAtWork_eq_false_iff] at hw ⊢
  intro x hx
  rw [hmore] at hx
  rcases List.mem_append.1 hx with hold | hx
  · exact hw x hold
  · exact hnone x (hnew x hx)

/-- The pools are open, and nobody shuts them down. -/
structure Open (p : Pipeline) : Prop where
  manned : p.Manned
  accepts : ∀ s, (p.pools.get s).accepts = true
  idle : p.closers = []

theorem open_ofSettings (settings : Settings) : (ofSettings settings).Open where
  manned := manned_ofSettings settings
  accepts s := by cases s <;> rfl
  idle := rfl

theorem Open.act (h : p.Open) (ha : ∀ drain, a ≠ .call (.shutDown drain))
    (hp : p.act? sv a = some p') : p'.Open := by
  have hmanned := h.manned.act (ha false) hp
  rcases act_cases hp with ⟨k, -, hadvance⟩ | hmeanwhile
  · obtain ⟨x, rest, p₁, hx, hcarry, rfl⟩ := advance_eq_some hadvance
    have hmem := List.mem_of_getElem? hx
    have hw := not_isShutdown_of_closers h.idle hmem
    have hkeeps := h.manned.keeps_carryOut hmem hw hcarry
    refine ⟨hmanned, fun s => (hkeeps.pools s).accepts (h.accepts s), ?_⟩
    rw [closers, (carried_of_carryOut hcarry).scripts, filter_putBack_of_not hx hw]
    exact h.idle
  · exact ⟨hmanned, fun s => (hmeanwhile.keeps.pools s).accepts (h.accepts s),
      (hmeanwhile.closers ha).trans h.idle⟩

/-- The pools are being shut down, and whoever began the operation was done with it before. -/
structure Winding (sv : Services) (n : Nat) (p : Pipeline) : Prop where
  fine : p.Fine sv
  manned : p.Manned
  closing : p.Closing p.closers
  begun : p.hasBegun n = true
  handed : p.isAtWork (.beginning n) = false

namespace Winding

theorem closing_advance (h : p.Winding sv n) (hp : p.advance k = some p') :
    p'.Closing p'.closers := by
  obtain ⟨x, rest, p₁, hx, hcarry, rfl⟩ := advance_eq_some hp
  have hscripts := (carried_of_carryOut hcarry).scripts
  have hidle : p.isAtWork .watchdog = false →
      isAtWork { p₁ with scripts := putBack k x rest p₁.scripts } .watchdog = false :=
    fun hnone => isAtWork_putBack hx hnone (by rw [hscripts])
  rcases hw : x.owner.isShutdown with _ | _
  · -- somebody else goes on
    have hkeeps := h.manned.keeps_carryOut (List.mem_of_getElem? hx) hw hcarry
    rw [closers, hscripts, filter_putBack_of_not hx hw]
    exact h.closing.keeps ⟨hkeeps.watching, fun s => hkeeps.pools s⟩ fun _ => hscripts ▸ hidle
  · -- the shutdown goes on
    have hmem : x ∈ p.closers := List.mem_filter.2 ⟨List.mem_of_getElem? hx, hw⟩
    obtain ⟨y, hone⟩ : ∃ y, p.closers = [y] := by
      have hclosing := h.closing
      generalize p.closers = xs at hmem hclosing
      cases hclosing with
      | closes | joins => exact ⟨_, rfl⟩
      | closed => simp at hmem
    obtain ⟨rfl, hrest⟩ := filter_putBack_of_only hx hw hone
    have hclosing := h.closing
    rw [hone] at hclosing
    rw [closers, hscripts, hrest rest]
    exact hclosing.goOn hcarry rfl rfl (hscripts ▸ hidle)

theorem closing_meanwhile (h : p.Winding sv n) (ha : ∀ drain, a ≠ .call (.shutDown drain))
    (hmeanwhile : Meanwhile p a p') : p'.Closing p'.closers := by
  rw [hmeanwhile.closers ha]
  refine h.closing.keeps hmeanwhile.keeps fun hstopped hidle => ?_
  -- a watchdog that was stopped has nothing new to do
  refine hmeanwhile.isAtWork hidle fun x hx howner => ?_
  cases hx with
  | watchdog hwatching => simp [hstopped] at hwatching
  | beginning | worker | shutdown => simp at howner

/-- Nobody begins an operation a second time. -/
theorem handed_act (h : p.Winding sv n) (hp : p.act? sv a = some p') :
    p'.isAtWork (.beginning n) = false := by
  rcases act_cases hp with ⟨k, -, hadvance⟩ | hmeanwhile
  · obtain ⟨x, rest, p₁, hx, hcarry, rfl⟩ := advance_eq_some hadvance
    exact isAtWork_putBack hx h.handed (by rw [(carried_of_carryOut hcarry).scripts])
  · refine hmeanwhile.isAtWork h.handed fun x hx howner => ?_
    cases hx with
    | beginning ho hnot =>
        obtain rfl := Owner.beginning.inj howner
        have hbegun := h.begun
        simp [hasBegun, ho, hnot] at hbegun
    | worker | watchdog | shutdown => simp at howner

theorem act (h : p.Winding sv n) (ha : ∀ drain, a ≠ .call (.shutDown drain))
    (hp : p.act? sv a = some p') : p'.Winding sv n where
  fine := h.fine.reaches (.of_act hp)
  manned := h.manned.act (ha false) hp
  closing := by
    rcases act_cases hp with ⟨k, -, hadvance⟩ | hmeanwhile
    · exact h.closing_advance hadvance
    · exact h.closing_meanwhile ha hmeanwhile
  begun := h.fine.hasBegun_act hp h.begun
  handed := h.handed_act hp

end Winding

/-! ### Tasks that are refused -/

/-- A pool refuses a task of the operation. -/
def refuses (n : Nat) (p : Pipeline) : Act → Bool
  | .move (.advance k) =>
    match p.scripts[k]?.map Script.rest with
    | some (.submit s u :: _) => s.operationOf u == n && !(p.pools.get s).accepts
    | _ => false
  | _ => false

/-- A pool refuses a task of the operation in the course of a run. -/
def refusesAny (sv : Services) (n : Nat) : Pipeline → List Act → Bool
  | _, [] => false
  | p, a :: acts =>
    p.refuses n a ||
      match p.act? sv a with
      | some p' => p'.refusesAny sv n acts
      | none => false

theorem exists_of_refuses (h : p.refuses n a = true) : ∃ x ∈ p.scripts, ∃ s, ∃ u : s.Task,
    submit s u ∈ x.rest ∧ s.operationOf u = n ∧ (p.pools.get s).accepts = false := by
  unfold refuses at h
  split at h
  · split at h
    · next s u tail hrest =>
      obtain ⟨x, hx, hrest⟩ := Option.map_eq_some_iff.1 hrest
      simp only [Bool.and_eq_true, beq_iff_eq, Bool.not_eq_true'] at h
      exact ⟨x, List.mem_of_getElem? hx, s, u, hrest ▸ List.mem_cons_self .., h.1, h.2⟩
    · simp at h
  · simp at h

theorem refusesAny_append {acts : List Act} (h : p.run? sv acts = some p') (acts' : List Act) :
    p.refusesAny sv n (acts ++ acts') = (p.refusesAny sv n acts || p'.refusesAny sv n acts') := by
  induction acts generalizing p with
  | nil =>
      obtain rfl : p = p' := by simpa using h
      rfl
  | cons a acts ih =>
      obtain ⟨p₁, ha, hrest⟩ := Option.bind_eq_some_iff.1 h
      simp only [List.cons_append, refusesAny, ha, ih hrest, Bool.or_assoc]

/-- Where no pool refuses a task and acts of some kind keep it so, no run of such acts does. -/
theorem refusesAny_eq_false {P : Act → Prop} {I : Pipeline → Prop}
    (hstep : ∀ {p a p'}, P a → p.act? sv a = some p' → I p → I p')
    (htakes : ∀ {p}, I p → ∀ a, p.refuses n a = false) {acts : List Act}
    (hacts : ∀ a ∈ acts, P a) (h : I p) : p.refusesAny sv n acts = false := by
  induction acts generalizing p with
  | nil => rfl
  | cons a acts ih =>
      obtain ⟨hfirst, hothers⟩ := List.forall_mem_cons.1 hacts
      rw [refusesAny, htakes h a, Bool.false_or]
      split
      · next p' hp => exact ih hothers (hstep hfirst hp h)
      · rfl

theorem Open.not_refuses (h : p.Open) (a : Act) : p.refuses n a = false := by
  refine Bool.eq_false_iff.2 fun hrefuses => ?_
  obtain ⟨x, -, s, u, -, -, hclosed⟩ := exists_of_refuses hrefuses
  simp [h.accepts s] at hclosed

/-- Whoever has a task of the operation to hand on is a worker of a pool that is not quiet. -/
theorem Winding.not_refuses (h : p.Winding sv n) (a : Act) : p.refuses n a = false := by
  refine Bool.eq_false_iff.2 fun hrefuses => ?_
  obtain ⟨x, hx, s, u, hu, hop, hclosed⟩ := exists_of_refuses hrefuses
  have hallows := h.manned.allowed x hx _ hu
  rcases hw : x.owner with m | ⟨r, i⟩ | _ | drain
  all_goals rw [hw] at hallows
  · obtain rfl : n = m := hop.symm.trans (Option.some.inj hallows)
    exact isAtWork_eq_false_iff.1 h.handed x hx hw
  · have hbusy := h.manned.isQuiet_eq_false hx hw
    have hnot : ¬p.Drained r := fun hdrained => by simp [hdrained.quiet] at hbusy
    have hopen := h.closing.accepts_of_rank_lt hnot (hallows.2 s rfl)
    simp [hopen] at hclosed
  · simp [Owner.Allows, submits?] at hallows
  · simp [Owner.Allows, operation?] at hallows

/-! ### The shutdown -/

/-- The shutdown begins. -/
theorem Open.winding (h : p.Open) (hfine : p.Fine sv) (hbegun : p.hasBegun n = true)
    (hhanded : p.isAtWork (.beginning n) = false) : (p.shutDown true).Winding sv n where
  fine := hfine.reaches (.call sv p (.shutDown true))
  manned := by
    have hcall : p.act? sv (.call (.shutDown true)) = some (p.shutDown true) := rfl
    exact h.manned.act (by simp) hcall
  closing := by
    have hclosers : (p.shutDown true).closers = [⟨.shutdown true, closings Stage.all⟩] := by
      have hidle := h.idle
      rw [closers] at hidle
      rw [closers, shutDown, work, List.filter_append, hidle]
      rfl
    rw [hclosers]
    exact .closes (List.nil_append Stage.all) (by simp) fun s _ => h.accepts s
  begun := hbegun
  handed := by
    rw [isAtWork] at hhanded
    simp [isAtWork, shutDown, work, hhanded]

namespace Winding

/-- When the shutdown returns, all pools are drained and the watchdog is done. -/
theorem drained (h : p.Winding sv n) (hreturned : p.isAtWork (.shutdown true) = false) :
    (∀ s, p.Drained s) ∧ p.isAtWork .watchdog = false := by
  have hnone : ∀ rest, ⟨.shutdown true, rest⟩ ∉ p.closers := by
    intro rest hmem
    exact isAtWork_eq_false_iff.1 hreturned _ (List.mem_filter.1 hmem).1 rfl
  have hclosing := h.closing
  generalize p.closers = xs at hnone hclosing
  cases hclosing with
  | closes | joins => exact absurd (List.mem_singleton_self _) (hnone _)
  | closed hall _ hidle => exact ⟨hall, hidle⟩

/-- Then nobody has anything to do for the operation. -/
theorem isAtRest (h : p.Winding sv n) (hreturned : p.isAtWork (.shutdown true) = false) :
    p.isAtRest n = true := by
  obtain ⟨hdrained, hidle⟩ := h.drained hreturned
  simp only [Pipeline.isAtRest, Bool.and_eq_true, List.all_eq_true]
  refine ⟨fun x hx i hi => ?_, fun s _ t ht => ?_⟩
  · have hallows := h.manned.allowed x hx i hi
    rcases hw : x.owner with m | ⟨s, k⟩ | _ | drain
    all_goals rw [hw] at hallows
    · have hne : m ≠ n := by
        rintro rfl
        exact isAtWork_eq_false_iff.1 h.handed x hx hw
      simpa [show i.operation? = some m from hallows] using hne
    · have hbusy := h.manned.isQuiet_eq_false hx hw
      simp [(hdrained s).quiet] at hbusy
    · exact absurd hw (isAtWork_eq_false_iff.1 hidle x hx)
    · simp [hallows.1]
  · have hfree := Pool.isOpen_of_isQuiet (hdrained s).quiet ht
    simp only [Phase.isOpen, Bool.or_eq_false_iff] at hfree
    simp [hfree]

end Winding

/-- Nothing is left to do for the operation, and none of its tasks was given up. -/
structure Finished (n : Nat) (p : Pipeline) : Prop where
  ended : ∃ o, p.operations[n]? = some o ∧ o.job.state.isTerminal = true ∧
    o.job.outcome.isSome = true
  settled : ∀ s, ∀ t ∈ (p.pools.get s).tasks, s.operationOf t.task = n →
    ∃ o, t.outcome = some o ∧ o.isPoolClosed = false

/-- **A draining shutdown loses no work.** Whatever calls and moves a pipeline went through, and
whatever happens after the pools are shut down, as long as nobody else shuts them down and the clock
can tell the deadlines: when the shutdown returns, every operation is over that somebody had begun
by the time of the call, every task of it has an outcome, none of them was given up since its pool
was closed, and no pool has refused one. -/
theorem finished_of_shutDown (sv : Services) (settings : Settings) (before after : List Act)
    (hbefore : (ofSettings settings).run? sv before = some p)
    (hafter : (p.shutDown true).run? sv after = some q)
    (honly : ∀ drain, .call (.shutDown drain) ∉ before ++ after)
    (htold : (ofSettings settings).tellsDeadlines sv
      (before ++ .call (.shutDown true) :: after) = true)
    (hreturned : q.isAtWork (.shutdown true) = false)
    (hbegun : p.hasBegun n = true) (hhanded : p.isAtWork (.beginning n) = false) :
    q.Finished n ∧ (ofSettings settings).refusesAny sv n
      (before ++ .call (.shutDown true) :: after) = false := by
  have hacts : ∀ a ∈ before ++ after, ∀ drain, a ≠ .call (.shutDown drain) := by
    rintro a ha drain rfl
    exact honly drain ha
  obtain ⟨hearly, hlate⟩ := List.forall_mem_append.1 hacts
  -- the pools are open until the call, and it is seen to from then on
  have hopen : p.Open :=
    run_induction_of (fun ha hp h => h.act ha hp) hearly (open_ofSettings settings) hbefore
  have hfine : p.Fine sv := (fine_ofSettings sv settings).reaches ⟨before, hbefore⟩
  have hwinding := hopen.winding hfine hbegun hhanded
  have hend : q.Winding sv n :=
    run_induction_of (fun ha hp h => h.act ha hp) hlate hwinding hafter
  have hrun : (ofSettings settings).run? sv (before ++ .call (.shutDown true) :: after) = some q :=
    (run?_append hbefore _).trans hafter
  obtain ⟨hsound, hall⟩ : q.Sound sv True ∧ ∀ n c, q.course? n = some c → c.Tidy ∧ c.Balanced :=
    courses_reachable (fun _ _ h => ⟨h.tidy, h.balanced⟩)
      (fun _ _ _ hstep h => ⟨h.1.step hstep, h.2.step h.1 hstep⟩) (fun _ => htold) hrun
  have hrest := hend.isAtRest hreturned
  refine ⟨⟨?_, fun s t ht hop => ?_⟩, ?_⟩
  · obtain ⟨c, hc, hbegun⟩ := hasBegun_iff.1 hend.begun
    obtain ⟨o, ho, rfl⟩ := course?_eq_some.1 hc
    obtain ⟨htidy, hbalanced⟩ := hall n _ hc
    exact ⟨o, ho, hbalanced.isTerminal htidy hbegun (agenda_eq_zero_of_isAtRest hsound hrest)⟩
  · have hfree := Pool.isOpen_of_isQuiet ((hend.drained hreturned).1 s).quiet ht
    simp only [Phase.isOpen, Bool.or_eq_false_iff] at hfree
    obtain ⟨o, ho⟩ := exists_outcome (hsound.tasks s t ht) hfree.1 hfree.2
    exact ⟨o, ho, (hend.manned.unclosed s t ht).outcome o ho⟩
  · have hnone : (ofSettings settings).refusesAny sv n before = false :=
      refusesAny_eq_false (fun ha hp h => Open.act h ha hp) (fun h => h.not_refuses) hearly
        (open_ofSettings settings)
    have hnone' : (p.shutDown true).refusesAny sv n after = false :=
      refusesAny_eq_false (fun ha hp h => Winding.act h ha hp) (fun h => h.not_refuses) hlate
        hwinding
    rw [refusesAny_append hbefore, hnone, Bool.false_or, refusesAny, hopen.not_refuses,
      Bool.false_or]
    exact hnone'

/-- A search is begun, and a worker runs its body. -/
def lateSearch : List Act :=
  [.call (.search ⟨.german, "Haus", false⟩ 2 default), .call (.begin 0)] ++ advances 2 ++
    [.move (.take .search), .move (.look .search 0), .move (.start .search 0)]

/-- A worker goes through the body of a task in so many steps, settles it and follows it up while
somebody shuts the pools down. -/
def windsUp (s : Stage) (i steps follows : Nat) : List Act :=
  List.replicate steps (.move (.body s i)) ++ [.move (.settle s i)] ++
    List.replicate follows (.move (.advance 1)) ++ [.move (.letGo s i)]

/-- A worker takes a task first. -/
def takesUp (s : Stage) (i steps follows : Nat) : List Act :=
  [.move (.take s), .move (.look s i), .move (.start s i)] ++ windsUp s i steps follows

/-- Each pool is closed when the one before it is quiet, and by then has got its tasks. -/
def overtime : List Act :=
  advances 1 ++ windsUp .search 0 3 5 ++ advances 2 ++ takesUp .crawl 0 1 3 ++
    takesUp .crawl 1 1 1 ++ advances 2 ++ takesUp .parse 0 3 1 ++ advances 2

/-- When the pools are shut down while the search runs, its results are fetched and parsed. -/
theorem finished_overtime : ∃ p q,
    (ofSettings (.standard 1)).run? fruitful lateSearch = some p ∧
    (p.shutDown true).run? fruitful overtime = some q ∧
    (∀ drain, .call (.shutDown drain) ∉ lateSearch ++ overtime) ∧
    (ofSettings (.standard 1)).tellsDeadlines fruitful
      (lateSearch ++ .call (.shutDown true) :: overtime) = true ∧
    q.isAtWork (.shutdown true) = false ∧ p.hasBegun 0 = true ∧
    p.isAtWork (.beginning 0) = false ∧ p.pools.crawl.tasks.length = 0 ∧
    q.pools.crawl.tasks.length = 2 ∧ q.pools.parse.tasks.length = 1 ∧ q.Finished 0 ∧
    (ofSettings (.standard 1)).refusesAny fruitful 0
      (lateSearch ++ .call (.shutDown true) :: overtime) = false := by
  have hend : ((ofSettings (.standard 1)).run? fruitful lateSearch).any (fun p =>
      p.hasBegun 0 && !p.isAtWork (.beginning 0) && p.pools.crawl.tasks.length == 0 &&
        ((p.shutDown true).run? fruitful overtime).any fun q =>
          !q.isAtWork (.shutdown true) && q.pools.crawl.tasks.length == 2 &&
            q.pools.parse.tasks.length == 1) = true := by decide +kernel
  have htold : (ofSettings (.standard 1)).tellsDeadlines fruitful
      (lateSearch ++ .call (.shutDown true) :: overtime) = true := by decide +kernel
  have honly : ∀ drain, .call (.shutDown drain) ∉ lateSearch ++ overtime := by
    simp [lateSearch, overtime, takesUp, windsUp, advances]
  obtain ⟨p, hbefore, hend⟩ := (Option.any_eq_true ..).1 hend
  simp only [Bool.and_eq_true, beq_iff_eq, Bool.not_eq_true', Option.any_eq_true] at hend
  obtain ⟨⟨⟨hbegun, hhanded⟩, hnone⟩, q, hafter, ⟨hreturned, hcrawls⟩, hparses⟩ := hend
  obtain ⟨hfinished, haccepted⟩ := finished_of_shutDown fruitful (.standard 1) lateSearch overtime
    hbefore hafter honly htold hreturned hbegun hhanded
  exact ⟨p, q, hbefore, hafter, honly, htold, hreturned, hbegun, hhanded, hnone, hcrawls, hparses,
    hfinished, haccepted⟩

end Pipeline

end GradedReading
