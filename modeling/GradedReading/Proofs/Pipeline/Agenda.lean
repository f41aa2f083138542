import GradedReading.Pipeline.Operation
import GradedReading.Proofs.Job.Ending
import Mathlib.Algebra.BigOperators.Group.Multiset.Basic
import Mathlib.Algebra.Order.BigOperators.Group.Multiset
import Mathlib.Algebra.Order.Group.Multiset

/-!
# GradedReading.Proofs.Pipeline.Agenda

What an operation still has to do, and how much of it there is.

**Key idea:** an *agenda* holds scripts. A script that is being worked through is there with what is
left of it, and a task that is not settled is there as the script that only submits it, since that
is what it comes to: whatever becomes of the task, another script takes its place. So all that is
under way for an operation is one bag of scripts, and anything that is to be counted is counted by
giving each instruction a weight.

`Orderly` scripts are those whose weights fit together at every point: no slot is reserved that
nothing in the script will use, and no page is parsed that was not reported as fetched.
-/

namespace GradedReading

open Search Web

namespace Job.Op

/-- The operation says that the fan-out is done, or ends the job without it. -/
def ends : Op → Nat
  | .finishFanOut | .fail _ => 1
  | _ => 0

/-- The result that an operation reports as fetched. -/
def fetches : Op → Multiset SearchResult
  | .crawlComplete r _ => {r}
  | _ => 0

/-- The rank of the result that an operation reports to have text. -/
def extracts : Op → Multiset Nat
  | .crawlComplete r true => {r.rank}
  | _ => 0

/-- The document that an operation brings. -/
def delivers : Op → Multiset Document
  | .parseComplete d => {d}
  | _ => 0

end Job.Op

namespace Stage

/-- The task as it was submitted. -/
def fresh : (s : Stage) → s.Task → s.Task
  | .search, t => .ofOperation t.operation
  | .crawl, t => .ofResult t.operation t.result
  | .parse, t => .ofSource t.operation t.source

@[simp] theorem operationOf_fresh (s : Stage) (t : s.Task) :
    s.operationOf (s.fresh t) = s.operationOf t := by cases s <;> rfl

end Stage

namespace Instr

/-- The operation that an instruction is about. -/
def operation? : Instr → Option Nat
  | .tell n _ | .require n _ => some n
  | .submit s t => some (s.operationOf t)
  | _ => none

/-- What the instruction tells a job. -/
def op? : Instr → Option Job.Op
  | .tell _ op | .require _ op => some op
  | _ => none

@[simp] theorem operation?_refused (s : Stage) (t : s.Task) (e : TaskError) :
    (refused s t e).operation? = some (s.operationOf t) := by cases s <;> rfl

/-! ### Weights -/

section Weight

variable {M : Type} [AddCommMonoid M] (w : Instr → M)

/-- A weight that instructions to a job have by what they tell it, and submissions by what they
submit. -/
def weight (ofOp : Job.Op → M) (ofTask : (s : Stage) → s.Task → M) : Instr → M
  | .tell _ op | .require _ op => ofOp op
  | .submit s t => ofTask s t
  | _ => 0

theorem weight_of_op? {ofOp : Job.Op → M} {ofTask : (s : Stage) → s.Task → M} {i : Instr}
    {op : Job.Op} (h : i.op? = some op) : weight ofOp ofTask i = ofOp op := by
  cases i <;> simp_all [op?, weight]

/-- The weight of a script. -/
def weigh (script : List Instr) : M := (script.map w).sum

@[simp] theorem weigh_nil : weigh w [] = 0 := rfl

@[simp] theorem weigh_cons (i : Instr) (script : List Instr) :
    weigh w (i :: script) = w i + weigh w script := by simp [weigh]

/-- The weight of an agenda. -/
def total (agenda : Multiset (List Instr)) : M := (agenda.map (weigh w)).sum

@[simp] theorem total_zero : total w 0 = 0 := rfl

@[simp] theorem total_cons (script : List Instr) (agenda : Multiset (List Instr)) :
    total w (script ::ₘ agenda) = weigh w script + total w agenda := by simp [total]

@[simp] theorem total_singleton (script : List Instr) : total w {script} = weigh w script := by
  simp [total]

@[simp] theorem total_add (a b : Multiset (List Instr)) :
    total w (a + b) = total w a + total w b := by
  rw [total, Multiset.map_add, Multiset.sum_add]
  rfl

/-- A script as an agenda. A script that is at its end is on no agenda. -/
def entry : List Instr → Multiset (List Instr)
  | [] => 0
  | i :: rest => {i :: rest}

@[simp] theorem total_entry (script : List Instr) : total w (entry script) = weigh w script := by
  cases script <;> simp [entry]

/-- A submission that is split off its script keeps its weight. -/
theorem total_accept {s : Stage} {t : s.Task}
    (hw : w (submit s (s.fresh t)) = w (submit s t)) (rest : List Instr)
    (others : Multiset (List Instr)) :
    total w ([submit s (s.fresh t)] ::ₘ (entry rest + others)) =
      total w ((submit s t :: rest) ::ₘ others) := by
  simp [hw, add_assoc]

/-- The place of a submission is taken by an instruction of the same weight. -/
theorem total_refuse {i i' : Instr} (hw : w i' = w i) (rest : List Instr)
    (others : Multiset (List Instr)) :
    total w ((i' :: rest) ::ₘ others) = total w ((i :: rest) ::ₘ others) := by
  simp [hw]

theorem mem_entry {script e : List Instr} (h : e ∈ entry script) : e = script := by
  cases script <;> simp_all [entry]

end Weight

/-- The slots that the tasks of a stage stand for. -/
def slotOf : (s : Stage) → s.Task → Nat
  | .search, _ => 0
  | .crawl, _ | .parse, _ => 1

/-- The result that a task is to fetch. -/
def resultOf : (s : Stage) → s.Task → Multiset SearchResult
  | .crawl, t => {t.result}
  | .search, _ | .parse, _ => 0

/-- The source that a task is to parse. -/
def sourceOf : (s : Stage) → s.Task → Multiset Source
  | .parse, t => {t.source}
  | .search, _ | .crawl, _ => 0

/-- The number of searches that a task is. -/
def searchOf : (s : Stage) → s.Task → Nat
  | .search, _ => 1
  | .crawl, _ | .parse, _ => 0

/-- The slots that will be reserved. -/
def reserves : Instr → Nat := weight Job.Op.reserves fun _ _ => 0

/-- The slots that will be settled, by the instruction itself or by what comes of it. -/
def slots : Instr → Nat := weight Job.Op.settles slotOf

/-- How often the fan-out will be done, or the job fail. -/
def ends : Instr → Nat := weight Job.Op.ends searchOf

/-- The number of searches. -/
def searches : Instr → Nat := weight (fun _ => 0) searchOf

/-- The results that will be reported as fetched. -/
def fetches : Instr → Multiset SearchResult := weight Job.Op.fetches resultOf

/-- The ranks of the results that will be reported to have text. -/
def extracts : Instr → Multiset Nat := weight Job.Op.extracts fun _ _ => 0

/-- The sources that will be parsed. -/
def parses : Instr → Multiset Source := weight (fun _ => 0) sourceOf

/-- The documents that will be brought. -/
def delivers : Instr → Multiset Document := weight Job.Op.delivers fun _ _ => 0

/-! ### Orderly scripts -/

/-- The instruction tells a job nothing that only the end of a job brings, and announces nothing but
what is about to be parsed. -/
def IsProper (i : Instr) : Prop :=
  ∀ op, i.op? = some op → op.isOrdinary = true ∧
    ∀ e, op = .announce e → ∃ sources, e = .begins sources

/-- The weights of a script fit together. -/
structure IsFair (script : List Instr) : Prop where
  /-- There is something to do in every slot that will be reserved. -/
  reserves_le : weigh reserves script ≤ weigh slots script
  /-- Slots are reserved before the fan-out is done. -/
  reserves_eq : weigh ends script = 0 → weigh reserves script = 0
  /-- Each result has a slot until it is reported. -/
  fetches_le : (weigh fetches script).card ≤ weigh slots script
  /-- What is reported to have text will be parsed. -/
  extracts_le : weigh extracts script ≤ (weigh parses script).map (·.rank)

/-- The script is fair wherever one stands in it, and its instructions are proper. -/
def Orderly : List Instr → Prop
  | [] => True
  | i :: rest => i.IsProper ∧ IsFair (i :: rest) ∧ Orderly rest

theorem isFair_nil : IsFair [] := by constructor <;> simp

theorem Orderly.isFair {script : List Instr} (h : Orderly script) : IsFair script := by
  cases script with
  | nil => exact isFair_nil
  | cons i rest => exact h.2.1

theorem isProper_tell {n : Nat} {op : Job.Op} (h : op.isOrdinary = true)
    (hd : ∀ e, op = .announce e → ∃ sources, e = .begins sources) : (tell n op).IsProper := by
  rintro op' ⟨⟩
  exact ⟨h, hd⟩

theorem isProper_require {n : Nat} {op : Job.Op} (h : op.isOrdinary = true)
    (hd : ∀ e, op = .announce e → ∃ sources, e = .begins sources) : (require n op).IsProper := by
  rintro op' ⟨⟩
  exact ⟨h, hd⟩

theorem isProper_submit (s : Stage) (t : s.Task) : (submit s t).IsProper := by
  rintro op ⟨⟩

theorem isProper_refused (s : Stage) (t : s.Task) (e : TaskError) : (refused s t e).IsProper := by
  cases s <;> exact isProper_tell rfl (by simp)

/-- A script that reserves nothing and reports no text is fair if its results have slots. -/
theorem IsFair.of_eq_zero {script : List Instr} (hr : weigh reserves script = 0)
    (hx : weigh extracts script = 0) (hf : (weigh fetches script).card ≤ weigh slots script) :
    IsFair script where
  reserves_le := by simp [hr]
  reserves_eq _ := hr
  fetches_le := hf
  extracts_le := by
    rw [hx]
    exact Multiset.zero_le _

theorem orderly_singleton {i : Instr} (hi : i.IsProper) (hf : IsFair [i]) : Orderly [i] :=
  ⟨hi, hf, trivial⟩

theorem orderly_submit (s : Stage) (t : s.Task) : Orderly [submit s t] := by
  refine orderly_singleton (isProper_submit s t) (.of_eq_zero rfl rfl ?_)
  cases s <;> simp [fetches, slots, weight, resultOf, slotOf]

/-- What is done about a task that was refused takes the task's place. -/
theorem Orderly.refused {s : Stage} {t : s.Task} {rest : List Instr}
    (h : Orderly (submit s t :: rest)) (e : TaskError) : Orderly (refused s t e :: rest) := by
  obtain ⟨-, hfair, hrest⟩ := h
  refine ⟨isProper_refused s t e, ?_, hrest⟩
  have hr := hfair.reserves_le
  have hq := hfair.reserves_eq
  have hf := hfair.fetches_le
  have hx := hrest.isFair.extracts_le
  cases s <;> constructor <;>
    simp_all [Instr.refused, reserves, ends, slots, fetches, extracts, parses, weight,
      Job.Op.reserves, Job.Op.ends, Job.Op.settles, Job.Op.fetches, Job.Op.extracts, slotOf,
      resultOf, searchOf]

/-! ### The scripts of an operation -/

section FanOut

variable {α : Type} (n : Nat) (s : Stage) (task : α → s.Task) (xs : List α)

theorem weigh_fanOut {M : Type} [AddCommMonoid M] (w : Instr → M) :
    weigh w (fanOut n s task xs) =
      (xs.map fun x => w (submit s (task x))).sum + w (tell n .finishFanOut) := by
  simp [fanOut, weigh, Function.comp_def]

/-- The things of a list, one at a time, are the list. -/
theorem sum_map_singleton : (xs.map fun x => ({x} : Multiset α)).sum = ↑xs := by
  rw [← Multiset.sum_coe, ← Multiset.map_coe, Multiset.sum_map_singleton]

theorem fanOut_cons (x : α) :
    fanOut n s task (x :: xs) = submit s (task x) :: fanOut n s task xs := rfl

theorem orderly_fanOut : Orderly (fanOut n s task xs) := by
  induction xs with
  | nil =>
      refine orderly_singleton (isProper_tell rfl (by simp)) (.of_eq_zero rfl rfl ?_)
      simp [fetches, weight, Job.Op.fetches]
  | cons x xs ih =>
      have hone := (orderly_submit s (task x)).isFair.fetches_le
      have hrest := ih.isFair.fetches_le
      rw [fanOut_cons]
      refine ⟨isProper_submit s (task x), .of_eq_zero ?_ ?_ ?_, ih⟩
      · simp [weigh_fanOut, reserves, weight, Job.Op.reserves]
      · simp [weigh_fanOut, extracts, weight, Job.Op.extracts]
      · simp only [weigh_cons, weigh_nil, add_zero, Multiset.card_add] at hone ⊢
        omega

/-- Slots that are reserved for a fan-out are used by it. -/
theorem orderly_reserve_fanOut (hslot : ∀ t, slotOf s t = 1) :
    Orderly (require n (.reserve xs.length) :: fanOut n s task xs) := by
  have hfan := orderly_fanOut n s task xs
  have hslots : weigh slots (fanOut n s task xs) = xs.length := by
    simp [weigh_fanOut, slots, weight, hslot, Job.Op.settles]
  have hreserves : weigh reserves (fanOut n s task xs) = 0 := by
    simp [weigh_fanOut, reserves, weight, Job.Op.reserves]
  refine ⟨isProper_require rfl (by simp), ⟨?_, ?_, ?_, ?_⟩, hfan⟩
  · simp only [weigh_cons, hslots, hreserves]
    simp [reserves, slots, weight, Job.Op.reserves, Job.Op.settles]
  · -- the fan-out will be done, so there is nothing to show
    simp [weigh_fanOut, ends, weight, Job.Op.ends]
  · simpa [fetches, slots, weight, Job.Op.fetches, Job.Op.settles] using hfan.isFair.fetches_le
  · simpa [extracts, parses, weight, Job.Op.extracts] using hfan.isFair.extracts_le

end FanOut

/-- Something that is told first and counts for nothing keeps a script orderly. -/
theorem Orderly.require {n : Nat} {op : Job.Op} {script : List Instr} (h : Orderly script)
    (hop : (require n op).IsProper) (hr : op.reserves = 0) (hf : op.fetches = 0)
    (hx : op.extracts = 0) : Orderly (.require n op :: script) := by
  have hfair := h.isFair
  refine ⟨hop, ⟨?_, ?_, ?_, ?_⟩, h⟩
  · simpa [reserves, slots, weight, hr] using Nat.le_add_left_of_le hfair.reserves_le
  · intro hends
    have hrest : weigh ends script = 0 := by
      simp only [weigh_cons] at hends
      omega
    simpa [reserves, weight, hr] using hfair.reserves_eq hrest
  · simpa [fetches, slots, weight, hf] using Nat.le_add_left_of_le hfair.fetches_le
  · simpa [extracts, parses, weight, hx] using hfair.extracts_le

theorem orderly_tell {n : Nat} {op : Job.Op} (hop : op.isOrdinary = true)
    (hd : ∀ e, op = .announce e → ∃ sources, e = .begins sources) (hr : op.reserves = 0)
    (hx : op.extracts = 0) (hf : op.fetches.card ≤ op.settles) : Orderly [tell n op] :=
  orderly_singleton (isProper_tell hop hd)
    (.of_eq_zero (by simp [reserves, weight, hr]) (by simp [extracts, weight, hx])
      (by simpa [fetches, slots, weight] using hf))

theorem orderly_beginSearch (n : Nat) : Orderly (beginSearch n) :=
  (orderly_submit .search _).require (isProper_require rfl (by simp)) rfl rfl rfl

theorem orderly_beginParses (n : Nat) (sources : List Source) :
    Orderly (beginParses n sources) := by
  have hfan := orderly_reserve_fanOut n .parse (.ofSource n) sources fun _ => rfl
  have henter : Orderly (require n (.enter .parsing) :: _) :=
    hfan.require (isProper_require rfl (by simp)) rfl rfl rfl
  exact henter.require (isProper_require rfl (by simp)) rfl rfl rfl

theorem orderly_afterSearch (n : Nat) (o : TaskOutcome (List SearchResult)) :
    Orderly (afterSearch n o) := by
  cases o with
  | completed rs =>
      have hfan := orderly_reserve_fanOut n .crawl (.ofResult n) rs fun _ => rfl
      exact hfan.require (isProper_require rfl (by simp)) rfl rfl rfl
  | failed e => exact orderly_tell rfl (by simp) rfl rfl (Nat.le_refl _)
  | discarded => trivial

theorem orderly_afterCrawl (n : Nat) (r : SearchResult) (o : TaskOutcome CrawledPage) :
    Orderly (afterCrawl n r o) := by
  cases o with
  | completed page =>
      have hsubmit := orderly_submit .parse (.ofSource n (page.source r.rank))
      have henter : Orderly [require n (.enter .parsing), submit .parse _] :=
        hsubmit.require (isProper_require rfl (by simp)) rfl rfl rfl
      -- the slot of the result is the slot of the parse, and so is its rank
      refine ⟨isProper_require rfl (by simp), ⟨?_, ?_, ?_, ?_⟩, henter⟩ <;>
        simp [reserves, slots, fetches, extracts, parses, weight, Job.Op.reserves, Job.Op.settles,
          Job.Op.fetches, Job.Op.extracts, slotOf, resultOf, sourceOf, CrawledPage.source,
          ParseTask.ofSource]
  | failed e => exact orderly_tell rfl (by simp) rfl rfl (Nat.le_refl _)
  | discarded => trivial

theorem orderly_afterParse (n : Nat) (o : TaskOutcome Document) : Orderly (afterParse n o) := by
  cases o with
  | completed d => exact orderly_tell rfl (by simp) rfl rfl (Nat.zero_le _)
  | failed e => exact orderly_tell rfl (by simp) rfl rfl (Nat.zero_le _)
  | discarded => trivial

theorem orderly_after (s : Stage) (t : s.Task) (o : TaskOutcome s.Yield) :
    Orderly (after s t o) := by
  cases s with
  | search => exact orderly_afterSearch _ o
  | crawl => exact orderly_afterCrawl _ _ o
  | parse => exact orderly_afterParse _ o

end Instr

end GradedReading
