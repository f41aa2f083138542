import GradedReading.Proofs.Ranking.Convert
import GradedReading.Proofs.Ranking.Exact
import Mathlib.Data.Option.NAry

/-!
# GradedReading.Proofs.Ranking.Checked

No ranking divides by zero, in exact arithmetic.

**Key idea:** a field has a quotient by zero, so that a formula alone does not tell whether it ever
takes one. Checked arithmetic has none: such a quotient is undefined, and so is all that is computed
from it. A ranking that is computed in checked arithmetic is the exact one, with every number of it
defined (`rerank_some`).
-/

namespace GradedReading.Ranking

section Checked

variable {α : Type} [Arith α]

/-- Arithmetic in which a quotient by zero is undefined, and with it whatever is computed from it.
An undefined number passes for one that is not zero and that is above and below all others. So no
question about it leads around what would be computed from it. -/
instance checkedArith : Arith (Option α) where
  ofNat n := some (Arith.ofNat n)
  add := Option.map₂ Arith.add
  sub := Option.map₂ Arith.sub
  mul := Option.map₂ Arith.mul
  div x y := do
    let a ← x
    let b ← y
    if Arith.isZero b then none else some (Arith.div a b)
  abs := Option.map Arith.abs
  ln := Option.map Arith.ln
  emptySum := some Arith.emptySum
  isZero x := (x.map Arith.isZero).getD false
  lt x y := (Option.map₂ Arith.lt x y).getD true
  atLeast x y := (Option.map₂ Arith.atLeast x y).getD true
  saturation := some Arith.saturation

namespace Checked

@[simp] theorem ofNat_eq (n : Nat) : (Arith.ofNat n : Option α) = some (Arith.ofNat n) := rfl

@[simp] theorem zero_eq : (Arith.zero : Option α) = some Arith.zero := rfl

@[simp] theorem saturation_eq : (Arith.saturation : Option α) = some Arith.saturation := rfl

@[simp] theorem add_some (x y : α) :
    Arith.add (some x) (some y) = some (Arith.add x y) := rfl

@[simp] theorem sub_some (x y : α) :
    Arith.sub (some x) (some y) = some (Arith.sub x y) := rfl

@[simp] theorem mul_some (x y : α) :
    Arith.mul (some x) (some y) = some (Arith.mul x y) := rfl

theorem div_some (x : α) {y : α} (h : Arith.isZero y = false) :
    Arith.div (some x) (some y) = some (Arith.div x y) := by
  change (if Arith.isZero y then none else some (Arith.div x y)) = _
  rw [h]
  rfl

@[simp] theorem abs_some (x : α) : Arith.abs (some x) = some (Arith.abs x) := rfl

@[simp] theorem ln_some (x : α) : Arith.ln (some x) = some (Arith.ln x) := rfl

@[simp] theorem isZero_some (x : α) : Arith.isZero (some x) = Arith.isZero x := rfl

@[simp] theorem isPositive_some (x : α) : Arith.isPositive (some x) = Arith.isPositive x := rfl

@[simp] theorem total_some (xs : List α) :
    Arith.total (xs.map some) = some (Arith.total xs) := by
  have hfold : ∀ (xs : List α) (x : α),
      (xs.map some).foldl Arith.add (some x) = some (xs.foldl Arith.add x) := by
    intro xs
    induction xs with
    | nil => exact fun _ => rfl
    | cons y ys ih => exact fun x => ih (Arith.add x y)
  exact hfold xs Arith.emptySum

end Checked

namespace Weights

/-! ### Scores -/

/-- Occurrences are asked whether there is something to divide by. -/
theorem saturate_some {w : Weights α} (h : Arith.isZero w.averageLength = false) (tf len : α) :
    (w.map some).saturate (some tf) (some len) = some (w.saturate tf len) := by
  simp only [saturate, map, Checked.ofNat_eq, Checked.div_some len h, Checked.add_some,
    Checked.sub_some, Checked.mul_some, Checked.isZero_some]
  split
  case isTrue => rfl
  case isFalse hden => exact Checked.div_some _ (Bool.not_eq_true _ ▸ hden)

theorem term_some {w : Weights α} (h : Arith.isZero w.averageLength = false) (d : Document)
    (e : Dimension × DimensionStats α) :
    (w.map some).term d (Prod.map id (DimensionStats.map some) e) = some (w.term d e) := by
  rw [term, Checked.ofNat_eq, Checked.ofNat_eq, saturate_some h]
  rfl

theorem score_some (w : Weights α) (d : Document) :
    (w.map some).score d = some (w.score d) := by
  have hscoring : (w.map some).scoring =
      w.scoring.map (Prod.map id (DimensionStats.map some)) := by
    simp only [scoring, map, List.filter_map]
    rfl
  rw [score, score, hscoring, List.map_map]
  change (if Arith.isZero w.averageLength then _ else _) = _
  split
  case isTrue => rfl
  case isFalse h =>
      have hterms : w.scoring.map
          ((w.map some).term d ∘ Prod.map id (DimensionStats.map some)) =
          (w.scoring.map (w.term d)).map some := by
        rw [List.map_map]
        exact List.map_congr_left fun e _ => term_some (Bool.not_eq_true _ ▸ h) d e
      rw [hterms, Checked.total_some]

end Weights

end Checked

/-! ### Rankings -/

variable {K : Type} [Field K] [LinearOrder K] [Logarithm K]

namespace Weights

theorem share_some (sum w : K) : share (some sum) (some w) = some (share sum w) := by
  rw [share, share, Checked.isPositive_some]
  split
  case isTrue h =>
      exact Checked.div_some w (Exact.isZero_eq_false_iff.2 (Exact.isPositive_iff.1 h).ne')
  case isFalse => rfl

variable [IsStrictOrderedRing K]

theorem isZero_ofNat {n : Nat} (h : n ≠ 0) : Arith.isZero (Arith.ofNat n : K) = false :=
  Exact.isZero_eq_false_iff.2 (Nat.cast_ne_zero.2 h)

theorem rarity_some (total counted : Nat) :
    (rarity total counted : Option K) = some (rarity total counted) := by
  rw [rarity, rarity]
  split
  case isTrue => rfl
  case isFalse h =>
      rw [Checked.ofNat_eq, Checked.ofNat_eq, Checked.ofNat_eq, Checked.add_some,
        Checked.div_some _ (isZero_ofNat h), Checked.ln_some]

theorem meanLength_some (ds : List Document) :
    (meanLength ds : Option K) = some (meanLength ds) := by
  cases ds with
  | nil => rfl
  | cons d ds =>
      have hne : (d :: ds).length ≠ 0 := Nat.succ_ne_zero ds.length
      have hlengths : ((d :: ds).map fun e => (Arith.ofNat e.length : Option K)) =
          ((d :: ds).map fun e => (Arith.ofNat e.length : K)).map some := by
        rw [List.map_map]
        rfl
      change Arith.div (Arith.total ((d :: ds).map fun e => (Arith.ofNat e.length : Option K)))
        (some (Arith.ofNat (d :: ds).length)) = _
      rw [hlengths, Checked.total_some, Checked.div_some _ (isZero_ofNat hne)]
      rfl

theorem build_some (c : Config K) (ds : List Document) :
    build (c.map some) ds = (build c ds).map some := by
  have hraw : rawWeights (c.map some) = (rawWeights c).map (Prod.map id some) :=
    rawWeights_map (f := some) (fun _ => rfl) rfl c
  have hsum : Arith.total ((rawWeights (c.map some)).map fun e => Arith.abs e.2) =
      some (Arith.total ((rawWeights c).map fun e => Arith.abs e.2)) := by
    rw [← Checked.total_some]
    simp only [hraw, List.map_map, Function.comp_def, Prod.map_snd, Checked.abs_some]
  have hlengthShare : Arith.div (c.map some).lengthWeight (Arith.ofNat 10) =
      some (Arith.div c.lengthWeight (Arith.ofNat 10)) :=
    Checked.div_some c.lengthWeight (isZero_ofNat (by decide))
  simp only [build, hsum, hlengthShare, meanLength_some]
  simp only [hraw, List.map_map, map, Function.comp_def, Prod.map_fst, Prod.map_snd, share_some,
    rarity_some]
  rfl

end Weights

variable [IsStrictOrderedRing K]

/-- **No ranking divides by zero.** -/
theorem rerank_some (c : Config K) (a : Collection) :
    rerank (c.map some) a = (rerank c a).map some := by
  have hscored : ∀ (w : Weights K) (ds : List Document),
      (ds.map fun d => ⟨d, (w.map some).score d⟩) =
        (ds.map fun d => (⟨d, w.score d⟩ : Scored K)).map (Scored.map some) := by
    intro w ds
    rw [List.map_map]
    refine List.map_congr_left fun d _ => ?_
    rw [Weights.score_some]
    rfl
  have hmode : (c.map some).sortMode = c.sortMode :=
    Config.sortMode_map (f := some) (fun _ => rfl) c
  have haccepts : (c.map some).accepts = c.accepts := rfl
  have harrange := arrange_map (f := (some : K → Option K)) fun _ _ => rfl
  simp only [rerank, Ranked.map, hmode, haccepts, Weights.build_some, hscored, harrange]

end GradedReading.Ranking
