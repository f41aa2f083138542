import GradedReading.Proofs.Ranking.Sorted
import Mathlib.Algebra.Order.Field.Basic
import Mathlib.Algebra.BigOperators.Group.List.Basic
import Mathlib.Analysis.SpecialFunctions.Log.Basic
import Mathlib.Tactic.FieldSimp
import Mathlib.Tactic.Linarith
import Mathlib.Tactic.Positivity
import Mathlib.Tactic.Ring

/-!
# GradedReading.Proofs.Ranking.Exact

Rankings in exact arithmetic.

**Key idea:** the formulas of a ranking are written over any numbers. Here they are read over an
ordered field, such as that of the rationals or the reals. A field has no logarithm, so one is
given, and nothing is asked of it here. Sums are then sums and quotients are quotients, and where
the formulas ask whether a number is zero before they divide by it, the field's own quotient by
zero is zero as well, so that the question can be dropped (`share_eq`, `meanLength_eq_div`,
`saturate_eq`).
-/

namespace GradedReading.Ranking

/-- A function in the place of the natural logarithm. -/
class Logarithm (K : Type) where
  ln : K → K

noncomputable instance : Logarithm ℝ := ⟨Real.log⟩

section Field

variable {K : Type} [Field K] [LinearOrder K] [Logarithm K]

/-- Exact arithmetic. -/
instance (priority := low) exactArith : Arith K where
  ofNat n := n
  add := (· + ·)
  sub := (· - ·)
  mul := (· * ·)
  div := (· / ·)
  abs := (|·|)
  ln := Logarithm.ln
  emptySum := 0
  isZero x := x = 0
  lt x y := x < y
  atLeast x y := y ≤ x
  saturation := 17 / 10

namespace Exact

@[simp] theorem ofNat_eq (n : Nat) : (Arith.ofNat n : K) = n := rfl

@[simp] theorem add_eq (x y : K) : Arith.add x y = x + y := rfl

@[simp] theorem sub_eq (x y : K) : Arith.sub x y = x - y := rfl

@[simp] theorem mul_eq (x y : K) : Arith.mul x y = x * y := rfl

@[simp] theorem div_eq (x y : K) : Arith.div x y = x / y := rfl

@[simp] theorem abs_eq (x : K) : Arith.abs x = |x| := rfl

@[simp] theorem ln_eq (x : K) : Arith.ln x = Logarithm.ln x := rfl

@[simp] theorem isZero_iff {x : K} : Arith.isZero x = true ↔ x = 0 := decide_eq_true_iff

@[simp] theorem isZero_eq_false_iff {x : K} : Arith.isZero x = false ↔ x ≠ 0 :=
  decide_eq_false_iff_not

@[simp] theorem lt_iff {x y : K} : Arith.lt x y = true ↔ x < y := decide_eq_true_iff

@[simp] theorem atLeast_iff {x y : K} : Arith.atLeast x y = true ↔ y ≤ x := decide_eq_true_iff

@[simp] theorem saturation_eq : (Arith.saturation : K) = 17 / 10 := rfl

@[simp] theorem zero_eq : (Arith.zero : K) = 0 := Nat.cast_zero

@[simp] theorem isPositive_iff {x : K} : Arith.isPositive x = true ↔ 0 < x := by
  rw [Arith.isPositive, lt_iff, zero_eq]

@[simp] theorem total_eq (xs : List K) : Arith.total xs = xs.sum := List.sum_eq_foldl.symm

end Exact

instance : Arith.IsOrdered K where
  atLeast_trans x y z hxy hyz :=
    Exact.atLeast_iff.2 ((Exact.atLeast_iff.1 hyz).trans (Exact.atLeast_iff.1 hxy))
  atLeast_total x y := by
    simp only [Bool.or_eq_true, Exact.atLeast_iff]
    exact le_total ..

end Field

/-! ### Formulas without a case for zero -/

namespace Weights

variable {K : Type} [Field K] [LinearOrder K] [Logarithm K]

theorem share_eq {sum : K} (h : 0 ≤ sum) (w : K) : share sum w = w / sum := by
  rw [share]
  split
  case isTrue => exact Exact.div_eq ..
  case isFalse hpos =>
      obtain rfl : sum = 0 := h.antisymm' (not_lt.1 (mt Exact.isPositive_iff.2 hpos))
      rw [div_zero, Exact.zero_eq]

theorem meanLength_eq_div (docs : List Document) :
    meanLength docs = (docs.map fun d => (d.length : K)).sum / docs.length := by
  cases docs with
  | nil => simp [meanLength]
  | cons d docs => simp [meanLength]

/-- How much longer than the others a document counts. -/
def norm (w : Weights K) (len : K) : K :=
  1 - w.lengthShare + w.lengthShare * (len / w.averageLength)

theorem saturate_eq (w : Weights K) (tf len : K) :
    w.saturate tf len = (w.saturation + 1) * tf / (tf + w.saturation * w.norm len) := by
  rw [saturate]
  simp only [Exact.isZero_iff, Exact.ofNat_eq, Exact.add_eq, Exact.sub_eq, Exact.mul_eq,
    Exact.div_eq, Exact.zero_eq, Nat.cast_one]
  change (if tf + w.saturation * w.norm len = 0 then _ else _) = _
  split
  case isTrue hzero => rw [hzero, div_zero]
  case isFalse => rfl

end Weights

end GradedReading.Ranking
