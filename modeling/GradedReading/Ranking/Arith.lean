/-!
# GradedReading.Ranking.Arith

The numbers that rankings are computed with.

**Key idea:** weights and scores are written over any type of numbers with the operations of
`Arith`. Programs use doubles; laws that doubles do not obey can be stated of exact numbers, with
the very same formulas.
-/

namespace GradedReading.Ranking

/-- Numbers for weights and scores. -/
class Arith (α : Type) where
  ofNat : Nat → α
  add : α → α → α
  sub : α → α → α
  mul : α → α → α
  div : α → α → α
  abs : α → α
  /-- The natural logarithm. -/
  ln : α → α
  /-- The value of a sum without terms. -/
  emptySum : α
  isZero : α → Bool
  lt : α → α → Bool
  /-- The order in which scores are sorted. It is total, on whatever values there are. -/
  atLeast : α → α → Bool
  /-- How soon further occurrences stop to count. -/
  saturation : α

namespace Arith

variable {α : Type} [Arith α]

/-- The sum of a list, from left to right. -/
def total (xs : List α) : α := xs.foldl add emptySum

/-- Zero. -/
def zero : α := ofNat 0

/-- Above zero. -/
def isPositive (x : α) : Bool := lt zero x

/-- Keep a number between two bounds. What compares with neither stays as it is. -/
def clamp (low high x : α) : α := if lt x low then low else if lt high x then high else x

end Arith

/-- A whole number that orders doubles by sign and magnitude, from negative to positive NaN. -/
def orderKey (x : Float) : Int :=
  let bits := x.toBits.toNat
  if bits < Nat.pow 2 63 then bits else -((bits - Nat.pow 2 63 : Nat) : Int) - 1

instance : Arith Float where
  ofNat := Nat.toFloat
  add := (· + ·)
  sub := (· - ·)
  mul := (· * ·)
  div := (· / ·)
  abs := Float.abs
  ln := Float.log
  emptySum := -0.0
  isZero x := x == 0.0
  lt x y := x < y
  atLeast x y := orderKey x ≥ orderKey y
  saturation := 1.7

end GradedReading.Ranking
