/-!
# GradedReading.Text.CodePoints

Large sets of code points, such as the classes of the Unicode standard.

**Key idea:** a set is the ascending array of its *edges*, the code points at which membership
changes. A code point belongs to the set iff the number of edges at or below it is odd, and that
number is found by bisection.
-/

namespace GradedReading.Text

/-- A set of code points, given by the ascending list of code points where membership flips. -/
structure CodePoints where
  edges : Array Nat

namespace CodePoints

/-- Bisection between `lo` and `hi`: every edge before `lo` is at most `c`, every edge from `hi`
on is above it. `fuel` bounds the number of halvings. -/
def bisect (edges : Array Nat) (c : Nat) : Nat → Nat → Nat → Nat
  | 0, lo, _ => lo
  | fuel + 1, lo, hi =>
    if lo < hi then
      let mid := (lo + hi) / 2
      if edges.getD mid 0 ≤ c then bisect edges c fuel (mid + 1) hi
      else bisect edges c fuel lo mid
    else lo

/-- How many edges lie at or below `c`. -/
def rank (s : CodePoints) (c : Nat) : Nat :=
  bisect s.edges c (s.edges.size.log2 + 2) 0 s.edges.size

/-- Membership of a code point. -/
def contains (s : CodePoints) (c : Nat) : Bool :=
  s.rank c % 2 = 1

/-- Membership of a character. -/
def has (s : CodePoints) (c : Char) : Bool := s.contains c.toNat

end CodePoints

end GradedReading.Text
