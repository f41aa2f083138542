import GradedReading.Number.Duration

/-!
# GradedReading.Pool.Clock

Moments on a clock that never goes back.

A moment holds its seconds in a signed word of 64 bits, so the clock ends somewhere, and a deadline
beyond its end cannot be told.
-/

namespace GradedReading

open Number

/-- A moment, in nanoseconds from the clock's own zero. -/
structure Moment where
  nanos : Int
deriving DecidableEq, Repr, Inhabited

namespace Moment

/-- The first moment beyond the clock's end. -/
def limit : Int := Nat.pow 2 63 * Duration.perSecond

/-- The clock can tell this moment. -/
def isTold (m : Moment) : Bool := -limit ≤ m.nanos && m.nanos < limit

/-- The moment a while later, if the clock can tell it. -/
def after? (m : Moment) (d : Duration) : Option Moment :=
  let later : Moment := ⟨m.nanos + d.nanos⟩
  if later.isTold then some later else none

/-- `a` is not later than `b`. -/
def atMost (a b : Moment) : Bool := a.nanos ≤ b.nanos

/-- The later of two moments. -/
def max (a b : Moment) : Moment := if a.atMost b then b else a

theorem after?_eq_some_iff {m m' : Moment} {d : Duration} :
    m.after? d = some m' ↔ m' = ⟨m.nanos + d.nanos⟩ ∧ m'.isTold := by
  simp only [after?, Option.ite_none_right_eq_some, Option.some.injEq]
  constructor
  · rintro ⟨h, rfl⟩
    exact ⟨rfl, h⟩
  · rintro ⟨rfl, h⟩
    exact ⟨h, rfl⟩

end Moment

end GradedReading
