/-!
# GradedReading.Pool.Schedule

Running a system in a fixed order.

A system can go on in many ways at any moment. Here it goes on in the first way that `next` offers,
until nothing is left to do, and only then does time pass.
-/

namespace GradedReading.Schedule

variable {σ : Type}

/-- The first step that is possible. -/
def firstOf (steps : List (σ → Option σ)) (s : σ) : Option σ := steps.findSome? (· s)

/-- Go on until nothing is left to do, at most `fuel` steps. -/
def settleDown (next : σ → Option σ) : (fuel : Nat) → σ → σ
  | 0, s => s
  | fuel + 1, s =>
    match next s with
    | some s' => settleDown next fuel s'
    | none => s

/-- Go on until nothing is left to do and the goal is reached, and let time pass as long as it is
not. Ends also when time can bring nothing more, or after `rounds` moments. -/
def goUntil (next passTime : σ → Option σ) (goal : σ → Bool) (fuel : Nat) :
    (rounds : Nat) → σ → σ
  | 0, s => settleDown next fuel s
  | rounds + 1, s =>
    let s := settleDown next fuel s
    if goal s then s
    else
      match passTime s with
      | some s' => goUntil next passTime goal fuel rounds s'
      | none => s

end GradedReading.Schedule
