import GradedReading.Number.Double

/-!
# GradedReading.Number.Shortest

The fewest decimal digits that identify a double.

**Key idea:** the numbers that round to a double fill an interval around it, its ends included iff
the mantissa is even. For one digit, two digits and so on, the two neighbours of the value on that
decimal grid are tested against the interval; the first grid with a hit wins, and of two hits the
nearer one.
-/

namespace GradedReading.Number

/-- The number `digits · 10 ^ exponent`. -/
structure Decimal where
  digits : Nat
  exponent : Int
deriving DecidableEq, Repr, Inhabited

/-- The decimal digits of a natural number, the first one first. -/
def decimalDigits (n : Nat) : List Char := (Nat.toDigits 10 n)

/-- Drop the zeros at the end of the digits, `fuel` of them at most. -/
def Decimal.strip : Nat → Decimal → Decimal
  | 0, d => d
  | fuel + 1, d =>
    if d.digits != 0 && d.digits % 10 == 0 then strip fuel ⟨d.digits / 10, d.exponent + 1⟩ else d

/-- The interval of numbers that round to a double, all over one denominator. -/
structure RoundingInterval where
  low : Nat
  value : Nat
  high : Nat
  den : Nat
  closed : Bool
deriving Repr

/-- The interval around `mantissa · 2 ^ exponent`. Below a power of two the next double is only
half as far away. -/
def roundingInterval (mantissa : Nat) (exponent : Int) : RoundingInterval :=
  let narrow := mantissa == Nat.pow 2 mantissaBits && exponent > leastExponent
  let scale := Nat.pow 2 (exponent - 2).toNat
  { low := (4 * mantissa - (if narrow then 1 else 2)) * scale
    value := 4 * mantissa * scale
    high := (4 * mantissa + 2) * scale
    den := Nat.pow 2 (2 - exponent).toNat
    closed := mantissa % 2 == 0 }

/-- `n · 10 ^ e / den` compared with `x / den'` for `den = den'`: is it at most, is it below? -/
def gridCompare (n : Nat) (e : Int) (x den : Nat) : Ordering :=
  compare (n * Nat.pow 10 e.toNat * den) (x * Nat.pow 10 (-e).toNat)

/-- The point `n · 10 ^ e` lies in the interval. -/
def RoundingInterval.holds (r : RoundingInterval) (n : Nat) (e : Int) : Bool :=
  let lower := gridCompare n e r.low r.den
  let upper := gridCompare n e r.high r.den
  (lower == .gt || (r.closed && lower == .eq)) && (upper == .lt || (r.closed && upper == .eq))

/-- The better of the two neighbours of the value on the grid of multiples of `10 ^ e`. -/
def RoundingInterval.pick (r : RoundingInterval) (e : Int) : Option Nat :=
  let n := r.value * Nat.pow 10 (-e).toNat / (Nat.pow 10 e.toNat * r.den)
  let low := n != 0 && r.holds n e
  let high := r.holds (n + 1) e
  if low && high then
    match gridCompare (2 * n + 1) e (2 * r.value) r.den with
    | .gt => some n
    | .lt => some (n + 1)
    | .eq => some (if n % 2 == 0 then n else n + 1)
  else if low then some n
  else if high then some (n + 1)
  else none

/-- Try ever finer grids, from `10 ^ e` downwards. -/
def RoundingInterval.search (r : RoundingInterval) : Nat → Int → Decimal
  | 0, e => ⟨r.value * Nat.pow 10 (-e).toNat / (Nat.pow 10 e.toNat * r.den), e⟩
  | fuel + 1, e =>
    match r.pick e with
    | some n => Decimal.strip 20 ⟨n, e⟩
    | none => search r fuel (e - 1)

/-- An exponent `e` with `mantissa · 2 ^ exponent < 10 ^ (e + 1)`, at most a few too large. -/
def decimalOrder (mantissa : Nat) (exponent : Int) : Int :=
  ((mantissa.log2 : Int) + exponent) * 30103 / 100000 + 1

/-- The shortest decimal that reads back as `mantissa · 2 ^ exponent`, the nearest of those. -/
def shortest (mantissa : Nat) (exponent : Int) : Decimal :=
  if mantissa == 0 then ⟨0, 0⟩
  else (roundingInterval mantissa exponent).search 20 (decimalOrder mantissa exponent)

end GradedReading.Number
