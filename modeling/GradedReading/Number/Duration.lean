import GradedReading.Number.Shortest

/-!
# GradedReading.Number.Duration

Stretches of time, counted in nanoseconds, and their text: the largest unit that leaves a whole
part, and as many decimals as are needed.
-/

namespace GradedReading.Number

/-- A stretch of time in nanoseconds. -/
structure Duration where
  nanos : Nat
deriving DecidableEq, Repr, Inhabited

namespace Duration

/-- Nanoseconds in a second. -/
def perSecond : Nat := 1000000000

/-- So many seconds. -/
def ofSeconds (n : Nat) : Duration := ⟨n * perSecond⟩

/-- So many milliseconds. -/
def ofMillis (n : Nat) : Duration := ⟨n * 1000000⟩

/-- `nanos` in units of `10 ^ places` nanoseconds, without zeros at the end of the fraction. -/
def inUnits (places : Nat) (nanos : Nat) : List Char :=
  let whole := decimalDigits (nanos / Nat.pow 10 places)
  let fraction := decimalDigits (nanos % Nat.pow 10 places)
  let padded := List.replicate (places - fraction.length) '0' ++ fraction
  let kept := (padded.reverse.dropWhile (· == '0')).reverse
  if places == 0 || kept.isEmpty then whole else whole ++ ['.'] ++ kept

/-- The text of a duration, such as `1.5s`, `20ms` or `0ns`. -/
def text (d : Duration) : String :=
  let n := d.nanos
  if n ≥ 1000000000 then String.ofList (inUnits 9 n) ++ "s"
  else if n ≥ 1000000 then String.ofList (inUnits 6 n) ++ "ms"
  else if n ≥ 1000 then String.ofList (inUnits 3 n) ++ "µs"
  else String.ofList (inUnits 0 n) ++ "ns"

end Duration

end GradedReading.Number
