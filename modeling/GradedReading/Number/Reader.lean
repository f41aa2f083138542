import GradedReading.Number.Double
import GradedReading.Text.Lowercase

/-!
# GradedReading.Number.Reader

Reading numbers that people write: decimal floats and natural numbers.

**Key idea:** a float is an optional sign followed by `inf`, `infinity` or `nan` in any case, or by
digits with at most one point among or around them and an optional exponent. The digits and the
exponent make an exact fraction, and the value is the double nearest to it.
-/

namespace GradedReading.Number

open GradedReading.Text

/-- An ASCII digit. -/
def isDigit (c : Char) : Bool := '0' ≤ c && c ≤ '9'

/-- The value of a digit of a base up to sixteen. -/
def digitValue? (c : Char) : Option Nat :=
  if isDigit c then some (c.toNat - 48)
  else if 'a' ≤ c && c ≤ 'f' then some (c.toNat - 87)
  else if 'A' ≤ c && c ≤ 'F' then some (c.toNat - 55)
  else none

/-- The number that these digits write in a base. -/
def digitsValue (base : Nat) (ds : List Char) : Nat :=
  ds.foldl (fun n c => n * base + (digitValue? c).getD 0) 0

/-- Why a text is no float. -/
inductive FloatError where
  | empty
  | invalid
deriving DecidableEq, Repr

/-- The wording of the error. -/
def FloatError.message : FloatError → String
  | .empty => "cannot parse float from empty string"
  | .invalid => "invalid float literal"

/-- The double nearest to `digits · 10 ^ exponent`. Magnitudes far outside the range of doubles are
decided by their order alone, so a huge exponent costs nothing. -/
def ofDecimal (negative : Bool) (digits : Nat) (exponent : Int) : Float :=
  let order : Int := (digits.log2 : Int) * 3 / 10 + exponent
  if digits == 0 then nearest negative 0 1
  else if order > 400 then nearest negative (Nat.pow 2 1100) 1
  else if order < -800 then nearest negative 0 1
  else if 0 ≤ exponent then nearest negative (digits * Nat.pow 10 exponent.toNat) 1
  else nearest negative digits (Nat.pow 10 (-exponent).toNat)

/-- Split off a leading sign; `true` stands for a minus. -/
def splitSign : List Char → Bool × List Char
  | '-' :: cs => (true, cs)
  | '+' :: cs => (false, cs)
  | cs => (false, cs)

/-- The exponent part of a float: nothing, or a mark followed by a number with an optional sign. -/
def exponentPart : List Char → Option Int
  | [] => some 0
  | c :: cs =>
    if c == 'e' || c == 'E' then
      let (negative, ds) := splitSign cs
      if ds.isEmpty || !ds.all isDigit then none
      else
        let n : Int := digitsValue 10 ds
        some (if negative then -n else n)
    else none

/-- Digits, an optional point and an optional exponent, after the sign. -/
def decimalPart (negative : Bool) (cs : List Char) : Option Float :=
  let whole := cs.takeWhile isDigit
  let rest := cs.dropWhile isDigit
  let (fraction, tail) := match rest with
    | '.' :: rest => (rest.takeWhile isDigit, rest.dropWhile isDigit)
    | rest => ([], rest)
  if whole.isEmpty && fraction.isEmpty then none
  else
    (exponentPart tail).map fun e =>
      ofDecimal negative (digitsValue 10 (whole ++ fraction)) (e - fraction.length)

/-- The named values, in any ASCII case. -/
def namedPart (negative : Bool) (cs : List Char) : Option Float :=
  let name := String.ofList (cs.map lowerAscii)
  if name == "inf" || name == "infinity" then
    some (Float.ofBits (if negative then 0xfff0000000000000 else 0x7ff0000000000000))
  else if name == "nan" then some (Float.ofBits 0x7ff8000000000000)
  else none

/-- Read a float. -/
def readFloat (s : String) : Except FloatError Float :=
  match s.toList with
  | [] => .error .empty
  | cs =>
    let (negative, body) := splitSign cs
    match (namedPart negative body).or (decimalPart negative body) with
    | some x => .ok x
    | none => .error .invalid

/-- Read a natural number below `2 ^ 64`: digits, after a plus sign or none. -/
def readNat64 (s : String) : Option Nat :=
  let ds := match s.toList with
    | '+' :: cs => cs
    | cs => cs
  if ds.isEmpty || !ds.all isDigit then none
  else
    let n := digitsValue 10 ds
    if n < Nat.pow 2 64 then some n else none

end GradedReading.Number
