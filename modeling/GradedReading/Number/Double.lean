/-!
# GradedReading.Number.Double

Doubles taken apart and put together.

**Key idea:** a finite double is a sign and an exact number `mantissa · 2 ^ exponent`; everything
that prints or reads doubles works on that number in exact integer arithmetic. `nearest` goes the
other way: it rounds a fraction to the nearest double, a tie to the even mantissa.
-/

namespace GradedReading.Number

/-- The magnitude `mantissa · 2 ^ exponent` with a sign. -/
structure Binary where
  negative : Bool
  mantissa : Nat
  exponent : Int
deriving DecidableEq, Repr, Inhabited

/-- What the bits of a double say. -/
inductive Double where
  | nan
  | infinite (negative : Bool)
  | finite (value : Binary)
deriving DecidableEq, Repr, Inhabited

/-- Bits of the mantissa field. -/
def mantissaBits : Nat := 52

/-- The exponent of the smallest doubles. -/
def leastExponent : Int := -1074

/-- Take the 64 bits of a double apart. -/
def Double.ofBits (bits : Nat) : Double :=
  let negative := bits / Nat.pow 2 63 % 2 == 1
  let field := bits / Nat.pow 2 mantissaBits % 2048
  let fraction := bits % Nat.pow 2 mantissaBits
  if field == 2047 then
    if fraction == 0 then .infinite negative else .nan
  else if field == 0 then .finite ⟨negative, fraction, leastExponent⟩
  else .finite ⟨negative, Nat.pow 2 mantissaBits + fraction, leastExponent + (field : Int) - 1⟩

/-- Take a double apart. -/
def Double.ofFloat (x : Float) : Double := .ofBits x.toBits.toNat

/-- The bits of a magnitude with the mantissa in its field's range, infinite when it is too large.
A mantissa that has just grown to `2 ^ 53` carries into the exponent by itself. -/
def magnitudeBits (mantissa : Nat) (exponent : Int) : Nat :=
  let field := (exponent - leastExponent).toNat
  let bits := field * Nat.pow 2 mantissaBits + mantissa
  if bits ≥ 2047 * Nat.pow 2 mantissaBits then 2047 * Nat.pow 2 mantissaBits else bits

/-- Round a quotient to the nearest natural number, a tie to the even one. -/
def roundQuotient (num den : Nat) : Nat :=
  let q := num / den
  let twice := 2 * (num % den)
  if twice > den || (twice == den && q % 2 == 1) then q + 1 else q

/-- The exponent at which `num / den` has a mantissa of 53 bits, or the least exponent there is. -/
def mantissaExponent (num den : Nat) : Int :=
  let guess : Int := (num.log2 : Int) - (den.log2 : Int) - 53
  let low : Int := max guess leastExponent
  let reaches (e : Int) : Bool :=
    if 0 ≤ e then num ≥ Nat.pow 2 53 * (den * Nat.pow 2 e.toNat)
    else num * Nat.pow 2 (-e).toNat ≥ Nat.pow 2 53 * den
  if reaches low then (if reaches (low + 1) then low + 2 else low + 1) else low

/-- The bits of the double nearest to `num / den`. -/
def nearestBits (num den : Nat) : Nat :=
  if num == 0 then 0
  else
    let e := mantissaExponent num den
    let m :=
      if 0 ≤ e then roundQuotient num (den * Nat.pow 2 e.toNat)
      else roundQuotient (num * Nat.pow 2 (-e).toNat) den
    magnitudeBits m e

/-- The double nearest to the fraction `num / den`, with a sign of its own. -/
def nearest (negative : Bool) (num den : Nat) : Float :=
  let bits := nearestBits num den
  Float.ofBits (if negative then bits + Nat.pow 2 63 else bits).toUInt64

end GradedReading.Number
