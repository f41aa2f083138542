import GradedReading.Number.Shortest

/-!
# GradedReading.Number.Layout

Doubles as text: the shortest form, in positional or scientific notation, and the form with a
fixed number of places.
-/

namespace GradedReading.Number

/-- How the shortest form of a double is laid out. -/
structure FloatStyle where
  /-- The least scientific exponent that is written in positional notation. -/
  leastPositional : Int
  /-- Written before a positive exponent. -/
  exponentPlus : String
  nanText : String
  infinityText : String
  negativeInfinityText : String
deriving Repr

/-- Scientific exponents that are written in positional notation. -/
def FloatStyle.isPositional (style : FloatStyle) (e : Int) : Bool :=
  style.leastPositional ≤ e && e ≤ 15

/-- The digits with a point inside, at the end or before, and at least one digit on both sides. -/
def positional (ds : List Char) (e : Int) : List Char :=
  if 0 ≤ e then
    let whole := ds.take (e.toNat + 1)
    let fraction := ds.drop (e.toNat + 1)
    whole ++ List.replicate (e.toNat + 1 - ds.length) '0' ++ ['.'] ++
      (if fraction.isEmpty then ['0'] else fraction)
  else ['0', '.'] ++ List.replicate ((-e).toNat - 1) '0' ++ ds

/-- One digit before the point, the others after it, and the exponent. -/
def scientific (style : FloatStyle) (ds : List Char) (e : Int) : List Char :=
  let fraction := ds.drop 1
  ds.take 1 ++ (if fraction.isEmpty then [] else '.' :: fraction) ++ ['e'] ++
    (if 0 ≤ e then style.exponentPlus.toList ++ decimalDigits e.toNat
     else '-' :: decimalDigits (-e).toNat)

/-- The shortest text of a double that reads back as the same double. -/
def shortestText (style : FloatStyle) (x : Float) : String :=
  match Double.ofFloat x with
  | .nan => style.nanText
  | .infinite negative => if negative then style.negativeInfinityText else style.infinityText
  | .finite b =>
    let d := shortest b.mantissa b.exponent
    let ds := decimalDigits d.digits
    let e : Int := d.exponent + (ds.length : Int) - 1
    let body := if style.isPositional e then positional ds e else scientific style ds e
    String.ofList (if b.negative then '-' :: body else body)

/-- A finite magnitude with `places` digits after the point; a half goes to the even digit. -/
def fixedDigits (places : Nat) (mantissa : Nat) (exponent : Int) : List Char :=
  let scaled :=
    roundQuotient (mantissa * Nat.pow 2 exponent.toNat * Nat.pow 10 places)
      (Nat.pow 2 (-exponent).toNat)
  let ds := decimalDigits scaled
  let padded := List.replicate (places + 1 - ds.length) '0' ++ ds
  let cut := padded.length - places
  if places == 0 then padded else padded.take cut ++ ['.'] ++ padded.drop cut

/-- The text of a double with a fixed number of digits after the point. -/
def fixedText (places : Nat) (x : Float) : String :=
  match Double.ofFloat x with
  | .nan => "NaN"
  | .infinite negative => if negative then "-inf" else "inf"
  | .finite b =>
    let body := fixedDigits places b.mantissa b.exponent
    String.ofList (if b.negative then '-' :: body else body)

end GradedReading.Number
