import GradedReading.Format.Toml.Value
import GradedReading.Number.Reader
import GradedReading.Text.Blank

/-!
# GradedReading.Format.Toml.Scalar

Values that are written without quotes or brackets: numbers, truth values, dates and times.

**Key idea:** the form of a number is judged where it is written, its value where it is used. The
form asks for digits in their places, underscores between digits and no leading zero; a number of
the right form may still have no value, such as `0x` or `1_a` or a float that is too large. That is
no error as long as nobody asks for it.

Integers in base 16, 8 and 2 have a small letter in front and no sign.
-/

namespace GradedReading.Format.Toml

open Number

/-! ### Underscores -/

/-- The parts between underscores begin and end with digits. The first part is free to begin with
a sign, and a first part of one character is not looked at. -/
def partsFit (isDigit : Char → Bool) (parts : List (List Char)) : Bool :=
  (parts.drop 1).all (·.head?.any isDigit) &&
    parts.dropLast.all fun p => !p.isEmpty && (p.length = 1 || p.getLast?.any isDigit)

/-- The text without its underscores, if these stand between digits. -/
def withoutUnderscores? (isDigit : Char → Bool) (cs : List Char) : Option (List Char) :=
  let parts := Text.splitOnClass (· == '_') cs
  if partsFit isDigit parts then some parts.flatten else none

/-! ### Integers -/

/-- A digit of a base up to sixteen. -/
def isDigitOf (base : Nat) (c : Char) : Bool :=
  match digitValue? c with
  | some d => d < base
  | none => false

/-- The integer that a sign and decimal digits stand for, if these are digits. -/
def integerValue? (cs : List Char) : Option Int :=
  let (negative, ds) := splitSign cs
  if ds.isEmpty || !ds.all isDigit then none
  else
    let n : Int := digitsValue 10 ds
    some (if negative then -n else n)

/-- A decimal integer. Its underscores may stand between digits of any base up to sixteen. -/
def decimalInteger? (cs : List Char) : Option Value :=
  (withoutUnderscores? (isDigitOf 16) cs).map fun cs => .integer (integerValue? cs)

/-- An integer in this base, after its letter. Without any digit it has the form of a number. -/
def inBase? (base : Nat) (cs : List Char) : Option Value :=
  if cs.all fun c => isDigitOf base c || c == '_' then
    if cs.isEmpty then some (.integer none)
    else
      (withoutUnderscores? (isDigitOf 16) cs).map fun ds => .integer (some (digitsValue base ds))
  else none

/-! ### Floats -/

/-- What follows the digits and underscores at the front, which hold at least one digit. -/
def afterDigits? (cs : List Char) : Option (List Char) :=
  let isPart (c : Char) : Bool := isDigit c || c == '_'
  if (cs.takeWhile isPart).any isDigit then some (cs.dropWhile isPart) else none

/-- What follows a fraction, if there is one. -/
def afterFraction? : List Char → Option (List Char)
  | '.' :: cs => afterDigits? cs
  | cs => some cs

/-- What follows an exponent, if there is one. -/
def afterExponent? : List Char → Option (List Char)
  | [] => some []
  | c :: cs => if c == 'e' || c == 'E' then afterDigits? (splitSign cs).2 else some (c :: cs)

/-- A float after its sign: a whole part without a leading zero, a fraction and an exponent. -/
def hasFloatForm (cs : List Char) : Bool :=
  let digits := (cs.takeWhile fun c => isDigit c || c == '_').countP isDigit
  (digits = 1 || cs.head? != some '0') &&
    (do afterExponent? (← afterFraction? (← afterDigits? cs))) == some []

/-- The value of a float, unless it is too large for a double. -/
def floatValue? (cs : List Char) : Option Float :=
  match readFloat (String.ofList cs) with
  | .ok x => if x.isInf then none else some x
  | .error _ => none

/-- A float; `body` is what follows its sign. -/
def float? (cs body : List Char) : Option Value :=
  if hasFloatForm body then
    (withoutUnderscores? isDigit cs).map fun cs => .float (floatValue? cs)
  else none

/-- Infinity or a number that is none. -/
def named? (negative : Bool) (cs : List Char) : Option Value :=
  if cs == "inf".toList then
    some (.float (some (Float.ofBits (if negative then 0xfff0000000000000 else 0x7ff0000000000000))))
  else if cs == "nan".toList then some (.float (some (Float.ofBits 0x7ff8000000000000)))
  else none

/-! ### Dates and times -/

/-- Exactly `n` digits at the front, as a number. -/
def fixedDigits? (n : Nat) (cs : List Char) : Option (Nat × List Char) :=
  let ds := cs.take n
  if ds.length = n && ds.all isDigit then some (digitsValue 10 ds, cs.drop n) else none

/-- A character that has to come next. -/
def expect? (c : Char) : List Char → Option (List Char)
  | d :: cs => if d = c then some cs else none
  | [] => none

/-- The days of a month. -/
def daysIn (year month : Nat) : Nat :=
  if month = 2 then
    if year % 4 = 0 && (year % 100 != 0 || year % 400 = 0) then 29 else 28
  else if [4, 6, 9, 11].contains month then 30
  else 31

/-- A date at the front; the rest follows it. -/
def afterDate? (cs : List Char) : Option (List Char) := do
  let (year, cs) ← fixedDigits? 4 cs
  let (month, cs) ← fixedDigits? 2 (← expect? '-' cs)
  let (day, cs) ← fixedDigits? 2 (← expect? '-' cs)
  if 1 ≤ month && month ≤ 12 && 1 ≤ day && day ≤ daysIn year month then some cs else none

/-- Hours and minutes at the front. -/
def afterMinutes? (cs : List Char) : Option (List Char) := do
  let (hour, cs) ← fixedDigits? 2 cs
  let (minute, cs) ← fixedDigits? 2 (← expect? ':' cs)
  if hour < 24 && minute < 60 then some cs else none

/-- Seconds at the front, if there are any, with an optional fraction. -/
def afterSeconds? (cs : List Char) : Option (List Char) :=
  match cs with
  | ':' :: cs => do
    let (second, cs) ← fixedDigits? 2 cs
    if second > 60 then none
    else
      match cs with
      | '.' :: cs =>
        let ds := cs.takeWhile isDigit
        if ds.isEmpty then none else some (cs.drop ds.length)
      | cs => some cs
  | cs => some cs

/-- A time at the front. -/
def afterTime? (cs : List Char) : Option (List Char) := do afterSeconds? (← afterMinutes? cs)

/-- The offset from universal time at the end of a date with a time; it may be missing. -/
def isOffset (cs : List Char) : Bool :=
  match cs with
  | [] => true
  | ['Z'] | ['z'] => true
  | '+' :: cs | '-' :: cs => afterMinutes? cs == some []
  | _ => false

/-- A date, a time, or a date with a time. -/
def isDate (cs : List Char) : Bool :=
  match afterDate? cs with
  | some [] => true
  | some (c :: rest) =>
    (c == 'T' || c == 't' || c == ' ') &&
      (match afterTime? rest with
       | some offset => isOffset offset
       | none => false)
  | none => afterTime? cs == some []

/-! ### Scalars -/

/-- A number or a date; `body` is what follows the sign. What comes after the first digits decides
which. -/
def numberOrDate? (cs body : List Char) : Option Value :=
  let rest := body.dropWhile isDigit
  if rest.head? == some '-' || rest.head? == some ':' then
    if isDate cs then some .date else none
  else if rest.contains ' ' then none
  else if rest.any fun c => c == '.' || c == 'e' || c == 'E' then float? cs body
  else if rest.isEmpty || rest.head? == some '_' then
    if body.head? == some '0' && body.length > 1 then none else decimalInteger? cs
  else none

/-- What follows a sign. -/
def signed? (cs : List Char) (negative : Bool) (body : List Char) : Option Value :=
  if body.head?.any fun c => isDigit c || c == '_' then numberOrDate? cs body
  else named? negative body

/-- The value that a scalar stands for. -/
def scalar? (cs : List Char) : Option Value :=
  match cs with
  | '0' :: 'x' :: ds => inBase? 16 ds
  | '0' :: 'o' :: ds => inBase? 8 ds
  | '0' :: 'b' :: ds => inBase? 2 ds
  | '+' :: body => signed? cs false body
  | '-' :: body => signed? cs true body
  | cs =>
    if cs == "true".toList then some (.boolean true)
    else if cs == "false".toList then some (.boolean false)
    else signed? cs false cs

end GradedReading.Format.Toml
