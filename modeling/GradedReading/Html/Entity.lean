import Std.Data.HashMap
import GradedReading.Html.EntityTable
import GradedReading.Number.Reader

/-!
# GradedReading.Html.Entity

Character references: `&amp;`, `&#233;`, `&#xe9;`.

**Key idea:** a named reference is the longest known name right after the ampersand. A name without
its semicolon counts too, except in an attribute where it goes on like a longer word. A numeric
reference is any number of digits, with or without a semicolon; numbers that are no character give
the replacement character.
-/

namespace GradedReading.Html

open Number

/-- The character that stands for whatever cannot be shown. -/
def replacement : Char := '\ufffd'

/-- Read one entry of the table. -/
def readEntity (entry : String) : Option (String × List Char) :=
  match entry.splitOn "=" with
  | [name, codes] =>
    some (name, (codes.splitOn "+").map fun c => Char.ofNat (digitsValue 16 c.toList))
  | _ => none

/-- The named references. -/
def entities : Std.HashMap String (List Char) :=
  Std.HashMap.ofList ((entityLines.flatMap fun line => line.splitOn " ").filterMap readEntity)

/-- No name is longer than this. -/
def longestName : Nat := 32

/-- An ASCII letter or digit. -/
def isNameChar (c : Char) : Bool := c.isAlphanum

/-- The longest known name among the first `n` characters: how many it takes and what it means. -/
def longestEntity (cs : List Char) : Nat → Option (Nat × List Char)
  | 0 => none
  | n + 1 =>
    let name := cs.take (n + 1)
    match entities[String.ofList name]? with
    | some meaning => if name.length = n + 1 then some (n + 1, meaning) else longestEntity cs n
    | none => longestEntity cs n

/-- The characters that the numbers 128 to 159 stand for in old pages, in order. A zero stands for
the number itself. -/
def oldCodes : List Nat :=
  [0x20ac, 0, 0x201a, 0x0192, 0x201e, 0x2026, 0x2020, 0x2021, 0x02c6, 0x2030, 0x0160, 0x2039,
   0x0152, 0, 0x017d, 0, 0, 0x2018, 0x2019, 0x201c, 0x201d, 0x2022, 0x2013, 0x2014, 0x02dc,
   0x2122, 0x0161, 0x203a, 0x0153, 0, 0x017e, 0x0178]

/-- The character of a numeric reference. -/
def charOfCode (n : Nat) : Char :=
  if n = 0 ∨ n > 0x10ffff ∨ (0xd800 ≤ n ∧ n ≤ 0xdfff) then replacement
  else if 0x80 ≤ n ∧ n ≤ 0x9f then
    match oldCodes.getD (n - 0x80) 0 with
    | 0 => Char.ofNat n
    | m => Char.ofNat m
  else Char.ofNat n

/-- What stands after a numeric reference: whether its semicolon is missing, and the rest. -/
def afterNumber : List Char → Bool × List Char
  | ';' :: cs => (false, cs)
  | cs => (true, cs)

/-- A numeric reference after `&#`: the character, whether the semicolon is missing, and the
rest. -/
def numericReference (cs : List Char) : Option (Char × Bool × List Char) :=
  let (base, digits) : Nat × List Char := match cs with
    | 'x' :: r => (16, r)
    | 'X' :: r => (16, r)
    | r => (10, r)
  let isBaseDigit (c : Char) : Bool := if base = 16 then (digitValue? c).isSome else isDigit c
  let ds := digits.takeWhile isBaseDigit
  if ds.isEmpty then none
  else some (charOfCode (digitsValue base ds), afterNumber (digits.dropWhile isBaseDigit))

/-- A numeric reference, after its `&`, that lacks its semicolon. -/
def lacksSemicolon (cs : List Char) : Bool :=
  match cs with
  | '#' :: r => (numericReference r).any (·.2.1)
  | _ => false

/-- A name without semicolon that goes on like a longer word. -/
def goesOn (cs : List Char) (n : Nat) : Bool :=
  cs[n - 1]? != some ';' &&
    (match cs[n]? with
     | some c => c == '=' || isNameChar c
     | none => false)

/-- A reference after `&`: the characters that it stands for and the rest. -/
def reference (inAttribute : Bool) (cs : List Char) : Option (List Char × List Char) :=
  match cs with
  | '#' :: r => (numericReference r).map fun (c, _, rest) => ([c], rest)
  | c :: _ =>
    if isNameChar c then
      match longestEntity cs longestName with
      | some (n, meaning) => if inAttribute && goesOn cs n then none else some (meaning, cs.drop n)
      | none => none
    else none
  | [] => none

/-- Replace the references in a text. Each step drops at least one character, so `fuel` need not be
more than their number. -/
def decodeReferences (inAttribute : Bool) : Nat → List Char → List Char
  | 0, cs => cs
  | _, [] => []
  | fuel + 1, '&' :: cs =>
    match reference inAttribute cs with
    | some (meaning, rest) => meaning ++ decodeReferences inAttribute fuel rest
    | none => '&' :: decodeReferences inAttribute fuel cs
  | fuel + 1, c :: cs => c :: decodeReferences inAttribute fuel cs

end GradedReading.Html
