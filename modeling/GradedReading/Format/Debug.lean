import GradedReading.Number.Layout
import GradedReading.Text.Table.Printable

/-!
# GradedReading.Format.Debug

Values as they are shown to developers: quoted texts, floats, lists and records.

A quoted text shows printable characters as they are and the others by their code point; marks
that join the character before them count as unprintable.
-/

namespace GradedReading.Format

open Number Text

namespace Debug

/-- Floats have an unsigned exponent, and those that are not finite are named. -/
def floatStyle : FloatStyle :=
  { leastPositional := -4, exponentPlus := ""
    nanText := "NaN", infinityText := "inf", negativeInfinityText := "-inf" }

/-- A character that is shown as it is. -/
def isShown (c : Char) : Bool :=
  if c.toNat < 127 then 32 ≤ c.toNat
  else !graphemeExtendPoints.has c && !unprintablePoints.has c

/-- One character inside quotes. -/
def escapeChar (c : Char) : List Char :=
  if c = '\x00' then ['\\', '0']
  else if c = '\t' then ['\\', 't']
  else if c = '\r' then ['\\', 'r']
  else if c = '\n' then ['\\', 'n']
  else if c = '\\' then ['\\', '\\']
  else if c = '"' then ['\\', '"']
  else if isShown c then [c]
  else ['\\', 'u', '\x7b'] ++ Nat.toDigits 16 c.toNat ++ ['\x7d']

/-- A text in quotes. -/
def text (s : String) : String := String.ofList ('"' :: s.toList.flatMap escapeChar ++ ['"'])

/-- A float. -/
def float (x : Float) : String := shortestText floatStyle x

/-- A truth value. -/
def bool (b : Bool) : String := if b then "true" else "false"

/-- A set or dictionary with these entries. -/
def braces (entries : List String) : String := "\x7b" ++ ", ".intercalate entries ++ "\x7d"

/-- A dictionary entry. -/
def entry (key value : String) : String := key ++ ": " ++ value

/-- A record with these named fields, of which there is at least one. -/
def record (name : String) (fields : List (String × String)) : String :=
  name ++ " \x7b " ++ ", ".intercalate (fields.map fun (k, v) => entry k v) ++ " \x7d"

end Debug

end GradedReading.Format
