import GradedReading.Number.Layout

/-!
# GradedReading.Format.Json

JSON text with one member per line, indented by two blanks.

Floats are written in the shortest form that reads back; a float that is not finite is written as
`null`. Strings escape quotes, backslashes and control characters and nothing else.
-/

namespace GradedReading.Format

open Number

/-- A JSON value whose objects keep their members in order. -/
inductive Json where
  | null
  | string (s : String)
  | nat (n : Nat)
  | float (x : Float)
  | array (items : List Json)
  | object (members : List (String × Json))

namespace Json

/-- Floats have a signed exponent, and those that are not finite are null. -/
def floatStyle : FloatStyle :=
  { leastPositional := -5, exponentPlus := "+"
    nanText := "null", infinityText := "null", negativeInfinityText := "null" }

/-- A digit of base sixteen. -/
def hexDigit (n : Nat) : Char := Nat.digitChar n

/-- One character inside quotes. -/
def escapeChar (c : Char) : List Char :=
  if c = '"' then ['\\', '"']
  else if c = '\\' then ['\\', '\\']
  else if c = '\n' then ['\\', 'n']
  else if c = '\r' then ['\\', 'r']
  else if c = '\t' then ['\\', 't']
  else if c = '\x08' then ['\\', 'b']
  else if c = '\x0c' then ['\\', 'f']
  else if c.toNat < 32 then
    ['\\', 'u', '0', '0', hexDigit (c.toNat / 16), hexDigit (c.toNat % 16)]
  else [c]

/-- A string in quotes. -/
def quote (s : String) : String :=
  String.ofList ('"' :: s.toList.flatMap escapeChar ++ ['"'])

/-- A line break and the indentation of a depth. -/
def newline (depth : Nat) : String := "\n" ++ String.ofList (List.replicate (2 * depth) ' ')

/-- Items between two brackets, each on a line of its own. -/
def bracketed (left right : String) (depth : Nat) (items : List String) : String :=
  if items.isEmpty then left ++ right
  else
    left ++ newline (depth + 1) ++ (("," ++ newline (depth + 1)).intercalate items) ++
      newline depth ++ right

mutual

/-- The text of a value at a depth of nesting. -/
def renderAt (depth : Nat) : Json → String
  | .null => "null"
  | .string s => quote s
  | .nat n => toString n
  | .float x => shortestText floatStyle x
  | .array items => bracketed "[" "]" depth (renderItems (depth + 1) items)
  | .object members => bracketed "\x7b" "\x7d" depth (renderMembers (depth + 1) members)

/-- The texts of the items of an array. -/
def renderItems (depth : Nat) : List Json → List String
  | [] => []
  | x :: xs => renderAt depth x :: renderItems depth xs

/-- The texts of the members of an object. -/
def renderMembers (depth : Nat) : List (String × Json) → List String
  | [] => []
  | (k, x) :: ms => (quote k ++ ": " ++ renderAt depth x) :: renderMembers depth ms

end

/-- The text of a value. -/
def render (x : Json) : String := renderAt 0 x

/-- A string, or null. -/
def ofString? : Option String → Json
  | some s => .string s
  | none => .null

end Json

end GradedReading.Format
