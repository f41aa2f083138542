/-!
# GradedReading.Format.Toml.Value

The values of a TOML document.

**Key idea:** a table remembers how it came about, for that decides who may add to it later: a
table that a longer header only implies may get a header of its own once, one that dotted keys made
may get more dotted keys, and one in braces is closed.
-/

namespace GradedReading.Format.Toml

/-- How a table came about. -/
inductive Origin where
  /-- By a header, or the document itself. -/
  | header
  /-- On the way to a longer header. -/
  | implied
  /-- On the way of a dotted key. -/
  | dotted
  /-- In braces. -/
  | braces
deriving DecidableEq, Repr, Inhabited

/-- A value. -/
inductive Value where
  | text (s : String)
  /-- An integer; none if its digits are no number. -/
  | integer (n : Option Int)
  /-- A float; none if it is too large. -/
  | float (x : Option Float)
  | boolean (b : Bool)
  /-- A date, a time or both. -/
  | date
  | array (items : List Value)
  /-- An array whose tables are written under headers. -/
  | tables (items : List Value)
  | table (origin : Origin) (entries : List (String × Value))

namespace Value

/-- A table without entries. -/
def newTable (origin : Origin) : Value := .table origin []

/-- Set the last entry with a key, or add it at the end. -/
def setEntry (key : String) (v : Value) : List (String × Value) → List (String × Value)
  | [] => [(key, v)]
  | (k, old) :: rest => if k = key then (k, v) :: rest else (k, old) :: setEntry key v rest

/-- Apply `f` to the table that is reached from `v` by the keys of a path, with the tables on the
way made where they are missing. `byKey` tells a dotted key from a header: only a header may pass
through a table that has a header. -/
def within (byKey : Bool) (f : Value → Option Value) : List String → Value → Option Value
  | [], v => f v
  | key :: path, .table origin entries =>
    let enter (v : Value) := within byKey f path v
    let child := match entries.lookup key with
      | none => enter (newTable (if byKey then .dotted else .implied))
      | some (.tables items) => do
        let last ← items.getLast?
        pure (.tables (items.dropLast ++ [← enter last]))
      | some (.table o es) =>
        if o == Origin.braces || (byKey && o == Origin.header) then none
        else enter (.table o es)
      | some _ => none
    child.map fun c => .table origin (setEntry key c entries)
  | _ :: _, _ => none

/-- Add a new entry to a table. -/
def addEntry (key : String) (v : Value) : Value → Option Value
  | .table origin entries =>
    if (entries.lookup key).isSome then none else some (.table origin (entries ++ [(key, v)]))
  | _ => none

/-- Add a new entry to a table, unless it was made by dotted keys and this key is not dotted, or
the other way round. -/
def addKeyed (isDotted : Bool) (key : String) (v : Value) : Value → Option Value
  | .table origin entries =>
    if (origin == Origin.dotted) == isDotted then addEntry key v (.table origin entries) else none
  | _ => none

/-- Give a value to a dotted key. -/
def assign (path : List String) (key : String) (v : Value) (table : Value) : Option Value :=
  within true (addKeyed (!path.isEmpty) key v) path table

/-- Open the table under a header. -/
def openTable (key : String) : Value → Option Value
  | .table origin entries =>
    match entries.lookup key with
    | none => some (.table origin (entries ++ [(key, newTable .header)]))
    | some (.table .implied es) => some (.table origin (setEntry key (.table .header es) entries))
    | some _ => none
  | _ => none

/-- Open one more table of an array under a header. -/
def openItem (key : String) : Value → Option Value
  | .table origin entries =>
    match entries.lookup key with
    | none => some (.table origin (entries ++ [(key, .tables [newTable .header])]))
    | some (.tables items) =>
      some (.table origin (setEntry key (.tables (items ++ [newTable .header])) entries))
    | some _ => none
  | _ => none

/-! ### Reading values as what they are meant to be -/

/-- A natural number below `2 ^ 64`. -/
def natural? : Value → Option Nat
  | .integer (some n) => if 0 ≤ n && n < Nat.pow 2 64 then some n.toNat else none
  | _ => none

/-- A text. -/
def text? : Value → Option String
  | .text s => some s
  | _ => none

/-- The items of an array. -/
def items? : Value → Option (List Value)
  | .array vs => some vs
  | .tables vs => some vs
  | _ => none

/-- The choice of a name: the name alone, or a table with nothing under it. -/
def choice? : Value → Option String
  | .text s => some s
  | .table _ [(name, .array [])] => some name
  | .table _ [(name, .table _ [])] => some name
  | _ => none

/-- The values of named fields, in the order of the names: from a table with no other key, or from
an array that has them all. -/
def fields? (names : List String) : Value → Option (List (Option Value))
  | .table _ entries =>
    if entries.all fun e => names.contains e.1 then some (names.map fun n => entries.lookup n)
    else none
  | .array vs | .tables vs =>
    if names.length ≤ vs.length then some ((vs.take names.length).map some) else none
  | _ => none

end Value

end GradedReading.Format.Toml
