import GradedReading.CommandLine.Option

/-!
# GradedReading.CommandLine.Given

What a command line gives: parameters with their values.

**Key idea:** arguments are read from left to right. An option waits for its values until the next
option, operand or the end; only then are the values checked. So of two mistakes in a command line
the one that is noticed first is reported: an option that is not known is noticed at once, values
only when the wait for them is over.
-/

namespace GradedReading.CommandLine

/-- The parameters given so far. -/
structure Given where
  /-- Parameters with values that were checked. -/
  settled : List (Param × List String)
  /-- The parameter that waits for more values, with those it has. -/
  waiting : Option (Param × List String)
deriving Repr, Inhabited

namespace Given

/-- Nothing given yet. -/
def nothing : Given := ⟨[], none⟩

/-- The parameter was given. -/
def has (g : Given) (p : Param) : Bool := g.settled.any (·.1 == p)

/-- All values of a parameter, in the order in which they were given. -/
def values (g : Given) (p : Param) : List String :=
  (g.settled.filter (·.1 == p)).flatMap (·.2)

/-- The value of a parameter that is given once. -/
def value? (g : Given) (p : Param) : Option String := (g.values p).head?

/-- Settle a parameter with its values. -/
def record (g : Given) (p : Param) (values : List String) : Except UsageError Given :=
  if p.arity ≠ .flag && values.isEmpty then .error .invalidValue
  else if p = .help then .error .help
  else if !p.repeatable && g.has p then .error .givenTwice
  else do
    values.forM p.check
    pure { g with settled := g.settled ++ [(p, values)] }

/-- End the wait for values. -/
def settle (g : Given) : Except UsageError Given :=
  match g.waiting with
  | none => .ok g
  | some (p, values) => { g with waiting := none }.record p values

/-- A parameter with all its values. -/
def give (g : Given) (p : Param) (values : List String) : Except UsageError Given := do
  (← g.settle).record p values

/-- A parameter whose values follow. -/
def await (g : Given) (p : Param) (values : List String) : Except UsageError Given := do
  pure { ← g.settle with waiting := some (p, values) }

/-- One more value for the parameter that waits. -/
def addValue (g : Given) (value : String) : Given :=
  { g with waiting := g.waiting.map fun (p, values) => (p, values ++ [value]) }

end Given

/-- The state of reading: what was given, and the option that takes the next argument. -/
abbrev Reading := Given × Option Param

/-- The option with this word. -/
def longOption? (c : Option Command) (name : String) : Option Param :=
  (Param.known c).find? (·.long == name)

/-- The option with this letter. -/
def shortOption? (c : Option Command) (letter : Char) : Option Param :=
  (Param.known c).find? (·.short? == some letter)

/-- An argument after two dashes: a word, or a word with a value after an equals sign. -/
def readLong (c : Option Command) (g : Given) (body : List Char) : Except UsageError Reading := do
  let (name, value?) := match Format.splitEquals body with
    | some (name, value) => (String.ofList name, some (String.ofList value))
    | none => (String.ofList body, none)
  match longOption? c name with
  | none => .error .unknownArgument
  | some p =>
    match p.arity, value? with
    | .flag, some _ => .error .unexpectedValue
    | .flag, none => pure (← g.give p [], none)
    | _, some v => pure (← g.give p [v], none)
    | _, none => pure (← g.await p [], some p)

/-- Letters after one dash. The first one that takes a value takes what follows it, if anything
does. -/
def readShort (c : Option Command) (g : Given) : List Char → Except UsageError Reading
  | [] => .ok (g, none)
  | letter :: rest =>
    match shortOption? c letter with
    | none => .error .unknownArgument
    | some p =>
      if p.arity = .flag then do readShort c (← g.give p []) rest
      else
        match rest with
        | [] => do pure (← g.await p [], some p)
        | '=' :: value => do pure (← g.give p [String.ofList value], none)
        | value => do pure (← g.give p [String.ofList value], none)

/-- The operand at a place, counted from zero. -/
def operand? : Command → Nat → Option Param
  | .search, 0 => some .query
  | .search, _ => none
  | .parse, _ => some .paths

/-- An argument by its place; the result counts the places that are taken. -/
def readOperand (c : Command) (g : Given) (place : Nat) (arg : String) :
    Except UsageError (Given × Nat) :=
  match operand? c place with
  | none => .error .unknownArgument
  | some p =>
    if p.arity = .many && g.waiting.any (·.1 == p) then .ok (g.addValue arg, place)
    else do pure (← g.await p [arg], place + 1)

/-- How an argument looks. -/
inductive Shape where
  /-- Two dashes alone: no options follow. -/
  | noMoreOptions
  | long (body : List Char)
  | short (letters : List Char)
  | plain
deriving DecidableEq, Repr

/-- The shape of an argument. A single dash is no option. -/
def Shape.of (arg : String) : Shape :=
  match arg.toList with
  | ['-', '-'] => .noMoreOptions
  | '-' :: '-' :: body => .long body
  | ['-'] => .plain
  | '-' :: letters => .short letters
  | _ => .plain

/-- Read the arguments after a command. `next` is the option that takes the next argument. -/
def readAfter (c : Command) (g : Given) (optionsOver : Bool) (next : Option Param) (place : Nat) :
    List String → Except UsageError Given
  | [] => g.settle
  | arg :: rest =>
    if optionsOver then do
      let (g, place) ← readOperand c g place arg
      readAfter c g true next place rest
    else
      match Shape.of arg with
      | .noMoreOptions => readAfter c g true next place rest
      | .long body => do
        let (g, next) ← readLong (some c) g body
        readAfter c g false next place rest
      | .short letters => do
        let (g, next) ← readShort (some c) g letters
        readAfter c g false next place rest
      | .plain =>
        match next with
        | some p =>
          readAfter c (g.addValue arg) false (if p.arity = .many then next else none) place rest
        | none => do
          let (g, place) ← readOperand c g place arg
          readAfter c g false none place rest

end GradedReading.CommandLine
