import GradedReading.Parser.Heuristic
import GradedReading.Search.Provider
import GradedReading.Text.Blank

/-!
# GradedReading.Parser.Cache

Parsers that are built when they are first needed, one for each language, and shared from then on.

A parser may be slow to build and may change from call to call, so a language's parser is built at
most once and gets its calls one after the other.
-/

namespace GradedReading.Parser

open Search Text

/-- A parser for one language; `calls` is the number of its earlier calls. -/
structure Engine where
  parse : (calls : Nat) → Source → Reply ParseError Document

/-- Whoever builds parsers. -/
structure Factory where
  supports : Language → Bool
  create : Language → Except ParseError Engine

/-- The built-in parser for a language. -/
def heuristicEngine (l : Language) : Engine where
  parse _ source :=
    match parse l source with
    | .ok d => .value d
    | .error e => .error e

/-- The factory of the built-in parsers, which knows every language. -/
def heuristicFactory : Factory where
  supports _ := true
  create l := .ok (heuristicEngine l)

/-- A parser that is shared, and the number of its calls. -/
structure Shared where
  engine : Engine
  calls : Nat

/-- The parsers that were built. -/
structure Cache where
  parsers : List (Language × Shared)
  /-- The languages for which a parser was to be built, the oldest first. -/
  requests : List Language

namespace Cache

/-- No parser yet. -/
def empty : Cache := ⟨[], []⟩

/-- The parser of a language, if it was built. -/
def get? (c : Cache) (l : Language) : Option Shared := c.parsers.lookup l

/-- The parser of a language, built if it is needed for the first time. -/
def get (factory : Factory) (l : Language) (c : Cache) : Except ParseError Shared × Cache :=
  match c.get? l with
  | some p => (.ok p, c)
  | none =>
    if !factory.supports l then (.error (.unsupported l), c)
    else
      let c := { c with requests := c.requests ++ [l] }
      match factory.create l with
      | .error e => (.error e, c)
      | .ok engine =>
        let p : Shared := ⟨engine, 0⟩
        (.ok p, { c with parsers := c.parsers ++ [(l, p)] })

/-- Count one more call of a language's parser. -/
def countCall (l : Language) (c : Cache) : Cache :=
  { c with
    parsers := c.parsers.map fun (l', p) => if l' = l then (l', { p with calls := p.calls + 1 })
      else (l', p) }

/-- The languages whose parsers were built, in their standing order. -/
def loaded (c : Cache) : List Language := Language.all.filter fun l => (c.get? l).isSome

/-- Parse a source with the parser of a language. Text that is all blank never gets to it. -/
def parse (factory : Factory) (l : Language) (source : Source) (c : Cache) :
    Except ParseError (Reply ParseError Document) × Cache :=
  match c.get factory l with
  | (.error e, c) => (.error e, c)
  | (.ok p, c) =>
    if isAllBlank source.text then (.ok (.error (.empty source.rank)), c)
    else (.ok (p.engine.parse p.calls source), c.countCall l)

end Cache

end GradedReading.Parser
