import GradedReading.Text.Lowercase

/-!
# GradedReading.Text.Glob

Patterns with `*` and `?`, compared without regard to ASCII case.

**Key idea:** the matcher reads the text once and keeps the set of pattern tails that the rest of
the text may still match, as one list of flags. `*` keeps its own tail alive, so no choice is ever
taken back and the cost is the product of the two lengths.
-/

namespace GradedReading.Text

/-- One sign of a pattern. -/
inductive GlobSign where
  /-- Any sequence of characters, the empty one included. -/
  | anySequence
  /-- Exactly one character. -/
  | anyChar
  /-- This character, up to ASCII case. -/
  | literal (c : Char)
deriving DecidableEq, Repr, Inhabited

/-- A pattern, sign by sign. -/
abbrev Glob := List GlobSign

namespace Glob

/-- Read a pattern. Every text is one. -/
def ofString (s : String) : Glob :=
  s.toList.map fun c =>
    if c = '*' then .anySequence else if c = '?' then .anyChar else .literal (lowerAscii c)

/-- For every tail of the pattern, the longest one first and the empty one last: does it match the
empty text? -/
def matchesEmpty : Glob → List Bool
  | [] => [true]
  | .anySequence :: rest =>
    let tails := matchesEmpty rest
    tails.headD false :: tails
  | _ :: rest => false :: matchesEmpty rest

/-- Flags for the text `c :: cs` from the flags for `cs`, tail by tail. -/
def stepFlags (c : Char) : Glob → List Bool → List Bool
  | [], _ => [false]
  | sign :: rest, flags =>
    let here := flags.headD false
    let later := flags.tail
    let tails := stepFlags c rest later
    let flag := match sign with
      | .anySequence => here || tails.headD false
      | .anyChar => later.headD false
      | .literal d => d == lowerAscii c && later.headD false
    flag :: tails

/-- For every tail of the pattern: does it match this text? -/
def flagsFor (g : Glob) : List Char → List Bool
  | [] => matchesEmpty g
  | c :: cs => stepFlags c g (flagsFor g cs)

/-- The pattern describes the whole of this list of characters. -/
def matchesChars (g : Glob) (cs : List Char) : Bool := (flagsFor g cs).headD false

end Glob

/-- The pattern describes the whole text. -/
def globMatches (pattern text : String) : Bool :=
  (Glob.ofString pattern).matchesChars text.toList

end GradedReading.Text
