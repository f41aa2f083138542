import GradedReading.Text.Table.Lowercase
import GradedReading.Text.Table.Casing
import GradedReading.Text.Blank

/-!
# GradedReading.Text.Lowercase

Lowercase forms of characters and of texts, for any script.

**Key idea:** every character has a lowercase form of its own, with one exception. The capital
sigma at the end of a word becomes `ς` and elsewhere `σ`; whether it ends a word is read off the
characters around it, skipping those that casing ignores.

Design points:

* `lowerChar` is a list of characters, because one letter (`İ`) has a lowercase form of two;
* ASCII is decided without the table;
* `lowercase` walks the text once and keeps the characters already passed, nearest first, so that
  both neighbourhoods of a sigma are at hand.
-/

namespace GradedReading.Text

/-! ### Single characters -/

/-- Bisection for the number of rows whose first code point is at most `c`. -/
def lowercaseRowRank (c : Nat) : Nat → Nat → Nat → Nat
  | 0, lo, _ => lo
  | fuel + 1, lo, hi =>
    if lo < hi then
      let mid := (lo + hi) / 2
      if (lowercaseRows.getD mid (0, 0, 1, 0)).1 ≤ c then lowercaseRowRank c fuel (mid + 1) hi
      else lowercaseRowRank c fuel lo mid
    else lo

/-- The simple lowercase form of a code point outside ASCII. -/
def lowercasePoint (c : Nat) : Nat :=
  match lowercaseRowRank c (lowercaseRows.size.log2 + 2) 0 lowercaseRows.size with
  | 0 => c
  | k + 1 =>
    let (first, last, stride, shift) := lowercaseRows.getD k (0, 0, 1, 0)
    if c ≤ last && (c - first) % stride == 0 then ((c : Int) + shift).toNat else c

/-- An ASCII capital becomes the small letter, anything else stays. -/
def lowerAscii (c : Char) : Char :=
  if 'A' ≤ c ∧ c ≤ 'Z' then Char.ofNat (c.toNat + 32) else c

/-- The lowercase form of one character, taken out of context. -/
def lowerChar (c : Char) : List Char :=
  if c.toNat < 128 then [lowerAscii c]
  else if c = 'İ' then ['i', '\u0307']
  else [Char.ofNat (lowercasePoint c.toNat)]

theorem lowerChar_ascii {c : Char} (h : c.toNat < 128) : lowerChar c = [lowerAscii c] := by
  simp [lowerChar, h]

/-! ### The sigma at the end of a word -/

/-- A character with case. -/
def isCased (c : Char) : Bool := casedPoints.has c

/-- A character that casing looks through. -/
def isCaseIgnorable (c : Char) : Bool := caseIgnorablePoints.has c

/-- The first character that casing does not look through has case. -/
def meetsCased (cs : List Char) : Bool :=
  match cs.dropWhile isCaseIgnorable with
  | [] => false
  | c :: _ => isCased c

/-- A sigma with `before` (nearest first) and `after` around it ends a word. -/
def endsWord (before after : List Char) : Bool :=
  meetsCased before && !meetsCased after

/-- The lowercase form of `c` between its neighbours; `before` is nearest first. -/
def lowerAt (before : List Char) (c : Char) (after : List Char) : List Char :=
  if c = 'Σ' then [if endsWord before after then 'ς' else 'σ'] else lowerChar c

/-! ### Texts -/

/-- Lowercase the rest of a text, `before` being what was passed, nearest first. -/
def lowerFrom (before : List Char) : List Char → List Char
  | [] => []
  | c :: after => lowerAt before c after ++ lowerFrom (c :: before) after

/-- The lowercase form of a list of characters. -/
def lowerChars (cs : List Char) : List Char := lowerFrom [] cs

/-- The lowercase form of a text. -/
def lowercase (s : String) : String := String.ofList (lowerChars s.toList)

@[simp] theorem lowerChars_nil : lowerChars [] = [] := rfl

end GradedReading.Text
