/-!
# GradedReading.Text.Blank

White space: the test for it, trimming, lines, and the fields between blanks.

All functions work on lists of characters. A *line* ends at a line feed, and a carriage return
right before that line feed belongs to the line's end.
-/

namespace GradedReading.Text

/-- The characters with the Unicode property `White_Space`. -/
def isBlank (c : Char) : Bool :=
  let n := c.toNat
  (9 ≤ n && n ≤ 13) || n == 32 || n == 0x85 || n == 0xa0 || n == 0x1680 ||
    (0x2000 ≤ n && n ≤ 0x200a) || n == 0x2028 || n == 0x2029 || n == 0x202f || n == 0x205f ||
    n == 0x3000

/-! ### Trimming -/

/-- Drop the characters in the class `p` from the front. -/
def trimStart (p : Char → Bool) (cs : List Char) : List Char := cs.dropWhile p

/-- Drop the characters in the class `p` from the back. -/
def trimEnd (p : Char → Bool) (cs : List Char) : List Char := (cs.reverse.dropWhile p).reverse

/-- Drop the characters in the class `p` from both ends. -/
def trimBoth (p : Char → Bool) (cs : List Char) : List Char := trimEnd p (trimStart p cs)

@[simp] theorem trimStart_nil (p : Char → Bool) : trimStart p [] = [] := rfl

@[simp] theorem trimEnd_nil (p : Char → Bool) : trimEnd p [] = [] := rfl

@[simp] theorem trimBoth_nil (p : Char → Bool) : trimBoth p [] = [] := rfl

/-- Drop blanks from both ends of a text. -/
def trim (s : String) : String := String.ofList (trimBoth isBlank s.toList)

/-- Nothing but blanks. -/
def isAllBlank (s : String) : Bool := s.toList.all isBlank

/-! ### Fields and lines -/

/-- The maximal stretches without a character of class `p`; `cur` is the current one, reversed. -/
def fieldsFrom (p : Char → Bool) : List Char → List Char → List (List Char)
  | cur, [] => if cur.isEmpty then [] else [cur.reverse]
  | cur, c :: cs =>
    if p c then
      if cur.isEmpty then fieldsFrom p [] cs else cur.reverse :: fieldsFrom p [] cs
    else fieldsFrom p (c :: cur) cs

/-- The stretches between blanks, none of them empty. -/
def fields (cs : List Char) : List (List Char) := fieldsFrom isBlank [] cs

/-- The pieces between the characters of class `p`, empty ones included. -/
def splitOnClass (p : Char → Bool) : List Char → List (List Char)
  | [] => [[]]
  | c :: cs =>
    if p c then [] :: splitOnClass p cs
    else
      match splitOnClass p cs with
      | [] => [[c]]
      | piece :: rest => (c :: piece) :: rest

/-- Drop one carriage return from the end of a line. -/
def dropCarriageReturn (line : List Char) : List Char :=
  if line.getLast? = some '\r' then line.dropLast else line

/-- The lines of a text. Text after the last line feed is a line only if it is not empty, and
keeps its carriage return. -/
def lines (cs : List Char) : List (List Char) :=
  let pieces := splitOnClass (· == '\n') cs
  let whole := pieces.dropLast.map dropCarriageReturn
  match pieces.getLast? with
  | some last => if last.isEmpty then whole else whole ++ [last]
  | none => whole

/-- Put `sep` between the pieces. -/
def joinWith (sep : Char) (pieces : List (List Char)) : List Char :=
  (pieces.intersperse [sep]).flatten

end GradedReading.Text
