import GradedReading.Text.Alphanumeric
import GradedReading.Text.Blank
import GradedReading.Text.Span

/-!
# GradedReading.Text.Words

The words of a text with their places.

**Key idea:** a word is a maximal run of letters, digits and apostrophes, without the apostrophes
at its two ends; a run of apostrophes alone is no word. Apostrophes therefore stay inside a word
(`don't`) and quotation marks around one are dropped (`'hello'`).
-/

namespace GradedReading.Text

/-- The straight and the curly apostrophe. -/
def isApostrophe (c : Char) : Bool := c == '\'' || c == '\u2019'

/-- A character that a run of word characters may hold. -/
def isWordChar (c : Char) : Bool := isAlphanumeric c || isApostrophe c

/-- The word inside a run that starts at byte `start`, unless the run holds apostrophes only. -/
def wordOfRun (start : Nat) (run : List Char) : Option Piece :=
  let lead := byteLength (run.takeWhile isApostrophe)
  let word := trimBoth isApostrophe run
  if word.isEmpty then none
  else some ⟨⟨start + lead, start + lead + byteLength word⟩, word⟩

/-- The words from byte `start` on: `run` holds the word characters just read, latest first, and
they begin at byte `start`. -/
def wordsFrom (start : Nat) (run : List Char) : List Char → List Piece
  | [] => (wordOfRun start run.reverse).toList
  | c :: cs =>
    if isWordChar c then wordsFrom start (c :: run) cs
    else
      (wordOfRun start run.reverse).toList ++
        wordsFrom (start + byteLength run + c.utf8Size) [] cs

/-- The words of a list of characters, in order. -/
def wordPieces (cs : List Char) : List Piece := wordsFrom 0 [] cs

/-- The words of a text, in order. -/
def words (s : String) : List Piece := wordPieces s.toList

@[simp] theorem wordPieces_nil : wordPieces [] = [] := rfl

end GradedReading.Text
