import GradedReading.Text.Alphanumeric
import GradedReading.Text.Blank
import GradedReading.Text.Span

/-!
# GradedReading.Text.Sentences

The sentences of a text with their places.

**Key idea:** every terminator and every line feed closes a stretch that begins where the last one
closed. A stretch counts as a sentence if it holds a letter or digit, and its span leaves out the
blanks at both ends.
-/

namespace GradedReading.Text

/-- The marks that close a sentence: full stop, exclamation mark and the two question marks. -/
def isTerminator (c : Char) : Bool := c == '.' || c == '!' || c == '?' || c == '\u061f'

/-- A character after which a new sentence may start. -/
def closesSentence (c : Char) : Bool := isTerminator c || c == '\n'

/-- The sentence inside a stretch that starts at byte `start`, if it says anything. -/
def sentenceOfStretch (start : Nat) (stretch : List Char) : Option Piece :=
  let lead := byteLength (stretch.takeWhile isBlank)
  let sentence := trimBoth isBlank stretch
  if sentence.any isAlphanumeric then
    some ⟨⟨start + lead, start + lead + byteLength sentence⟩, sentence⟩
  else none

/-- The sentences from byte `start` on: `stretch` holds the characters read since then, latest
first. -/
def sentencesFrom (start : Nat) (stretch : List Char) : List Char → List Piece
  | [] => (sentenceOfStretch start stretch.reverse).toList
  | c :: cs =>
    if closesSentence c then
      (sentenceOfStretch start (c :: stretch).reverse).toList ++
        sentencesFrom (start + byteLength (c :: stretch)) [] cs
    else sentencesFrom start (c :: stretch) cs

/-- The sentences of a list of characters, in order. -/
def sentencePieces (cs : List Char) : List Piece := sentencesFrom 0 [] cs

/-- The sentences of a text, in order. -/
def sentences (s : String) : List Piece := sentencePieces s.toList

@[simp] theorem sentencePieces_nil : sentencePieces [] = [] := rfl

end GradedReading.Text
