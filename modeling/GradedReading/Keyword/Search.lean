import GradedReading.Keyword.Hits
import GradedReading.Keyword.Set
import GradedReading.Text.Words

/-!
# GradedReading.Keyword.Search

Keywords in a text, as whole words and without regard to case.

**Key idea:** a keyword is split into words like a text is, and is found wherever the words of the
text, in lowercase, agree with its own. A keyword of several words is found where they stand in a
row, and places may overlap.
-/

namespace GradedReading

open Text

namespace KeywordSearch

/-- The words of a text with their lowercase forms. -/
def loweredWords (text : String) : List (Span × List Char) :=
  (words text).map fun p => (p.span, lowerChars p.chars)

/-- The words of a keyword in lowercase. -/
def parts (keyword : String) : List (List Char) :=
  (loweredWords keyword).map (·.2)

/-- The span of the first words of `ws`, if they agree with `parts` one by one. The first word
gives the start and the last one the end. -/
def windowAt (parts : List (List Char)) (ws : List (Span × List Char)) : Option Span :=
  let window := ws.take parts.length
  if window.map (·.2) == parts then
    match window.head?, window.getLast? with
    | some first, some last => some (first.1.cover last.1)
    | _, _ => none
  else none

/-- All places where the words in lowercase agree with `parts`, from left to right. -/
def windows (parts : List (List Char)) : List (Span × List Char) → List Span
  | [] => []
  | w :: ws => (windowAt parts (w :: ws)).toList ++ windows parts ws

/-- The places of every keyword of the set in a text. -/
def find (keywords : KeywordSet) (text : String) : KeywordHits :=
  let ws := loweredWords text
  keywords.keywords.foldl (fun hits k => hits.record k (windows (parts k) ws)) .none

end KeywordSearch

end GradedReading
