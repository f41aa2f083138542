import GradedReading.Entries
import GradedReading.Text.Span

/-!
# GradedReading.Keyword.Hits

Where keywords were found in a text.
-/

namespace GradedReading

open Text

/-- For each keyword that was found, the places where it was found, and how many places there are in
all. -/
structure KeywordHits where
  places : Entries String (List Span)
  total : Nat
deriving DecidableEq, Repr, Inhabited

namespace KeywordHits

/-- Nothing was found. -/
def none : KeywordHits := ⟨.empty, 0⟩

/-- Record one place. -/
def push (h : KeywordHits) (keyword : String) (span : Span) : KeywordHits :=
  ⟨h.places.update keyword [] (· ++ [span]), h.total + 1⟩

/-- Record all places of a keyword. A keyword without a place leaves no entry. -/
def record (h : KeywordHits) (keyword : String) (spans : List Span) : KeywordHits :=
  spans.foldl (fun h s => h.push keyword s) h

end KeywordHits

end GradedReading
