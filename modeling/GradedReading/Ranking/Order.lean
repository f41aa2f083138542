import GradedReading.Ranking.Weights

/-!
# GradedReading.Ranking.Order

The ranking itself: keep the accepted documents, score them, and sort.

**Key idea:** documents are put in order of rank first and then sorted by score or by length with a
sort that is stable, so that equals stay in order of rank.
-/

namespace GradedReading.Ranking

/-- What a ranking is sorted by. -/
inductive SortMode where
  /-- The highest score first. -/
  | score
  /-- The shortest document first. -/
  | length
  /-- The order of ranks. -/
  | rank
deriving DecidableEq, Repr, Inhabited

namespace SortMode

/-- The word for a mode. -/
def name : SortMode → String
  | .score => "score"
  | .length => "length"
  | .rank => "rank"

/-- The word for a mode, as a title. -/
def title : SortMode → String
  | .score => "Score"
  | .length => "Length"
  | .rank => "Rank"

end SortMode

/-- A document with its score. -/
structure Scored (α : Type) where
  document : Document
  score : α
deriving Repr, Inhabited

/-- A collection in the order of preference. -/
structure Ranked (α : Type) where
  documents : List (Scored α)
  /-- How many documents were dropped. -/
  filtered : Nat
  weights : Weights α
  mode : SortMode
deriving Repr

variable {α : Type} [Arith α]

/-- What a configuration sorts by: scores if something is weighed, else the length if that is, else
ranks. -/
def Config.sortMode (c : Config α) : SortMode :=
  if c.scores then .score else if Arith.isZero c.lengthWeight then .rank else .length

/-- The order of ranks. -/
def byRank (x y : Scored α) : Bool := x.document.rank ≤ y.document.rank

/-- The order of a mode. In the order of ranks all documents count as equal, for they are sorted by
rank already. -/
def SortMode.before (mode : SortMode) (x y : Scored α) : Bool :=
  match mode with
  | .score => Arith.atLeast x.score y.score
  | .length => x.document.length ≤ y.document.length
  | .rank => true

/-- Sort by rank, then by mode. -/
def arrange (mode : SortMode) (docs : List (Scored α)) : List (Scored α) :=
  (docs.mergeSort byRank).mergeSort mode.before

/-- Rank a collection. -/
def rerank (c : Config α) (collection : Collection) : Ranked α :=
  let kept := collection.documents.filter c.accepts
  let weights := Weights.build c kept
  let mode := c.sortMode
  { documents := arrange mode (kept.map fun d => ⟨d, weights.score d⟩)
    filtered := collection.size - kept.length
    weights
    mode }

end GradedReading.Ranking
