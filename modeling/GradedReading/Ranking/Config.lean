import GradedReading.Document.Collection
import GradedReading.Ranking.Arith

/-!
# GradedReading.Ranking.Config

What a reader wants of a ranking: which documents to drop and what to score the others by.
-/

namespace GradedReading.Ranking

/-- Filters and weights of a ranking. -/
structure Config (α : Type) where
  /-- Documents of other levels are dropped; in ascending order. -/
  enabledLevels : List Level
  /-- A weight of zero does not score. -/
  constructionWeights : Entries String α
  /-- Documents with one of these are dropped; in ascending order. -/
  disabledConstructions : List String
  /-- A document scores by the weight of its own level. -/
  levelWeights : Entries Level α
  keywordWeight : α
  /-- How much a long document loses, from 0 to 10. -/
  lengthWeight : α
  /-- Documents that it rejects are dropped. -/
  filter : Option (Document → Bool)

namespace Config

variable {α : Type} [Arith α]

/-- The largest length weight. -/
def maxLengthWeight : Nat := 10

/-- Nothing dropped, nothing weighed. -/
def standard : Config α :=
  { enabledLevels := Level.all
    constructionWeights := .empty
    disabledConstructions := []
    levelWeights := .empty
    keywordWeight := Arith.zero
    lengthWeight := Arith.zero
    filter := none }

/-- Enable or disable a level. -/
def withLevel (c : Config α) (l : Level) (enabled : Bool) : Config α :=
  { c with
    enabledLevels := if enabled then insertKey l c.enabledLevels else c.enabledLevels.erase l }

/-- Weigh a construction. -/
def withConstructionWeight (c : Config α) (name : String) (w : α) : Config α :=
  { c with constructionWeights := c.constructionWeights.put name w }

/-- Drop documents with a construction. -/
def withDisabledConstruction (c : Config α) (name : String) : Config α :=
  { c with disabledConstructions := insertKey name c.disabledConstructions }

/-- Weigh a level. -/
def withLevelWeight (c : Config α) (l : Level) (w : α) : Config α :=
  { c with levelWeights := c.levelWeights.put l w }

/-- Weigh keyword hits. -/
def withKeywordWeight (c : Config α) (w : α) : Config α := { c with keywordWeight := w }

/-- Weigh the length; the weight is kept between 0 and 10. -/
def withLengthWeight (c : Config α) (w : α) : Config α :=
  { c with lengthWeight := Arith.clamp Arith.zero (Arith.ofNat maxLengthWeight) w }

/-- Drop documents that `f` rejects. -/
def withFilter (c : Config α) (f : Document → Bool) : Config α := { c with filter := some f }

/-- The document is kept: its level is enabled, no disabled construction occurs in it and the
filter accepts it. -/
def accepts (c : Config α) (d : Document) : Bool :=
  c.enabledLevels.contains d.level && !c.disabledConstructions.any d.hasConstruction &&
    (match c.filter with
     | some f => f d
     | none => true)

/-- The document passes the filter, if there is one. -/
def passes (c : Config α) (d : Document) : Bool :=
  match c.filter with
  | some f => f d
  | none => true

/-- Some keyword, construction or level weight is not zero. -/
def scores (c : Config α) : Bool :=
  !Arith.isZero c.keywordWeight || c.constructionWeights.toList.any (fun e => !Arith.isZero e.2) ||
    c.levelWeights.toList.any (fun e => !Arith.isZero e.2)

theorem accepts_iff {α : Type} {c : Config α} {d : Document} : c.accepts d = true ↔
    d.level ∈ c.enabledLevels ∧ (∀ n ∈ c.disabledConstructions, d.hasConstruction n = false) ∧
      c.passes d = true := by
  change (_ && !_ && c.passes d) = true ↔ _
  simp [and_assoc]

end Config

end GradedReading.Ranking
