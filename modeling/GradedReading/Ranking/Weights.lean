import GradedReading.Ranking.Config

/-!
# GradedReading.Ranking.Weights

From a configuration and the documents that it keeps to a score for each document.

**Key idea:** a document is scored along *dimensions*: its level, its keyword hits and its
constructions. Each dimension has a weight, normalised so that the absolute weights sum to one, and
a rarity, the logarithm of how few documents show it. Occurrences in a document count less and less
the more there are, and less in a long document than in a short one.
-/

namespace GradedReading.Ranking

/-- One axis along which a document can score. -/
inductive Dimension where
  | level (l : Level)
  | keywords
  | construction (name : String)
deriving DecidableEq, Repr, Inhabited

namespace Dimension

/-- The dimension as reports name it. -/
def name : Dimension → String
  | .level l => "level " ++ l.letter
  | .keywords => "keywords"
  | .construction n => n

/-- The dimension that reports name so. -/
def ofName (s : String) : Dimension :=
  match Level.all.find? (fun l => (level l).name == s) with
  | some l => .level l
  | none => if s == keywords.name then .keywords else .construction s

/-- How often a document shows the dimension. -/
def frequency (d : Document) : Dimension → Nat
  | .level l => if d.level = l then 1 else 0
  | .keywords => d.keywordCount
  | .construction n => d.constructionCount n

end Dimension

/-- A dimension's part in a ranking. -/
structure DimensionStats (α : Type) where
  weight : α
  /-- Documents that show the dimension. -/
  documents : Nat
  /-- The logarithm of how few those are; zero when there is none. -/
  rarity : α
deriving Repr

/-- What all scores of one ranking have in common. -/
structure Weights (α : Type) where
  /-- Levels first, then keywords, then constructions by name. -/
  dimensions : List (Dimension × DimensionStats α)
  documentCount : Nat
  /-- The mean number of words; zero when there is no document. -/
  averageLength : α
  saturation : α
  /-- How much length counts, from 0 to 1. -/
  lengthShare : α
deriving Repr

namespace Weights

variable {α : Type} [Arith α]

/-- The weights as the configuration gives them, for all levels, keywords, and the constructions
with a weight other than zero. -/
def rawWeights (c : Config α) : List (Dimension × α) :=
  (Level.all.map fun l => (.level l, (c.levelWeights.get? l).getD Arith.zero)) ++
    [(.keywords, c.keywordWeight)] ++
    (c.constructionWeights.toList.filter fun e => !Arith.isZero e.2).map fun e =>
      (.construction e.1, e.2)

/-- The documents that show a dimension. -/
def documentFrequency (docs : List Document) (dim : Dimension) : Nat :=
  docs.countP fun d => 0 < dim.frequency d

/-- The logarithm of one more than the documents there are over the documents that count. -/
def rarity (total counted : Nat) : α :=
  if counted = 0 then Arith.zero
  else Arith.ln (Arith.div (Arith.add (Arith.ofNat total) (Arith.ofNat 1)) (Arith.ofNat counted))

/-- A weight as a share of the sum of all absolute weights, zero when that sum is. -/
def share (sum w : α) : α := if Arith.isPositive sum then Arith.div w sum else Arith.zero

/-- The mean number of words. -/
def meanLength (docs : List Document) : α :=
  if docs.isEmpty then Arith.zero
  else
    Arith.div (Arith.total (docs.map fun d => Arith.ofNat d.length)) (Arith.ofNat docs.length)

/-- What a configuration and the documents that it keeps have in common for all scores. -/
def build (c : Config α) (docs : List Document) : Weights α :=
  let raw := rawWeights c
  let sum := Arith.total (raw.map fun e => Arith.abs e.2)
  { dimensions := raw.map fun (dim, w) =>
      let df := documentFrequency docs dim
      (dim, ⟨share sum w, df, rarity docs.length df⟩)
    documentCount := docs.length
    averageLength := meanLength docs
    saturation := Arith.saturation
    lengthShare := Arith.div c.lengthWeight (Arith.ofNat 10) }

/-- How much `tf` occurrences count in a document of `len` words. -/
def saturate (w : Weights α) (tf len : α) : α :=
  let one : α := Arith.ofNat 1
  let relative := Arith.div len w.averageLength
  let norm := Arith.add (Arith.sub one w.lengthShare) (Arith.mul w.lengthShare relative)
  let den := Arith.add tf (Arith.mul w.saturation norm)
  if Arith.isZero den then Arith.zero
  else Arith.div (Arith.mul (Arith.add w.saturation one) tf) den

/-- What one dimension adds to a document's score. -/
def term (w : Weights α) (d : Document) (e : Dimension × DimensionStats α) : α :=
  Arith.mul
    (Arith.mul (w.saturate (Arith.ofNat (e.1.frequency d)) (Arith.ofNat d.length)) e.2.rarity)
    e.2.weight

/-- A dimension's part, if the dimension is weighed. -/
def get? (w : Weights α) (dim : Dimension) : Option (DimensionStats α) :=
  (w.dimensions.find? fun e => e.1 = dim).map (·.2)

/-- The dimensions that score. -/
def scoring (w : Weights α) : List (Dimension × DimensionStats α) :=
  w.dimensions.filter fun e => !Arith.isZero e.2.weight

/-- The score of a document; zero when there is no mean length. -/
def score (w : Weights α) (d : Document) : α :=
  if Arith.isZero w.averageLength then Arith.zero
  else Arith.total (w.scoring.map (w.term d))

end Weights

end GradedReading.Ranking
