import GradedReading.Proofs.Document.Entries
import GradedReading.Proofs.Ranking.Sorted

/-!
# GradedReading.Proofs.Ranking.Convert

Configurations and rankings with each number replaced by another one.

What a configuration asks about its weights is which of them are zero. So to replace them by others
that are zero at the same places keeps the mode and the dimensions.
-/

namespace GradedReading.Ranking

variable {α β : Type}

/-- The configuration with other numbers. -/
def Config.map (f : α → β) (c : Config α) : Config β where
  enabledLevels := c.enabledLevels
  constructionWeights := c.constructionWeights.map f
  disabledConstructions := c.disabledConstructions
  levelWeights := c.levelWeights.map f
  keywordWeight := f c.keywordWeight
  lengthWeight := f c.lengthWeight
  filter := c.filter

/-- The part of a dimension with other numbers. -/
def DimensionStats.map (f : α → β) (s : DimensionStats α) : DimensionStats β where
  weight := f s.weight
  documents := s.documents
  rarity := f s.rarity

/-- The weights with other numbers. -/
def Weights.map (f : α → β) (w : Weights α) : Weights β where
  dimensions := w.dimensions.map (Prod.map id (DimensionStats.map f))
  documentCount := w.documentCount
  averageLength := f w.averageLength
  saturation := f w.saturation
  lengthShare := f w.lengthShare

/-- The document with another score. -/
def Scored.map (f : α → β) (s : Scored α) : Scored β := ⟨s.document, f s.score⟩

/-- The ranking with other numbers. -/
def Ranked.map (f : α → β) (r : Ranked α) : Ranked β where
  documents := r.documents.map (Scored.map f)
  filtered := r.filtered
  weights := r.weights.map f
  mode := r.mode

section Zero

variable [Arith α] [Arith β] {f : α → β} (hzero : ∀ x, Arith.isZero (f x) = Arith.isZero x)
include hzero

theorem Config.scores_map (c : Config α) : (c.map f).scores = c.scores := by
  simp only [Config.scores, Config.map, Entries.map, List.any_map, Function.comp_def, Prod.map_snd,
    hzero]

theorem Config.sortMode_map (c : Config α) : (c.map f).sortMode = c.sortMode := by
  rw [Config.sortMode, Config.sortMode, Config.scores_map hzero]
  simp only [Config.map, hzero]

/-- The dimensions stay what they are, with the other weights. -/
theorem Weights.rawWeights_map (hmissing : f Arith.zero = Arith.zero) (c : Config α) :
    rawWeights (c.map f) = (rawWeights c).map (Prod.map id f) := by
  have hlevel : ∀ l, ((c.map f).levelWeights.get? l).getD Arith.zero =
      f ((c.levelWeights.get? l).getD Arith.zero) := by
    intro l
    rw [Config.map, Entries.get?_map]
    cases c.levelWeights.get? l with
    | none => exact hmissing.symm
    | some w => rfl
  have hconstructions : (c.map f).constructionWeights.toList.filter (fun e => !Arith.isZero e.2) =
      (c.constructionWeights.toList.filter fun e => !Arith.isZero e.2).map (Prod.map id f) := by
    simp only [Config.map, Entries.map, List.filter_map, Function.comp_def, Prod.map_snd, hzero]
  simp only [rawWeights, hlevel, hconstructions, List.map_append, List.map_map, List.map_cons,
    List.map_nil]
  rfl

end Zero

/-- Documents whose scores are in the same order are sorted alike. -/
theorem arrange_map [Arith α] [Arith β] {f : α → β}
    (horder : ∀ x y, Arith.atLeast (f x) (f y) = Arith.atLeast x y) (mode : SortMode)
    (docs : List (Scored α)) :
    arrange mode (docs.map (Scored.map f)) = (arrange mode docs).map (Scored.map f) := by
  have hbefore : ∀ s t : Scored α, mode.before s t = mode.before (s.map f) (t.map f) := by
    intro s t
    cases mode with
    | score => exact (horder ..).symm
    | length => rfl
    | rank => rfl
  have hrank : ∀ s t : Scored α, byRank s t = byRank (s.map f) (t.map f) := fun _ _ => rfl
  rw [arrange, arrange, List.map_mergeSort fun s _ t _ => hbefore s t,
    List.map_mergeSort fun s _ t _ => hrank s t]

end GradedReading.Ranking
