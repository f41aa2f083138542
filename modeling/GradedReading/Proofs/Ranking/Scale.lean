import GradedReading.Proofs.Document.Entries
import GradedReading.Proofs.Ranking.Arrival
import GradedReading.Proofs.Ranking.Convert
import GradedReading.Proofs.Ranking.Exact
import Mathlib.Algebra.BigOperators.Ring.List
import Mathlib.Algebra.Order.BigOperators.Group.List

/-!
# GradedReading.Proofs.Ranking.Scale

Only the proportions of the weights count, in exact arithmetic.

**Key idea:** a weight counts as a share of the sum of all absolute weights, the *magnitude*. That
is zero just if no weight scores (`scores_iff_magnitude_pos`), although the one is asked of the
configuration and the other is summed over the dimensions, where levels that have no weight were
added and constructions that weigh nothing left out. To scale all weights is to scale the magnitude
by the absolute value, so that of the factor only its sign is left (`build_scale`).
-/

namespace GradedReading.Ranking

variable {K : Type} [Field K]

/-- Every weight is scaled, but not that of the length, which is no share. -/
def Config.scale (r : K) (c : Config K) : Config K :=
  { c.map (r * ·) with lengthWeight := c.lengthWeight }

namespace Weights

/-- Every weight is scaled. -/
def scaled (r : K) (w : Weights K) : Weights K :=
  { w with dimensions := w.dimensions.map fun e => (e.1, { e.2 with weight := r * e.2.weight }) }

theorem scaled_one (w : Weights K) : w.scaled 1 = w := by
  simp only [scaled, one_mul]
  rw [List.map_id']

variable [LinearOrder K] [Logarithm K]

/-- The sum of the absolute weights. -/
def magnitude (c : Config K) : K := ((rawWeights c).map fun e => |e.2|).sum

variable [IsStrictOrderedRing K]

theorem abs_weight_nonneg (c : Config K) : ∀ x ∈ (rawWeights c).map (fun e => |e.2|), 0 ≤ x := by
  intro x hx
  obtain ⟨e, -, rfl⟩ := List.mem_map.1 hx
  exact abs_nonneg e.2

theorem magnitude_nonneg (c : Config K) : 0 ≤ magnitude c :=
  List.sum_nonneg (abs_weight_nonneg c)

/-- Each weight is a share of the magnitude. -/
theorem dimensions_build (c : Config K) (ds : List Document) :
    (build c ds).dimensions = (rawWeights c).map fun e =>
      (e.1, ⟨e.2 / magnitude c, documentFrequency ds e.1,
        rarity ds.length (documentFrequency ds e.1)⟩) := by
  have hsum : Arith.total ((rawWeights c).map fun e => Arith.abs e.2) = magnitude c := by
    simp only [Exact.total_eq, Exact.abs_eq, magnitude]
  simp only [build, hsum, share_eq (magnitude_nonneg c)]

/-! ### Shares -/

theorem magnitude_eq_zero_iff {c : Config K} :
    magnitude c = 0 ↔ ∀ e ∈ rawWeights c, e.2 = 0 := by
  constructor
  · intro h e he
    have hterm : |e.2| = 0 := List.all_zero_of_le_zero_le_of_sum_eq_zero (abs_weight_nonneg c) h
      (List.mem_map.2 ⟨e, he, rfl⟩)
    exact abs_eq_zero.1 hterm
  · intro h
    refine List.sum_eq_zero fun x hx => ?_
    obtain ⟨e, he, rfl⟩ := List.mem_map.1 hx
    rw [h e he, abs_zero]

omit [IsStrictOrderedRing K] in
/-- Some dimension has a weight just if the configuration has one: the levels that were added and
the constructions that were left out weigh nothing. -/
theorem exists_rawWeights_iff (c : Config K) :
    (∃ e ∈ rawWeights c, e.2 ≠ 0) ↔ c.scores = true := by
  rw [scores_iff]
  simp only [Exact.isZero_eq_false_iff]
  constructor
  · rintro ⟨e, he, hne⟩
    rw [rawWeights, List.mem_append, List.mem_append] at he
    rcases he with (hlevel | hkeywords) | hconstruction
    · obtain ⟨l, -, rfl⟩ := List.mem_map.1 hlevel
      cases hl : c.levelWeights.get? l with
      | none => simp [hl] at hne
      | some w =>
          simp only [hl, Option.getD_some] at hne
          exact .inr (.inr ⟨(l, w), Entries.mem_of_get? hl, hne⟩)
    · obtain rfl := List.mem_singleton.1 hkeywords
      exact .inl hne
    · obtain ⟨e, he, rfl⟩ := List.mem_map.1 hconstruction
      exact .inr (.inl ⟨e, List.mem_of_mem_filter he, hne⟩)
  · rintro (hkeywords | ⟨e, he, hne⟩ | ⟨e, he, hne⟩)
    · exact ⟨(.keywords, c.keywordWeight), by simp [rawWeights], hkeywords⟩
    · refine ⟨(.construction e.1, e.2), List.mem_append_right _ (List.mem_map.2 ⟨e, ?_, rfl⟩), hne⟩
      exact List.mem_filter.2 ⟨he, by simpa using Exact.isZero_eq_false_iff.2 hne⟩
    · refine ⟨(.level e.1, (c.levelWeights.get? e.1).getD Arith.zero), ?_, ?_⟩
      · exact List.mem_append_left _ (List.mem_append_left _
          (List.mem_map.2 ⟨e.1, Level.mem_all e.1, rfl⟩))
      · rw [Entries.get?_of_mem he]
        exact hne

/-- **The mode is by score just if there is something to take shares of.** -/
theorem scores_iff_magnitude_pos (c : Config K) : c.scores = true ↔ 0 < magnitude c := by
  rw [← exists_rawWeights_iff c, (magnitude_nonneg c).lt_iff_ne', ne_eq, magnitude_eq_zero_iff]
  push Not
  rfl

/-- The shares of something make up the whole. -/
theorem sum_abs_weights {c : Config K} (h : magnitude c ≠ 0) (ds : List Document) :
    ((build c ds).dimensions.map fun e => |e.2.weight|).sum = 1 := by
  have hshare : ∀ e : Dimension × K, |e.2 / magnitude c| = |e.2| * (magnitude c)⁻¹ := fun e => by
    rw [abs_div, abs_of_nonneg (magnitude_nonneg c), div_eq_mul_inv]
  rw [dimensions_build, List.map_map]
  simp only [Function.comp_def, hshare]
  rw [List.sum_map_mul_right, ← magnitude, mul_inv_cancel₀ h]

/-- The shares of nothing are nothing. -/
theorem weight_eq_zero {c : Config K} (h : magnitude c = 0) {ds : List Document}
    {e : Dimension × DimensionStats K} (he : e ∈ (build c ds).dimensions) : e.2.weight = 0 := by
  rw [dimensions_build] at he
  obtain ⟨r, -, rfl⟩ := List.mem_map.1 he
  simp only [h, div_zero]

/-! ### Factors -/

variable {r : K}

theorem isZero_mul (hr : r ≠ 0) (x : K) :
    Arith.isZero (r * x) = Arith.isZero x := by
  rw [Bool.eq_iff_iff, Exact.isZero_iff, Exact.isZero_iff, mul_eq_zero, or_iff_right hr]

theorem rawWeights_scale (hr : r ≠ 0) (c : Config K) :
    rawWeights (c.scale r) = (rawWeights c).map (Prod.map id (r * ·)) :=
  rawWeights_map (isZero_mul hr) (by simp) c

theorem magnitude_scale (hr : r ≠ 0) (c : Config K) :
    magnitude (c.scale r) = |r| * magnitude c := by
  rw [magnitude, rawWeights_scale hr, List.map_map, magnitude, ← List.sum_map_mul_left]
  simp only [Function.comp_def, Prod.map_snd, abs_mul]

/-- **Only the sign of a factor is left.** -/
theorem build_scale (hr : r ≠ 0) (c : Config K) (ds : List Document) :
    build (c.scale r) ds = (build c ds).scaled (r / |r|) := by
  have hshare : ∀ x : K, r * x / (|r| * magnitude c) = r / |r| * (x / magnitude c) := fun x =>
    (div_mul_div_comm ..).symm
  have hdimensions : (build (c.scale r) ds).dimensions =
      ((build c ds).scaled (r / |r|)).dimensions := by
    rw [scaled, dimensions_build, dimensions_build, rawWeights_scale hr, magnitude_scale hr]
    simp only [List.map_map, Function.comp_def, Prod.map_fst, Prod.map_snd, id_eq, hshare]
  change { build c ds with dimensions := (build (c.scale r) ds).dimensions } = _
  rw [hdimensions]
  rfl

/-- A score is scaled as the weights are. -/
theorem score_scaled (hr : r ≠ 0) (w : Weights K) (d : Document) :
    (w.scaled r).score d = r * w.score d := by
  have hterms : (w.scaled r).scoring.map ((w.scaled r).term d) =
      w.scoring.map fun e => r * w.term d e := by
    simp only [scoring, scaled, List.filter_map, List.map_map, Function.comp_def, isZero_mul hr]
    refine List.map_congr_left fun e _ => ?_
    exact (mul_left_comm r _ _).symm
  rw [score, score, hterms, Exact.total_eq, Exact.total_eq, List.sum_map_mul_left]
  change (if Arith.isZero w.averageLength then _ else _) = _
  split
  case isTrue => rw [Exact.zero_eq, mul_zero]
  case isFalse => rfl

end Weights

/-! ### Rankings -/

variable [LinearOrder K] [Logarithm K]

/-- What becomes of the weights of a configuration when a collection is ranked. -/
structure Proportional (c : Config K) (a : Collection) : Prop where
  /-- Each becomes a share of the magnitude. -/
  shares : (rerank c a).weights.dimensions.map (fun e => (e.1, e.2.weight)) =
    (Weights.rawWeights c).map fun e => (e.1, e.2 / Weights.magnitude c)
  /-- Where scores count, the absolute weights sum to one, -/
  sum_weights : (rerank c a).mode = .score →
    ((rerank c a).weights.dimensions.map fun e => |e.2.weight|).sum = 1
  /-- and elsewhere they are all zero. -/
  weights_zero : (rerank c a).mode ≠ .score →
    ∀ e ∈ (rerank c a).weights.dimensions, |e.2.weight| = 0
  /-- A positive factor changes nothing. -/
  scale_pos : ∀ r, 0 < r → rerank (c.scale r) a = rerank c a
  /-- A negative factor negates the weights, -/
  weights_neg : ∀ r < 0, (rerank (c.scale r) a).weights = (rerank c a).weights.scaled (-1)
  /-- keeps the mode, -/
  mode_neg : ∀ r < 0, (rerank (c.scale r) a).mode = (rerank c a).mode
  /-- and negates the scores: each document comes out as often as before. -/
  documents_neg : ∀ r < 0, (rerank (c.scale r) a).documents.Perm
    ((rerank c a).documents.map (Scored.map (-·)))

variable [IsStrictOrderedRing K] {r : K}

theorem Config.sortMode_scale (hr : r ≠ 0) (c : Config K) : (c.scale r).sortMode = c.sortMode := by
  have hscores : (c.scale r).scores = c.scores := c.scores_map (Weights.isZero_mul hr)
  rw [Config.sortMode, hscores]
  rfl

theorem weights_rerank_of_neg (hr : r < 0) (c : Config K) (a : Collection) :
    (rerank (c.scale r) a).weights = (rerank c a).weights.scaled (-1) := by
  have hsign : r / |r| = -1 := by rw [abs_of_neg hr, div_neg, div_self hr.ne]
  rw [← hsign]
  exact Weights.build_scale hr.ne c _

theorem sortMode_score_iff (c : Config K) : c.sortMode = .score ↔ Weights.magnitude c ≠ 0 :=
  (sortMode_iff c).1.trans <| (Weights.scores_iff_magnitude_pos c).trans
    (Weights.magnitude_nonneg c).lt_iff_ne'

/-- **Only the proportions of the weights count, and their signs.** -/
theorem proportional_rerank (c : Config K) (a : Collection) : Proportional c a where
  shares := by
    change (Weights.build c _).dimensions.map _ = _
    rw [Weights.dimensions_build, List.map_map]
    rfl
  sum_weights hmode := Weights.sum_abs_weights ((sortMode_score_iff c).1 hmode) _
  weights_zero hmode e he := by
    have hzero : Weights.magnitude c = 0 := not_not.1 (mt (sortMode_score_iff c).2 hmode)
    rw [Weights.weight_eq_zero hzero he, abs_zero]
  scale_pos r hr := by
    have hweights : ∀ ds, Weights.build (c.scale r) ds = Weights.build c ds := fun ds => by
      rw [Weights.build_scale hr.ne', abs_of_pos hr, div_self hr.ne', Weights.scaled_one]
    simp only [rerank, hweights, Config.sortMode_scale hr.ne']
    rfl
  weights_neg r hr := weights_rerank_of_neg hr c a
  mode_neg r hr := Config.sortMode_scale hr.ne c
  documents_neg r hr := by
    have hscore : ∀ d, (rerank (c.scale r) a).weights.score d = -(rerank c a).weights.score d := by
      intro d
      rw [weights_rerank_of_neg hr, Weights.score_scaled (neg_ne_zero.2 one_ne_zero), neg_one_mul]
    have hscaled := documents_rerank_perm (c.scale r) a
    simp only [hscore] at hscaled
    have hplain := (documents_rerank_perm c a).map (Scored.map (-·))
    rw [List.map_map] at hplain
    exact hscaled.trans hplain.symm

/-- Weights of either sign, a construction that weighs nothing and levels without a weight. -/
theorem proportional_mixed :
    let levels := ((Config.standard : Config ℝ).withLevelWeight .a (-1)).withLevelWeight .c 2
    let c := ((levels.withConstructionWeight "negation" (1 / 2)).withConstructionWeight
      "passive_voice" 0).withKeywordWeight 3
    let a : Collection := ⟨.english, [plain 0 10 .a, plain 1 20 .b, plain 2 30 .c]⟩
    Proportional c a := by
  intro levels c a
  exact proportional_rerank c a

end GradedReading.Ranking
