import GradedReading.Proofs.Ranking.Checked
import GradedReading.Proofs.Ranking.Frequency
import Mathlib.Algebra.Order.BigOperators.Group.List

/-!
# GradedReading.Proofs.Ranking.Dominance

A document that shows more of what is wanted and less of what is not wanted does not score less, in
exact arithmetic.

**Key idea:** how much occurrences count grows with their number (`Proper.saturate_mono`) and
shrinks with the length (`Proper.saturate_anti`). A rarity is the logarithm of a number above one
and so not negative. Hence each dimension adds no less to the score of a document that dominates
another one, and neither do all of them together.
-/

namespace GradedReading.Ranking

variable {K : Type} [Field K] [LinearOrder K]

namespace Weights

/-- Weights under which occurrences can only help. -/
structure Proper (w : Weights K) : Prop where
  saturation_pos : 0 < w.saturation
  lengthShare_nonneg : 0 ≤ w.lengthShare
  lengthShare_le_one : w.lengthShare ≤ 1
  averageLength_nonneg : 0 ≤ w.averageLength
  rarity_nonneg : ∀ e ∈ w.dimensions, 0 ≤ e.2.rarity

/-- A document shows no less than another one where that is wanted, no more where it is not, and is
as long as it; or it is shorter and nothing is unwanted. -/
structure Dominates (w : Weights K) (d e : Document) : Prop where
  more : ∀ p ∈ w.dimensions, 0 < p.2.weight → p.1.frequency e ≤ p.1.frequency d
  less : ∀ p ∈ w.dimensions, p.2.weight < 0 → p.1.frequency d ≤ p.1.frequency e
  length : d.length = e.length ∨ d.length ≤ e.length ∧ ∀ p ∈ w.dimensions, 0 ≤ p.2.weight

variable [IsStrictOrderedRing K] {w : Weights K} {tf tf' len len' : K}

/-! ### Lengths -/

theorem Proper.norm_mono (hw : w.Proper) (h : len ≤ len') : w.norm len ≤ w.norm len' := by
  have hrelative : len / w.averageLength ≤ len' / w.averageLength :=
    div_le_div_of_nonneg_right h hw.averageLength_nonneg
  exact add_le_add_right (mul_le_mul_of_nonneg_left hrelative hw.lengthShare_nonneg) _

theorem Proper.norm_nonneg (hw : w.Proper) (hlen : 0 ≤ len) : 0 ≤ w.norm len :=
  add_nonneg (sub_nonneg.2 hw.lengthShare_le_one)
    (mul_nonneg hw.lengthShare_nonneg (div_nonneg hlen hw.averageLength_nonneg))

/-- Only a document without words counts as if it had no length, and only if nothing but the length
counts. -/
theorem Proper.norm_pos (hw : w.Proper) (havg : w.averageLength ≠ 0) (hlen : 0 ≤ len)
    (h : ¬(w.lengthShare = 1 ∧ len = 0)) : 0 < w.norm len := by
  have hrelative : 0 ≤ len / w.averageLength := div_nonneg hlen hw.averageLength_nonneg
  rcases hw.lengthShare_le_one.lt_or_eq with hlt | hone
  · exact add_pos_of_pos_of_nonneg (sub_pos.2 hlt) (mul_nonneg hw.lengthShare_nonneg hrelative)
  · have hpos : 0 < len / w.averageLength :=
      hrelative.lt_of_ne' (div_ne_zero (fun hzero => h ⟨hone, hzero⟩) havg)
    rw [norm, hone, sub_self, zero_add, one_mul]
    exact hpos

/-! ### Saturation -/

variable [Logarithm K]

omit [IsStrictOrderedRing K] in
@[simp] theorem saturate_zero (w : Weights K) (len : K) : w.saturate 0 len = 0 := by
  rw [saturate_eq, mul_zero, zero_div]

theorem Proper.saturate_nonneg (hw : w.Proper) (htf : 0 ≤ tf) (hlen : 0 ≤ len) :
    0 ≤ w.saturate tf len := by
  have hnorm := hw.norm_nonneg hlen
  have hsaturation := hw.saturation_pos
  rw [saturate_eq]
  positivity

theorem Proper.saturate_le (hw : w.Proper) (htf : 0 ≤ tf) (hlen : 0 ≤ len) :
    w.saturate tf len ≤ w.saturation + 1 := by
  have hnorm := hw.norm_nonneg hlen
  have hsaturation := hw.saturation_pos
  rcases htf.eq_or_lt with rfl | hpos
  · rw [saturate_zero]
    positivity
  · rw [saturate_eq, div_le_iff₀ (by positivity)]
    exact mul_le_mul_of_nonneg_left (le_add_of_nonneg_right (by positivity)) (by positivity)

theorem Proper.saturate_lt (hw : w.Proper) (htf : 0 ≤ tf) (hnorm : 0 < w.norm len) :
    w.saturate tf len < w.saturation + 1 := by
  have hsaturation := hw.saturation_pos
  rw [saturate_eq, div_lt_iff₀ (by positivity)]
  exact mul_lt_mul_of_pos_left (lt_add_of_pos_right _ (by positivity)) (by positivity)

/-- **More occurrences count more.** -/
theorem Proper.saturate_mono (hw : w.Proper) (htf : 0 ≤ tf) (h : tf ≤ tf') (hlen : 0 ≤ len) :
    w.saturate tf len ≤ w.saturate tf' len := by
  rcases htf.eq_or_lt with rfl | hpos
  · rw [saturate_zero]
    exact hw.saturate_nonneg h hlen
  · have hnorm := hw.norm_nonneg hlen
    have hsaturation := hw.saturation_pos
    have hpos' : 0 < tf' := hpos.trans_le h
    rw [saturate_eq, saturate_eq, mul_div_assoc, mul_div_assoc]
    refine mul_le_mul_of_nonneg_left ?_ (by positivity)
    rw [div_le_div_iff₀ (by positivity) (by positivity), mul_add, mul_add, mul_comm tf tf']
    have hproduct : tf * (w.saturation * w.norm len) ≤ tf' * (w.saturation * w.norm len) :=
      mul_le_mul_of_nonneg_right h (by positivity)
    exact add_le_add_right hproduct _

/-- **Occurrences in a longer document count less.** -/
theorem Proper.saturate_anti (hw : w.Proper) (htf : 0 ≤ tf) (hlen : 0 ≤ len) (h : len ≤ len') :
    w.saturate tf len' ≤ w.saturate tf len := by
  rcases htf.eq_or_lt with rfl | hpos
  · rw [saturate_zero, saturate_zero]
  · have hnorm := hw.norm_nonneg hlen
    have hsaturation := hw.saturation_pos
    rw [saturate_eq, saturate_eq]
    refine div_le_div_of_nonneg_left (by positivity) (by positivity) ?_
    exact add_le_add_right (mul_le_mul_of_nonneg_left (hw.norm_mono h) hsaturation.le) _

/-! ### Scores -/

omit [IsStrictOrderedRing K] in
theorem term_eq (w : Weights K) (d : Document) (p : Dimension × DimensionStats K) :
    w.term d p = w.saturate (p.1.frequency d) d.length * p.2.rarity * p.2.weight := rfl

variable {d e : Document}

/-- Each dimension adds no less to the score of a document that dominates. -/
theorem Proper.term_le (hw : w.Proper) (h : w.Dominates d e)
    {p : Dimension × DimensionStats K} (hp : p ∈ w.dimensions) : w.term e p ≤ w.term d p := by
  have hrarity := hw.rarity_nonneg p hp
  rw [term_eq, term_eq]
  rcases lt_trichotomy p.2.weight 0 with hneg | hzero | hpos
  · -- something is unwanted, and so the documents are as long as each other
    have hsame : d.length = e.length :=
      h.length.resolve_right fun hshorter => (hshorter.2 p hp).not_gt hneg
    have hcount : w.saturate (p.1.frequency d) d.length ≤ w.saturate (p.1.frequency e) e.length := by
      rw [hsame]
      exact hw.saturate_mono (Nat.cast_nonneg _) (Nat.cast_le.2 (h.less p hp hneg))
        (Nat.cast_nonneg _)
    exact mul_le_mul_of_nonpos_right (mul_le_mul_of_nonneg_right hcount hrarity) hneg.le
  · rw [hzero, mul_zero, mul_zero]
  · have hlength : (d.length : K) ≤ e.length := Nat.cast_le.2 (h.length.elim Eq.le And.left)
    have hcount : w.saturate (p.1.frequency e) e.length ≤ w.saturate (p.1.frequency d) d.length :=
      calc w.saturate (p.1.frequency e) e.length
          ≤ w.saturate (p.1.frequency d) e.length :=
            hw.saturate_mono (Nat.cast_nonneg _) (Nat.cast_le.2 (h.more p hp hpos))
              (Nat.cast_nonneg _)
        _ ≤ w.saturate (p.1.frequency d) d.length :=
            hw.saturate_anti (Nat.cast_nonneg _) (Nat.cast_nonneg _) hlength
    exact mul_le_mul_of_nonneg_right (mul_le_mul_of_nonneg_right hcount hrarity) hpos.le

/-- **A document that dominates another one does not score less.** -/
theorem Proper.score_le (hw : w.Proper) (h : w.Dominates d e) : w.score e ≤ w.score d := by
  rw [score, score]
  split
  case isTrue => exact le_rfl
  case isFalse =>
      rw [Exact.total_eq, Exact.total_eq]
      exact List.sum_le_sum fun p hp => hw.term_le h (List.mem_of_mem_filter hp)

/-! ### The weights of a ranking -/

/-- No rarity is negative, for the documents and one more are more than those that count. -/
theorem rarity_nonneg (hln : ∀ x : K, 1 < x → 0 < Logarithm.ln x) {total counted : Nat}
    (hle : counted ≤ total) : 0 ≤ (rarity total counted : K) := by
  rcases Nat.eq_zero_or_pos counted with rfl | hpos
  · exact Exact.zero_eq.ge
  · have hratio : (scarcity total counted : K) = (total + 1) / counted := by
      simp only [scarcity, Exact.add_eq, Exact.div_eq, Exact.ofNat_eq, Nat.cast_one]
    rw [rarity_of_pos hpos, Exact.ln_eq, hratio]
    exact (hln _ (one_lt_ratio hpos hle)).le

theorem proper_build (hln : ∀ x : K, 1 < x → 0 < Logarithm.ln x) {c : Config K}
    (hlow : 0 ≤ c.lengthWeight) (hhigh : c.lengthWeight ≤ Config.maxLengthWeight)
    (ds : List Document) : (build c ds).Proper where
  saturation_pos := by
    change (0 : K) < 17 / 10
    positivity
  lengthShare_nonneg := div_nonneg hlow (Nat.cast_nonneg 10)
  lengthShare_le_one := div_le_one_of_le₀ hhigh (Nat.cast_nonneg 10)
  averageLength_nonneg := by
    change 0 ≤ meanLength ds
    rw [meanLength_eq_div]
    refine div_nonneg (List.sum_nonneg fun x hx => ?_) (Nat.cast_nonneg _)
    obtain ⟨d, -, rfl⟩ := List.mem_map.1 hx
    exact Nat.cast_nonneg d.length
  rarity_nonneg p hp := by
    obtain ⟨hcount, hrarity⟩ := mem_dimensions hp
    rw [hrarity, hcount]
    exact rarity_nonneg hln (documentFrequency_le ..)

end Weights

/-! ### Rankings -/

variable [Logarithm K]

/-- What a ranking of a collection owes to documents that dominate others. -/
structure RespectsDominance (c : Config K) (a : Collection) (r : Ranked K) : Prop where
  /-- The accepted documents come out with their scores. -/
  documents : r.documents.Perm ((a.documents.filter c.accepts).map fun d =>
    ⟨d, r.weights.score d⟩)
  /-- Who dominates does not score less, -/
  score_le : ∀ d e, r.weights.Dominates d e → r.weights.score e ≤ r.weights.score d
  /-- and comes first wherever scores count, if its rank is smaller or its score larger. -/
  comesFirst : r.mode = .score → ∀ (i j : Nat) (s t : Scored K),
    r.documents[i]? = some s → r.documents[j]? = some t →
    r.weights.Dominates s.document t.document →
    s.document.rank < t.document.rank ∨ t.score < s.score → i < j
  /-- Occurrences count a bounded amount, whose bound is reached by documents without words only,
  and only if nothing but the length counts. -/
  saturate : r.weights.averageLength ≠ 0 → ∀ tf len : K, 0 ≤ tf → 0 ≤ len →
    0 ≤ r.weights.saturate tf len ∧
      r.weights.saturate tf len ≤ r.weights.saturation + 1 ∧
      (¬(r.weights.lengthShare = 1 ∧ len = 0) →
        r.weights.saturate tf len < r.weights.saturation + 1)
  /-- In arithmetic where a quotient by zero is undefined, the ranking is the same. -/
  checked : rerank (c.map some) a = r.map some

/-- Where scores count, the highest comes first, and of equals the one of the smallest rank. -/
theorem pairwise_score {c : Config K} {a : Collection} (hmode : (rerank c a).mode = .score) :
    (rerank c a).documents.Pairwise fun s t =>
      t.score ≤ s.score ∧ (s.score ≤ t.score → s.document.rank ≤ t.document.rank) := by
  refine (pairwise_arrange (rerank c a).mode _).imp fun {s t} h => ?_
  rw [hmode] at h
  exact ⟨Exact.atLeast_iff.1 h.1, fun hle => byRank_iff.1 (h.2 (Exact.atLeast_iff.2 hle))⟩

variable [IsStrictOrderedRing K]

/-- **Scores respect dominance.** -/
theorem respectsDominance_rerank (hln : ∀ x : K, 1 < x → 0 < Logarithm.ln x) {c : Config K}
    (hlow : 0 ≤ c.lengthWeight) (hhigh : c.lengthWeight ≤ Config.maxLengthWeight)
    (a : Collection) : RespectsDominance c a (rerank c a) := by
  have hproper : (rerank c a).weights.Proper := Weights.proper_build hln hlow hhigh _
  have hdocuments := documents_rerank_perm c a
  have hscore : ∀ s ∈ (rerank c a).documents, s.score = (rerank c a).weights.score s.document := by
    intro s hs
    obtain ⟨d, -, rfl⟩ := List.mem_map.1 (hdocuments.mem_iff.1 hs)
    rfl
  refine ⟨hdocuments, fun d e => hproper.score_le, ?_, fun havg tf len htf hlen => ?_,
    rerank_some c a⟩
  · intro hmode i j s t hs ht hdominates hprior
    have hle : t.score ≤ s.score := by
      rw [hscore s (List.mem_of_getElem? hs), hscore t (List.mem_of_getElem? ht)]
      exact hproper.score_le hdominates
    rcases lt_trichotomy i j with hlt | rfl | hgt
    · exact hlt
    · obtain rfl : s = t := Option.some.inj (hs.symm.trans ht)
      exact absurd hprior (by simp)
    · -- were the other one first, it would have the same score and no larger rank
      obtain ⟨hj, rfl⟩ := List.getElem?_eq_some_iff.1 ht
      obtain ⟨hi, rfl⟩ := List.getElem?_eq_some_iff.1 hs
      obtain ⟨hge, hrank⟩ := List.pairwise_iff_getElem.1 (pairwise_score hmode) j i hj hi hgt
      exact absurd hprior (not_or.2 ⟨(hrank hle).not_gt, hge.not_gt⟩)
  · exact ⟨hproper.saturate_nonneg htf hlen, hproper.saturate_le htf hlen,
      fun h => hproper.saturate_lt htf (hproper.norm_pos havg hlen h)⟩

/-- The length counts as much as it can, one document has no words and one weight is negative. -/
theorem respectsDominance_wordless :
    let c : Config ℝ := { (Config.standard : Config ℝ) with
      levelWeights := .ofList [(.a, 2)]
      constructionWeights := .ofList [("negation", -1)]
      lengthWeight := 10 }
    let a : Collection := ⟨.english, [plain 0 0 .a, plain 1 20 .a, plain 2 20 .b,
      { plain 3 20 .a with constructions := .ofList [("negation", [⟨0, 3⟩])] }]⟩
    (∀ x : ℝ, 1 < x → 0 < Logarithm.ln x) ∧ 0 ≤ c.lengthWeight ∧
      c.lengthWeight ≤ Config.maxLengthWeight ∧ RespectsDominance c a (rerank c a) := by
  intro c a
  have hln : ∀ x : ℝ, 1 < x → 0 < Logarithm.ln x := fun x => Real.log_pos
  have hlow : (0 : ℝ) ≤ 10 := by norm_num
  have hhigh : (10 : ℝ) ≤ Config.maxLengthWeight := by norm_num [Config.maxLengthWeight]
  exact ⟨hln, hlow, hhigh, respectsDominance_rerank hln hlow hhigh a⟩

end GradedReading.Ranking
