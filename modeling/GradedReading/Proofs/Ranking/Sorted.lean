import GradedReading.Ranking.Order
import Mathlib.Data.Prod.Lex

/-!
# GradedReading.Proofs.Ranking.Sorted

The order of a ranking.

**Key idea:** a stable sort keeps what it was given in order wherever it sees no difference
(`pairwise_mergeSort_of_pairwise`). So to sort by rank and then by mode, with documents that come in
the order of the collection, is to sort by three things at once: by the mode, then by rank, then by
place in the collection. Places differ, so there is one such order only.
-/

namespace GradedReading.Ranking

/-! ### Stable sorts -/

section Stable

variable {β : Type} {r : β → β → Bool}

/-- What is put in front of a list is sorted in after all that is less and before all else. -/
theorem mergeSort_cons_eq (htrans : ∀ a b c, r a b = true → r b c = true → r a c = true)
    (htotal : ∀ a b, (r a b || r b a) = true) (a : β) (l : List β) :
    (a :: l).mergeSort r =
      (l.mergeSort r).filter (fun b => !r a b) ++ a :: (l.mergeSort r).filter (r a) := by
  obtain ⟨less, rest, hcons, hsort, hless⟩ := List.mergeSort_cons htrans htotal a l
  have hsorted := List.pairwise_mergeSort htrans htotal (a :: l)
  rw [hcons, List.pairwise_append, List.pairwise_cons] at hsorted
  have hrest : ∀ b ∈ rest, r a b = true := hsorted.2.1.1
  have hlow : (less ++ rest).filter (fun b => !r a b) = less := by
    rw [List.filter_append, List.filter_eq_self.2 hless,
      List.filter_eq_nil_iff.2 fun b hb => by simp [hrest b hb], List.append_nil]
  have hhigh : (less ++ rest).filter (r a) = rest := by
    rw [List.filter_append, List.filter_eq_self.2 hrest,
      List.filter_eq_nil_iff.2 fun b hb => by simpa using hless b hb, List.nil_append]
  rw [hcons, hsort, hlow, hhigh]

/-- **A stable sort sorts each part of a list as if the rest were not there.** -/
theorem filter_mergeSort (htrans : ∀ a b c, r a b = true → r b c = true → r a c = true)
    (htotal : ∀ a b, (r a b || r b a) = true) (p : β → Bool) (l : List β) :
    (l.mergeSort r).filter p = (l.filter p).mergeSort r := by
  induction l with
  | nil => simp
  | cons a l ih =>
      cases hp : p a with
      | true =>
          rw [List.filter_cons_of_pos hp, mergeSort_cons_eq htrans htotal,
            mergeSort_cons_eq htrans htotal, ← ih, List.filter_append, List.filter_cons_of_pos hp]
          simp only [List.filter_filter, Bool.and_comm]
      | false =>
          obtain ⟨less, rest, hcons, hsort, -⟩ := List.mergeSort_cons htrans htotal a l
          have hdrop : (a :: l).filter p = l.filter p := List.filter_cons_of_neg (by simp [hp])
          rw [hdrop, ← ih, hcons, hsort, List.filter_append, List.filter_append,
            List.filter_cons_of_neg (by simp [hp])]

/-- **A stable sort refines the order that it was given.** -/
theorem pairwise_mergeSort_of_pairwise
    (htrans : ∀ a b c, r a b = true → r b c = true → r a c = true)
    (htotal : ∀ a b, (r a b || r b a) = true) {R : β → β → Prop} {l : List β}
    (h : l.Pairwise R) :
    (l.mergeSort r).Pairwise fun a b => r a b = true ∧ (r b a = true → R a b) := by
  rw [List.pairwise_iff_forall_sublist]
  intro a b hab
  have hle : r a b = true :=
    List.pairwise_iff_forall_sublist.1 (List.pairwise_mergeSort htrans htotal l) hab
  refine ⟨hle, fun hge => ?_⟩
  -- those that count the same as `a`, with `b` among them, are in the order that they had
  have hsame : (l.filter fun x => r a x && r x a).Pairwise fun x y => r x y = true :=
    List.pairwise_of_forall_mem_list fun x hx y hy => by
      have hxa := (Bool.and_eq_true_iff.1 (List.mem_filter.1 hx).2).2
      have hay := (Bool.and_eq_true_iff.1 (List.mem_filter.1 hy).2).1
      exact htrans x a y hxa hay
  have hclass := filter_mergeSort htrans htotal (fun x => r a x && r x a) l
  rw [List.mergeSort_of_pairwise hsame] at hclass
  have hself : r a a = true := htrans a b a hle hge
  have hpair := hab.filter fun x => r a x && r x a
  rw [hclass, List.filter_cons_of_pos (by rw [hself]; rfl),
    List.filter_cons_of_pos (by rw [hle, hge]; rfl), List.filter_nil] at hpair
  exact List.pairwise_iff_forall_sublist.1 h (hpair.trans List.filter_sublist)

end Stable

/-! ### The order of a mode -/

/-- What a mode sorts by, the least first. -/
def SortMode.key (mode : SortMode) (s : Scored Float) : Int :=
  match mode with
  | .score => -orderKey s.score
  | .length => s.document.length
  | .rank => 0

theorem SortMode.before_iff {mode : SortMode} {s t : Scored Float} :
    mode.before s t = true ↔ mode.key s ≤ mode.key t := by
  cases mode with
  | score =>
      have hscore : SortMode.before .score s t = decide (orderKey s.score ≥ orderKey t.score) := rfl
      rw [hscore, decide_eq_true_eq, key, key]
      omega
  | length => simp [before, key]
  | rank => simp [before, key]

/-- The order in which scores are sorted is transitive and total. -/
class Arith.IsOrdered (α : Type) [Arith α] : Prop where
  atLeast_trans : ∀ x y z : α,
    Arith.atLeast x y = true → Arith.atLeast y z = true → Arith.atLeast x z = true
  atLeast_total : ∀ x y : α, (Arith.atLeast x y || Arith.atLeast y x) = true

instance : Arith.IsOrdered Float where
  atLeast_trans x y z hxy hyz :=
    decide_eq_true (Int.le_trans (of_decide_eq_true hyz) (of_decide_eq_true hxy))
  atLeast_total x y := by
    simp only [Arith.atLeast, Bool.or_eq_true, decide_eq_true_eq]
    exact Int.le_total ..

section Order

variable {α : Type}

theorem byRank_iff {s t : Scored α} :
    byRank s t = true ↔ s.document.rank ≤ t.document.rank := decide_eq_true_iff

theorem byRank_trans (s t u : Scored α) (hst : byRank s t = true) (htu : byRank t u = true) :
    byRank s u = true :=
  byRank_iff.2 ((byRank_iff.1 hst).trans (byRank_iff.1 htu))

theorem byRank_total (s t : Scored α) : (byRank s t || byRank t s) = true := by
  simp only [Bool.or_eq_true, byRank_iff]
  exact Nat.le_total ..

variable [Arith α]

theorem SortMode.before_trans [Arith.IsOrdered α] (mode : SortMode) (s t u : Scored α)
    (hst : mode.before s t = true) (htu : mode.before t u = true) : mode.before s u = true := by
  cases mode with
  | score => exact Arith.IsOrdered.atLeast_trans _ _ _ hst htu
  | length => exact decide_eq_true (Nat.le_trans (of_decide_eq_true hst) (of_decide_eq_true htu))
  | rank => rfl

theorem SortMode.before_total [Arith.IsOrdered α] (mode : SortMode) (s t : Scored α) :
    (mode.before s t || mode.before t s) = true := by
  cases mode with
  | score => exact Arith.IsOrdered.atLeast_total ..
  | length =>
      simp only [before, Bool.or_eq_true, decide_eq_true_eq]
      exact Nat.le_total ..
  | rank => rfl

theorem arrange_perm (mode : SortMode) (docs : List (Scored α)) : (arrange mode docs).Perm docs :=
  (List.mergeSort_perm ..).trans (List.mergeSort_perm ..)

/-- Of two documents the one that comes first is not after the other one by the mode. Where the mode
sees no difference it is not after it by rank. -/
theorem pairwise_arrange [Arith.IsOrdered α] (mode : SortMode) (docs : List (Scored α)) :
    (arrange mode docs).Pairwise fun s t =>
      mode.before s t = true ∧ (mode.before t s = true → byRank s t = true) :=
  pairwise_mergeSort_of_pairwise mode.before_trans mode.before_total
    (List.pairwise_mergeSort byRank_trans byRank_total docs)

/-- The documents that are accepted come out with their scores, each as often as it is in the
collection. -/
theorem documents_rerank_perm (c : Config α) (collection : Collection) :
    (rerank c collection).documents.Perm ((collection.documents.filter c.accepts).map fun d =>
      ⟨d, (rerank c collection).weights.score d⟩) :=
  arrange_perm ..

/-- The accepted documents come out, each as often as it is in the collection. -/
theorem map_document_rerank_perm (c : Config α) (collection : Collection) :
    ((rerank c collection).documents.map (·.document)).Perm
      (collection.documents.filter c.accepts) := by
  have hscored := (documents_rerank_perm c collection).map Scored.document
  rw [List.map_map] at hscored
  simpa [Function.comp_def] using hscored

end Order

/-- Where a scored document comes that has this place in its collection: by the mode, then by rank,
then by place. -/
def standing (mode : SortMode) (p : Scored Float × Nat) : Int ×ₗ Nat ×ₗ Nat :=
  toLex (mode.key p.1, toLex (p.1.document.rank, p.2))

/-- The documents in this order have their standings in ascending order. -/
def InOrder (mode : SortMode) (ps : List (Scored Float × Nat)) : Prop :=
  ps.Pairwise fun p q => standing mode p < standing mode q

theorem standing_lt_iff {mode : SortMode} {p q : Scored Float × Nat} :
    standing mode p < standing mode q ↔
      mode.key p.1 < mode.key q.1 ∨ mode.key p.1 = mode.key q.1 ∧
        (p.1.document.rank < q.1.document.rank ∨
          p.1.document.rank = q.1.document.rank ∧ p.2 < q.2) := by
  rw [standing, standing, Prod.Lex.toLex_lt_toLex, Prod.Lex.toLex_lt_toLex]

/-- There is one order only. -/
theorem InOrder.eq_of_perm {mode : SortMode} {ps qs : List (Scored Float × Nat)}
    (hps : InOrder mode ps) (hqs : InOrder mode qs) (hperm : ps.Perm qs) : ps = qs :=
  List.Perm.eq_of_pairwise (fun _ _ _ _ hpq hqp => absurd (hpq.trans hqp) (lt_irrefl _)) hps hqs
    hperm

/-- Sort by rank, then by mode, and keep the places. -/
def arrangePlaced (mode : SortMode) (ps : List (Scored Float × Nat)) : List (Scored Float × Nat) :=
  (ps.mergeSort fun p q => byRank p.1 q.1).mergeSort fun p q => mode.before p.1 q.1

theorem map_arrangePlaced (mode : SortMode) (ps : List (Scored Float × Nat)) :
    (arrangePlaced mode ps).map (·.1) = arrange mode (ps.map (·.1)) := by
  rw [arrangePlaced, arrange, List.map_mergeSort (s := mode.before) (fun _ _ _ _ => rfl),
    List.map_mergeSort (s := byRank) (fun _ _ _ _ => rfl)]

theorem arrangePlaced_perm (mode : SortMode) (ps : List (Scored Float × Nat)) :
    (arrangePlaced mode ps).Perm ps :=
  (List.mergeSort_perm ..).trans (List.mergeSort_perm ..)

/-- **Two stable sorts make one order.** -/
theorem inOrder_arrangePlaced (mode : SortMode) {ps : List (Scored Float × Nat)}
    (hplaces : ps.Pairwise fun p q => p.2 < q.2) : InOrder mode (arrangePlaced mode ps) := by
  have hranked := pairwise_mergeSort_of_pairwise
    (r := fun p q : Scored Float × Nat => byRank p.1 q.1)
    (fun p q r => byRank_trans p.1 q.1 r.1) (fun p q => byRank_total p.1 q.1) hplaces
  have hsorted := pairwise_mergeSort_of_pairwise
    (r := fun p q : Scored Float × Nat => mode.before p.1 q.1)
    (fun p q r => mode.before_trans p.1 q.1 r.1) (fun p q => mode.before_total p.1 q.1) hranked
  refine hsorted.imp fun {p q} h => standing_lt_iff.2 ?_
  simp only [SortMode.before_iff, byRank_iff] at h
  omega

/-! ### Rankings -/

/-- The documents of a collection that are kept, with their scores and their places. -/
def placed (c : Config Float) (collection : Collection) : List (Scored Float × Nat) :=
  let weights := Weights.build c (collection.documents.filter c.accepts)
  (collection.documents.zipIdx.filter fun p => c.accepts p.1).map fun p =>
    (⟨p.1, weights.score p.1⟩, p.2)

theorem map_placed (c : Config Float) (collection : Collection) :
    (placed c collection).map (·.1) = (collection.documents.filter c.accepts).map fun d =>
      ⟨d, (Weights.build c (collection.documents.filter c.accepts)).score d⟩ := by
  have hkept : collection.documents.filter c.accepts =
      (collection.documents.zipIdx.filter fun p => c.accepts p.1).map (·.1) := by
    conv_lhs => rw [← List.zipIdx_map_fst 0 collection.documents, List.filter_map]
    rfl
  conv_rhs => arg 2; rw [hkept]
  rw [placed, List.map_map, List.map_map]
  rfl

theorem pairwise_placed (c : Config Float) (collection : Collection) :
    (placed c collection).Pairwise fun p q => p.2 < q.2 := by
  have hplaces : collection.documents.zipIdx.Pairwise fun p q => p.2 < q.2 := by
    rw [← List.pairwise_map, List.zipIdx_map_snd]
    exact List.pairwise_lt_range'
  exact List.pairwise_map.2 (hplaces.sublist List.filter_sublist)

theorem documents_rerank (c : Config Float) (collection : Collection) :
    (rerank c collection).documents =
      (arrangePlaced c.sortMode (placed c collection)).map (·.1) := by
  rw [map_arrangePlaced, map_placed]
  rfl

theorem scores_iff {α : Type} [Arith α] {c : Config α} : c.scores = true ↔
    Arith.isZero c.keywordWeight = false ∨
      (∃ e ∈ c.constructionWeights, Arith.isZero e.2 = false) ∨
      ∃ e ∈ c.levelWeights, Arith.isZero e.2 = false := by
  simp only [Config.scores, Bool.or_eq_true, Bool.not_eq_true', List.any_eq_true,
    Entries.mem_toList, or_assoc]

theorem sortMode_iff {α : Type} [Arith α] (c : Config α) :
    (c.sortMode = .score ↔ c.scores = true) ∧
      (c.sortMode = .length ↔ c.sortMode ≠ .score ∧ Arith.isZero c.lengthWeight = false) ∧
      (c.sortMode = .rank ↔ c.sortMode ≠ .score ∧ Arith.isZero c.lengthWeight = true) := by
  rw [Config.sortMode]
  cases c.scores <;> cases Arith.isZero c.lengthWeight <;> decide

/-- What a ranking of a collection is. -/
structure IsRanking (c : Config Float) (collection : Collection) (r : Ranked Float) : Prop where
  /-- The accepted documents come out, each as often as it is in the collection. -/
  documents : (r.documents.map (·.document)).Perm (collection.documents.filter c.accepts)
  filtered : r.filtered + r.documents.length = collection.size
  /-- Scores count if something is weighed, -/
  score_iff : r.mode = .score ↔
    Arith.isZero c.keywordWeight = false ∨
      (∃ e ∈ c.constructionWeights, Arith.isZero e.2 = false) ∨
      ∃ e ∈ c.levelWeights, Arith.isZero e.2 = false
  /-- lengths if nothing but the length is, -/
  length_iff : r.mode = .length ↔ r.mode ≠ .score ∧ Arith.isZero c.lengthWeight = false
  /-- and ranks if the length is not either. -/
  rank_iff : r.mode = .rank ↔ r.mode ≠ .score ∧ Arith.isZero c.lengthWeight = true
  /-- The documents come in the one order in which their standings ascend. -/
  order : ∃ ps, r.documents = ps.map (·.1) ∧
    ∀ qs, qs.Perm (placed c collection) ∧ InOrder r.mode qs ↔ qs = ps

/-- **A ranking keeps the accepted documents and puts them in order.** The order is the only one in
which the highest scores come first, or the shortest documents if only the length is weighed, equals
by rank, and equal ranks by their place in the collection. Scores are compared in the total order of
doubles, so that this holds of all weights, also of those that make scores infinite or no numbers.
-/
theorem isRanking_rerank (c : Config Float) (collection : Collection) :
    IsRanking c collection (rerank c collection) := by
  have hdocuments := documents_rerank c collection
  have hperm := arrangePlaced_perm c.sortMode (placed c collection)
  have hkept := map_document_rerank_perm c collection
  obtain ⟨hscore, hlength, hrank⟩ := sortMode_iff c
  refine ⟨hkept, ?_, hscore.trans scores_iff, hlength, hrank,
    ⟨_, hdocuments, fun qs => ⟨fun ⟨hqs, hin⟩ => ?_, ?_⟩⟩⟩
  · have hsize := hkept.length_eq
    rw [List.length_map] at hsize
    have hle : (collection.documents.filter c.accepts).length ≤ collection.size :=
      List.length_filter_le ..
    rw [hsize]
    exact Nat.sub_add_cancel hle
  · exact hin.eq_of_perm (inOrder_arrangePlaced _ (pairwise_placed c collection))
      (hqs.trans hperm.symm)
  · rintro rfl
    exact ⟨hperm, inOrder_arrangePlaced _ (pairwise_placed c collection)⟩

end GradedReading.Ranking
