import GradedReading.Proofs.Number.Whole
import GradedReading.Proofs.Ranking.Sorted
import Mathlib.Data.List.Nodup

/-!
# GradedReading.Proofs.Ranking.Arrival

A ranking does not depend on the order in which its documents came, nor on documents that it drops.

**Key idea:** all that a score reads of the other documents is how many there are, how many show a
dimension and how long they are together. The first two are counts. The third is a sum of doubles,
and such sums depend on the order of their terms; but lengths are whole numbers, and up to 53 bits
doubles add those exactly. So the scores are the same, and where no two documents share a rank, the
sort by rank already brings the documents into one order.
-/

namespace GradedReading.Ranking

open Number

/-! ### The length of all documents -/

theorem foldl_add_toFloat {ns : List Nat} {m : Nat} (h : m + ns.sum < 2 ^ 53) :
    (ns.map Nat.toFloat).foldl (· + ·) m.toFloat = (m + ns.sum).toFloat := by
  induction ns generalizing m with
  | nil => rfl
  | cons n ns ih =>
      rw [List.sum_cons, ← Nat.add_assoc] at h ⊢
      rw [List.map_cons, List.foldl_cons, toFloat_add_toFloat (by omega), ih h]

/-- **The sum of whole numbers is exact, if there are any.** -/
theorem total_toFloat {ns : List Nat} (hne : ns ≠ []) (h : ns.sum < 2 ^ 53) :
    Arith.total (ns.map Nat.toFloat) = ns.sum.toFloat := by
  cases ns with
  | nil => exact absurd rfl hne
  | cons n ns =>
      rw [List.sum_cons] at h
      change (ns.map Nat.toFloat).foldl (· + ·) (-0.0 + n.toFloat) = _
      rw [negZero_add_toFloat (by omega), foldl_add_toFloat h, List.sum_cons]

namespace Weights

/-- The mean length is the quotient of two whole numbers. -/
theorem meanLength_eq {ds : List Document} (h : (ds.map Document.length).sum < 2 ^ 53) :
    (meanLength ds : Float) =
      if ds = [] then Arith.zero
      else (ds.map Document.length).sum.toFloat / ds.length.toFloat := by
  cases ds with
  | nil => rfl
  | cons d ds =>
      have hne : (d :: ds).map Document.length ≠ [] := List.cons_ne_nil _ _
      rw [if_neg (List.cons_ne_nil d ds), ← total_toFloat hne h, List.map_map]
      rfl

variable {as bs : List Document}

theorem meanLength_of_perm (hperm : as.Perm bs) (hsum : (as.map Document.length).sum < 2 ^ 53) :
    (meanLength as : Float) = meanLength bs := by
  have hsums := (hperm.map Document.length).sum_nat
  have hnil : as = [] ↔ bs = [] := by
    rw [← List.length_eq_zero_iff, hperm.length_eq, List.length_eq_zero_iff]
  rw [meanLength_eq hsum, meanLength_eq (hsums ▸ hsum), hsums, hperm.length_eq]
  simp only [hnil]

/-- **Weights do not depend on the order of the documents.** -/
theorem build_of_perm (c : Config Float) (hperm : as.Perm bs)
    (hsum : (as.map Document.length).sum < 2 ^ 53) : build c as = build c bs := by
  have hfrequency : documentFrequency as = documentFrequency bs := by
    funext dim
    exact hperm.countP_eq _
  rw [build, build, hfrequency, hperm.length_eq, meanLength_of_perm hperm hsum]

end Weights

/-! ### One order -/

/-- Documents whose ranks differ have one order of ranks. -/
theorem mergeSort_byRank_of_perm {xs ys : List (Scored Float)} (hperm : xs.Perm ys)
    (hranks : (xs.map fun s => s.document.rank).Nodup) :
    xs.mergeSort byRank = ys.mergeSort byRank := by
  have hsorted (zs : List (Scored Float)) :
      (zs.mergeSort byRank).Pairwise fun s t => byRank s t = true :=
    List.pairwise_mergeSort byRank_trans byRank_total zs
  have hsame : (xs.mergeSort byRank).Perm (ys.mergeSort byRank) :=
    (List.mergeSort_perm ..).trans (hperm.trans (List.mergeSort_perm ..).symm)
  refine List.Perm.eq_of_pairwise (fun s t hs ht hst hts => ?_) (hsorted xs) (hsorted ys) hsame
  refine List.inj_on_of_nodup_map hranks (List.mem_mergeSort.1 hs)
    (hperm.mem_iff.2 (List.mem_mergeSort.1 ht)) ?_
  exact Nat.le_antisymm (byRank_iff.1 hst) (byRank_iff.1 hts)

/-- The documents of a collection that a ranking keeps. -/
def Config.accepted (c : Config Float) (collection : Collection) : List Document :=
  collection.documents.filter c.accepts

variable {c : Config Float} {a b : Collection}

theorem rerank_of_perm (hperm : (c.accepted a).Perm (c.accepted b))
    (hranks : ((c.accepted a).map Document.rank).Nodup)
    (hlength : ((c.accepted a).map Document.length).sum < 2 ^ 53) :
    rerank c b = { rerank c a with filtered := (rerank c b).filtered } := by
  have hweights := Weights.build_of_perm c hperm hlength
  have hdocuments : (rerank c a).documents = (rerank c b).documents := by
    simp only [rerank, arrange]
    rw [← Config.accepted, ← Config.accepted, hweights]
    refine congrArg (List.mergeSort · _) (mergeSort_byRank_of_perm (hperm.map _) ?_)
    rwa [List.map_map]
  have hshared : (rerank c a).weights = (rerank c b).weights := hweights
  change _ = Ranked.mk (rerank c a).documents _ (rerank c a).weights _
  rw [hdocuments, hshared]
  rfl

/-- What comes out of a ranking is accepted when it goes into it again. -/
theorem accepted_documents_rerank (c : Config Float) (a : Collection) (l : Language) :
    c.accepted ⟨l, (rerank c a).documents.map (·.document)⟩ =
      (rerank c a).documents.map (·.document) :=
  List.filter_eq_self.2 fun _ hd =>
    (List.mem_filter.1 ((map_document_rerank_perm c a).mem_iff.1 hd)).2

/-- **A ranking depends on the set of accepted documents only.** Two collections with the same
accepted documents, in whatever order, and with whatever other documents between them, are ranked
the same: the same documents in the same order with the same scores, by the same weights and in the
same mode. Only the number of dropped documents may differ. And a ranking that is ranked again stays
as it is. -/
theorem rerank_congr (c : Config Float) (a b : Collection)
    (hperm : (c.accepted a).Perm (c.accepted b))
    (hranks : ((c.accepted a).map Document.rank).Nodup)
    (hlength : ((c.accepted a).map Document.length).sum < 2 ^ 53) :
    rerank c b = { rerank c a with filtered := (rerank c b).filtered } ∧
      ∀ l, rerank c ⟨l, (rerank c a).documents.map (·.document)⟩ =
        { rerank c a with filtered := 0 } := by
  refine ⟨rerank_of_perm hperm hranks hlength, fun l => ?_⟩
  have hout := accepted_documents_rerank c a l
  have hsame : (c.accepted a).Perm
      (c.accepted ⟨l, (rerank c a).documents.map (·.document)⟩) := by
    rw [hout]
    exact (map_document_rerank_perm c a).symm
  have hnone : (rerank c ⟨l, (rerank c a).documents.map (·.document)⟩).filtered = 0 := by
    change Collection.size _ - (c.accepted _).length = 0
    rw [hout, Collection.size, Nat.sub_self]
  have hagain := rerank_of_perm hsame hranks hlength
  rwa [hnone] at hagain

/-- A document of which nothing but its rank, its length and its level matters. -/
def plain (rank words : Nat) (level : Level) : Document :=
  { source := ⟨⟨rank, "", none⟩, ""⟩, language := .english, stats := ⟨words, 1, words, 0⟩
    constructions := .empty, fixed := some ⟨.standard, 50.0, level⟩, hits := none, parsed := true }

/-- The second collection came in the other order, with a document that is dropped. -/
theorem rerank_congr_plain :
    let c : Config Float := (Config.standard.withLevel .c false).withLevelWeight .a 2.0
    let a : Collection := ⟨.english, [plain 0 10 .b, plain 1 20 .a]⟩
    let b : Collection := ⟨.english, [plain 1 20 .a, plain 2 30 .c, plain 0 10 .b]⟩
    ((c.accepted a).Perm (c.accepted b) ∧ ((c.accepted a).map Document.rank).Nodup ∧
      ((c.accepted a).map Document.length).sum < 2 ^ 53) ∧
    rerank c b = { rerank c a with filtered := (rerank c b).filtered } ∧
      ∀ l, rerank c ⟨l, (rerank c a).documents.map (·.document)⟩ =
        { rerank c a with filtered := 0 } := by
  intro c a b
  have ha : c.accepted a = [plain 0 10 .b, plain 1 20 .a] := rfl
  have hb : c.accepted b = [plain 1 20 .a, plain 0 10 .b] := rfl
  have hperm : (c.accepted a).Perm (c.accepted b) := by
    rw [ha, hb]
    exact .swap ..
  have hranks : ((c.accepted a).map Document.rank).Nodup := by
    rw [ha]
    decide
  have hlength : ((c.accepted a).map Document.length).sum < 2 ^ 53 := by
    rw [ha]
    decide
  exact ⟨⟨hperm, hranks, hlength⟩, rerank_congr c a b hperm hranks hlength⟩

end GradedReading.Ranking
