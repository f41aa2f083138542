import GradedReading.Document.Collection
import GradedReading.Proofs.Document.Entries
import Mathlib.Algebra.Ring.Nat

/-!
# GradedReading.Proofs.Document.Census

What a collection counts.

A construction is counted by walking through all entries of all documents. As each document has a
construction once, that comes to the number of documents in which the construction occurs
(`documentFrequency_eq`), however often and in how many documents.
-/

namespace GradedReading

namespace Collection

/-- In how many documents a construction occurs, as it was counted; in none if it is not there. -/
def documentFrequency (stats : Entries String ConstructionStats) (name : String) : Nat :=
  ((stats.get? name).map (·.documentFrequency)).getD 0

theorem documentFrequency_count (stats : Entries String ConstructionStats) (name counted : String)
    (n : Nat) :
    documentFrequency (countConstruction stats counted n) name =
      documentFrequency stats name + if name = counted ∧ 0 < n then 1 else 0 := by
  rcases Nat.eq_zero_or_pos n with rfl | hn
  · simp [countConstruction]
  rw [countConstruction, if_neg (Nat.ne_of_gt hn), Entries.update, documentFrequency,
    Entries.get?_put]
  by_cases h : name = counted
  · rw [if_pos h, if_pos ⟨h, hn⟩, documentFrequency, h]
    cases stats.get? counted <;> rfl
  · rw [if_neg h, if_neg fun hand => h hand.1, documentFrequency, Nat.add_zero]

/-- To walk through the entries of a document counts it for the constructions that occur in it. -/
theorem documentFrequency_walk (es : Constructions) (stats : Entries String ConstructionStats)
    (name : String) :
    documentFrequency (es.toList.foldl
        (fun stats (name, spans) => countConstruction stats name spans.length) stats) name =
      documentFrequency stats name +
        if 0 < ((es.get? name).map List.length).getD 0 then 1 else 0 := by
  obtain ⟨es, hes⟩ := es
  rw [Entries.get?]
  induction es generalizing stats with
  | nil => simp [Entries.find?]
  | cons e es ih =>
      obtain ⟨hfirst, hrest⟩ := List.pairwise_cons.1 hes
      rw [List.foldl_cons, ih _ hrest, documentFrequency_count, Entries.find?_cons]
      by_cases h : name = e.1
      · -- the construction is the first one, and no later one
        subst h
        rw [Entries.find?_eq_none hfirst]
        simp
      · simp [h]

/-- **Constructions are counted once for each document in which they occur.** -/
theorem documentFrequency_eq (c : Collection) (name : String) :
    documentFrequency c.constructionStats name =
      c.documents.countP fun d => d.hasConstruction name := by
  suffices h : ∀ (ds : List Document) (stats : Entries String ConstructionStats),
      documentFrequency (ds.foldl (fun stats d => d.constructions.toList.foldl
        (fun stats (name, spans) => countConstruction stats name spans.length) stats) stats) name =
        documentFrequency stats name + ds.countP fun d => d.hasConstruction name by
    have hnone : documentFrequency .empty name = 0 := rfl
    rw [constructionStats, h c.documents .empty, hnone, Nat.zero_add]
  intro ds
  induction ds with
  | nil =>
      intro stats
      rfl
  | cons d ds ih =>
      intro stats
      have hone : (if d.hasConstruction name = true then 1 else 0) =
          if 0 < ((d.constructions.get? name).map List.length).getD 0 then 1 else 0 := by
        simp [Document.hasConstruction, Document.constructionCount]
      rw [List.foldl_cons, ih, documentFrequency_walk, List.countP_cons, hone]
      omega

theorem get?_levelCounts (c : Collection) (l : Level) :
    c.levelCounts.get? l = some (c.levelCount l) := by
  cases l <;> rfl

/-- Each document has one level. -/
theorem sum_levelCount (c : Collection) : (Level.all.map c.levelCount).sum = c.size := by
  suffices h : ∀ ds : List Document,
      (Level.all.map fun l => ds.countP fun d => d.level = l).sum = ds.length from h c.documents
  intro ds
  induction ds with
  | nil => rfl
  | cons d ds ih =>
      simp only [Level.all, List.map_cons, List.map_nil, List.sum_cons, List.sum_nil,
        List.countP_cons, List.length_cons] at ih ⊢
      cases d.level <;> simp <;> omega

end Collection

end GradedReading
