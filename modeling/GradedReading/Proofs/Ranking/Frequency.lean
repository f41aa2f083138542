import GradedReading.Proofs.Document.Census
import GradedReading.Proofs.Number.Quotient
import GradedReading.Proofs.Ranking.Arrival

/-!
# GradedReading.Proofs.Ranking.Frequency

A ranking and a collection count documents the same way.

**Key idea:** for each dimension by itself, a ranking counts the documents that show it. A
collection walks through its documents and counts whatever it meets. Both come to a count of
documents with a property: that a construction occurs or that the level is a certain one.
-/

namespace GradedReading.Ranking

variable {α : Type} [Arith α]

/-- The collection of the documents that are accepted. -/
def Config.select (c : Config α) (a : Collection) : Collection :=
  { a with documents := a.documents.filter c.accepts }

namespace Weights

/-! ### Dimensions -/

theorem mem_dimensions {c : Config α} {ds : List Document}
    {e : Dimension × DimensionStats α} (he : e ∈ (build c ds).dimensions) :
    e.2.documents = documentFrequency ds e.1 ∧
      e.2.rarity = rarity ds.length e.2.documents := by
  obtain ⟨r, -, rfl⟩ := List.mem_map.1 he
  exact ⟨rfl, rfl⟩

/-- Each dimension with a weight of its own is found, with the number of documents that show it. -/
theorem documents_get?_build {c : Config α} {ds : List Document} {dim : Dimension}
    (h : dim ∈ (rawWeights c).map (·.1)) :
    ((build c ds).get? dim).map (·.documents) = some (documentFrequency ds dim) := by
  obtain ⟨r, hr, rfl⟩ := List.mem_map.1 h
  have hthere : ((build c ds).dimensions.find? fun e => e.1 = r.1).isSome = true :=
    List.find?_isSome.2 ⟨_, List.mem_map.2 ⟨r, hr, rfl⟩, decide_eq_true rfl⟩
  obtain ⟨e, he⟩ := Option.isSome_iff_exists.1 hthere
  have hkey : e.1 = r.1 := by simpa using List.find?_some he
  have hcount := (mem_dimensions (List.mem_of_find?_eq_some he)).1
  rw [get?, he, ← hkey]
  exact congrArg some hcount

theorem level_mem_rawWeights (c : Config α) (l : Level) :
    .level l ∈ (rawWeights c).map (·.1) := by
  simp [rawWeights, Level.mem_all]

theorem construction_mem_rawWeights {c : Config α} {e : String × α}
    (he : e ∈ c.constructionWeights) (hweight : Arith.isZero e.2 = false) :
    .construction e.1 ∈ (rawWeights c).map (·.1) := by
  refine List.mem_map.2 ⟨(.construction e.1, e.2), List.mem_append_right _ ?_, rfl⟩
  exact List.mem_map.2 ⟨e, List.mem_filter.2 ⟨he, by simp [hweight]⟩, rfl⟩

/-! ### Counts -/

theorem documentFrequency_le (ds : List Document) (dim : Dimension) :
    documentFrequency ds dim ≤ ds.length := List.countP_le_length

theorem documentFrequency_level (a : Collection) (l : Level) :
    documentFrequency a.documents (.level l) = a.levelCount l :=
  List.countP_congr fun d _ => by by_cases h : d.level = l <;> simp [Dimension.frequency, h]

theorem documentFrequency_construction (a : Collection) (name : String) :
    documentFrequency a.documents (.construction name) =
      Collection.documentFrequency a.constructionStats name :=
  (Collection.documentFrequency_eq a name).symm

omit [Arith α] in
/-- No accepted document has a disabled construction. -/
theorem documentFrequency_disabled (c : Config α) (a : Collection) {name : String}
    (h : name ∈ c.disabledConstructions) :
    documentFrequency (c.select a).documents (.construction name) = 0 := by
  refine List.countP_eq_zero.2 fun d hd => ?_
  have hnone := (Config.accepts_iff.1 (List.mem_filter.1 hd).2).2.1 name h
  exact Bool.eq_false_iff.1 hnone

/-! ### Rarities -/

/-- One more than the documents there are, over those that count. -/
def scarcity (total counted : Nat) : α :=
  Arith.div (Arith.add (Arith.ofNat total) (Arith.ofNat 1)) (Arith.ofNat counted)

theorem rarity_of_pos {total counted : Nat} (h : 0 < counted) :
    (rarity total counted : α) = Arith.ln (scarcity total counted) := if_neg h.ne'

/-- In exact numbers the documents and one more are more than those that count. -/
theorem one_lt_ratio {K : Type} [Field K] [LinearOrder K] [IsStrictOrderedRing K]
    {total counted : Nat} (h : 0 < counted) (hle : counted ≤ total) :
    1 < ((total : K) + 1) / counted := by
  rw [one_lt_div (by exact_mod_cast h)]
  exact_mod_cast Nat.lt_succ_of_le hle

/-- In doubles too, as long as they hold the numbers of documents. -/
theorem one_lt_scarcity {total counted : Nat} (h : 0 < counted) (hle : counted ≤ total)
    (htotal : total + 1 < 2 ^ 53) :
    Arith.lt (Arith.ofNat 1) (scarcity total counted : Float) = true := by
  have hsum : (total.toFloat + (1 : Nat).toFloat) = (total + 1).toFloat :=
    Number.toFloat_add_toFloat htotal
  have hlt := Number.one_lt_toFloat_div h (Nat.lt_succ_of_le hle) htotal
  rw [← hsum] at hlt
  exact decide_eq_true hlt

/-- What the weights of a ranking count, in the collection of the accepted documents. -/
structure Counts (w : Weights α) (c : Config α) (kept : Collection) : Prop where
  documentCount : w.documentCount = kept.size
  /-- Each construction that is weighed is counted as the collection counts it, -/
  construction : ∀ e ∈ c.constructionWeights, Arith.isZero e.2 = false →
    (w.get? (.construction e.1)).map (·.documents) =
      some (Collection.documentFrequency kept.constructionStats e.1)
  /-- and not at all if it is disabled. -/
  disabled : ∀ e ∈ c.constructionWeights, Arith.isZero e.2 = false →
    e.1 ∈ c.disabledConstructions → (w.get? (.construction e.1)).map (·.documents) = some 0
  /-- Each level is counted as the collection counts it, -/
  level : ∀ l, (w.get? (.level l)).map (·.documents) = kept.levelCounts.get? l
  /-- and all levels together are all documents. -/
  levels : (Level.all.map fun l => ((w.get? (.level l)).map (·.documents)).getD 0).sum =
    w.documentCount
  documents_le : ∀ e ∈ w.dimensions, e.2.documents ≤ w.documentCount
  /-- A rarity is zero, if there is no document to count, or the logarithm of a number above one. -/
  rarity : ∀ e ∈ w.dimensions, e.2.documents = 0 ∧ e.2.rarity = Arith.zero ∨
    e.2.rarity = Arith.ln (scarcity w.documentCount e.2.documents) ∧
      1 < ((w.documentCount : ℚ) + 1) / e.2.documents

theorem counts_build (c : Config α) (a : Collection) :
    (build c (c.select a).documents).Counts c (c.select a) := by
  have hlevel : ∀ l, ((build c (c.select a).documents).get? (.level l)).map (·.documents) =
      some ((c.select a).levelCount l) := by
    intro l
    rw [documents_get?_build (level_mem_rawWeights c l), documentFrequency_level]
  refine ⟨rfl, ?_, ?_, ?_, ?_, ?_, ?_⟩
  · intro e he hweight
    rw [documents_get?_build (construction_mem_rawWeights he hweight),
      documentFrequency_construction]
  · intro e he hweight hdisabled
    rw [documents_get?_build (construction_mem_rawWeights he hweight),
      documentFrequency_disabled c a hdisabled]
  · intro l
    rw [hlevel, Collection.get?_levelCounts]
  · simp only [hlevel, Option.getD_some]
    exact Collection.sum_levelCount _
  · intro e he
    rw [(mem_dimensions he).1]
    exact documentFrequency_le ..
  · intro e he
    obtain ⟨hcount, hrarity⟩ := mem_dimensions he
    have hle : e.2.documents ≤ (c.select a).documents.length := by
      rw [hcount]
      exact documentFrequency_le ..
    rcases Nat.eq_zero_or_pos e.2.documents with hzero | hpos
    · refine .inl ⟨hzero, ?_⟩
      rw [hrarity, hzero]
      rfl
    · refine .inr ⟨?_, one_lt_ratio hpos hle⟩
      rw [hrarity]
      exact rarity_of_pos hpos

end Weights

/-- **A ranking counts as the collection of the accepted documents counts.** A construction of a
document may have no place. Whatever is counted is at most all documents, and so each rarity that is
not zero is the logarithm of a number above one, also as doubles compute it. -/
theorem counts_rerank (c : Config Float) (a : Collection) :
    (rerank c a).weights.Counts c (c.select a) ∧
      ((c.select a).size + 1 < 2 ^ 53 → ∀ e ∈ (rerank c a).weights.dimensions,
        0 < e.2.documents → Arith.lt (Arith.ofNat 1)
          (Weights.scarcity (rerank c a).weights.documentCount e.2.documents : Float) = true) := by
  have hcounts : (rerank c a).weights.Counts c (c.select a) := Weights.counts_build c a
  exact ⟨hcounts, fun hsize e he hpos =>
    Weights.one_lt_scarcity hpos (hcounts.documents_le e he) (hcounts.documentCount ▸ hsize)⟩

/-- One document is there twice, one names a construction that does not occur in it, one has a
disabled construction and one a disabled level. -/
theorem counts_twice :
    let c : Config Float := { Config.standard with
      enabledLevels := [.a, .b]
      constructionWeights := .ofList [("negation", 2.0), ("question", -1.0)]
      disabledConstructions := ["question"] }
    let twice := { plain 0 10 .a with
      constructions := .ofList [("negation", [⟨0, 3⟩, ⟨4, 7⟩]), ("passive_voice", [])] }
    let a : Collection := ⟨.english, [twice, twice,
      { plain 1 20 .b with constructions := .ofList [("negation", [])] },
      { plain 2 30 .a with constructions := .ofList [("question", [⟨0, 3⟩])] }, plain 3 40 .c]⟩
    (rerank c a).weights.Counts c (c.select a) ∧ (c.select a).size + 1 < 2 ^ 53 ∧
      ∀ e ∈ (rerank c a).weights.dimensions, 0 < e.2.documents → Arith.lt (Arith.ofNat 1)
        (Weights.scarcity (rerank c a).weights.documentCount e.2.documents : Float) = true := by
  intro c twice a
  have hle : (c.select a).size ≤ a.size := List.length_filter_le ..
  have hsize : (c.select a).size + 1 < 2 ^ 53 :=
    Nat.lt_of_le_of_lt (Nat.succ_le_succ hle) (by decide)
  exact ⟨(counts_rerank c a).1, hsize, (counts_rerank c a).2 hsize⟩

end GradedReading.Ranking
