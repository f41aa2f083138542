import GradedReading.Proofs.Ranking.Arrival
import Mathlib.Data.List.Perm.Subperm

/-!
# GradedReading.Proofs.Ranking.Stricter

Filtering is monotone: a stricter configuration ranks fewer of the documents, and where scores do
not count it ranks them in the same order.

**Key idea:** what a stricter configuration accepts is a part of what the other one accepts
(`filter_accepts`), and a stable sort sorts each part of a list as if the rest were not there
(`filter_mergeSort`). So without scores the stricter ranking is the other one, filtered. Scores do
not allow that, for they depend on which documents there are.
-/

namespace GradedReading.Ranking

variable {α : Type}

/-! ### Stricter configurations -/

namespace Config

/-- One configuration drops more than another: further levels and further constructions are
disabled and the filter accepts less. All weights are the same. -/
structure IsStricter (strict c : Config α) : Prop where
  enabledLevels : strict.enabledLevels ⊆ c.enabledLevels
  disabledConstructions : c.disabledConstructions ⊆ strict.disabledConstructions
  passes : ∀ d, strict.passes d = true → c.passes d = true
  constructionWeights : strict.constructionWeights = c.constructionWeights
  levelWeights : strict.levelWeights = c.levelWeights
  keywordWeight : strict.keywordWeight = c.keywordWeight
  lengthWeight : strict.lengthWeight = c.lengthWeight

theorem IsStricter.trans {c₁ c₂ c₃ : Config α} (h₁₂ : c₁.IsStricter c₂) (h₂₃ : c₂.IsStricter c₃) :
    c₁.IsStricter c₃ where
  enabledLevels := List.Subset.trans h₁₂.enabledLevels h₂₃.enabledLevels
  disabledConstructions := List.Subset.trans h₂₃.disabledConstructions h₁₂.disabledConstructions
  passes d hd := h₂₃.passes d (h₁₂.passes d hd)
  constructionWeights := h₁₂.constructionWeights.trans h₂₃.constructionWeights
  levelWeights := h₁₂.levelWeights.trans h₂₃.levelWeights
  keywordWeight := h₁₂.keywordWeight.trans h₂₃.keywordWeight
  lengthWeight := h₁₂.lengthWeight.trans h₂₃.lengthWeight

/-- To disable a level is to be stricter. -/
theorem isStricter_withLevel (c : Config α) (l : Level) : (c.withLevel l false).IsStricter c where
  enabledLevels := fun _ => List.mem_of_mem_erase
  disabledConstructions := List.Subset.refl _
  passes _ := id
  constructionWeights := rfl
  levelWeights := rfl
  keywordWeight := rfl
  lengthWeight := rfl

theorem subset_insertKey {κ : Type} [Ord κ] (k : κ) (ks : List κ) : ks ⊆ insertKey k ks := by
  induction ks with
  | nil => exact List.nil_subset _
  | cons k' ks ih =>
      rw [insertKey]
      cases compare k k' with
      | lt => exact List.subset_cons_self ..
      | eq => exact List.Subset.refl _
      | gt => exact List.cons_subset_cons k' ih

/-- To disable a construction is to be stricter. -/
theorem isStricter_withDisabledConstruction (c : Config α) (name : String) :
    (c.withDisabledConstruction name).IsStricter c where
  enabledLevels := List.Subset.refl _
  disabledConstructions := subset_insertKey ..
  passes _ := id
  constructionWeights := rfl
  levelWeights := rfl
  keywordWeight := rfl
  lengthWeight := rfl

/-- To filter by what the filter there is accepts, and by more, is to be stricter. -/
theorem isStricter_withFilter (c : Config α) {f : Document → Bool}
    (hf : ∀ d, f d = true → c.passes d = true) : (c.withFilter f).IsStricter c where
  enabledLevels := List.Subset.refl _
  disabledConstructions := List.Subset.refl _
  passes := hf
  constructionWeights := rfl
  levelWeights := rfl
  keywordWeight := rfl
  lengthWeight := rfl

variable {strict c : Config α}

theorem IsStricter.accepts (h : strict.IsStricter c) {d : Document}
    (hd : strict.accepts d = true) : c.accepts d = true := by
  obtain ⟨hlevel, hnone, hpass⟩ := accepts_iff.1 hd
  exact accepts_iff.2 ⟨h.enabledLevels hlevel,
    fun n hn => hnone n (h.disabledConstructions hn), h.passes d hpass⟩

/-- What the stricter configuration accepts is what it accepts of what the other one accepts. -/
theorem IsStricter.filter_accepts (h : strict.IsStricter c) (ds : List Document) :
    ds.filter strict.accepts = (ds.filter c.accepts).filter strict.accepts := by
  rw [List.filter_filter]
  refine List.filter_congr fun d _ => ?_
  cases hd : strict.accepts d with
  | true => rw [h.accepts hd, Bool.and_self]
  | false => rw [Bool.false_and]

theorem IsStricter.sortMode [Arith α] (h : strict.IsStricter c) : strict.sortMode = c.sortMode := by
  rw [Config.sortMode, Config.sortMode, Config.scores, Config.scores, h.constructionWeights,
    h.levelWeights, h.keywordWeight, h.lengthWeight]

end Config

/-! ### Orders that do not look at scores -/

/-- Sort by a number, the least first. -/
def sortOn {β : Type} (f : β → Nat) (l : List β) : List β := l.mergeSort fun x y => f x ≤ f y

theorem filter_sortOn {β : Type} (f : β → Nat) (p : β → Bool) (l : List β) :
    (sortOn f l).filter p = sortOn f (l.filter p) := by
  refine filter_mergeSort (fun x y z hxy hyz => ?_) (fun x y => ?_) p l
  · exact decide_eq_true ((of_decide_eq_true hxy).trans (of_decide_eq_true hyz))
  · simpa using Nat.le_total (f x) (f y)

/-- What a mode sorts documents by whose scores do not count. -/
def SortMode.measure (mode : SortMode) (d : Document) : Nat :=
  match mode with
  | .length => d.length
  | _ => 0

/-- Where scores do not count, documents are sorted by their ranks and then by one more number. -/
theorem map_document_arrange [Arith α] {mode : SortMode} (hmode : mode ≠ .score)
    (docs : List (Scored α)) :
    (arrange mode docs).map (·.document) =
      sortOn mode.measure (sortOn Document.rank (docs.map (·.document))) := by
  have hbefore : ∀ s t : Scored α,
      mode.before s t = decide (mode.measure s.document ≤ mode.measure t.document) := by
    intro s t
    cases mode with
    | score => exact absurd rfl hmode
    | length => rfl
    | rank => rfl
  have hrank : ∀ s t : Scored α, byRank s t = decide (s.document.rank ≤ t.document.rank) :=
    fun _ _ => rfl
  rw [arrange, sortOn, sortOn,
    List.map_mergeSort (s := fun d e => mode.measure d ≤ mode.measure e) fun s _ t _ => hbefore s t,
    List.map_mergeSort (s := fun d e => d.rank ≤ e.rank) fun s _ t _ => hrank s t]

/-! ### Rankings -/

variable [Arith α]

/-- A ranking holds fewer documents than another one, sorted by the same. -/
structure Ranked.Narrows (narrow r : Ranked α) (keeps : Document → Bool) : Prop where
  /-- Of the other one's documents those are there that it keeps, -/
  kept : (narrow.documents.map (·.document)).Perm ((r.documents.map (·.document)).filter keeps)
  /-- so that each is there at most as often. -/
  documents : (narrow.documents.map (·.document)).Subperm (r.documents.map (·.document))
  filtered : r.filtered ≤ narrow.filtered
  mode : narrow.mode = r.mode
  /-- Where scores do not count, documents were taken out and none was moved. -/
  order : r.mode = .length ∨ r.mode = .rank →
    (narrow.documents.map (·.document)).Sublist (r.documents.map (·.document))

/-- **Filtering is monotone.** Scores are computed from all documents that are kept, so that a
stricter configuration may turn their order round; what is kept and by what it is sorted does not
depend on scores. -/
theorem narrows_rerank {strict c : Config α} (h : strict.IsStricter c) (a : Collection) :
    (rerank strict a).Narrows (rerank c a) strict.accepts := by
  have haccepts := h.filter_accepts a.documents
  have hkept : ((rerank strict a).documents.map (·.document)).Perm
      (((rerank c a).documents.map (·.document)).filter strict.accepts) := by
    have hstrict := map_document_rerank_perm strict a
    rw [haccepts] at hstrict
    exact hstrict.trans ((map_document_rerank_perm c a).filter _).symm
  refine ⟨hkept, hkept.subperm.trans List.filter_sublist.subperm, ?_, h.sortMode, fun hmode => ?_⟩
  · have hpart : (a.documents.filter strict.accepts).Sublist (a.documents.filter c.accepts) := by
      rw [haccepts]
      exact List.filter_sublist
    exact Nat.sub_le_sub_left hpart.length_le _
  · have hplain : c.sortMode ≠ .score := by
      change c.sortMode = .length ∨ c.sortMode = .rank at hmode
      intro hscore
      simp [hscore] at hmode
    simp only [rerank, h.sortMode]
    rw [map_document_arrange hplain, map_document_arrange hplain, List.map_map, List.map_map]
    simp only [Function.comp_def, List.map_id']
    rw [haccepts, ← filter_sortOn, ← filter_sortOn]
    exact List.filter_sublist

/-- A level and a construction are disabled and long documents are rejected. -/
theorem narrows_disabled :
    let c : Config Float := Config.standard.withLengthWeight 5.0
    let strict := ((c.withLevel .c false).withDisabledConstruction "negation").withFilter
      fun d => d.length < 100
    let a : Collection := ⟨.english, [plain 0 80 .c, plain 1 90 .a, plain 2 200 .b,
      { plain 3 70 .b with constructions := .ofList [("negation", [⟨0, 3⟩])] }, plain 4 60 .b]⟩
    strict.IsStricter c ∧ (rerank strict a).Narrows (rerank c a) strict.accepts := by
  intro c strict a
  have hstrict : strict.IsStricter c :=
    (Config.isStricter_withFilter _ fun _ _ => rfl).trans
      ((Config.isStricter_withDisabledConstruction _ _).trans (Config.isStricter_withLevel _ _))
  exact ⟨hstrict, narrows_rerank hstrict a⟩

end GradedReading.Ranking
