import GradedReading.Proofs.Document.Entries
import GradedReading.Proofs.Keyword.Windows
import GradedReading.Proofs.Text.Lowercase
import Mathlib.Data.List.Nodup

/-!
# GradedReading.Proofs.Keyword.Report

What a search for keywords reports.

**Key idea:** the report is a dictionary that is settled by what is found in it, with a count that
is settled by the dictionary (`Tallied`). Each keyword of a set is recorded once, so that its entry
holds the places of the keyword and nothing else (`get?_find`). Two searches therefore report the
same as soon as they look for the same normal forms in texts with the same words in lowercase.
-/

namespace GradedReading

open Std Text

/-! ### Sets of keywords -/

namespace KeywordSet

theorem ofList_concat (ks : List String) (k : String) :
    ofList (ks ++ [k]) = (ofList ks).add (normalize k) := by
  rw [ofList, List.foldl_append, List.foldl_cons, List.foldl_nil, ofList]

theorem mem_add {set : KeywordSet} {j k : String} :
    j ∈ (set.add k).keywords ↔ j ∈ set.keywords ∨ j = k ∧ k ≠ "" := by
  rw [add]
  split
  · next h =>
    simp only [Bool.or_eq_true, String.isEmpty_iff, List.contains_iff_mem] at h
    grind
  · next h =>
    simp only [Bool.or_eq_true, String.isEmpty_iff, List.contains_iff_mem, not_or] at h
    grind

theorem nodup_add {set : KeywordSet} (h : set.keywords.Nodup) (k : String) :
    (set.add k).keywords.Nodup := by
  rw [add]
  split
  · exact h
  · next hk =>
    simp only [Bool.or_eq_true, List.contains_iff_mem, not_or] at hk
    exact h.append (List.nodup_singleton k) (List.disjoint_singleton.2 hk.2)

/-- **A set holds the normal forms** of the keywords, but for the empty one. -/
theorem mem_ofList {ks : List String} {k : String} :
    k ∈ (ofList ks).keywords ↔ k ≠ "" ∧ ∃ raw ∈ ks, normalize raw = k := by
  induction ks using List.reverseRecOn with
  | nil => simp [ofList]
  | append_singleton ks raw ih =>
      rw [ofList_concat, mem_add, ih]
      simp only [List.mem_append, List.mem_singleton]
      grind

/-- No keyword is in a set twice. -/
theorem nodup_ofList (ks : List String) : (ofList ks).keywords.Nodup := by
  induction ks using List.reverseRecOn with
  | nil => exact List.nodup_nil
  | append_singleton ks raw ih => exact ofList_concat ks raw ▸ nodup_add ih _

end KeywordSet

/-! ### Reports -/

namespace KeywordHits

/-- The places of a keyword. -/
def spansOf (h : KeywordHits) (keyword : String) : List Span := (h.places.get? keyword).getD []

/-- The count is that of all places. -/
def Tallied (h : KeywordHits) : Prop := h.total = (h.places.toList.map fun e => e.2.length).sum

theorem tallied_none : none.Tallied := rfl

theorem Tallied.push {h : KeywordHits} (hh : h.Tallied) (k : String) (s : Span) :
    (h.push k s).Tallied := by
  have hsum := Entries.sum_map_put List.length k (h.spansOf k ++ [s]) h.places
  have hold : ((h.places.get? k).map List.length).getD 0 = (h.spansOf k).length := by
    rw [spansOf]
    cases h.places.get? k <;> rfl
  unfold Tallied at hh
  rw [hold, List.length_append, ← hh] at hsum
  change h.total + 1 =
    ((h.places.put k (h.spansOf k ++ [s])).toList.map fun e => e.2.length).sum
  simp only [List.length_singleton] at hsum
  omega

theorem Tallied.record {h : KeywordHits} (hh : h.Tallied) (k : String) (spans : List Span) :
    (h.record k spans).Tallied := by
  induction spans generalizing h with
  | nil => exact hh
  | cons s spans ih => exact ih (hh.push k s)

theorem get?_push (h : KeywordHits) (j k : String) (s : Span) :
    (h.push k s).places.get? j = if j = k then some (h.spansOf k ++ [s]) else h.places.get? j :=
  Entries.get?_put ..

/-- Recording adds to the one entry, and adds no empty one. -/
theorem get?_record (h : KeywordHits) (j k : String) (spans : List Span) :
    (h.record k spans).places.get? j =
      if j = k ∧ spans ≠ [] then some (h.spansOf k ++ spans) else h.places.get? j := by
  induction spans generalizing h with
  | nil => simp [record]
  | cons s spans ih =>
      change ((h.push k s).record k spans).places.get? j = _
      rw [ih, spansOf, get?_push, get?_push]
      grind

/-- Reports in which the same is found are the same. -/
theorem ext_get? {g h : KeywordHits} (hg : g.Tallied) (hh : h.Tallied)
    (heq : ∀ k, g.places.get? k = h.places.get? k) : g = h := by
  have hplaces : g.places = h.places := Entries.ext_get? heq
  have htotal : g.total = h.total := by
    unfold Tallied at hg hh
    rw [hg, hh, hplaces]
  cases g
  cases h
  simp_all

end KeywordHits

/-! ### Searching -/

/-- To record keywords one after the other is to give each its places. -/
theorem get?_foldl_record (f : String → List Span) {ks : List String} (hks : ks.Nodup)
    (j : String) :
    (ks.foldl (fun hits k => hits.record k (f k)) KeywordHits.none).places.get? j =
      if j ∈ ks ∧ f j ≠ [] then some (f j) else none := by
  induction ks using List.reverseRecOn generalizing j with
  | nil => simp [KeywordHits.none, Entries.empty, Entries.get?, Entries.find?]
  | append_singleton ks k ih =>
      obtain ⟨hks, -, hnew⟩ := List.nodup_append.1 hks
      have hk : k ∉ ks := fun hmem => hnew k hmem k (List.mem_singleton_self k) rfl
      have hfresh :
          (ks.foldl (fun hits k => hits.record k (f k)) KeywordHits.none).spansOf k = [] := by
        rw [KeywordHits.spansOf, ih hks, if_neg fun h => hk h.1, Option.getD_none]
      rw [List.foldl_append, List.foldl_cons, List.foldl_nil, KeywordHits.get?_record, hfresh,
        List.nil_append, ih hks]
      by_cases hj : j = k
      · subst hj
        simp [hk]
      · simp [hj]

namespace KeywordSearch

theorem tallied_find (set : KeywordSet) (text : String) : (find set text).Tallied := by
  simp only [find]
  induction set.keywords using List.reverseRecOn with
  | nil => exact KeywordHits.tallied_none
  | append_singleton ks k ih =>
      rw [List.foldl_append]
      exact ih.record k _

/-- **Each keyword of a set has its places, and one without a place has no entry.** -/
theorem get?_find {set : KeywordSet} (hset : set.keywords.Nodup) (text k : String) :
    (find set text).places.get? k =
      if k ∈ set.keywords ∧ windows (parts k) (loweredWords text) ≠ [] then
        some (windows (parts k) (loweredWords text))
      else none :=
  get?_foldl_record (fun k => windows (parts k) (loweredWords text)) hset k

theorem windows_of_parts_nil (ws : List (Span × List Char)) : windows [] ws = [] := by
  induction ws with
  | nil => rfl
  | cons w ws ih => rw [windows, ih]; rfl

/-- What is found of a keyword. -/
theorem spansOf_find {ks : List String} {k : String} (hk : k ∈ ks) (text : String) :
    (find (.ofList ks) text).spansOf (KeywordSet.normalize k) =
      windows (parts (KeywordSet.normalize k)) (loweredWords text) := by
  rw [KeywordHits.spansOf, get?_find (KeywordSet.nodup_ofList ks)]
  by_cases hempty : KeywordSet.normalize k = ""
  · have hnone : parts "" = [] := rfl
    rw [if_neg fun h => (KeywordSet.mem_ofList.1 h.1).1 hempty, hempty, hnone,
      windows_of_parts_nil, Option.getD_none]
  · have hmem := KeywordSet.mem_ofList.2 ⟨hempty, k, hk, rfl⟩
    split
    · rfl
    · next h =>
      have hwindows := not_not.1 fun hne => h ⟨hmem, hne⟩
      rw [hwindows, Option.getD_none]

/-! ### The case of letters -/

/-- The text with small ASCII letters for the capital ones. -/
def foldCase (s : String) : String := String.ofList (s.toList.map lowerAscii)

theorem normalize_foldCase (k : String) :
    KeywordSet.normalize (foldCase k) = KeywordSet.normalize k := by
  simp only [KeywordSet.normalize, foldCase, lowercase, trim, String.toList_ofList]
  rw [trimBoth_map isBlank_lowerAscii, lowerChars_map_lowerAscii]

theorem loweredWords_foldCase (text : String) :
    loweredWords (foldCase text) = loweredWords text := by
  simp only [loweredWords, words, foldCase, String.toList_ofList]
  rw [wordPieces_map alike_lowerAscii utf8Size_lowerAscii, List.map_map]
  exact List.map_congr_left fun w _ => congrArg _ (lowerChars_map_lowerAscii w.chars)

/-- The same keywords in any order and number, but for the case of ASCII letters. -/
def SameKeywords (ks js : List String) : Prop :=
  (∀ k ∈ ks, foldCase k ∈ js.map foldCase) ∧ ∀ j ∈ js, foldCase j ∈ ks.map foldCase

instance (ks js : List String) : Decidable (SameKeywords ks js) :=
  inferInstanceAs (Decidable (_ ∧ _))

theorem SameKeywords.mem_ofList_iff {ks js : List String} (h : SameKeywords ks js) {k : String} :
    k ∈ (KeywordSet.ofList ks).keywords ↔ k ∈ (KeywordSet.ofList js).keywords := by
  have hexists {ks js : List String} (hsub : ∀ k ∈ ks, foldCase k ∈ js.map foldCase) :
      (∃ raw ∈ ks, KeywordSet.normalize raw = k) → ∃ raw ∈ js, KeywordSet.normalize raw = k := by
    rintro ⟨raw, hraw, rfl⟩
    obtain ⟨j, hj, hfold⟩ := List.mem_map.1 (hsub raw hraw)
    exact ⟨j, hj, by rw [← normalize_foldCase j, hfold, normalize_foldCase]⟩
  rw [KeywordSet.mem_ofList, KeywordSet.mem_ofList]
  exact and_congr_right fun _ => ⟨hexists h.1, hexists h.2⟩

theorem find_congr {ks js : List String} (hkeywords : SameKeywords ks js) {text text' : String}
    (htext : foldCase text = foldCase text') :
    find (.ofList ks) text = find (.ofList js) text' := by
  refine KeywordHits.ext_get? (tallied_find _ _) (tallied_find _ _) fun k => ?_
  have hwords : loweredWords text = loweredWords text' := by
    rw [← loweredWords_foldCase text, htext, loweredWords_foldCase]
  rw [get?_find (KeywordSet.nodup_ofList ks), get?_find (KeywordSet.nodup_ofList js), hwords]
  simp only [hkeywords.mem_ofList_iff]

end KeywordSearch

/-- What is reported of keywords in a text. -/
structure KeywordHits.Reports (h : KeywordHits) (ks : List String) (text : String) : Prop where
  /-- Under the normal form of a keyword stand its places, all of them and no other. -/
  spans : ∀ k ∈ ks, ∀ s, s ∈ h.spansOf (KeywordSet.normalize k) ↔
    KeywordSearch.IsPlaceOf (KeywordSet.normalize k) text s
  /-- Places stand in the order of the text. -/
  ordered : ∀ k, (h.spansOf k).Pairwise fun s t => s.start < t.start ∧ s.stop < t.stop
  /-- Entries are those of the keywords that have a place. -/
  entries : ∀ k, (∃ spans, (k, spans) ∈ h.places) ↔
    (∃ raw ∈ ks, KeywordSet.normalize raw = k) ∧ ∃ s, KeywordSearch.IsPlaceOf k text s
  /-- No keyword has two entries. -/
  ascending : h.places.toList.Pairwise fun e f => compare e.1 f.1 = .lt
  total : h.total = (h.places.toList.map fun e => e.2.length).sum

namespace KeywordSearch

theorem exists_mem_places_iff {ks : List String} {text k : String} :
    (∃ spans, (k, spans) ∈ (find (.ofList ks) text).places) ↔
      (∃ raw ∈ ks, KeywordSet.normalize raw = k) ∧ ∃ s, IsPlaceOf k text s := by
  have hget := get?_find (KeywordSet.nodup_ofList ks) text k
  have hsome : (∃ s, IsPlaceOf k text s) ↔ windows (parts k) (loweredWords text) ≠ [] := by
    simp only [← mem_windows_parts_iff]
    exact ⟨fun ⟨_, hs⟩ => List.ne_nil_of_mem hs, List.exists_mem_of_ne_nil _⟩
  constructor
  · rintro ⟨spans, hspans⟩
    rw [Entries.get?_of_mem hspans] at hget
    split at hget
    · next h => exact ⟨(KeywordSet.mem_ofList.1 h.1).2, hsome.2 h.2⟩
    · exact absurd hget nofun
  · rintro ⟨hk, hplace⟩
    have hne : k ≠ "" := by
      rintro rfl
      exact hsome.1 hplace (windows_of_parts_nil _)
    rw [if_pos ⟨KeywordSet.mem_ofList.2 ⟨hne, hk⟩, hsome.1 hplace⟩] at hget
    exact ⟨_, Entries.mem_of_get? hget⟩

/-- **A search reports the places of each keyword**, and neither the order and number of the
keywords nor the case of ASCII letters changes anything in the report. -/
theorem reports_find (ks : List String) (text : String) :
    (find (.ofList ks) text).Reports ks text ∧
      ∀ js text', SameKeywords ks js → foldCase text = foldCase text' →
        find (.ofList ks) text = find (.ofList js) text' := by
  refine ⟨⟨fun k hk s => ?_, fun k => ?_, fun k => exists_mem_places_iff,
    (find (.ofList ks) text).places.ascending, tallied_find _ _⟩,
    fun js text' hkeywords htext => find_congr hkeywords htext⟩
  · rw [spansOf_find hk, mem_windows_parts_iff]
  · rw [KeywordHits.spansOf, get?_find (KeywordSet.nodup_ofList ks)]
    split
    · exact pairwise_windows_parts k text
    · exact List.Pairwise.nil

/-- Two keywords in another order, one of them twice, and both they and the text in another case. -/
theorem reports_newYork :
    SameKeywords ["New York", "cars"] ["CARS", "new york", "Cars"] ∧
      foldCase "New York, new york" = foldCase "NEW york, New YORK" ∧
        find (.ofList ["New York", "cars"]) "New York, new york" =
          find (.ofList ["CARS", "new york", "Cars"]) "NEW york, New YORK" := by
  have hkeywords : SameKeywords ["New York", "cars"] ["CARS", "new york", "Cars"] := by
    decide +kernel
  have htext : foldCase "New York, new york" = foldCase "NEW york, New YORK" := by decide +kernel
  exact ⟨hkeywords, htext, (reports_find _ _).2 _ _ hkeywords htext⟩

/-- Places of one keyword may overlap. -/
example : (find (.ofList ["a a"]) "A a a").places.toList = [("a a", [⟨0, 3⟩, ⟨2, 5⟩])] := by
  decide +kernel

end KeywordSearch

end GradedReading
