import GradedReading.Keyword.Search
import GradedReading.Proofs.Text.Words

/-!
# GradedReading.Proofs.Keyword.Windows

The places of one keyword in a text.

**Key idea:** the search looks at one window for each word of the text, so the windows that agree
with the keyword are picked from the numbers of the words in ascending order
(`windows_eq_filterMap`). That they are all such windows (`mem_windows_iff`) and that later ones
begin and end later (`pairwise_windows`) is read off this form.
-/

namespace GradedReading

open Text

namespace KeywordSearch

/-! ### One window -/

/-- The window at the front of a list of words, if there is one. -/
theorem windowAt_eq_some_iff {parts : List (List Char)} {ws : List (Span × List Char)} {s : Span} :
    windowAt parts ws = some s ↔
      ∃ run rest first last, ws = run ++ rest ∧ run.map (·.2) = parts ∧ run.head? = some first ∧
        run.getLast? = some last ∧ s = first.1.cover last.1 := by
  constructor
  · intro h
    simp only [windowAt] at h
    split at h
    · next hparts =>
      split at h
      · next first last hfirst hlast =>
        exact ⟨_, _, first, last, (List.take_append_drop parts.length ws).symm,
          eq_of_beq hparts, hfirst, hlast, (Option.some.inj h).symm⟩
      · exact absurd h nofun
    · exact absurd h nofun
  · rintro ⟨run, rest, first, last, rfl, rfl, hfirst, hlast, rfl⟩
    simp [windowAt, hfirst, hlast]

/-- **The windows are picked by the numbers of their first words.** -/
theorem windows_eq_filterMap (parts : List (List Char)) (ws : List (Span × List Char)) :
    windows parts ws = (List.range ws.length).filterMap fun i => windowAt parts (ws.drop i) := by
  induction ws with
  | nil => rfl
  | cons w ws ih =>
      rw [windows, ih, List.length_cons, List.range_succ_eq_map, List.filterMap_cons,
        List.filterMap_map]
      rw [List.drop_zero]
      cases windowAt parts (w :: ws) <;> rfl

theorem mem_windows_iff {parts : List (List Char)} {ws : List (Span × List Char)} {s : Span} :
    s ∈ windows parts ws ↔
      ∃ before run rest first last, ws = before ++ (run ++ rest) ∧ run.map (·.2) = parts ∧
        run.head? = some first ∧ run.getLast? = some last ∧ s = first.1.cover last.1 := by
  rw [windows_eq_filterMap, List.mem_filterMap]
  constructor
  · rintro ⟨i, -, hi⟩
    obtain ⟨run, rest, first, last, hdrop, h⟩ := windowAt_eq_some_iff.1 hi
    exact ⟨ws.take i, run, rest, first, last, by rw [← hdrop, List.take_append_drop], h⟩
  · rintro ⟨before, run, rest, first, last, rfl, h⟩
    refine ⟨before.length, List.mem_range.2 ?_, windowAt_eq_some_iff.2 ?_⟩
    · have hrun : 0 < run.length := by
        obtain ⟨later, rfl⟩ := List.head?_eq_some_iff.1 h.2.1
        exact Nat.succ_pos _
      rw [List.length_append, List.length_append]
      omega
    · exact ⟨run, rest, first, last, List.drop_left .., h⟩

/-! ### The order of windows -/

/-- The words at the two ends of a window, by their numbers. -/
theorem getElem?_of_windowAt {parts : List (List Char)} {ws : List (Span × List Char)} {i : Nat}
    {s : Span} (h : windowAt parts (ws.drop i) = some s) :
    ∃ first last, ws[i]? = some first ∧ ws[i + (parts.length - 1)]? = some last ∧
      s = first.1.cover last.1 := by
  obtain ⟨run, rest, first, last, hdrop, rfl, hfirst, hlast, rfl⟩ := windowAt_eq_some_iff.1 h
  have hne : run ≠ [] := fun hnil => by simp [hnil] at hfirst
  have hpos := List.length_pos_of_ne_nil hne
  have hfront : (ws.drop i)[0]? = some first := by
    rw [hdrop, ← List.head?_eq_getElem?, List.head?_append, hfirst, Option.some_or]
  have hback : (ws.drop i)[run.length - 1]? = some last := by
    rw [hdrop, List.getElem?_append_left (by omega), ← List.getLast?_eq_getElem?, hlast]
  rw [List.getElem?_drop] at hfront hback
  exact ⟨first, last, hfront, by rw [List.length_map]; exact hback, rfl⟩

/-- **Later windows begin later and end later**, if later words do. -/
theorem pairwise_windows (parts : List (List Char)) {ws : List (Span × List Char)}
    (hws : ws.Pairwise fun v w => v.1.start < w.1.start ∧ v.1.stop < w.1.stop) :
    (windows parts ws).Pairwise fun s t => s.start < t.start ∧ s.stop < t.stop := by
  rw [windows_eq_filterMap, List.pairwise_filterMap]
  refine List.pairwise_lt_range.imp fun hij s hs t ht => ?_
  obtain ⟨v, v', hv, hv', rfl⟩ := getElem?_of_windowAt hs
  obtain ⟨w, w', hw, hw', rfl⟩ := getElem?_of_windowAt ht
  have hlater {i j : Nat} {v w : Span × List Char} (hij : i < j) (hv : ws[i]? = some v)
      (hw : ws[j]? = some w) : v.1.start < w.1.start ∧ v.1.stop < w.1.stop := by
    obtain ⟨hi, rfl⟩ := List.getElem?_eq_some_iff.1 hv
    obtain ⟨hj, rfl⟩ := List.getElem?_eq_some_iff.1 hw
    exact List.pairwise_iff_getElem.1 hws _ _ hi hj hij
  exact ⟨(hlater hij hv hw).1, (hlater (Nat.add_lt_add_right hij _) hv' hw').2⟩

/-! ### Keywords in a text -/

/-- The span of words in a row of the text that agree with the words of the keyword in lowercase:
from the start of the first one to the end of the last one. -/
def IsPlaceOf (keyword text : String) (s : Span) : Prop :=
  ∃ before run rest first last, words text = before ++ (run ++ rest) ∧
    run.map (fun w => lowerChars w.chars) = (words keyword).map (fun w => lowerChars w.chars) ∧
      run.head? = some first ∧ run.getLast? = some last ∧ s = first.span.cover last.span

/-- **The search finds the places of a keyword and no other.** -/
theorem mem_windows_parts_iff {keyword text : String} {s : Span} :
    s ∈ windows (parts keyword) (loweredWords text) ↔ IsPlaceOf keyword text s := by
  have hparts : parts keyword = (words keyword).map fun w => lowerChars w.chars := List.map_map ..
  rw [mem_windows_iff, hparts]
  constructor
  · rintro ⟨before, run, rest, first, last, hwords, hrun, hfirst, hlast, rfl⟩
    obtain ⟨before, tail, htext, rfl, htail⟩ := List.map_eq_append_iff.1 hwords
    obtain ⟨run, rest, rfl, rfl, rfl⟩ := List.map_eq_append_iff.1 htail
    rw [List.head?_map] at hfirst
    rw [List.getLast?_map] at hlast
    obtain ⟨v, hv, rfl⟩ := Option.map_eq_some_iff.1 hfirst
    obtain ⟨w, hw, rfl⟩ := Option.map_eq_some_iff.1 hlast
    rw [List.map_map] at hrun
    exact ⟨before, run, rest, v, w, htext, hrun, hv, hw, rfl⟩
  · rintro ⟨before, run, rest, first, last, htext, hrun, hfirst, hlast, rfl⟩
    refine ⟨_, _, _, _, _, by rw [loweredWords, htext, List.map_append, List.map_append], ?_,
      by rw [List.head?_map, hfirst, Option.map_some],
      by rw [List.getLast?_map, hlast, Option.map_some], rfl⟩
    rw [List.map_map]
    exact hrun

theorem pairwise_words (text : String) :
    (words text).Pairwise fun v w => v.span.start < w.span.start ∧ v.span.stop < w.span.stop := by
  refine (pairwise_wordPieces text.toList).imp_of_mem fun hv hw hvw => ?_
  have hvspan := (isWord_of_mem hv).start_lt
  have hwspan := (isWord_of_mem hw).start_lt
  omega

theorem pairwise_windows_parts (keyword text : String) :
    (windows (parts keyword) (loweredWords text)).Pairwise fun s t =>
      s.start < t.start ∧ s.stop < t.stop :=
  pairwise_windows _ (List.pairwise_map.2 (pairwise_words text))

end KeywordSearch

end GradedReading
