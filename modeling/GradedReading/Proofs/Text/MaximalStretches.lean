import GradedReading.Proofs.Text.Sentences

/-!
# GradedReading.Proofs.Text.MaximalStretches

The sentences of a text are its maximal stretches with a letter or digit, without the blanks at
their ends.

**Key idea:** a maximal stretch begins where a sentence may start and ends where one is closed, or
where the text ends. At both places the text is cut in two (`sentencePieces_append`), and what is
left between the cuts is one stretch with no more than one sentence.

The main statement is `mem_sentencePieces_iff`. Together with their order
(`pairwise_sentencePieces`) it says which sentences a text has.
-/

namespace GradedReading.Text

/-- A stretch of a text that begins where the text begins or what stands before it was closed, and
that ends where it is closed for the first time, or where the text ends. -/
structure IsMaximalStretch (cs before stretch rest : List Char) : Prop where
  text : cs = before ++ (stretch ++ rest)
  ne_nil : stretch ≠ []
  isStretch : IsStretch stretch
  left : ∀ c, before.getLast? = some c → closesSentence c = true
  right : rest ≠ [] → ∃ c, stretch.getLast? = some c ∧ closesSentence c = true

/-- A maximal stretch is one of a longer text as well, if the text before was closed. -/
theorem IsMaximalStretch.append_right {cs before stretch rest : List Char} {c : Char}
    (h : IsMaximalStretch (cs ++ [c]) before stretch rest) (hc : closesSentence c = true)
    (ds : List Char) : IsMaximalStretch (cs ++ [c] ++ ds) before stretch (rest ++ ds) where
  text := by rw [h.text, List.append_assoc, List.append_assoc]
  ne_nil := h.ne_nil
  isStretch := h.isStretch
  left := h.left
  right _ := by
    by_cases hrest : rest = []
    · have hlast : (cs ++ [c]).getLast? = stretch.getLast? := by
        rw [h.text, hrest, List.append_nil, List.getLast?_append_of_ne_nil _ h.ne_nil]
      exact ⟨c, by rw [← hlast, List.getLast?_concat], hc⟩
    · exact h.right hrest

theorem IsMaximalStretch.append_left {cs before stretch rest : List Char} {c : Char}
    (h : IsMaximalStretch cs before stretch rest) (hc : closesSentence c = true)
    (ds : List Char) : IsMaximalStretch (ds ++ [c] ++ cs) (ds ++ [c] ++ before) stretch rest where
  text := by rw [h.text, List.append_assoc (ds ++ [c])]
  ne_nil := h.ne_nil
  isStretch := h.isStretch
  left d hd := by
    by_cases hbefore : before = []
    · rw [hbefore, List.append_nil, List.getLast?_concat] at hd
      exact Option.some.inj hd ▸ hc
    · rw [List.getLast?_append_of_ne_nil _ hbefore] at hd
      exact h.left d hd
  right := h.right

/-- What is left of a maximal stretch of the text without the blanks at its two ends, if it says
anything. -/
def Piece.IsTrimmedStretch (s : Piece) (cs : List Char) : Prop :=
  ∃ before lead sentence tail rest, IsMaximalStretch cs before (lead ++ sentence ++ tail) rest ∧
    (∀ c ∈ lead, isBlank c = true) ∧ (∀ c ∈ tail, isBlank c = true) ∧ Firm isBlank sentence ∧
      (∃ c ∈ sentence, isAlphanumeric c = true) ∧ s = Piece.after (before ++ lead) sentence

/-- A sentence is left of a maximal stretch, -/
theorem isTrimmedStretch_of_mem {s : Piece} {cs : List Char} (h : s ∈ sentencePieces cs) :
    s.IsTrimmedStretch cs := by
  induction cs using sentence_induction generalizing s with
  | stretch cs hcs =>
      rw [sentencePieces_of_isStretch hcs] at h
      rcases sentenceOfStretch_cases cs with
        hnone | ⟨lead, sentence, tail, rfl, hlead, hfirm, htail, hletter⟩
      · simp [sentenceOfStretch_eq_none 0 hnone] at h
      · rw [sentenceOfStretch_eq_some 0 hlead hfirm htail hletter, Option.toList_some,
          List.mem_singleton, Piece.shift_zero] at h
        have hne : lead ++ sentence ++ tail ≠ [] := by simp [hfirm.ne_nil]
        refine ⟨[], lead, sentence, tail, [], ⟨by simp, hne, hcs, nofun, ?_⟩, hlead, htail, hfirm,
          hletter, h⟩
        exact fun hrest => absurd rfl hrest
  | append cs c ds hc hfirst hrest =>
      rw [sentencePieces_append hc, List.mem_append, List.mem_map] at h
      rcases h with h | ⟨t, ht, rfl⟩
      · obtain ⟨before, lead, sentence, tail, rest, hmax, hs⟩ := hfirst h
        exact ⟨before, lead, sentence, tail, _, hmax.append_right hc ds, hs⟩
      · obtain ⟨before, lead, sentence, tail, rest, hmax, hlead, htail, hfirm, hletter, rfl⟩ :=
          hrest ht
        refine ⟨cs ++ [c] ++ before, lead, sentence, tail, rest, hmax.append_left hc cs, hlead,
          htail, hfirm, hletter, ?_⟩
        rw [Piece.shift_after, ← List.append_assoc]

theorem mem_sentencePieces_append_right {s : Piece} {stretch rest : List Char}
    (h : s ∈ sentencePieces stretch)
    (hright : rest ≠ [] → ∃ c, stretch.getLast? = some c ∧ closesSentence c = true) :
    s ∈ sentencePieces (stretch ++ rest) := by
  by_cases hrest : rest = []
  · rwa [hrest, List.append_nil]
  · obtain ⟨c, hlast, hc⟩ := hright hrest
    obtain ⟨front, rfl⟩ := List.getLast?_eq_some_iff.1 hlast
    rw [sentencePieces_append hc]
    exact List.mem_append_left _ h

theorem mem_sentencePieces_append_left {s : Piece} {cs before : List Char}
    (h : s ∈ sentencePieces cs)
    (hleft : ∀ c, before.getLast? = some c → closesSentence c = true) :
    s.shift (byteLength before) ∈ sentencePieces (before ++ cs) := by
  rcases List.eq_nil_or_concat' before with rfl | ⟨front, c, rfl⟩
  · exact h
  · rw [sentencePieces_append (hleft c List.getLast?_concat)]
    exact List.mem_append_right _ (List.mem_map_of_mem h)

/-- and what is left of a maximal stretch is a sentence. -/
theorem mem_of_isTrimmedStretch {s : Piece} {cs : List Char} (h : s.IsTrimmedStretch cs) :
    s ∈ sentencePieces cs := by
  obtain ⟨before, lead, sentence, tail, rest, hmax, hlead, htail, hfirm, hletter, rfl⟩ := h
  have hstretch : Piece.after lead sentence ∈ sentencePieces (lead ++ sentence ++ tail) := by
    rw [sentencePieces_of_isStretch hmax.isStretch,
      sentenceOfStretch_eq_some 0 hlead hfirm htail hletter]
    exact List.mem_singleton_self _
  rw [hmax.text, ← Piece.shift_after]
  exact mem_sentencePieces_append_left (mem_sentencePieces_append_right hstretch hmax.right)
    hmax.left

/-- **Sentences are what is left of the maximal stretches.** -/
theorem mem_sentencePieces_iff {s : Piece} {cs : List Char} :
    s ∈ sentencePieces cs ↔ s.IsTrimmedStretch cs :=
  ⟨isTrimmedStretch_of_mem, mem_of_isTrimmedStretch⟩

end GradedReading.Text
