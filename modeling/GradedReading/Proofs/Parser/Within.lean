import GradedReading.Proofs.Parser.Outcome

/-!
# GradedReading.Proofs.Parser.Within

Which places of constructions lie within one sentence.

A rule that finds a sentence or a single word never leaves the sentence. The rules of English that
join a word with the next one, or with the one after next, know nothing of sentences: they look at
the words of the whole text. Their places lie within one sentence exactly if no sentence ends
between the words (`keepsToSentences_of_parse`); if one does, the place reaches from one sentence
into another (`not_keepsToSentences_than`).
-/

namespace GradedReading

open Text GradedReading.Parser

/-- The span lies within one sentence of the text, and in no other. -/
def InOneSentence (text : String) (span : Span) : Prop :=
  ∃! s, s ∈ sentences text ∧ span.within s.span = true

/-- The span runs from a word to the next one, or to the one after it for a passive, and lies within
one sentence exactly if no character in it closes a sentence. -/
structure JoinsWords (text : String) (c : Construction) (span : Span) : Prop where
  words : ∃ (i k : Nat) (v w : Piece), (words text)[i]? = some v ∧ (words text)[k]? = some w ∧
    (k = i + 1 ∨ c = .passiveVoice ∧ k = i + 2) ∧ span = v.span.cover w.span
  inOneSentence_iff : ∃ chars, (⟨span, chars⟩ : Piece).IsIn text.toList ∧
    (InOneSentence text span ↔ ∀ ch ∈ chars, closesSentence ch = false)

/-- Places of sentences and single words lie within one sentence, and those of several words do
unless a sentence ends between the words. -/
def Document.KeepsToSentences (d : Document) (source : Source) : Prop :=
  ∀ e ∈ d.constructions, ∃ c : Construction, e.1 = c.name ∧ ∀ span ∈ e.2,
    (c.joinsWords = false → InOneSentence source.text span) ∧
    (c.joinsWords = true → d.language = .english ∧ JoinsWords source.text c span)

/-- A span that is not empty cannot lie within two sentences. -/
theorem inOneSentence_iff {text : String} {span : Span} (h : span.start < span.stop) :
    InOneSentence text span ↔ ∃ s ∈ sentences text, span.within s.span = true := by
  constructor
  · rintro ⟨s, hs, -⟩
    exact ⟨s, hs⟩
  · rintro ⟨s, hs, hwithin⟩
    exact ⟨s, ⟨hs, hwithin⟩, fun t ht => eq_of_within h ht.1 hs ht.2 hwithin⟩

theorem inOneSentence_of_mem {text : String} {s : Piece} (h : s ∈ sentences text) :
    InOneSentence text s.span :=
  (inOneSentence_iff (isSentence_of_mem h).start_lt).2
    ⟨s, h, Span.within_iff.2 ⟨Nat.le_refl _, Nat.le_refl _⟩⟩

/-- What begins and ends with a letter or digit lies within one sentence if none ends in it. -/
theorem inOneSentence_iff_of_isLettered {text : String} {u : Piece} (hu : u.IsIn text.toList)
    (hletters : IsLettered u.chars) :
    InOneSentence text u.span ↔ ∀ ch ∈ u.chars, closesSentence ch = false := by
  rw [inOneSentence_iff (hu.start_lt hletters.firm.ne_nil)]
  exact within_sentence_iff hu hletters

/-- **Each word lies within one sentence.** -/
theorem inOneSentence_of_isWord {text : String} {w : Piece} (h : w.IsWord text.toList) :
    InOneSentence text w.span := by
  refine (inOneSentence_iff_of_isLettered h.isIn h.isLettered).2 fun ch hch => ?_
  by_contra hclose
  have := isWordChar_of_closesSentence (Bool.of_not_eq_false hclose)
  simp [h.wordChars ch hch] at this

theorem joinsWords_of_cover {text : String} {c : Construction} {i k : Nat} {s t : Token}
    (hs : (tokenize text.toList)[i]? = some s) (ht : (tokenize text.toList)[k]? = some t)
    (hik : i < k) (hnear : k = i + 1 ∨ c = .passiveVoice ∧ k = i + 2) :
    JoinsWords text c (s.span.cover t.span) := by
  obtain ⟨u, hu, hspan, hletters⟩ := exists_isLettered hik hs ht
  obtain ⟨v, hv, rfl⟩ := exists_word hs
  obtain ⟨w, hw, rfl⟩ := exists_word ht
  refine ⟨⟨i, k, v, w, hv, hw, hnear, rfl⟩, u.chars, ?_, ?_⟩
  · rw [← hspan]
    exact hu
  · rw [← hspan]
    exact inOneSentence_iff_of_isLettered hu hletters

/-- **Places keep to sentences**, those of several words as far as no sentence ends between the
words. -/
theorem keepsToSentences_of_parse {language : Language} {source : Source} {d : Document}
    (h : parse language source = .ok d) : d.KeepsToSentences source := by
  obtain ⟨-, rfl⟩ := parse_eq_ok_iff.1 h
  intro e he
  obtain ⟨c, rfl, -⟩ := mem_constructionsOf.1 he
  refine ⟨c, rfl, fun span hspan => ⟨fun hc => ?_, fun hc => ?_⟩⟩
  · rcases Construction.mem_places hspan with ⟨-, s, hs, rfl⟩ | ⟨i, x, hx, hanswer⟩
    · exact inOneSentence_of_mem hs
    · obtain ⟨w, -, hw, hword⟩ := exists_isWord hx.token
      rw [hanswer.eq_word hc, hword]
      exact inOneSentence_of_isWord hw
  · rcases Construction.mem_places hspan with ⟨hsentence, -⟩ | ⟨i, x, hx, hanswer⟩
    · exact absurd hsentence (by simp [hc])
    · obtain ⟨hl, j, k, v, w, hv, hw, hjk, hnear, rfl⟩ := hanswer.exists_cover hc hx
      exact ⟨hl, joinsWords_of_cover hv hw hjk hnear⟩

/-- A comparison that two sentences share, and a passive with a sentence of its own. -/
def sharedComparison : Source := ⟨⟨0, "t", none⟩, "It was quickly sold. Than it fell."⟩

/-- The passive keeps to its sentence and the comparison does not. -/
theorem keepsToSentences_shared :
    ∃ d, parse .english sharedComparison = .ok d ∧ d.KeepsToSentences sharedComparison :=
  have hany : sharedComparison.text.toList.any isAlphanumeric = true := by decide +kernel
  ⟨_, parse_of_any hany, keepsToSentences_of_parse (parse_of_any hany)⟩

/-- **Not every place lies within one sentence.** -/
theorem not_keepsToSentences_than :
    ¬ ∀ (language : Language) (source : Source) (d : Document), parse language source = .ok d →
      ∀ e ∈ d.constructions, ∀ span ∈ e.2, InOneSentence source.text span := by
  intro h
  have hany : sharedComparison.text.toList.any isAlphanumeric = true := by decide +kernel
  have hmem : ("comparative", [⟨15, 25⟩]) ∈ constructionsOf .english
      (tokenize sharedComparison.text.toList) (sentencePieces sharedComparison.text.toList) := by
    decide +kernel
  obtain ⟨s, ⟨hs, hwithin⟩, -⟩ :=
    h .english _ _ (parse_of_any hany) _ hmem ⟨15, 25⟩ List.mem_cons_self
  have hnone : ∀ s ∈ sentences sharedComparison.text,
      (⟨15, 25⟩ : Span).within s.span = false := by decide +kernel
  simp [hnone s hs] at hwithin

end GradedReading
