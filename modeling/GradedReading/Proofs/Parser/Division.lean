import GradedReading.Proofs.Parser.Within
import GradedReading.Proofs.Text.MaximalRuns
import GradedReading.Proofs.Text.MaximalStretches

/-!
# GradedReading.Proofs.Parser.Division

A text is divided into its sentences, and each word falls to one of them.

**Key idea:** words and sentences are found by two cuttings that know nothing of each other. They
fit because no word character closes a sentence and no letter or digit is a blank: a word is not cut
where a sentence ends, and what a sentence loses at its ends is no part of a word. So a sentence has
the same words whether it is read by itself or in its text (`filter_within_sentence`), and the words
of all sentences are those of the text (`wordPieces_eq_flatMap`).

The main statement is `isDividedInto_sentences`.
-/

namespace GradedReading.Parser

open Text

/-- **Each sentence holds a word.** -/
theorem exists_word_within {s : Piece} {cs : List Char} (h : s ∈ sentencePieces cs) :
    ∃ w ∈ wordPieces cs, w.span.within s.span = true := by
  have hne : (wordPieces cs).filter (fun w => w.span.within s.span) ≠ [] := by
    rw [filter_within_sentence h]
    exact mt List.map_eq_nil_iff.1 (wordPieces_ne_nil_of_isSentence (isSentence_of_mem h))
  obtain ⟨w, hw⟩ := List.exists_mem_of_ne_nil _ hne
  exact ⟨w, List.mem_filter.1 hw⟩

/-- **To count the words of each sentence is to count all words.** -/
theorem sum_wordsWithin (cs : List Char) :
    ((sentencePieces cs).map fun s => wordsWithin (tokenize cs) s.span).sum =
      (wordPieces cs).length := by
  have hcounts : ((sentencePieces cs).map fun s => wordsWithin (tokenize cs) s.span) =
      (sentencePieces cs).map fun s =>
        ((wordPieces s.chars).map (Piece.shift s.span.start)).length :=
    List.map_congr_left fun s hs => by rw [wordsWithin_tokenize hs, List.length_map]
  rw [hcounts, ← List.length_flatMap, ← wordPieces_eq_flatMap]

theorem isTerminator_of_isStretch {cs : List Char} (h : IsStretch cs) :
    ∀ c ∈ cs.dropLast, isTerminator c = false :=
  fun c hc => (Bool.or_eq_false_iff.1 (h c hc)).1

/-- A text and its sentences. -/
structure IsDividedInto (text : String) (ss : List Piece) : Prop where
  /-- Sentences are what is left of the maximal stretches. -/
  stretches : ∀ s, s ∈ ss ↔ s.IsTrimmedStretch text.toList
  /-- Sentences stand in the order of the text, and no two have a byte in common. -/
  ordered : ss.Pairwise fun s t => s.span.stop ≤ t.span.start
  nonempty : ∀ s ∈ ss, s.span.start < s.span.stop
  /-- A sentence is what the text shows at its place. -/
  shown : ∀ s ∈ ss,
    IsBoundary text s.span.start ∧ IsBoundary text s.span.stop ∧ s.span.textIn text = s.text
  /-- A sentence begins and ends with something visible. -/
  trimmed : ∀ s ∈ ss, Firm isBlank s.chars
  /-- A terminator is at most the last character. -/
  closed : ∀ s ∈ ss, ∀ c ∈ s.chars.dropLast, isTerminator c = false
  /-- Each word lies within one sentence, -/
  housed : ∀ w ∈ words text, ∃! s, s ∈ ss ∧ w.span.within s.span = true
  /-- and each sentence holds a word. -/
  spoken : ∀ s ∈ ss, ∃ w ∈ words text, w.span.within s.span = true
  /-- The words that are counted to find long sentences are all words of the text. -/
  counted : ∀ language, (ss.map fun s => wordsWithin (tokenize text.toList) s.span).sum =
    (statsOf language (tokenize text.toList) ss).words

/-- **A text is divided into its sentences.** -/
theorem isDividedInto_sentences (text : String) : IsDividedInto text (sentences text) where
  stretches _ := mem_sentencePieces_iff
  ordered := pairwise_sentencePieces text.toList
  nonempty _ hs := (isSentence_of_mem hs).start_lt
  shown _ hs := (isSentence_of_mem hs).isIn.textIn_span
  trimmed _ hs := (isSentence_of_mem hs).firm
  closed _ hs := isTerminator_of_isStretch (isSentence_of_mem hs).isStretch
  housed _ hw := inOneSentence_of_isWord (isWord_of_mem hw)
  spoken _ hs := exists_word_within hs
  counted language := by
    rw [sentences, sum_wordsWithin, statsOf, length_tokenize]

example : (sentences " «Who?» ...\n'Me'").map (fun s => (s.text, s.span)) =
    [("«Who?", ⟨1, 7⟩), ("'Me'", ⟨14, 18⟩)] := by
  decide +kernel

end GradedReading.Parser
