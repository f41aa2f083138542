import GradedReading.Proofs.Text.Words
import Mathlib.Algebra.BigOperators.Group.List.Basic
import Mathlib.Data.List.Pairwise

/-!
# GradedReading.Proofs.Text.Sentences

The sentences of a text, and its words in them.

**Key idea:** a text is cut behind every character that closes a sentence, and words are cut there
too. So both lists come stretch by stretch, and in one stretch there is at most one sentence, which
holds all its words. The main statements:

* the words of a text are the words of its sentences, one sentence after the other
  (`wordPieces_eq_flatMap`);
* sentences follow one another, and each has a word (`pairwise_sentencePieces`,
  `wordPieces_ne_nil_of_isSentence`);
* what begins and ends with a letter or digit lies within one sentence exactly if no character in
  it closes a sentence (`within_sentence_iff`); a word always does.
-/

namespace GradedReading.Text

/-! ### One stretch -/

theorem sentenceOfStretch_eq_some {lead sentence tail : List Char} (start : Nat)
    (hlead : ∀ c ∈ lead, isBlank c = true) (hsentence : Firm isBlank sentence)
    (htail : ∀ c ∈ tail, isBlank c = true) (hletter : ∃ c ∈ sentence, isAlphanumeric c = true) :
    sentenceOfStretch start (lead ++ sentence ++ tail) =
      some ((Piece.after lead sentence).shift start) := by
  rw [sentenceOfStretch, trimBoth_eq hlead hsentence htail, takeWhile_eq hlead hsentence,
    if_pos (List.any_eq_true.2 hletter)]
  simp only [Piece.shift, Piece.after, Span.shift, Option.some.injEq, Piece.mk.injEq,
    Span.mk.injEq, and_true]
  omega

theorem sentenceOfStretch_eq_none {cs : List Char} (start : Nat)
    (h : ∀ c ∈ cs, isAlphanumeric c = false) : sentenceOfStretch start cs = none := by
  have hany : (trimBoth isBlank cs).any isAlphanumeric = false := by
    refine List.any_eq_false.2 fun c hc => ?_
    rw [trimBoth, trimEnd, List.mem_reverse] at hc
    have hstart := (List.dropWhile_sublist _).subset hc
    simp [h c ((List.dropWhile_sublist _).subset (List.mem_reverse.1 hstart))]
  simp [sentenceOfStretch, hany]

/-- The two cases of a stretch: nothing is said in it, or it is a sentence between blanks. -/
theorem sentenceOfStretch_cases (cs : List Char) :
    (∀ c ∈ cs, isAlphanumeric c = false) ∨
      ∃ lead sentence tail, cs = lead ++ sentence ++ tail ∧ (∀ c ∈ lead, isBlank c = true) ∧
        Firm isBlank sentence ∧ (∀ c ∈ tail, isBlank c = true) ∧
        ∃ c ∈ sentence, isAlphanumeric c = true := by
  by_cases h : ∃ c ∈ cs, isAlphanumeric c = true
  · refine .inr ?_
    obtain ⟨c, hc, hletter⟩ := h
    have hvisible : isBlank c = false := by
      by_contra hblank
      simp [isAlphanumeric_of_isBlank (Bool.of_not_eq_false hblank)] at hletter
    obtain ⟨lead, sentence, tail, rfl, hlead, hsentence, htail⟩ := exists_middle ⟨c, hc, hvisible⟩
    refine ⟨lead, sentence, tail, rfl, hlead, hsentence, htail, c, ?_, hletter⟩
    -- a letter is no blank, so that it stands in the middle
    simp only [List.mem_append] at hc
    rcases hc with (hc | hc) | hc
    · simp [hlead c hc] at hvisible
    · exact hc
    · simp [htail c hc] at hvisible
  · exact .inl (by simpa using h)

theorem shift_sentenceOfStretch (n start : Nat) (cs : List Char) :
    (sentenceOfStretch start cs).map (Piece.shift n) = sentenceOfStretch (start + n) cs := by
  simp only [sentenceOfStretch]
  split
  · simp [Piece.shift, Span.shift, Nat.add_right_comm]
  · rfl

/-! ### Cutting a text behind a sentence -/

theorem sentencesFrom_shift (n start : Nat) (stretch cs : List Char) :
    sentencesFrom (start + n) stretch cs =
      (sentencesFrom start stretch cs).map (Piece.shift n) := by
  induction cs generalizing start stretch with
  | nil => rw [sentencesFrom, sentencesFrom, ← shift_sentenceOfStretch, Option.toList_map]
  | cons c cs ih =>
      rw [sentencesFrom, sentencesFrom]
      split
      · rw [Nat.add_right_comm, ih, ← shift_sentenceOfStretch, Option.toList_map, List.map_append]
      · exact ih start (c :: stretch)

theorem sentencesFrom_append {c : Char} (hc : closesSentence c = true) (start : Nat)
    (stretch cs ds : List Char) :
    sentencesFrom start stretch (cs ++ [c] ++ ds) = sentencesFrom start stretch (cs ++ [c]) ++
      sentencesFrom (start + byteLength stretch + byteLength (cs ++ [c])) [] ds := by
  induction cs generalizing start stretch with
  | nil =>
      have hempty : ∀ place, sentenceOfStretch place [] = none := fun _ => rfl
      simp only [List.nil_append, List.singleton_append, sentencesFrom, hc, if_true,
        List.reverse_nil, hempty, Option.toList_none, List.append_nil, byteLength_cons,
        byteLength_nil]
      rw [Nat.add_zero, Nat.add_assoc, Nat.add_comm c.utf8Size]
  | cons d cs ih =>
      simp only [List.cons_append, sentencesFrom]
      split
      · have hstart : start + byteLength (d :: stretch) + byteLength [] + byteLength (cs ++ [c]) =
            start + byteLength stretch + byteLength (d :: (cs ++ [c])) := by
          simp only [byteLength_cons, byteLength_nil]
          omega
        rw [ih, hstart, List.append_assoc]
      · have hstart : start + byteLength (d :: stretch) + byteLength (cs ++ [c]) =
            start + byteLength stretch + byteLength (d :: (cs ++ [c])) := by
          simp only [byteLength_cons]
          omega
        rw [ih, hstart]

/-- A stretch that one sentence may come from: no character but the last one closes a sentence. -/
def IsStretch (cs : List Char) : Prop := ∀ c ∈ cs.dropLast, closesSentence c = false

theorem sentencesFrom_of_isStretch (start : Nat) (stretch : List Char) {cs : List Char}
    (h : IsStretch cs) :
    sentencesFrom start stretch cs = (sentenceOfStretch start (stretch.reverse ++ cs)).toList := by
  induction cs generalizing stretch with
  | nil => rw [sentencesFrom, List.append_nil]
  | cons c cs ih =>
      rw [sentencesFrom]
      cases cs with
      | nil =>
          have hempty : ∀ place, sentencesFrom place [] [] = [] := fun _ => rfl
          rw [hempty, sentencesFrom, List.append_nil, List.reverse_cons, ite_self]
      | cons d cs =>
          obtain ⟨hc, hcs⟩ := List.forall_mem_cons.1 h
          rw [if_neg (by simp [hc]), ih _ hcs, List.reverse_cons, List.append_assoc,
            List.singleton_append]

theorem sentencePieces_of_isStretch {cs : List Char} (h : IsStretch cs) :
    sentencePieces cs = (sentenceOfStretch 0 cs).toList := sentencesFrom_of_isStretch 0 [] h

/-- **A text is cut behind each character that closes a sentence**, -/
theorem sentencePieces_append {c : Char} (hc : closesSentence c = true) (cs ds : List Char) :
    sentencePieces (cs ++ [c] ++ ds) =
      sentencePieces (cs ++ [c]) ++
        (sentencePieces ds).map (Piece.shift (byteLength (cs ++ [c]))) := by
  rw [sentencePieces, sentencesFrom_append hc, sentencePieces, sentencePieces,
    ← sentencesFrom_shift]
  simp

/-- and its words are cut there too. -/
theorem wordPieces_append {c : Char} (hc : closesSentence c = true) (cs ds : List Char) :
    wordPieces (cs ++ [c] ++ ds) =
      wordPieces (cs ++ [c]) ++ (wordPieces ds).map (Piece.shift (byteLength (cs ++ [c]))) := by
  have hword := isWordChar_of_closesSentence hc
  rw [List.append_assoc, List.singleton_append, wordPieces_append_cons hword,
    wordPieces_append_right cs (by simpa using hword)]
  simp

/-- To prove something of all texts and their sentences, prove it of one stretch, and that it is
kept if a closed stretch is put before a text. -/
theorem sentence_induction {motive : List Char → Prop}
    (stretch : ∀ cs, IsStretch cs → motive cs)
    (append : ∀ cs c ds, closesSentence c = true → motive (cs ++ [c]) → motive ds →
      motive (cs ++ [c] ++ ds)) (cs : List Char) : motive cs := by
  refine stretch_induction closesSentence (fun cs h => stretch cs fun c hc => ?_)
    (fun cs c ds hcs hc _ hds => ?_) cs
  · exact h c (List.mem_of_mem_dropLast hc)
  · have hstretch : IsStretch (cs ++ [c]) := fun d hd => hcs d (by simpa using hd)
    simpa using append cs c ds hc (stretch _ hstretch) hds

/-! ### Words of sentences -/

theorem wordPieces_eq_flatMap_toList (cs : List Char) :
    wordPieces cs = (sentenceOfStretch 0 cs).toList.flatMap fun s =>
      (wordPieces s.chars).map (Piece.shift s.span.start) := by
  rcases sentenceOfStretch_cases cs with
    hnone | ⟨lead, sentence, tail, rfl, hlead, hsentence, htail, hletter⟩
  · rw [sentenceOfStretch_eq_none 0 hnone, (wordPieces_eq_nil_iff cs).2 hnone]
    rfl
  · rw [sentenceOfStretch_eq_some 0 hlead hsentence htail hletter,
      wordPieces_append_right _ fun c hc => isWordChar_of_isBlank (htail c hc),
      wordPieces_append_left fun c hc => isWordChar_of_isBlank (hlead c hc)]
    simp

/-- **The words of a text are the words of its sentences**, one sentence after the other. -/
theorem wordPieces_eq_flatMap (cs : List Char) :
    wordPieces cs = (sentencePieces cs).flatMap fun s =>
      (wordPieces s.chars).map (Piece.shift s.span.start) := by
  induction cs using sentence_induction with
  | stretch cs hcs => rw [sentencePieces_of_isStretch hcs, ← wordPieces_eq_flatMap_toList]
  | append cs c ds hc hfirst hrest =>
      rw [wordPieces_append hc, sentencePieces_append hc, List.flatMap_append, ← hfirst, hrest,
        List.map_flatMap, List.flatMap_map]
      congr 1
      refine List.flatMap_congr fun s _ => ?_
      rw [List.map_map]
      refine List.map_congr_left fun w _ => ?_
      rw [Function.comp_apply, Piece.shift_shift]
      rfl

/-! ### What sentences are -/

/-- A sentence of a text: a piece of it that begins and ends with something visible, has a letter or
digit, and is closed at its end if at all. -/
structure Piece.IsSentence (s : Piece) (cs : List Char) : Prop where
  isIn : s.IsIn cs
  firm : Firm isBlank s.chars
  letter : ∃ c ∈ s.chars, isAlphanumeric c = true
  isStretch : IsStretch s.chars

theorem Piece.IsSentence.append_right {s : Piece} {cs : List Char} (h : s.IsSentence cs)
    (ds : List Char) : s.IsSentence (cs ++ ds) :=
  ⟨h.isIn.append_right ds, h.firm, h.letter, h.isStretch⟩

theorem Piece.IsSentence.append_left {s : Piece} {cs : List Char} (h : s.IsSentence cs)
    (ds : List Char) : (s.shift (byteLength ds)).IsSentence (ds ++ cs) :=
  ⟨h.isIn.append_left ds, h.firm, h.letter, h.isStretch⟩

theorem Piece.IsSentence.start_lt {s : Piece} {cs : List Char} (h : s.IsSentence cs) :
    s.span.start < s.span.stop := h.isIn.start_lt h.firm.ne_nil

theorem IsStretch.of_part {cs ds : List Char} (h : IsStretch cs) (hds : ds <:+: cs) :
    IsStretch ds := by
  obtain ⟨lead, tail, rfl⟩ := hds
  intro c hc
  rcases List.eq_nil_or_concat ds with rfl | ⟨ds, d, rfl⟩
  · simp at hc
  · rw [List.concat_eq_append, List.dropLast_concat] at hc
    have hlast : lead ++ ds.concat d ++ tail = lead ++ ds ++ (d :: tail) := by simp
    rw [hlast, IsStretch, List.dropLast_append_of_ne_nil (List.cons_ne_nil d tail)] at h
    exact h c (List.mem_append_left _ (List.mem_append_right _ hc))

/-- **Each sentence is one of the text.** -/
theorem isSentence_of_mem {s : Piece} {cs : List Char} (h : s ∈ sentencePieces cs) :
    s.IsSentence cs := by
  induction cs using sentence_induction generalizing s with
  | stretch cs hcs =>
      rw [sentencePieces_of_isStretch hcs] at h
      rcases sentenceOfStretch_cases cs with
        hnone | ⟨lead, sentence, tail, rfl, hlead, hfirm, htail, hletter⟩
      · simp [sentenceOfStretch_eq_none 0 hnone] at h
      · rw [sentenceOfStretch_eq_some 0 hlead hfirm htail hletter, Option.toList_some,
          List.mem_singleton, Piece.shift_zero] at h
        subst h
        exact ⟨by simpa using Piece.isIn_after lead sentence tail, hfirm, hletter,
          hcs.of_part ⟨lead, tail, rfl⟩⟩
  | append cs c ds hc hfirst hrest =>
      rw [sentencePieces_append hc, List.mem_append, List.mem_map] at h
      rcases h with h | ⟨t, ht, rfl⟩
      · exact (hfirst h).append_right ds
      · exact (hrest ht).append_left (cs ++ [c])

/-- **Sentences follow one another.** -/
theorem pairwise_sentencePieces (cs : List Char) :
    (sentencePieces cs).Pairwise fun s t => s.span.stop ≤ t.span.start := by
  induction cs using sentence_induction with
  | stretch cs hcs =>
      rw [sentencePieces_of_isStretch hcs]
      cases sentenceOfStretch 0 cs <;> simp
  | append cs c ds hc hfirst hrest =>
      rw [sentencePieces_append hc, List.pairwise_append]
      refine ⟨hfirst, List.pairwise_map.2 (hrest.imp fun h => Nat.add_le_add_right h _), ?_⟩
      intro s hs t ht
      obtain ⟨t, -, rfl⟩ := List.mem_map.1 ht
      exact (isSentence_of_mem hs).isIn.stop_le.trans (Nat.le_add_left ..)

/-- Each sentence has a word. -/
theorem wordPieces_ne_nil_of_isSentence {s : Piece} {cs : List Char} (h : s.IsSentence cs) :
    wordPieces s.chars ≠ [] := by
  obtain ⟨c, hc, hletter⟩ := h.letter
  intro hnil
  simp [(wordPieces_eq_nil_iff _).1 hnil c hc] at hletter

/-- **The words within a sentence** are those that it has if it is read by itself. -/
theorem filter_within_sentence {s : Piece} {cs : List Char} (h : s ∈ sentencePieces cs) :
    (wordPieces cs).filter (fun w => w.span.within s.span) =
      (wordPieces s.chars).map (Piece.shift s.span.start) := by
  induction cs using sentence_induction generalizing s with
  | stretch cs hcs =>
      have hs := (isSentence_of_mem h).isIn
      rw [sentencePieces_of_isStretch hcs, Option.mem_toList] at h
      rw [wordPieces_eq_flatMap_toList, h, Option.toList_some, List.flatMap_singleton,
        List.filter_eq_self]
      intro w hw
      obtain ⟨v, hv, rfl⟩ := List.mem_map.1 hw
      exact hs.within (isWord_of_mem hv).isIn
  | append cs c ds hc hfirst hrest =>
      rw [sentencePieces_append hc, List.mem_append, List.mem_map] at h
      rw [wordPieces_append hc, List.filter_append]
      rcases h with h | ⟨t, ht, rfl⟩
      · -- the words further on begin where the sentence has ended
        have hnone : ((wordPieces ds).map (Piece.shift (byteLength (cs ++ [c])))).filter
            (fun w => w.span.within s.span) = [] := by
          refine List.filter_eq_nil_iff.2 fun w hw => Bool.not_eq_true _ ▸ ?_
          obtain ⟨v, hv, rfl⟩ := List.mem_map.1 hw
          have hstop := (isSentence_of_mem h).isIn.stop_le
          exact Span.not_within_of_apart ((isWord_of_mem hv).append_left _).start_lt
            (.inr (hstop.trans (Nat.le_add_left ..)))
        rw [hfirst h, hnone, List.append_nil]
      · -- and the words before it have ended where the sentence begins
        have hnone : (wordPieces (cs ++ [c])).filter
            (fun w => w.span.within (t.shift (byteLength (cs ++ [c]))).span) = [] := by
          refine List.filter_eq_nil_iff.2 fun w hw => Bool.not_eq_true _ ▸ ?_
          have hstop := (isWord_of_mem hw).isIn.stop_le
          exact Span.not_within_of_apart (isWord_of_mem hw).start_lt
            (.inl (hstop.trans (Nat.le_add_left ..)))
        rw [hnone, List.nil_append, List.filter_map]
        have hsame : (fun w : Piece => w.span.within (t.shift (byteLength (cs ++ [c]))).span) ∘
            Piece.shift (byteLength (cs ++ [c])) = fun w => w.span.within t.span :=
          funext fun w => Span.within_shift ..
        rw [hsame, hrest ht, List.map_map]
        exact List.map_congr_left fun w _ => Piece.shift_shift ..

/-- Two sentences with a byte in common are one. -/
theorem eq_of_within {v : Span} {s t : Piece} {cs : List Char} (hv : v.start < v.stop)
    (hs : s ∈ sentencePieces cs) (ht : t ∈ sentencePieces cs) (hvs : v.within s.span = true)
    (hvt : v.within t.span = true) : s = t :=
  Piece.eq_of_within (pairwise_sentencePieces cs) hv hs ht hvs hvt

theorem sentencePieces_eq_nil_iff (cs : List Char) :
    sentencePieces cs = [] ↔ wordPieces cs = [] := by
  rw [wordPieces_eq_flatMap, List.flatMap_eq_nil_iff]
  refine ⟨fun h => by simp [h], fun h => List.eq_nil_iff_forall_not_mem.2 fun s hs => ?_⟩
  exact wordPieces_ne_nil_of_isSentence (isSentence_of_mem hs) (List.map_eq_nil_iff.1 (h s hs))

theorem length_sentencePieces_le (cs : List Char) :
    (sentencePieces cs).length ≤ (wordPieces cs).length := by
  rw [wordPieces_eq_flatMap cs, List.length_flatMap]
  have hone : ∀ n ∈ (sentencePieces cs).map fun s =>
      ((wordPieces s.chars).map (Piece.shift s.span.start)).length, 1 ≤ n := by
    intro n hn
    obtain ⟨s, hs, rfl⟩ := List.mem_map.1 hn
    rw [List.length_map]
    exact List.length_pos_of_ne_nil (wordPieces_ne_nil_of_isSentence (isSentence_of_mem hs))
  simpa using List.length_le_sum_of_one_le _ hone

/-! ### Lines -/

/-- A line feed at the end says nothing. -/
theorem sentencePieces_append_lineFeed (cs : List Char) :
    sentencePieces (cs ++ ['\n']) = sentencePieces cs := by
  induction cs using stretch_induction closesSentence with
  | stretch cs hcs =>
      have hstretch : IsStretch cs := fun c hc => hcs c (List.mem_of_mem_dropLast hc)
      have hline : IsStretch (cs ++ ['\n']) := fun c hc => hcs c (by simpa using hc)
      rw [sentencePieces_of_isStretch hstretch, sentencePieces_of_isStretch hline]
      have hblank : ∀ c ∈ ['\n'], isBlank c = true := List.forall_mem_singleton.2 (by decide)
      rcases sentenceOfStretch_cases cs with
        hnone | ⟨lead, sentence, tail, rfl, hlead, hsentence, htail, hletter⟩
      · have hnone' : ∀ c ∈ cs ++ ['\n'], isAlphanumeric c = false := by
          simpa [or_imp, forall_and] using ⟨hnone, isAlphanumeric_of_isBlank (hblank _ (by simp))⟩
        rw [sentenceOfStretch_eq_none 0 hnone, sentenceOfStretch_eq_none 0 hnone']
      · rw [sentenceOfStretch_eq_some 0 hlead hsentence htail hletter, List.append_assoc _ tail,
          sentenceOfStretch_eq_some 0 hlead hsentence (List.forall_mem_append.2 ⟨htail, hblank⟩)
            hletter]
  | cut cs c ds hcs hc _ hds =>
      have hassoc : ∀ es, cs ++ c :: es = cs ++ [c] ++ es := fun es => by simp
      rw [List.append_assoc, List.cons_append, hassoc (ds ++ ['\n']), hassoc ds,
        sentencePieces_append hc, hds, sentencePieces_append hc]

/-- **A line feed cuts a text in two**, for words -/
theorem wordPieces_append_lineFeed (cs ds : List Char) :
    wordPieces (cs ++ '\n' :: ds) =
      wordPieces cs ++ (wordPieces ds).map (Piece.shift (byteLength cs + 1)) :=
  wordPieces_append_cons (isWordChar_of_closesSentence (by decide)) cs ds

/-- and for sentences. -/
theorem sentencePieces_append_cons (cs ds : List Char) :
    sentencePieces (cs ++ '\n' :: ds) =
      sentencePieces cs ++ (sentencePieces ds).map (Piece.shift (byteLength cs + 1)) := by
  have happend := sentencePieces_append (c := '\n') (by decide) cs ds
  have hlength : byteLength (cs ++ ['\n']) = byteLength cs + 1 := byteLength_append ..
  rw [hlength, sentencePieces_append_lineFeed, List.append_assoc, List.singleton_append] at happend
  exact happend

/-! ### What lies within one sentence -/

/-- Text without a character that closes a sentence lies within one, if it begins and ends with a
letter or digit. -/
theorem exists_sentence {v : Piece} {cs : List Char} (hv : v.IsIn cs)
    (hletters : IsLettered v.chars) (hopen : ∀ c ∈ v.chars, closesSentence c = false) :
    ∃ s ∈ sentencePieces cs, v.span.within s.span = true := by
  induction cs using sentence_induction generalizing v with
  | stretch cs hcs =>
      rw [sentencePieces_of_isStretch hcs]
      rcases sentenceOfStretch_cases cs with
        hnone | ⟨lead, sentence, tail, rfl, hlead, hsentence, htail, hletter⟩
      · obtain ⟨before, chars, rest, rfl, rfl⟩ := hv
        obtain ⟨c, ds, rfl, hletter⟩ := hletters.head
        simp [hnone c (by simp)] at hletter
      · rw [sentenceOfStretch_eq_some 0 hlead hsentence htail hletter]
        exact ⟨Piece.after lead sentence, by simp, hv.within_middle hletters.firm hlead htail⟩
  | append cs c ds hc hfirst hrest =>
      rw [sentencePieces_append hc]
      have hclose : c ∉ v.chars := fun h => by simp [hopen c h] at hc
      rw [List.append_assoc] at hv
      rcases hv.of_append_cons hclose with hv | ⟨w, hw, rfl⟩
      · obtain ⟨s, hs, hwithin⟩ := hfirst (hv.append_right [c]) hletters hopen
        exact ⟨s, List.mem_append_left _ hs, hwithin⟩
      · obtain ⟨s, hs, hwithin⟩ := hrest hw hletters hopen
        refine ⟨_, List.mem_append_right _ (List.mem_map_of_mem hs), ?_⟩
        simpa [Span.within_iff, Span.shift] using Span.within_iff.1 hwithin

/-- **What begins and ends with a letter or digit lies within one sentence** exactly if no character
in it closes a sentence. -/
theorem within_sentence_iff {v : Piece} {cs : List Char} (hv : v.IsIn cs)
    (hletters : IsLettered v.chars) :
    (∃ s ∈ sentencePieces cs, v.span.within s.span = true) ↔
      ∀ c ∈ v.chars, closesSentence c = false := by
  refine ⟨fun ⟨s, hs, hwithin⟩ c hc => ?_, exists_sentence hv hletters⟩
  have hsentence := isSentence_of_mem hs
  have hstretch := hsentence.isStretch.of_part (hv.chars_within hsentence.isIn hwithin)
  obtain ⟨ds, d, hd, hletter⟩ := hletters.last
  rw [IsStretch, hd, List.dropLast_concat] at hstretch
  rw [hd, List.mem_append, List.mem_singleton] at hc
  rcases hc with hc | rfl
  · exact hstretch c hc
  · by_contra hclose
    have hword := isWordChar_of_closesSentence (Bool.of_not_eq_false hclose)
    have hletter : isAlphanumeric c = true := by simpa using hletter
    simp [isWordChar_of_isAlphanumeric hletter] at hword

end GradedReading.Text
