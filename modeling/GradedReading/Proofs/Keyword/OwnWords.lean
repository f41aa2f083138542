import GradedReading.Proofs.Keyword.Report
import GradedReading.Proofs.Text.Runs

/-!
# GradedReading.Proofs.Keyword.OwnWords

Searching a text for words of its own.

**Key idea:** a keyword is put into lowercase as a whole and then cut into words, a text is cut into
words that are put into lowercase one by one. The two agree unless a character decides otherwise in
the one order than in the other. There are two such characters. The dotted capital `İ` becomes two
characters, the second of which is no letter and cuts the word in two; a keyword with it is not
found where it was taken from. The capital sigma becomes one letter at the end of a word and another
one elsewhere, and a character such as a full stop between two words can hide the end of the first
one from it; a keyword is then found exactly if each of its words has the lowercase form in it that
the word has alone (`LowersByWord`).
-/

namespace GradedReading

open Text

namespace Text

/-- Each word of the text has the lowercase form in the text that it has alone. -/
def LowersByWord (cs : List Char) : Prop :=
  ∀ before word rest, cs = before ++ (word ++ rest) → Piece.after before word ∈ wordPieces cs →
    lowerWithin before.reverse rest word = lowerChars word

/-- Without a capital sigma the text around does not count. -/
theorem lowerWithin_of_not_mem {cs : List Char} (h : 'Σ' ∉ cs) (before after : List Char) :
    lowerWithin before after cs = cs.flatMap lowerChar := by
  induction cs generalizing before with
  | nil => rfl
  | cons c cs ih =>
      rw [List.mem_cons, not_or] at h
      rw [lowerWithin, lowerAt, if_neg (Ne.symm h.1), ih h.2, List.flatMap_cons]

theorem lowersByWord_of_not_mem {cs : List Char} (h : 'Σ' ∉ cs) : LowersByWord cs := by
  rintro before word rest rfl -
  have hword : 'Σ' ∉ word := fun hmem => h (by simp [hmem])
  rw [← lowerWithin_nil_nil, lowerWithin_of_not_mem hword, lowerWithin_of_not_mem hword]

/-- A word alone is a text of which the statement holds. -/
theorem Piece.IsWord.lowersByWord {w : Piece} {cs : List Char} (h : w.IsWord cs) :
    LowersByWord w.chars := by
  intro before word rest hchars hmem
  have hone := wordPieces_eq_singleton (List.forall_mem_nil _) h.firm h.wordChars
    (List.forall_mem_nil _)
  rw [List.nil_append, List.append_nil] at hone
  rw [hone, List.mem_singleton, Piece.after, Piece.after, Piece.mk.injEq] at hmem
  obtain ⟨-, rfl⟩ := hmem
  have hlength := congrArg List.length hchars
  simp only [List.length_append] at hlength
  obtain rfl := List.length_eq_zero_iff.1 (show before.length = 0 by omega)
  obtain rfl := List.length_eq_zero_iff.1 (show rest.length = 0 by omega)
  exact lowerWithin_nil_nil _

/-! ### The words of the lowercase form -/

/-- The words of a text in lowercase are in lowercase. -/
theorem lowerChars_of_mem_wordPieces {cs : List Char} {w : Piece}
    (h : w ∈ wordPieces (lowerChars cs)) : lowerChars w.chars = w.chars := by
  obtain ⟨before, chars, rest, hcs, rfl⟩ := (isWord_of_mem h).isIn
  refine lowerChars_of_isLower fun c hc => ?_
  have hmem : c ∈ lowerFrom [] cs := by
    rw [Piece.chars_after] at hc
    rw [show lowerFrom [] cs = _ from hcs]
    simp [hc]
  exact isLower_of_mem_lowerFrom hmem

theorem map_eq_map_iff_of_forall₂ {α β γ : Type} {f : α → γ} {g : β → γ} {p : α → Prop}
    {as : List α} {bs : List β} (h : List.Forall₂ (fun a b => f a = g b ↔ p a) as bs) :
    as.map f = bs.map g ↔ ∀ a ∈ as, p a := by
  induction h with
  | nil => simp
  | cons h _ ih => rw [List.map_cons, List.map_cons, List.cons.injEq, h, ih, List.forall_mem_cons]

theorem length_lowerWithin {cs : List Char} (h : 'İ' ∉ cs) (before after : List Char) :
    (lowerWithin before after cs).length = cs.length :=
  (forall₂_lowerWithin h before after).length_eq.symm

/-- A piece of the lowercase form is the lowercase form of the piece between the text around it. -/
theorem Piece.Matches.chars_eq_lowerWithin {cs before word rest : List Char} {w v : Piece}
    (h : Piece.Matches cs (lowerChars cs) w v) (hdotted : 'İ' ∉ cs)
    (hcs : cs = before ++ (word ++ rest)) (hw : w = Piece.after before word) :
    v.chars = lowerWithin before.reverse rest word := by
  obtain ⟨before', word', rest', before'', word'', rest'', hcs', hlower, hbefore, hword, rfl, rfl⟩ :=
    h
  rw [after, after, Piece.mk.injEq, Span.mk.injEq] at hw
  obtain ⟨⟨hstart, -⟩, rfl⟩ := hw
  have hsame : before' = before := by
    have hfront : before' <+: cs := ⟨_, hcs'.symm⟩
    have hfront' : before <+: cs := ⟨_, hcs.symm⟩
    have hle := prefix_of_byteLength_le hfront hfront' (Nat.le_of_eq hstart)
    have hge := prefix_of_byteLength_le hfront' hfront (Nat.le_of_eq hstart.symm)
    exact hle.eq_of_length_le hge.length_le
  subst hsame
  rw [hcs] at hdotted
  simp only [List.mem_append, not_or] at hdotted
  rw [← lowerWithin_nil_nil, hcs, lowerWithin_append, lowerWithin_append] at hlower
  obtain ⟨-, hlower⟩ := List.append_inj hlower ((length_lowerWithin hdotted.1 _ _).trans hbefore)
  obtain ⟨hchars, -⟩ := List.append_inj hlower ((length_lowerWithin hdotted.2.1 _ _).trans hword)
  rw [chars_after, ← hchars, List.append_nil, List.append_nil]

/-- **Without `İ`** the words of the lowercase form are the lowercase forms of the words exactly if
each word has in the text the lowercase form that it has alone. -/
theorem chars_wordPieces_lowerChars_iff {cs : List Char} (h : 'İ' ∉ cs) :
    (wordPieces cs).map (fun w => lowerChars w.chars) =
        (wordPieces (lowerChars cs)).map Piece.chars ↔
      LowersByWord cs := by
  have hwords := forall₂_wordPieces (forall₂_lowerWithin h [] [])
  rw [lowerWithin_nil_nil] at hwords
  rw [map_eq_map_iff_of_forall₂ (p := fun w => ∀ before word rest, cs = before ++ (word ++ rest) →
    w = Piece.after before word → lowerWithin before.reverse rest word = lowerChars word)
    (hwords.imp fun w v hwv => ⟨fun heq before word rest hcs hw => ?_, fun hw => ?_⟩)]
  · constructor
    · exact fun hwords before word rest hcs hmem => hwords _ hmem before word rest hcs rfl
    · rintro hcs w hmem before word rest happend rfl
      exact hcs before word rest happend hmem
  · rw [← hwv.chars_eq_lowerWithin h hcs hw, ← heq, hw, Piece.chars_after]
  · obtain ⟨before, word, rest, -, -, -, hcs, -, -, -, rfl, -⟩ := id hwv
    rw [Piece.chars_after, ← hw before word rest hcs rfl, ← hwv.chars_eq_lowerWithin h hcs rfl]

/-- **With `İ`** some word of the text has a lowercase form that is no word. -/
theorem chars_wordPieces_lowerChars_ne {cs : List Char} (h : 'İ' ∈ cs) :
    (wordPieces cs).map (fun w => lowerChars w.chars) ≠
      (wordPieces (lowerChars cs)).map Piece.chars := by
  intro heq
  obtain ⟨⟨hletter, hdotted, -, -, hmark⟩, -⟩ := special_letters
  obtain ⟨w, hw, hmem⟩ := exists_mem_wordPieces h hletter
  have hw : lowerChars w.chars ∈ (wordPieces (lowerChars cs)).map Piece.chars :=
    heq ▸ List.mem_map_of_mem hw
  obtain ⟨v, hv, hchars⟩ := List.mem_map.1 hw
  have hdot : '\u0307' ∈ v.chars := by
    obtain ⟨front, rest, hfront⟩ := List.append_of_mem hmem
    rw [hchars, hfront, ← lowerWithin_nil_nil, lowerWithin_append, lowerWithin, lowerAt,
      if_neg (by decide), hdotted]
    simp
  simp [(isWord_of_mem hv).wordChars _ hdot] at hmark

/-- The text that a span marks. -/
def excerpt (text : String) (s : Span) : String := String.ofList (s.cut text.toList)

end Text

namespace KeywordSearch

/-! ### The place that a span stands for -/

/-- Where values ascend each of them has one index. -/
theorem index_eq_of_pairwise_lt {α : Type} {f : α → Nat} {as : List α}
    (h : as.Pairwise fun a b => f a < f b) {i j : Nat} {a b : α} (ha : as[i]? = some a)
    (hb : as[j]? = some b) (heq : f a = f b) : i = j := by
  obtain ⟨hi, rfl⟩ := List.getElem?_eq_some_iff.1 ha
  obtain ⟨hj, rfl⟩ := List.getElem?_eq_some_iff.1 hb
  rcases Nat.lt_trichotomy i j with hlt | rfl | hlt
  · exact absurd heq (Nat.ne_of_lt (List.pairwise_iff_getElem.1 h i j hi hj hlt))
  · rfl
  · exact absurd heq.symm (Nat.ne_of_lt (List.pairwise_iff_getElem.1 h j i hj hi hlt))

theorem getElem?_ends {α : Type} (ps : List α) {run : List α} (qs : List α) {v w : α}
    (hfirst : run.head? = some v) (hlast : run.getLast? = some w) :
    (ps ++ (run ++ qs))[ps.length]? = some v ∧
      (ps ++ (run ++ qs))[ps.length + run.length - 1]? = some w := by
  obtain ⟨front, rfl⟩ := List.getLast?_eq_some_iff.1 hlast
  refine ⟨?_, ?_⟩
  · rw [List.getElem?_append_right (Nat.le_refl _), Nat.sub_self, ← List.head?_eq_getElem?,
      List.head?_append, hfirst, Option.some_or]
  · have hindex : ps.length + (front ++ [w]).length - 1 = ps.length + front.length := by simp
    rw [hindex, List.getElem?_append_right (Nat.le_add_right ..), Nat.add_sub_cancel_left,
      List.append_assoc, List.getElem?_append_right (Nat.le_refl _), Nat.sub_self]
    rfl

/-- **A span from word to word is a place of a keyword exactly if the words from the one to the
other are those of the keyword.** -/
theorem isPlaceOf_cover_iff {keyword text : String} {ps run qs : List Piece} {v w : Piece}
    (h : words text = ps ++ (run ++ qs)) (hfirst : run.head? = some v)
    (hlast : run.getLast? = some w) :
    IsPlaceOf keyword text (v.span.cover w.span) ↔
      run.map (fun w => lowerChars w.chars) =
        (words keyword).map fun w => lowerChars w.chars := by
  refine ⟨?_, fun hrun => ⟨ps, run, qs, v, w, h, hrun, hfirst, hlast, rfl⟩⟩
  rintro ⟨ps', run', qs', v', w', h', hrun', hfirst', hlast', hspan⟩
  suffices hsame : run = run' from hsame ▸ hrun'
  rw [Span.cover, Span.cover, Span.mk.injEq] at hspan
  obtain ⟨hv, hw⟩ := getElem?_ends ps qs hfirst hlast
  obtain ⟨hv', hw'⟩ := getElem?_ends ps' qs' hfirst' hlast'
  rw [← h] at hv hw
  rw [← h'] at hv' hw'
  have hstart := index_eq_of_pairwise_lt (f := fun u : Piece => u.span.start)
    ((pairwise_words text).imp And.left) hv hv' hspan.1
  have hstop := index_eq_of_pairwise_lt (f := fun u : Piece => u.span.stop)
    ((pairwise_words text).imp And.right) hw hw' hspan.2
  have hpos : 0 < run.length :=
    List.length_pos_of_ne_nil fun hnil => by simp [hnil] at hfirst
  have hpos' : 0 < run'.length :=
    List.length_pos_of_ne_nil fun hnil => by simp [hnil] at hfirst'
  obtain ⟨-, htail⟩ := List.append_inj (h.symm.trans h') hstart
  exact (List.append_inj htail (by omega)).1

/-! ### Keywords taken from the text -/

/-- The words of a keyword in normal form are in lowercase, and trimming takes nothing from it if it
begins and ends with a letter or digit. -/
theorem map_lowerChars_words_normalize {cs : List Char} (h : IsLettered cs) :
    (words (KeywordSet.normalize (String.ofList cs))).map (fun w => lowerChars w.chars) =
      (wordPieces (lowerChars cs)).map Piece.chars := by
  have htrim : trimBoth isBlank cs = cs := by
    have hmiddle := trimBoth_eq (List.forall_mem_nil _) h.firm (List.forall_mem_nil _)
    rwa [List.nil_append, List.append_nil] at hmiddle
  rw [KeywordSet.normalize, lowercase, trim, words]
  simp only [String.toList_ofList]
  rw [htrim]
  exact List.map_congr_left fun w hw => lowerChars_of_mem_wordPieces hw

/-- **Words in a row are found by their own text** exactly if it has no `İ` and each word has in it
the lowercase form that it has alone. -/
theorem mem_spansOf_excerpt_iff {text : String} {ps run qs : List Piece} {v w : Piece}
    (h : words text = ps ++ (run ++ qs)) (hfirst : run.head? = some v)
    (hlast : run.getLast? = some w) :
    v.span.cover w.span ∈ (find (.ofList [excerpt text (v.span.cover w.span)]) text).spansOf
        (KeywordSet.normalize (excerpt text (v.span.cover w.span))) ↔
      'İ' ∉ (excerpt text (v.span.cover w.span)).toList ∧
        LowersByWord (excerpt text (v.span.cover w.span)).toList := by
  rw [← List.append_assoc] at h
  obtain ⟨u, hu, hspan, hlettered, hrun⟩ := exists_fragment h hfirst hlast
  have hcut : excerpt text (v.span.cover w.span) = String.ofList u.chars := by
    rw [excerpt, ← hspan, hu.cut_span]
  rw [List.append_assoc] at h
  rw [spansOf_find (List.mem_singleton_self _), mem_windows_parts_iff,
    isPlaceOf_cover_iff h hfirst hlast, hcut, map_lowerChars_words_normalize hlettered, ← hrun,
    List.map_map, String.toList_ofList]
  change (wordPieces u.chars).map (fun w => lowerChars w.chars) = _ ↔ _
  by_cases hdotted : 'İ' ∈ u.chars
  · exact iff_of_false (chars_wordPieces_lowerChars_ne hdotted) fun hnot => hnot.1 hdotted
  · rw [chars_wordPieces_lowerChars_iff hdotted]
    exact (and_iff_right hdotted).symm

/-- A word of the text is found by its own text, wherever the text has it, unless it has an `İ`. -/
theorem mem_spansOf_word_iff {text : String} {v w : Piece} (hv : v ∈ words text)
    (hw : w ∈ words text) (hchars : w.chars = v.chars) :
    w.span ∈ (find (.ofList [excerpt text v.span]) text).spansOf
        (KeywordSet.normalize (excerpt text v.span)) ↔ 'İ' ∉ (excerpt text v.span).toList := by
  have hcut {u : Piece} (hu : u ∈ words text) : excerpt text u.span = String.ofList u.chars := by
    rw [excerpt, (isWord_of_mem hu).isIn.cut_span]
  have hlower : LowersByWord (excerpt text w.span).toList := by
    rw [hcut hw, String.toList_ofList]
    exact (isWord_of_mem hw).lowersByWord
  obtain ⟨ps, qs, hwords⟩ := List.append_of_mem hw
  have hmem := mem_spansOf_excerpt_iff (v := w) (w := w)
    (show words text = ps ++ ([w] ++ qs) from hwords) rfl rfl
  rw [show w.span.cover w.span = w.span from rfl, iff_true_intro hlower, and_true] at hmem
  rwa [hcut hv, ← hchars, ← hcut hw]

/-- **A text is searched for words of its own.** Words in a row are found at their place exactly if
the text from the first to the last has no `İ` and each of them has the lowercase form in it that it
has alone, which is so without a capital sigma and for a single word. A single word without `İ` is
found wherever the text has it. -/
theorem finds_ownWords {text : String} {i j : Nat} {v w : Piece} (hij : i ≤ j)
    (hv : (words text)[i]? = some v) (hw : (words text)[j]? = some w) :
    let span := v.span.cover w.span
    let keyword := excerpt text span
    let found := (find (.ofList [keyword]) text).spansOf (KeywordSet.normalize keyword)
    (span ∈ found ↔ 'İ' ∉ keyword.toList ∧ LowersByWord keyword.toList) ∧
      ('Σ' ∉ keyword.toList ∨ i = j → LowersByWord keyword.toList) ∧
        (i = j → ∀ u ∈ words text, u.chars = v.chars → (u.span ∈ found ↔ 'İ' ∉ keyword.toList)) := by
  have hsingle {i : Nat} {u : Piece} (hu : (words text)[i]? = some u) : u ∈ words text :=
    List.mem_of_getElem? hu
  refine ⟨?_, ?_, ?_⟩
  · obtain ⟨hi, rfl⟩ := List.getElem?_eq_some_iff.1 hv
    obtain ⟨hj, rfl⟩ := List.getElem?_eq_some_iff.1 hw
    have hwords : words text = (words text).take i ++
        (((words text).drop i).take (j + 1 - i) ++ ((words text).drop i).drop (j + 1 - i)) := by
      rw [List.take_append_drop, List.take_append_drop]
    refine mem_spansOf_excerpt_iff hwords ?_ ?_
    · rw [List.head?_take, if_neg (by omega), List.head?_drop, List.getElem?_eq_getElem hi]
    · rw [List.getLast?_take, if_neg (by omega), List.getElem?_drop,
        show i + (j + 1 - i - 1) = j by omega, List.getElem?_eq_getElem hj]
      rfl
  · rintro (hsigma | rfl)
    · exact lowersByWord_of_not_mem hsigma
    · obtain rfl := Option.some.inj (hv.symm.trans hw)
      have hword := isWord_of_mem (hsingle hv)
      have hchars : (excerpt text (v.span.cover v.span)).toList = v.chars := by
        rw [excerpt, String.toList_ofList]
        exact hword.isIn.cut_span
      rw [hchars]
      exact hword.lowersByWord
  · rintro rfl u hu hchars
    obtain rfl := Option.some.inj (hv.symm.trans hw)
    exact mem_spansOf_word_iff (hsingle hv) hu hchars

/-- The full stop hides from the keyword that its sigma is a word of its own. -/
example : find (.ofList ["Α.Σ"]) "Α.Σ" = .none := by decide +kernel

/-- Two words in a row, in the middle of a text and with a letter of two bytes. -/
theorem finds_ownWords_books :
    1 ≤ 2 ∧ (words "Die Neue Bücher.")[1]? = some ⟨⟨4, 8⟩, ['N', 'e', 'u', 'e']⟩ ∧
      (words "Die Neue Bücher.")[2]? = some ⟨⟨9, 16⟩, ['B', 'ü', 'c', 'h', 'e', 'r']⟩ ∧
        (⟨4, 16⟩ : Span) ∈ (find (.ofList ["Neue Bücher"]) "Die Neue Bücher.").spansOf "neue bücher" := by
  have hv : (words "Die Neue Bücher.")[1]? = some ⟨⟨4, 8⟩, ['N', 'e', 'u', 'e']⟩ := by
    decide +kernel
  have hw : (words "Die Neue Bücher.")[2]? =
      some ⟨⟨9, 16⟩, ['B', 'ü', 'c', 'h', 'e', 'r']⟩ := by decide +kernel
  have hkeyword : excerpt "Die Neue Bücher." ⟨4, 16⟩ = "Neue Bücher" := by decide +kernel
  have hnormal : KeywordSet.normalize "Neue Bücher" = "neue bücher" := by decide +kernel
  obtain ⟨hfound, hlower, -⟩ := finds_ownWords (by decide) hv hw
  simp only [Span.cover, hkeyword, hnormal] at hfound hlower
  exact ⟨by decide, hv, hw, hfound.2 ⟨by decide, hlower (.inl (by decide))⟩⟩

/-- Not every text is found by its own words: the capital of `i̇` is one letter and its small form
is two characters, the second of which is no letter. -/
theorem not_finds_istanbul :
    ¬∀ (text : String) (i j : Nat) (v w : Piece), i ≤ j → (words text)[i]? = some v →
      (words text)[j]? = some w →
        v.span.cover w.span ∈ (find (.ofList [excerpt text (v.span.cover w.span)]) text).spansOf
          (KeywordSet.normalize (excerpt text (v.span.cover w.span))) := by
  intro hall
  have hword : (words "İstanbul")[0]? =
      some ⟨⟨0, 9⟩, ['İ', 's', 't', 'a', 'n', 'b', 'u', 'l']⟩ := by decide +kernel
  have hmem := hall "İstanbul" 0 0 _ _ (Nat.le_refl 0) hword hword
  exact absurd hmem (by decide +kernel)

end KeywordSearch

end GradedReading
