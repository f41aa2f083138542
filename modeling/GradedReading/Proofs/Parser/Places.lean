import GradedReading.Parser.Heuristic
import GradedReading.Proofs.Document.Entries
import GradedReading.Proofs.Text.Sentences

/-!
# GradedReading.Proofs.Parser.Places

The places that rules find for constructions.

**Key idea:** a rule on words looks at a token and its neighbours and answers in one of four ways:
with the word itself, or with the text from the word before it, up to the next word, or up to the
one after next. `Context.Answer` is the table of these answers. What follows about places is read
off the table and off the order of the words, and no rule is opened again.
-/

namespace GradedReading.Parser

open Text

/-! ### Tokens -/

theorem length_tokenize (cs : List Char) : (tokenize cs).length = (wordPieces cs).length :=
  List.length_map ..

theorem getElem?_tokenize (cs : List Char) (i : Nat) :
    (tokenize cs)[i]? = (wordPieces cs)[i]?.map fun w => ⟨w.span, lowerChars w.chars⟩ :=
  List.getElem?_map ..

/-- The token stands for a word of the text. -/
theorem exists_word {cs : List Char} {i : Nat} {t : Token} (h : (tokenize cs)[i]? = some t) :
    ∃ w, (wordPieces cs)[i]? = some w ∧ t = ⟨w.span, lowerChars w.chars⟩ := by
  rw [getElem?_tokenize] at h
  obtain ⟨w, hw, rfl⟩ := Option.map_eq_some_iff.1 h
  exact ⟨w, hw, rfl⟩

/-- Tokens follow one another in the order of the text. -/
theorem stop_lt_start {cs : List Char} {i j : Nat} {s t : Token} (hij : i < j)
    (hs : (tokenize cs)[i]? = some s) (ht : (tokenize cs)[j]? = some t) :
    s.span.stop < t.span.start := by
  obtain ⟨v, hv, rfl⟩ := exists_word hs
  obtain ⟨w, hw, rfl⟩ := exists_word ht
  obtain ⟨hi, rfl⟩ := List.getElem?_eq_some_iff.1 hv
  obtain ⟨hj, rfl⟩ := List.getElem?_eq_some_iff.1 hw
  exact List.pairwise_iff_getElem.1 (pairwise_wordPieces cs) i j hi hj hij

theorem start_lt_stop {cs : List Char} {i : Nat} {t : Token} (ht : (tokenize cs)[i]? = some t) :
    t.span.start < t.span.stop := by
  obtain ⟨w, hw, rfl⟩ := exists_word ht
  exact (isWord_of_mem (List.mem_of_getElem? hw)).start_lt

/-! ### Contexts -/

/-- The context is that of the token number `i`. -/
structure Context.IsAt (x : Context) (ts : List Token) (i : Nat) : Prop where
  token : ts[i]? = some x.token
  previous : x.previous = if i = 0 then none else ts[i - 1]?
  next : x.next = ts[i + 1]?
  afterNext : x.afterNext = ts[i + 2]?

theorem getElem?_contextsFrom (previous : Option Token) (ts : List Token) (i : Nat) :
    (contextsFrom previous ts)[i]? = ts[i]?.map fun t =>
      ⟨if i = 0 then previous else ts[i - 1]?, t, ts[i + 1]?, ts[i + 2]?⟩ := by
  induction ts generalizing previous i with
  | nil => simp [contextsFrom]
  | cons t ts ih =>
      cases i with
      | zero => simp [contextsFrom, List.head?_eq_getElem?]
      | succ i =>
          rw [contextsFrom, List.getElem?_cons_succ, List.getElem?_cons_succ, ih]
          cases i <;> rfl

theorem isAt_of_getElem? {ts : List Token} {i : Nat} {x : Context}
    (h : (contexts ts)[i]? = some x) : x.IsAt ts i := by
  rw [contexts, getElem?_contextsFrom] at h
  obtain ⟨t, ht, rfl⟩ := Option.map_eq_some_iff.1 h
  exact ⟨ht, rfl, rfl, rfl⟩

theorem exists_isAt {ts : List Token} {x : Context} (h : x ∈ contexts ts) : ∃ i, x.IsAt ts i := by
  obtain ⟨i, hi⟩ := List.mem_iff_getElem?.1 h
  exact ⟨i, isAt_of_getElem? hi⟩

theorem Context.IsAt.of_previous {x : Context} {ts : List Token} {i : Nat} {p : Token}
    (h : x.IsAt ts i) (hp : x.previous = some p) : ∃ j, i = j + 1 ∧ ts[j]? = some p := by
  have hprevious := h.previous
  rw [hp] at hprevious
  cases i with
  | zero => exact absurd hprevious nofun
  | succ j => exact ⟨j, rfl, hprevious.symm⟩

/-- To look at the tokens of the contexts is to look at the tokens. -/
theorem map_token_contexts (ts : List Token) : (contexts ts).map (·.token) = ts := by
  refine List.ext_getElem? fun i => ?_
  rw [List.getElem?_map, contexts, getElem?_contextsFrom, Option.map_map]
  exact Option.map_id_apply ..

/-! ### Answers of rules -/

/-- The constructions whose places may take several words of a sentence and no more. -/
def Construction.joinsWords : Construction → Bool
  | .comparative | .passiveVoice | .superlative => true
  | _ => false

/-- What the rules on words may answer. -/
inductive Context.Answer (language : Language) (x : Context) : Construction → Span → Prop
  /-- The word itself. -/
  | word {c : Construction} (hc : c.joinsWords = false) : Answer language x c x.token.span
  /-- From the word before it, as in *bigger than* and *the tallest*. -/
  | withPrevious {c : Construction} {p : Token} (hl : language = .english)
      (hp : x.previous = some p)
      (hc : c = .comparative ∨ c = .superlative ∧ p.isOneOf ["the"] = true) :
      Answer language x c (p.span.cover x.token.span)
  /-- Up to the next word, as in *was sold* and *most tired*. -/
  | withNext {c : Construction} {n : Token} (hl : language = .english) (hn : x.next = some n)
      (hc : c = .passiveVoice ∨ c = .superlative ∧ x.token.isOneOf ["most", "least"] = true) :
      Answer language x c (x.token.span.cover n.span)
  /-- Up to the word after next, as in *was quickly sold*. -/
  | withAfterNext {a : Token} (hl : language = .english) (ha : x.afterNext = some a) :
      Answer language x .passiveVoice (x.token.span.cover a.span)

theorem answer_of_passiveAt {x : Context} {span : Span} (h : passiveAt x = some span) :
    x.Answer .english .passiveVoice span := by
  rw [passiveAt, Option.ite_none_right_eq_some] at h
  obtain ⟨-, h⟩ := h
  cases hn : x.next with
  | none => simp [hn] at h
  | some n =>
      simp only [hn] at h
      split at h
      · exact Option.some.inj h ▸ .withNext rfl hn (.inl rfl)
      · cases ha : x.afterNext with
        | none => simp [ha] at h
        | some a =>
            simp only [ha, Option.ite_none_right_eq_some, Option.some.injEq] at h
            exact h.2 ▸ .withAfterNext rfl ha

theorem answer_of_comparativeAt {x : Context} {span : Span} (h : comparativeAt x = some span) :
    x.Answer .english .comparative span := by
  unfold comparativeAt at h
  split at h
  · obtain ⟨p, hp, rfl⟩ := Option.map_eq_some_iff.1 h
    exact .withPrevious rfl hp (.inl rfl)
  · exact absurd h nofun

theorem answer_of_superlativeAt {x : Context} {span : Span} (h : superlativeAt x = some span) :
    x.Answer .english .superlative span := by
  unfold superlativeAt at h
  split at h
  · next n hmost hn => exact Option.some.inj h ▸ .withNext rfl hn (.inr ⟨rfl, hmost⟩)
  · split at h
    · next p hp =>
      split at h
      · next hthe =>
        rw [Bool.and_eq_true] at hthe
        exact Option.some.inj h ▸ .withPrevious rfl hp (.inr ⟨rfl, hthe.2⟩)
      · exact absurd h nofun
    · exact absurd h nofun

/-- **Each answer of a rule on words is in the table.** -/
theorem answer_of_atWord {language : Language} {x : Context} {c : Construction} {span : Span}
    (h : c.atWord language x = some span) : x.Answer language c span := by
  cases c <;> simp only [Construction.atWord, Option.ite_none_right_eq_some, Option.some.injEq] at h
  case comparative => exact h.1 ▸ answer_of_comparativeAt h.2
  case passiveVoice => exact h.1 ▸ answer_of_passiveAt h.2
  case superlative => exact h.1 ▸ answer_of_superlativeAt h.2
  case question | longSentence => exact absurd h nofun
  all_goals exact h.2 ▸ .word rfl

theorem Context.Answer.eq_word {language : Language} {x : Context} {c : Construction} {span : Span}
    (h : x.Answer language c span) (hc : c.joinsWords = false) : span = x.token.span := by
  cases h with
  | word => rfl
  | withPrevious _ _ hjoins => rcases hjoins with rfl | ⟨rfl, -⟩ <;> exact absurd hc nofun
  | withNext _ _ hjoins => rcases hjoins with rfl | ⟨rfl, -⟩ <;> exact absurd hc nofun
  | withAfterNext => exact absurd hc nofun

/-- The answers that take several words take two or three that follow one another. -/
theorem Context.Answer.exists_cover {language : Language} {x : Context} {c : Construction}
    {span : Span} (h : x.Answer language c span) (hc : c.joinsWords = true) {ts : List Token}
    {i : Nat} (hx : x.IsAt ts i) :
    language = .english ∧ ∃ j k v w, ts[j]? = some v ∧ ts[k]? = some w ∧ j < k ∧
      (k = j + 1 ∨ c = .passiveVoice ∧ k = j + 2) ∧ span = v.span.cover w.span := by
  cases h with
  | word hword => simp [hword] at hc
  | withPrevious hl hp =>
      obtain ⟨j, rfl, hj⟩ := hx.of_previous hp
      exact ⟨hl, j, j + 1, _, _, hj, hx.token, Nat.lt_succ_self j, .inl rfl, rfl⟩
  | withNext hl hn =>
      exact ⟨hl, i, i + 1, _, _, hx.token, hx.next ▸ hn, Nat.lt_succ_self i, .inl rfl, rfl⟩
  | withAfterNext hl ha =>
      exact ⟨hl, i, i + 2, _, _, hx.token, hx.afterNext ▸ ha, by omega, .inr ⟨rfl, rfl⟩, rfl⟩

/-! ### The order of places -/

theorem Context.Answer.start_le {language : Language} {x : Context} {c : Construction}
    {span : Span} (h : x.Answer language c span) {cs : List Char} {i : Nat}
    (hx : x.IsAt (tokenize cs) i) : span.start ≤ x.token.span.start := by
  cases h with
  | word => exact Nat.le_refl _
  | withPrevious hl hp =>
      obtain ⟨j, rfl, hj⟩ := hx.of_previous hp
      have := stop_lt_start (Nat.lt_succ_self j) hj hx.token
      have := start_lt_stop hj
      simp only [Span.cover]
      omega
  | withNext => exact Nat.le_refl _
  | withAfterNext => exact Nat.le_refl _

theorem not_isOneOf_the {t : Token} (h : t.isOneOf ["most", "least"] = true) :
    t.isOneOf ["the"] = false := by
  simp only [Token.isOneOf, List.any_cons, List.any_nil, Bool.or_false, Bool.or_eq_true,
    beq_iff_eq] at h ⊢
  rcases h with h | h <;> rw [← h] <;> decide

/-- **Answers come in the order of the text.** -/
theorem Context.Answer.start_lt {language : Language} {x y : Context} {c : Construction}
    {s t : Span} (hs : x.Answer language c s) (ht : y.Answer language c t) {cs : List Char}
    {i j : Nat} (hx : x.IsAt (tokenize cs) i) (hy : y.IsAt (tokenize cs) j) (hij : i < j) :
    s.start < t.start := by
  have hxs := hs.start_le hx
  have hlt := stop_lt_start hij hx.token hy.token
  have hpos := start_lt_stop hx.token
  cases ht with
  | word => omega
  | withNext => exact hxs.trans_lt (hpos.trans hlt)
  | withAfterNext => exact hxs.trans_lt (hpos.trans hlt)
  | withPrevious hl hp hc =>
      obtain ⟨k, rfl, hk⟩ := hy.of_previous hp
      rcases Nat.lt_or_eq_of_le (Nat.le_of_lt_succ hij) with hik | rfl
      · have := stop_lt_start hik hx.token hk
        exact hxs.trans_lt (hpos.trans this)
      · -- the earlier answer is about the word with which the later one begins
        obtain rfl : x.token = _ := Option.some.inj (hx.token.symm.trans hk)
        cases hs with
        | word hword => rcases hc with rfl | ⟨rfl, -⟩ <;> simp [Construction.joinsWords] at hword
        | withPrevious _ hq =>
            obtain ⟨m, rfl, hm⟩ := hx.of_previous hq
            exact (start_lt_stop hm).trans (stop_lt_start (Nat.lt_succ_self m) hm hk)
        | withNext _ _ hc' =>
            rcases hc with rfl | ⟨rfl, hthe⟩
            · simp at hc'
            · have hmost : x.token.isOneOf ["most", "least"] = true := by simpa using hc'
              simp [not_isOneOf_the hmost] at hthe
        | withAfterNext => simp at hc

/-- The constructions that rules on sentences find. -/
def Construction.isOfSentences : Construction → Bool
  | .question | .longSentence => true
  | _ => false

theorem Construction.places_of_sentences {c : Construction} (hc : c.isOfSentences = true)
    (language : Language) (ts : List Token) (ss : List Piece) :
    c.places language ts ss = ss.filterMap (c.atSentence ts) := by
  cases c <;> simp [isOfSentences] at hc <;> rfl

theorem Construction.places_of_words {c : Construction} (hc : c.isOfSentences = false)
    (language : Language) (ts : List Token) (ss : List Piece) :
    c.places language ts ss = (contexts ts).filterMap (c.atWord language) := by
  cases c <;> simp [isOfSentences] at hc <;> rfl

theorem Construction.span_of_atSentence {c : Construction} {ts : List Token} {s : Piece}
    {span : Span} (h : c.atSentence ts s = some span) : span = s.span := by
  cases c <;> simp only [Construction.atSentence, Option.ite_none_right_eq_some, Option.some.injEq,
    reduceCtorEq] at h
  all_goals exact h.2.symm

/-- The words within a sentence are counted right if it is read by itself. -/
theorem wordsWithin_tokenize {cs : List Char} {s : Piece} (h : s ∈ sentencePieces cs) :
    wordsWithin (tokenize cs) s.span = (wordPieces s.chars).length := by
  have hcount : wordsWithin (tokenize cs) s.span =
      (wordPieces cs).countP fun w => w.span.within s.span := List.countP_map
  rw [hcount, List.countP_eq_length_filter, filter_within_sentence h, List.length_map]

/-- A sentence shows the construction, whatever text it is part of. -/
def Construction.isShownBy (sentence : Piece) : Construction → Bool
  | .question => asksQuestion sentence
  | .longSentence => decide (longSentenceWords ≤ (wordPieces sentence.chars).length)
  | _ => false

/-- **Rules on sentences do not look beyond the sentence.** -/
theorem Construction.atSentence_eq (c : Construction) {cs : List Char} {s : Piece}
    (h : s ∈ sentencePieces cs) :
    c.atSentence (tokenize cs) s = if c.isShownBy s then some s.span else none := by
  cases c
  case longSentence =>
    simp only [Construction.atSentence, Construction.isShownBy, wordsWithin_tokenize h,
      decide_eq_true_eq]
  all_goals rfl

/-- A place of a construction is a sentence, or a rule on words answered with it. -/
theorem Construction.mem_places {c : Construction} {language : Language} {ts : List Token}
    {ss : List Piece} {span : Span} (h : span ∈ c.places language ts ss) :
    (c.joinsWords = false ∧ ∃ s ∈ ss, span = s.span) ∨
      ∃ (i : Nat) (x : Context), x.IsAt ts i ∧ x.Answer language c span := by
  cases hc : c.isOfSentences with
  | true =>
      rw [places_of_sentences hc, List.mem_filterMap] at h
      obtain ⟨s, hs, hspan⟩ := h
      refine .inl ⟨?_, s, hs, span_of_atSentence hspan⟩
      cases c <;> simp [isOfSentences] at hc <;> rfl
  | false =>
      rw [places_of_words hc, List.mem_filterMap] at h
      obtain ⟨x, hx, hspan⟩ := h
      obtain ⟨i, hi⟩ := exists_isAt hx
      exact .inr ⟨i, x, hi, answer_of_atWord hspan⟩

/-- **The places of a construction come in the order of the text**, each once. -/
theorem Construction.pairwise_places (c : Construction) (language : Language) (cs : List Char) :
    (c.places language (tokenize cs) (sentencePieces cs)).Pairwise
      fun s t => s.start < t.start := by
  cases hc : c.isOfSentences with
  | true =>
      rw [places_of_sentences hc, List.pairwise_filterMap]
      refine (pairwise_sentencePieces cs).imp_of_mem fun hs ht hlt u hu v hv => ?_
      rw [span_of_atSentence hu, span_of_atSentence hv]
      exact (isSentence_of_mem hs).start_lt.trans_le hlt
  | false =>
      rw [places_of_words hc, List.pairwise_filterMap, List.pairwise_iff_getElem]
      intro i j hi hj hij u hu v hv
      exact (answer_of_atWord hu).start_lt (answer_of_atWord hv)
        (isAt_of_getElem? (List.getElem?_eq_getElem hi))
        (isAt_of_getElem? (List.getElem?_eq_getElem hj)) hij

/-! ### Where places lie -/

/-- A word of the text. -/
theorem exists_isWord {cs : List Char} {i : Nat} {t : Token} (h : (tokenize cs)[i]? = some t) :
    ∃ w ∈ wordPieces cs, w.IsWord cs ∧ t.span = w.span := by
  obtain ⟨w, hw, rfl⟩ := exists_word h
  exact ⟨w, List.mem_of_getElem? hw, isWord_of_mem (List.mem_of_getElem? hw), rfl⟩

/-- The text from one word to a later one begins and ends with a letter or digit. -/
theorem exists_isLettered {cs : List Char} {i j : Nat} {s t : Token} (hij : i < j)
    (hs : (tokenize cs)[i]? = some s) (ht : (tokenize cs)[j]? = some t) :
    ∃ u : Piece, u.IsIn cs ∧ u.span = s.span.cover t.span ∧ IsLettered u.chars := by
  have hlt := stop_lt_start hij hs ht
  obtain ⟨v, -, hv, hspan⟩ := exists_isWord hs
  obtain ⟨w, -, hw, hspan'⟩ := exists_isWord ht
  rw [hspan, hspan'] at hlt ⊢
  obtain ⟨u, hu, hcover, hfront, hback⟩ := hv.isIn.exists_cover hw.isIn hlt.le
  exact ⟨u, hu, hcover, Firm.of_prefix_suffix hv.isLettered hw.isLettered hfront hback⟩

end GradedReading.Parser
