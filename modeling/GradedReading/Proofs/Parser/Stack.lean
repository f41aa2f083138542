import GradedReading.Proofs.Parser.Outcome

/-!
# GradedReading.Proofs.Parser.Stack

Two texts, one on the lines below the other.

**Key idea:** a line feed belongs to no word and closes a sentence, so that words and sentences of
the whole are those of the text above and, moved to their place, those of the text below. Counts of
words and sentences add up, and so do the places of all constructions whose rules look at one
sentence or one word. A rule that looks at neighbouring words may look over the line feed, and
nothing is said of it.
-/

namespace GradedReading

open Text

namespace Parser

/-! ### Moving tokens -/

/-- The token `n` bytes further to the right. -/
def Token.shift (n : Nat) (t : Token) : Token := ⟨t.span.shift n, t.lower⟩

theorem tokenize_append_lineFeed (cs ds : List Char) :
    tokenize (cs ++ '\n' :: ds) =
      tokenize cs ++ (tokenize ds).map (Token.shift (byteLength cs + 1)) := by
  rw [tokenize, wordPieces_append_lineFeed, List.map_append, List.map_map, tokenize, tokenize,
    List.map_map]
  rfl

/-! ### Rules that look at one word -/

/-- Without neighbours a rule that looks at one word answers the same. -/
theorem Construction.atWord_eq {c : Construction} (hc : c.joinsWords = false) (language : Language)
    (x : Context) : c.atWord language x = c.atWord language ⟨none, x.token, none, none⟩ := by
  cases c <;> first | rfl | exact absurd hc nofun

theorem Construction.filterMap_contexts {c : Construction} (hc : c.joinsWords = false)
    (language : Language) (ts : List Token) :
    (contexts ts).filterMap (c.atWord language) =
      ts.filterMap fun t => c.atWord language ⟨none, t, none, none⟩ := by
  conv_rhs => rw [← map_token_contexts ts, List.filterMap_map]
  exact List.filterMap_congr fun x _ => c.atWord_eq hc language x

/-- Such a rule moves its answer with the word. -/
theorem Construction.atWord_shift {c : Construction} (hc : c.joinsWords = false)
    (language : Language) (n : Nat) (t : Token) :
    c.atWord language ⟨none, t.shift n, none, none⟩ =
      (c.atWord language ⟨none, t, none, none⟩).map (Span.shift n) := by
  have hone : ∀ (q : Token → Prop) [DecidablePred q], (q (t.shift n) ↔ q t) →
      (if q (t.shift n) then some (t.shift n).span else none) =
        (if q t then some t.span else none).map (Span.shift n) := by
    intro q _ hq
    simp only [hq]
    split <;> rfl
  cases c
  case comparative | passiveVoice | superlative => exact absurd hc nofun
  case question | longSentence => rfl
  case negation => exact hone (fun t => negates language t = true) Iff.rfl
  case conditional => exact hone (fun t => t.isOneOf (lexicon language).conditionals = true) Iff.rfl
  case modalVerb => exact hone (fun t => t.isOneOf (lexicon language).modals = true) Iff.rfl
  case relativeClause => exact hone (fun t => t.isOneOf (lexicon language).relatives = true) Iff.rfl
  case pastRegular => exact hone (fun t => language = .english ∧ inflected "ed" t = true) Iff.rfl
  case progressive => exact hone (fun t => language = .english ∧ inflected "ing" t = true) Iff.rfl

/-! ### Rules that look at one sentence -/

theorem Construction.atSentence_above (c : Construction) {cs ds : List Char} {s : Piece}
    (hs : s ∈ sentencePieces cs) :
    c.atSentence (tokenize (cs ++ '\n' :: ds)) s = c.atSentence (tokenize cs) s := by
  have hwhole : s ∈ sentencePieces (cs ++ '\n' :: ds) := by
    rw [sentencePieces_append_cons]
    exact List.mem_append_left _ hs
  rw [c.atSentence_eq hs, c.atSentence_eq hwhole]

theorem Construction.atSentence_below (c : Construction) {cs ds : List Char} {s : Piece}
    (hs : s ∈ sentencePieces ds) :
    c.atSentence (tokenize (cs ++ '\n' :: ds)) (s.shift (byteLength cs + 1)) =
      (c.atSentence (tokenize ds) s).map (Span.shift (byteLength cs + 1)) := by
  have hwhole : s.shift (byteLength cs + 1) ∈ sentencePieces (cs ++ '\n' :: ds) := by
    rw [sentencePieces_append_cons]
    exact List.mem_append_right _ (List.mem_map_of_mem hs)
  have hshown : c.isShownBy (s.shift (byteLength cs + 1)) = c.isShownBy s := by cases c <;> rfl
  rw [c.atSentence_eq hs, c.atSentence_eq hwhole, hshown]
  split <;> rfl

/-! ### The whole -/

/-- **Places add up** where rules look at one sentence or one word. -/
theorem Construction.places_append_lineFeed {c : Construction} (hc : c.joinsWords = false)
    (language : Language) (cs ds : List Char) :
    c.places language (tokenize (cs ++ '\n' :: ds)) (sentencePieces (cs ++ '\n' :: ds)) =
      c.places language (tokenize cs) (sentencePieces cs) ++
        (c.places language (tokenize ds) (sentencePieces ds)).map
          (Span.shift (byteLength cs + 1)) := by
  cases hsentences : c.isOfSentences with
  | true =>
      simp only [places_of_sentences hsentences]
      rw [sentencePieces_append_cons, List.filterMap_append, List.filterMap_map,
        List.map_filterMap]
      exact congrArg₂ _ (List.filterMap_congr fun s hs => c.atSentence_above hs)
        (List.filterMap_congr fun s hs => c.atSentence_below hs)
  | false =>
      simp only [places_of_words hsentences, filterMap_contexts hc]
      rw [tokenize_append_lineFeed, List.filterMap_append, List.filterMap_map, List.map_filterMap]
      exact congrArg _ (List.filterMap_congr fun t _ => atWord_shift hc language _ t)

theorem syllables_append (language : Language) (ts us : List Token) :
    (ts ++ us).foldr (fun t n => syllables language t.lower + n) 0 =
      ts.foldr (fun t n => syllables language t.lower + n) 0 +
        us.foldr (fun t n => syllables language t.lower + n) 0 := by
  induction ts with
  | nil => simp
  | cons t ts ih => simp only [List.cons_append, List.foldr_cons, ih, Nat.add_assoc]

end Parser

/-- The counts of two texts together. -/
def TextStats.plus (s t : TextStats) : TextStats :=
  ⟨s.words + t.words, s.sentences + t.sentences, s.syllables + t.syllables,
    s.longWords + t.longWords⟩

/-- One document is put together from two, the second one moved `n` bytes to the right, but for the
constructions that join words. -/
structure Document.Stacks (whole above below : Document) (n : Nat) : Prop where
  stats : whole.stats = above.stats.plus below.stats
  places : ∀ c : Parser.Construction, c.joinsWords = false →
    whole.placesOf c = above.placesOf c ++ (below.placesOf c).map (Span.shift n)

namespace Parser

/-- **Counts add up** if both texts have a word. -/
theorem statsOf_append_lineFeed (language : Language) {cs ds : List Char} (hcs : wordPieces cs ≠ [])
    (hds : wordPieces ds ≠ []) :
    statsOf language (tokenize (cs ++ '\n' :: ds)) (sentencePieces (cs ++ '\n' :: ds)) =
      (statsOf language (tokenize cs) (sentencePieces cs)).plus
        (statsOf language (tokenize ds) (sentencePieces ds)) := by
  have hone : ∀ {es : List Char}, wordPieces es ≠ [] → 1 ≤ (sentencePieces es).length :=
    fun h => List.length_pos_of_ne_nil (mt (sentencePieces_eq_nil_iff _).1 h)
  have hcs := hone hcs
  have hds := hone hds
  rw [tokenize_append_lineFeed, sentencePieces_append_cons]
  simp only [statsOf, TextStats.plus, syllables_append, List.length_append, List.length_map,
    List.countP_append, List.countP_map, List.foldr_map, TextStats.mk.injEq, true_and]
  refine ⟨?_, rfl, rfl⟩
  omega

theorem any_of_words_ne_nil {text : String} (h : words text ≠ []) :
    text.toList.any isAlphanumeric = true := by
  by_contra hnone
  refine h ((wordPieces_eq_nil_iff _).2 ?_)
  simpa using hnone

/-- **Texts can be taken line by line.** -/
theorem stacks_of_parse {above below whole : Source}
    (h : whole.text = above.text ++ "\n" ++ below.text) :
    words whole.text = words above.text ++
        (words below.text).map (Piece.shift (byteLength above.text.toList + 1)) ∧
      sentences whole.text = sentences above.text ++
        (sentences below.text).map (Piece.shift (byteLength above.text.toList + 1)) ∧
      (words above.text ≠ [] → words below.text ≠ [] → ∀ language, ∃ d a b,
        parse language whole = .ok d ∧ parse language above = .ok a ∧
          parse language below = .ok b ∧ d.Stacks a b (byteLength above.text.toList + 1)) := by
  have htext : whole.text.toList = above.text.toList ++ '\n' :: below.text.toList := by simp [h]
  refine ⟨?_, ?_, fun habove hbelow language => ?_⟩
  · rw [words, htext, wordPieces_append_lineFeed]
    rfl
  · rw [sentences, htext, sentencePieces_append_cons]
    rfl
  · have hany : whole.text.toList.any isAlphanumeric = true := by
      simp [htext, any_of_words_ne_nil habove]
    refine ⟨_, _, _, parse_of_any hany, parse_of_any (any_of_words_ne_nil habove),
      parse_of_any (any_of_words_ne_nil hbelow), ?_, fun c hc => ?_⟩
    · simp only [Document.fresh, htext, statsOf_append_lineFeed language habove hbelow]
    · simp only [Document.placesOf, Document.fresh, get?_constructionsOf, htext,
        Construction.places_append_lineFeed hc]

/-- A word that stands alone on its line, and a question below it. -/
theorem stacks_question :
    let above : Source := ⟨⟨0, "t", none⟩, "Don't"⟩
    let below : Source := ⟨⟨1, "t", none⟩, "\nwho, if not you?"⟩
    let whole : Source := ⟨⟨2, "t", none⟩, "Don't\n\nwho, if not you?"⟩
    whole.text = above.text ++ "\n" ++ below.text ∧ words above.text ≠ [] ∧
      words below.text ≠ [] ∧ ∃ d a b,
        parse .english whole = .ok d ∧ parse .english above = .ok a ∧
          parse .english below = .ok b ∧ d.Stacks a b (byteLength above.text.toList + 1) := by
  intro above below whole
  have htext : whole.text = above.text ++ "\n" ++ below.text := by decide
  have habove : words above.text ≠ [] := by decide +kernel
  have hbelow : words below.text ≠ [] := by decide +kernel
  exact ⟨htext, habove, hbelow, (stacks_of_parse htext).2.2 habove hbelow .english⟩

end Parser

end GradedReading
