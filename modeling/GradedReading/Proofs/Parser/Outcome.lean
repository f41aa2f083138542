import GradedReading.Proofs.Parser.Places

/-!
# GradedReading.Proofs.Parser.Outcome

What comes of a text that is parsed.

A text is refused exactly if it has no letter or digit. Otherwise there is a document: it keeps its
source, its counts are in order (each sentence has a word and each word a syllable), and it shows
constructions at places of the text only (`describes_parseAs`).
-/

namespace GradedReading

open Text

/-! ### Counts -/

namespace Parser

theorem one_le_syllables (language : Language) (word : List Char) :
    1 ≤ syllables language word := by
  cases language <;> exact Nat.le_max_right ..

theorem words_le_syllables (language : Language) (ts : List Token) (ss : List Piece) :
    (statsOf language ts ss).words ≤ (statsOf language ts ss).syllables := by
  simp only [statsOf]
  induction ts with
  | nil => exact Nat.le_refl _
  | cons t ts ih =>
      rw [List.length_cons, List.foldr_cons, Nat.add_comm]
      exact Nat.add_le_add (one_le_syllables ..) ih

/-! ### The two outcomes -/

theorem isEmpty_tokenize (cs : List Char) :
    (tokenize cs).isEmpty = !cs.any isAlphanumeric := by
  rw [Bool.eq_iff_iff, List.isEmpty_iff, tokenize, List.map_eq_nil_iff, wordPieces_eq_nil_iff]
  simp

theorem parse_of_any {language : Language} {source : Source}
    (h : source.text.toList.any isAlphanumeric = true) :
    parse language source = .ok (.fresh source language
      (statsOf language (tokenize source.text.toList) (sentencePieces source.text.toList))
      (constructionsOf language (tokenize source.text.toList)
        (sentencePieces source.text.toList))) := by
  simp [parse, isEmpty_tokenize, h]

theorem parse_of_not_any {language : Language} {source : Source}
    (h : source.text.toList.any isAlphanumeric = false) :
    parse language source = .error (.empty source.rank) := by
  simp [parse, isEmpty_tokenize, h]

/-- What is known of a document that a text was parsed to. -/
theorem parse_eq_ok_iff {language : Language} {source : Source} {d : Document} :
    parse language source = .ok d ↔ source.text.toList.any isAlphanumeric = true ∧
      d = .fresh source language
        (statsOf language (tokenize source.text.toList) (sentencePieces source.text.toList))
        (constructionsOf language (tokenize source.text.toList)
          (sentencePieces source.text.toList)) := by
  cases h : source.text.toList.any isAlphanumeric with
  | true => simp [parse_of_any h, eq_comm]
  | false => simp [parse_of_not_any h]

theorem Construction.name_injective {c c' : Construction} (h : c.name = c'.name) : c = c' := by
  revert h
  cases c <;> cases c' <;> decide

theorem mem_constructionsOf {language : Language} {ts : List Token} {ss : List Piece}
    {e : String × List Span} :
    e ∈ constructionsOf language ts ss ↔
      ∃ c : Construction, e = (c.name, c.places language ts ss) ∧ e.2 ≠ [] := by
  simp only [constructionsOf, ← Entries.mem_toList, List.mem_filter, List.mem_map,
    Construction.mem_all, true_and]
  constructor
  · rintro ⟨⟨c, rfl⟩, hne⟩
    exact ⟨c, rfl, by simpa using hne⟩
  · rintro ⟨c, rfl, hne⟩
    exact ⟨⟨c, rfl⟩, by simpa using hne⟩

/-- A construction is recorded with all its places, if it has any. -/
theorem get?_constructionsOf (language : Language) (ts : List Token) (ss : List Piece)
    (c : Construction) :
    ((constructionsOf language ts ss).get? c.name).getD [] = c.places language ts ss := by
  cases h : (constructionsOf language ts ss).get? c.name with
  | some spans =>
      obtain ⟨c', heq, -⟩ := mem_constructionsOf.1 (Entries.mem_of_get? h)
      obtain ⟨hname, rfl⟩ := Prod.mk.inj heq
      rw [Construction.name_injective hname, Option.getD_some]
  | none =>
      by_contra hne
      have hmem : (c.name, c.places language ts ss) ∈ constructionsOf language ts ss :=
        mem_constructionsOf.2 ⟨c, rfl, fun hnil => hne (Eq.symm hnil)⟩
      rw [Entries.get?_of_mem hmem] at h
      exact absurd h nofun

end Parser

/-! ### What a document says -/

/-- Where the document shows a construction. -/
def Document.placesOf (d : Document) (c : Parser.Construction) : List Span :=
  (d.constructions.get? c.name).getD []

/-- A place in a text: some of its characters, either a sentence or from one word to another. -/
structure IsPlace (text : String) (span : Span) : Prop where
  start_lt : span.start < span.stop
  stop_le : span.stop ≤ byteLength text.toList
  /-- It is cut from the text at character boundaries. -/
  isIn : ∃ chars, (⟨span, chars⟩ : Piece).IsIn text.toList
  /-- It is a sentence, or begins where a word begins and ends where a word ends. -/
  edges : (∃ s ∈ sentences text, span = s.span) ∨
    ∃ v ∈ words text, ∃ w ∈ words text, span = v.span.cover w.span

/-- The document says of its source what is there. -/
structure Document.Describes (d : Document) (source : Source) : Prop where
  source_eq : d.source = source
  one_le_sentences : 1 ≤ d.stats.sentences
  sentences_le_words : d.stats.sentences ≤ d.stats.words
  words_le_syllables : d.stats.words ≤ d.stats.syllables
  longWords_le_words : d.stats.longWords ≤ d.stats.words
  constructions : ∀ e ∈ d.constructions, e.2 ≠ [] ∧
    (e.2.Pairwise fun s t => s.before t = true) ∧ ∀ span ∈ e.2, IsPlace source.text span

theorem isPlace_of_piece {text : String} {u : Piece} (hu : u.IsIn text.toList)
    (hne : u.chars ≠ []) (hedges : (∃ s ∈ sentences text, u.span = s.span) ∨
      ∃ v ∈ words text, ∃ w ∈ words text, u.span = v.span.cover w.span) :
    IsPlace text u.span :=
  ⟨hu.start_lt hne, hu.stop_le, ⟨u.chars, hu⟩, hedges⟩

namespace Parser

/-- **Constructions are found at places of the text.** -/
theorem isPlace_of_mem_places {language : Language} {text : String} {c : Construction} {span : Span}
    (h : span ∈ c.places language (tokenize text.toList) (sentencePieces text.toList)) :
    IsPlace text span := by
  rcases Construction.mem_places h with ⟨-, s, hs, rfl⟩ | ⟨i, x, hx, hanswer⟩
  · have hsentence := isSentence_of_mem hs
    exact isPlace_of_piece hsentence.isIn hsentence.firm.ne_nil (.inl ⟨s, hs, rfl⟩)
  · cases hc : c.joinsWords with
    | false =>
        obtain ⟨w, hmem, hw, hspan⟩ := exists_isWord hx.token
        rw [hanswer.eq_word hc, hspan]
        exact isPlace_of_piece hw.isIn hw.firm.ne_nil (.inr ⟨w, hmem, w, hmem, rfl⟩)
    | true =>
        obtain ⟨-, j, k, v, w, hv, hw, hjk, -, rfl⟩ := hanswer.exists_cover hc hx
        obtain ⟨u, hu, hspan, hletters⟩ := exists_isLettered hjk hv hw
        obtain ⟨v', hv', -, hspanv⟩ := exists_isWord hv
        obtain ⟨w', hw', -, hspanw⟩ := exists_isWord hw
        rw [← hspan]
        exact isPlace_of_piece hu hletters.firm.ne_nil
          (.inr ⟨v', hv', w', hw', by rw [hspan, hspanv, hspanw]⟩)

/-- **A text is refused exactly if it has no letter or digit**, and otherwise there is a document
that says of it what is there. -/
theorem describes_parseAs (own : Language) (source : Source) :
    if source.text.toList.any isAlphanumeric then
      ∃ d, parseAs own own source = .ok d ∧ d.Describes source
    else parseAs own own source = .error (.empty source.rank) := by
  rw [parseAs, if_pos rfl]
  split
  · next h =>
    refine ⟨_, parse_of_any h, rfl, Nat.le_max_right .., ?_, words_le_syllables .., ?_, ?_⟩
    · have hword : 1 ≤ (tokenize source.text.toList).length := by
        refine List.length_pos_of_ne_nil fun hnil => ?_
        have := isEmpty_tokenize source.text.toList
        simp [hnil, h] at this
      exact Nat.max_le.2 ⟨(length_sentencePieces_le _).trans_eq (length_tokenize _).symm, hword⟩
    · exact List.countP_le_length
    · intro e he
      obtain ⟨c, rfl, hne⟩ := mem_constructionsOf.1 he
      refine ⟨hne, ?_, fun span hspan => isPlace_of_mem_places hspan⟩
      refine (c.pairwise_places own source.text.toList).imp fun hlt => ?_
      simp [Span.before, hlt]
  · next h => exact parse_of_not_any (by simpa using h)

end Parser

end GradedReading
