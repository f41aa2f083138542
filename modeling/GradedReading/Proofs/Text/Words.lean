import GradedReading.Proofs.Text.Place

/-!
# GradedReading.Proofs.Text.Words

The words of a text.

**Key idea:** a character that is no word character cuts the text in two, whatever stands around
it: the words are those before it and those after it (`wordPieces_append_cons`). So all about words
is proved for one run of word characters and carried along the text by `stretch_induction`.

The main statements: a text has a word exactly if it has a letter or digit
(`wordPieces_eq_nil_iff`), each word is what the text shows at its place and begins and ends with a
letter or digit (`isWord_of_mem`), and words follow one another with something between them
(`pairwise_wordPieces`).
-/

namespace GradedReading.Text

/-! ### One run of word characters -/

theorem wordOfRun_eq_none {run : List Char} (start : Nat)
    (h : ∀ c ∈ run, isApostrophe c = true) : wordOfRun start run = none := by
  simp [wordOfRun, trimBoth_eq_nil h]

theorem wordOfRun_eq_some {lead word tail : List Char} (start : Nat)
    (hlead : ∀ c ∈ lead, isApostrophe c = true) (hword : Firm isApostrophe word)
    (htail : ∀ c ∈ tail, isApostrophe c = true) :
    wordOfRun start (lead ++ word ++ tail) =
      some ((Piece.after lead word).shift start) := by
  rw [wordOfRun, trimBoth_eq hlead hword htail, takeWhile_eq hlead hword,
    if_neg (by simpa using hword.ne_nil)]
  simp only [Piece.shift, Piece.after, Span.shift, Option.some.injEq, Piece.mk.injEq,
    Span.mk.injEq, and_true]
  omega

theorem shift_wordOfRun (n start : Nat) (run : List Char) :
    (wordOfRun start run).map (Piece.shift n) = wordOfRun (start + n) run := by
  simp only [wordOfRun]
  split
  · rfl
  · simp [Piece.shift, Span.shift, Nat.add_right_comm]

/-- The two cases of a run: apostrophes alone, or a word between apostrophes. -/
theorem wordOfRun_cases (run : List Char) :
    ((∀ c ∈ run, isApostrophe c = true) ∧ ∀ start, wordOfRun start run = none) ∨
      ∃ lead word tail, run = lead ++ word ++ tail ∧ (∀ c ∈ lead, isApostrophe c = true) ∧
        Firm isApostrophe word ∧ (∀ c ∈ tail, isApostrophe c = true) ∧
          ∀ start, wordOfRun start run = some ((Piece.after lead word).shift start) := by
  by_cases h : ∃ c ∈ run, isApostrophe c = false
  · obtain ⟨lead, word, tail, rfl, hlead, hword, htail⟩ := exists_middle h
    exact .inr ⟨lead, word, tail, rfl, hlead, hword, htail,
      fun start => wordOfRun_eq_some start hlead hword htail⟩
  · have hall : ∀ c ∈ run, isApostrophe c = true := by simpa using h
    exact .inl ⟨hall, fun start => wordOfRun_eq_none start hall⟩

/-! ### Cutting a text in two -/

theorem wordsFrom_shift (n start : Nat) (run cs : List Char) :
    wordsFrom (start + n) run cs = (wordsFrom start run cs).map (Piece.shift n) := by
  induction cs generalizing start run with
  | nil => rw [wordsFrom, wordsFrom, ← shift_wordOfRun, Option.toList_map]
  | cons c cs ih =>
      rw [wordsFrom, wordsFrom]
      split
      · exact ih start (c :: run)
      · have hplace : start + n + byteLength run + c.utf8Size =
            start + byteLength run + c.utf8Size + n := by omega
        rw [hplace, ih, ← shift_wordOfRun, Option.toList_map, List.map_append]

theorem wordsFrom_append_cons {c : Char} (hc : isWordChar c = false) (start : Nat)
    (run cs ds : List Char) :
    wordsFrom start run (cs ++ c :: ds) = wordsFrom start run cs ++
      wordsFrom (start + byteLength run + byteLength cs + c.utf8Size) [] ds := by
  induction cs generalizing start run with
  | nil => simp [wordsFrom, hc]
  | cons d cs ih =>
      rw [List.cons_append, wordsFrom, wordsFrom]
      split
      · have hplace : start + byteLength (d :: run) + byteLength cs + c.utf8Size =
            start + byteLength run + byteLength (d :: cs) + c.utf8Size := by
          simp only [byteLength_cons]
          omega
        rw [ih, hplace]
      · have hplace : start + byteLength run + d.utf8Size + byteLength [] + byteLength cs +
            c.utf8Size = start + byteLength run + byteLength (d :: cs) + c.utf8Size := by
          simp only [byteLength_cons, byteLength_nil]
          omega
        rw [ih, hplace, List.append_assoc]

theorem wordsFrom_of_run (start : Nat) (run : List Char) {cs : List Char}
    (h : ∀ c ∈ cs, isWordChar c = true) :
    wordsFrom start run cs = (wordOfRun start (run.reverse ++ cs)).toList := by
  induction cs generalizing run with
  | nil => rw [wordsFrom, List.append_nil]
  | cons c cs ih =>
      obtain ⟨hc, hcs⟩ := List.forall_mem_cons.1 h
      rw [wordsFrom, if_pos hc, ih _ hcs, List.reverse_cons, List.append_assoc,
        List.singleton_append]

/-- **A character that is no word character cuts the text in two.** -/
theorem wordPieces_append_cons {c : Char} (hc : isWordChar c = false) (cs ds : List Char) :
    wordPieces (cs ++ c :: ds) =
      wordPieces cs ++ (wordPieces ds).map (Piece.shift (byteLength cs + c.utf8Size)) := by
  rw [wordPieces, wordsFrom_append_cons hc, wordPieces, wordPieces, ← wordsFrom_shift]
  simp

theorem wordPieces_of_run {run : List Char} (h : ∀ c ∈ run, isWordChar c = true) :
    wordPieces run = (wordOfRun 0 run).toList := wordsFrom_of_run 0 [] h

/-- To prove something of all texts and their words, prove it of one run of word characters, and
that it is kept by a character that cuts. -/
theorem run_induction {motive : List Char → Prop}
    (run : ∀ run, (∀ c ∈ run, isWordChar c = true) → motive run)
    (cut : ∀ run c ds, isWordChar c = false → motive run → motive ds → motive (run ++ c :: ds))
    (cs : List Char) : motive cs :=
  stretch_induction (fun c => !isWordChar c) (fun cs h => run cs (by simpa using h))
    (fun cs c ds _ hc => cut cs c ds (by simpa using hc)) cs

/-! ### Around the words -/

theorem wordPieces_append_left {lead : List Char} (h : ∀ c ∈ lead, isWordChar c = false)
    (cs : List Char) :
    wordPieces (lead ++ cs) = (wordPieces cs).map (Piece.shift (byteLength lead)) := by
  induction lead with
  | nil =>
      have hzero : Piece.shift (byteLength []) = id := funext Piece.shift_zero
      rw [List.nil_append, hzero, List.map_id]
  | cons c lead ih =>
      obtain ⟨hc, hlead⟩ := List.forall_mem_cons.1 h
      have hcut := wordPieces_append_cons hc [] (lead ++ cs)
      rw [List.nil_append] at hcut
      rw [List.cons_append, hcut, ih hlead, wordPieces_nil, List.nil_append, List.map_map]
      refine List.map_congr_left fun w _ => ?_
      rw [Function.comp_apply, Piece.shift_shift, byteLength_nil, byteLength_cons, Nat.zero_add,
        Nat.add_comm]

theorem wordPieces_append_right (cs : List Char) {tail : List Char}
    (h : ∀ c ∈ tail, isWordChar c = false) : wordPieces (cs ++ tail) = wordPieces cs := by
  induction tail generalizing cs with
  | nil => rw [List.append_nil]
  | cons c tail ih =>
      obtain ⟨hc, htail⟩ := List.forall_mem_cons.1 h
      have hnone := ih [] htail
      rw [List.nil_append] at hnone
      rw [wordPieces_append_cons hc, hnone, wordPieces_nil, List.map_nil, List.append_nil]

/-! ### What words are -/

/-- A word of a text: a piece of it with word characters only that begins and ends with a letter
or digit. -/
structure Piece.IsWord (w : Piece) (cs : List Char) : Prop where
  isIn : w.IsIn cs
  wordChars : ∀ c ∈ w.chars, isWordChar c = true
  firm : Firm isApostrophe w.chars

theorem Piece.IsWord.append_right {w : Piece} {cs : List Char} (h : w.IsWord cs) (ds : List Char) :
    w.IsWord (cs ++ ds) :=
  ⟨h.isIn.append_right ds, h.wordChars, h.firm⟩

theorem Piece.IsWord.append_left {w : Piece} {cs : List Char} (h : w.IsWord cs) (ds : List Char) :
    (w.shift (byteLength ds)).IsWord (ds ++ cs) :=
  ⟨h.isIn.append_left ds, h.wordChars, h.firm⟩

theorem Piece.IsWord.start_lt {w : Piece} {cs : List Char} (h : w.IsWord cs) :
    w.span.start < w.span.stop := h.isIn.start_lt h.firm.ne_nil

/-- **Each word is one of the text.** -/
theorem isWord_of_mem {w : Piece} {cs : List Char} (h : w ∈ wordPieces cs) : w.IsWord cs := by
  induction cs using run_induction generalizing w with
  | run run hrun =>
      rw [wordPieces_of_run hrun] at h
      rcases wordOfRun_cases run with ⟨-, hnone⟩ | ⟨lead, word, tail, rfl, -, hword, -, hsome⟩
      · simp [hnone] at h
      · rw [hsome, Option.toList_some, List.mem_singleton, Piece.shift_zero] at h
        subst h
        refine ⟨by simpa using Piece.isIn_after lead word tail, fun c hc => hrun c ?_, hword⟩
        exact List.mem_append_left _ (List.mem_append_right _ hc)
  | cut run c ds hc hrun hds =>
      rw [wordPieces_append_cons hc, List.mem_append, List.mem_map] at h
      rcases h with h | ⟨v, hv, rfl⟩
      · exact (hrun h).append_right (c :: ds)
      · have hword := (hds hv).append_left (run ++ [c])
        simpa using hword

/-- Text that begins and ends with a letter or digit. -/
def IsLettered (cs : List Char) : Prop := Firm (fun c => !isAlphanumeric c) cs

theorem IsLettered.firm {cs : List Char} (h : IsLettered cs) : Firm isBlank cs := by
  refine h.mono fun c _ hletter => ?_
  by_contra hblank
  simp [isAlphanumeric_of_isBlank (Bool.of_not_eq_false hblank)] at hletter

theorem Piece.IsWord.isLettered {w : Piece} {cs : List Char} (h : w.IsWord cs) :
    IsLettered w.chars :=
  h.firm.mono fun c hc hletter => by simp [isAlphanumeric_of_isWordChar (h.wordChars c hc) hletter]

/-- **Words follow one another**, with something between them. -/
theorem pairwise_wordPieces (cs : List Char) :
    (wordPieces cs).Pairwise fun v w => v.span.stop < w.span.start := by
  induction cs using run_induction with
  | run run hrun =>
      rw [wordPieces_of_run hrun]
      cases wordOfRun 0 run <;> simp
  | cut run c ds hc hrun hds =>
      rw [wordPieces_append_cons hc, List.pairwise_append]
      refine ⟨hrun, List.pairwise_map.2 (hds.imp fun h => Nat.add_lt_add_right h _), ?_⟩
      intro v hv w hw
      obtain ⟨w, -, rfl⟩ := List.mem_map.1 hw
      have hstop := (isWord_of_mem hv).isIn.stop_le
      have hsize := c.utf8Size_pos
      simp only [Piece.span_shift, Span.shift]
      omega

/-- **Each letter and digit is in a word.** -/
theorem exists_mem_wordPieces {c : Char} {cs : List Char} (hmem : c ∈ cs)
    (hc : isAlphanumeric c = true) : ∃ w ∈ wordPieces cs, c ∈ w.chars := by
  have hapostrophe : isApostrophe c ≠ true := fun h => by
    simp [isAlphanumeric_of_isApostrophe h] at hc
  induction cs using run_induction with
  | run run hrun =>
      rw [wordPieces_of_run hrun]
      rcases wordOfRun_cases run with ⟨hall, -⟩ | ⟨lead, word, tail, rfl, hlead, -, htail, hsome⟩
      · exact absurd (hall c hmem) hapostrophe
      · rw [hsome]
        refine ⟨_, List.mem_singleton_self _, ?_⟩
        simp only [List.mem_append] at hmem
        rcases hmem with (h | h) | h
        · exact absurd (hlead c h) hapostrophe
        · exact h
        · exact absurd (htail c h) hapostrophe
  | cut run d ds hd hrun hds =>
      rw [wordPieces_append_cons hd]
      rcases List.mem_append.1 hmem with h | h
      · obtain ⟨w, hw, hcw⟩ := hrun h
        exact ⟨w, List.mem_append_left _ hw, hcw⟩
      · rcases List.mem_cons.1 h with rfl | h
        · simp [isWordChar_of_isAlphanumeric hc] at hd
        · obtain ⟨w, hw, hcw⟩ := hds h
          exact ⟨_, List.mem_append_right _ (List.mem_map_of_mem hw), hcw⟩

/-- **A text has a word exactly if it has a letter or digit.** -/
theorem wordPieces_eq_nil_iff (cs : List Char) :
    wordPieces cs = [] ↔ ∀ c ∈ cs, isAlphanumeric c = false := by
  induction cs using run_induction with
  | run run hrun =>
      rw [wordPieces_of_run hrun]
      rcases wordOfRun_cases run with ⟨hall, hnone⟩ | ⟨lead, word, tail, rfl, -, hword, -, hsome⟩
      · rw [hnone]
        exact iff_of_true rfl fun c hc => isAlphanumeric_of_isApostrophe (hall c hc)
      · obtain ⟨c, rest, rfl, hc⟩ := hword.head
        have hmem : c ∈ lead ++ c :: rest ++ tail := by simp
        have hletter := isAlphanumeric_of_isWordChar (hrun c hmem) hc
        rw [hsome]
        exact iff_of_false (List.cons_ne_nil _ _) fun h => by simp [h c hmem] at hletter
  | cut run c ds hc hrun hds =>
      have hletter : isAlphanumeric c = false := by
        by_contra h
        simp [isWordChar_of_isAlphanumeric (Bool.of_not_eq_false h)] at hc
      rw [wordPieces_append_cons hc, List.append_eq_nil_iff, List.map_eq_nil_iff, hrun, hds]
      simp [or_imp, forall_and, hletter]

end GradedReading.Text
