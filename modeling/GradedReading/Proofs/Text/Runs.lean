import GradedReading.Proofs.Text.Words

/-!
# GradedReading.Proofs.Text.Runs

Words in a row, and the text from the first of them to the last.

**Key idea:** a text can be cut right before a word and right after it, and the words of what is cut
off are those that stood there (`exists_around_word`). Cut before the first and after the last of
some words in a row, it leaves a text with just these words (`exists_fragment`).
-/

namespace GradedReading.Text

/-! ### Cutting by bytes -/

/-- What is left of a text without its first `n` bytes. -/
def dropBytes : Nat → List Char → List Char
  | _, [] => []
  | n, c :: cs => if n = 0 then c :: cs else dropBytes (n - c.utf8Size) cs

/-- The first `n` bytes of a text. -/
def takeBytes : Nat → List Char → List Char
  | _, [] => []
  | n, c :: cs => if n = 0 then [] else c :: takeBytes (n - c.utf8Size) cs

/-- The stretch of a text that a span marks. -/
def Span.cut (s : Span) (cs : List Char) : List Char := takeBytes s.length (dropBytes s.start cs)

theorem dropBytes_append (cs ds : List Char) : dropBytes (byteLength cs) (cs ++ ds) = ds := by
  induction cs with
  | nil => cases ds <;> rfl
  | cons c cs ih =>
      have hpos := c.utf8Size_pos
      rw [List.cons_append, byteLength_cons, dropBytes, if_neg (by omega), Nat.add_sub_cancel_left,
        ih]

theorem takeBytes_append (cs ds : List Char) : takeBytes (byteLength cs) (cs ++ ds) = cs := by
  induction cs with
  | nil => cases ds <;> rfl
  | cons c cs ih =>
      have hpos := c.utf8Size_pos
      rw [List.cons_append, byteLength_cons, takeBytes, if_neg (by omega), Nat.add_sub_cancel_left,
        ih]

/-- **A piece is what its span cuts out of the text.** -/
theorem Piece.IsIn.cut_span {w : Piece} {cs : List Char} (h : w.IsIn cs) :
    w.span.cut cs = w.chars := by
  obtain ⟨before, chars, rest, rfl, rfl⟩ := h
  rw [Span.cut, start_after, dropBytes_append, Span.length, start_after, stop_after,
    Nat.add_sub_cancel_left, takeBytes_append, chars_after]

/-! ### Cutting around words -/

/-- A word between apostrophes is the one word of the text. -/
theorem wordPieces_eq_singleton {lead word tail : List Char}
    (hlead : ∀ c ∈ lead, isApostrophe c = true) (hword : Firm isApostrophe word)
    (hchars : ∀ c ∈ word, isWordChar c = true) (htail : ∀ c ∈ tail, isApostrophe c = true) :
    wordPieces (lead ++ word ++ tail) = [Piece.after lead word] := by
  have hrun : ∀ c ∈ lead ++ word ++ tail, isWordChar c = true := by
    have hwordChar {c : Char} (hc : isApostrophe c = true) : isWordChar c = true := by
      rw [isWordChar, hc, Bool.or_true]
    simp only [List.forall_mem_append]
    exact ⟨⟨fun c hc => hwordChar (hlead c hc), hchars⟩, fun c hc => hwordChar (htail c hc)⟩
  rw [wordPieces_of_run hrun, wordOfRun_eq_some 0 hlead hword htail, Piece.shift_zero,
    Option.toList_some]

/-- A text without a cut has no more than one word, which stays the same without the apostrophes on
one side. -/
theorem exists_around_word_of_run {run : List Char} {ps qs : List Piece} {w : Piece}
    (hrun : ∀ c ∈ run, isWordChar c = true) (h : wordPieces run = ps ++ w :: qs) :
    ps = [] ∧ qs = [] ∧ ∃ lead tail, run = lead ++ (w.chars ++ tail) ∧
      w = Piece.after lead w.chars ∧ wordPieces (lead ++ w.chars) = [w] ∧
        (wordPieces (w.chars ++ tail)).map (Piece.shift (byteLength lead)) = [w] := by
  rcases wordOfRun_cases run with ⟨-, hnone⟩ | ⟨lead, word, tail, rfl, hlead, hword, htail, -⟩
  · rw [wordPieces_of_run hrun, hnone] at h
    exact absurd h (by simp)
  · have hchars : ∀ c ∈ word, isWordChar c = true := fun c hc => hrun c (by simp [hc])
    rw [wordPieces_eq_singleton hlead hword hchars htail, List.singleton_eq_append_iff] at h
    obtain ⟨rfl, hw⟩ | ⟨-, hw⟩ := h
    · obtain ⟨rfl, rfl⟩ := List.cons.inj hw
      have hfront := wordPieces_eq_singleton hlead hword hchars (List.forall_mem_nil _)
      have hback := wordPieces_eq_singleton (List.forall_mem_nil _) hword hchars htail
      rw [List.append_nil] at hfront
      rw [List.nil_append] at hback
      refine ⟨rfl, rfl, lead, tail, by simp, rfl, hfront, ?_⟩
      rw [Piece.chars_after, hback, List.map_singleton, Piece.shift_after, List.append_nil]
    · exact absurd hw (by simp)

/-- **A text can be cut right before a word and right after it.** -/
theorem exists_around_word {cs : List Char} {ps qs : List Piece} {w : Piece}
    (h : wordPieces cs = ps ++ w :: qs) :
    ∃ before rest, cs = before ++ (w.chars ++ rest) ∧ w = Piece.after before w.chars ∧
      wordPieces (before ++ w.chars) = ps ++ [w] ∧
        (wordPieces (w.chars ++ rest)).map (Piece.shift (byteLength before)) = w :: qs := by
  induction cs using run_induction generalizing ps w qs with
  | run run hrun =>
      obtain ⟨rfl, rfl, haround⟩ := exists_around_word_of_run hrun h
      exact haround
  | cut run c ds hc hrun hds =>
      have hcut (cs es : List Char) : wordPieces (cs ++ c :: es) =
          wordPieces cs ++ (wordPieces es).map (Piece.shift (byteLength (cs ++ [c]))) := by
        rw [wordPieces_append_cons hc]
        simp
      rw [hcut] at h
      -- the word comes before the cut or after it
      rcases append_eq_append_cons h with ⟨x, hx, rfl⟩ | ⟨x, rfl, hx⟩
      · obtain ⟨before, rest, rfl, hw, hfront, hback⟩ := hrun hx
        refine ⟨before, rest ++ c :: ds, by simp, hw, hfront, ?_⟩
        rw [← List.append_assoc, hcut, List.map_append, hback, List.map_map,
          ← Piece.shift_byteLength_append, List.append_assoc before, List.cons_append]
      · obtain ⟨ps', tail, hds', rfl, htail⟩ := List.map_eq_append_iff.1 hx
        obtain ⟨v, qs', rfl, rfl, rfl⟩ := List.map_eq_cons_iff.1 htail
        obtain ⟨before, rest, rfl, hv, hfront, hback⟩ := hds hds'
        refine ⟨run ++ [c] ++ before, rest, by simp, ?_, ?_, ?_⟩
        · rw [Piece.chars_shift, ← Piece.shift_after, ← hv]
        · have hword := hcut run (before ++ v.chars)
          rw [hfront] at hword
          simpa using hword
        · rw [Piece.chars_shift, Piece.shift_byteLength_append, ← List.map_map, hback,
            List.map_cons]

/-- The text from the first to the last of some words in a row has these words and no other. -/
theorem exists_fragment {cs : List Char} {ps run qs : List Piece} {v w : Piece}
    (h : wordPieces cs = ps ++ run ++ qs) (hfirst : run.head? = some v)
    (hlast : run.getLast? = some w) :
    ∃ u : Piece, u.IsIn cs ∧ u.span = v.span.cover w.span ∧ IsLettered u.chars ∧
      (wordPieces u.chars).map (Piece.shift u.span.start) = run := by
  obtain ⟨first, rfl⟩ := List.getLast?_eq_some_iff.1 hlast
  rw [List.append_assoc, List.append_assoc, List.singleton_append, ← List.append_assoc] at h
  obtain ⟨before, rest, rfl, hw, hfront, -⟩ := exists_around_word h
  obtain ⟨later, hlater⟩ := List.head?_eq_some_iff.1 hfirst
  rw [List.append_assoc, hlater] at hfront
  obtain ⟨before', rest', hcs, hv, -, hback⟩ := exists_around_word hfront
  have hstart : v.span.start = byteLength before' := by rw [hv, Piece.start_after]
  have hstop : w.span.stop = byteLength (before ++ w.chars) := by
    rw [hw, Piece.stop_after, Piece.chars_after, byteLength_append]
  refine ⟨Piece.after before' (v.chars ++ rest'), ?_, ?_, ?_, ?_⟩
  · refine ⟨before', v.chars ++ rest', rest, ?_, rfl⟩
    rw [← List.append_assoc before', ← hcs, List.append_assoc]
  · rw [Span.cover, hstart, hstop, hcs, byteLength_append]
    rfl
  · -- the last word does not begin before the first one
    have hlong : byteLength before' ≤ byteLength before := by
      have hmem : w ∈ (wordPieces (v.chars ++ rest')).map (Piece.shift (byteLength before')) := by
        rw [hback, ← hlater]
        simp
      obtain ⟨u, -, hu⟩ := List.mem_map.1 hmem
      have hw' : w.span.start = byteLength before := by rw [hw, Piece.start_after]
      rw [← hw', ← hu]
      exact Nat.le_add_left ..
    have hback' : w.chars <:+ v.chars ++ rest' := by
      obtain ⟨between, rfl⟩ := prefix_of_byteLength_le (show _ <+: before ++ w.chars from
        ⟨_, hcs.symm⟩) (List.prefix_append ..) hlong
      rw [List.append_assoc] at hcs
      exact ⟨between, List.append_cancel_left hcs⟩
    have hlettered {u : Piece} (hu : u ∈ ps ++ v :: later) : IsLettered u.chars := by
      rw [← hfront] at hu
      exact (isWord_of_mem hu).isLettered
    refine (hlettered (u := v) (by simp)).of_prefix_suffix (hlettered (u := w) ?_)
      (List.prefix_append ..) hback'
    rw [← hlater]
    simp
  · rw [Piece.chars_after, Piece.start_after, hback, hlater]

end GradedReading.Text
