import GradedReading.Proofs.Text.Runs
import Mathlib.Data.String.Basic
import Mathlib.Logic.ExistsUnique

/-!
# GradedReading.Proofs.Text.MaximalRuns

The words of a text are its maximal runs of word characters, without the apostrophes at their ends.

**Key idea:** the cutting remembers what it has read, and a maximal run speaks of what stands around
it. A character that is no word character brings the two together: it cuts the text in two
(`wordPieces_append_cons`), and no run reaches over it.

The main statement, `isCutInto_words`, says which pieces of a text are words, that they can be cut
out of the text by their bytes, and that each letter or digit is in one word and in no other.
-/

namespace GradedReading.Text

/-! ### Maximal runs -/

/-- A run of word characters in a text, with none of them right before or behind it. -/
structure IsMaximalRun (cs before run rest : List Char) : Prop where
  text : cs = before ++ (run ++ rest)
  ne_nil : run ≠ []
  wordChars : ∀ c ∈ run, isWordChar c = true
  left : ∀ c, before.getLast? = some c → isWordChar c = false
  right : ∀ c, rest.head? = some c → isWordChar c = false

/-- A maximal run is one of a longer text as well, if the text goes on with a character that
cuts. -/
theorem IsMaximalRun.append_right {cs before run rest : List Char} {c : Char}
    (h : IsMaximalRun cs before run rest) (hc : isWordChar c = false) (ds : List Char) :
    IsMaximalRun (cs ++ c :: ds) before run (rest ++ c :: ds) where
  text := by rw [h.text, List.append_assoc, List.append_assoc]
  ne_nil := h.ne_nil
  wordChars := h.wordChars
  left := h.left
  right d hd := by
    cases rest with
    | nil => exact Option.some.inj hd ▸ hc
    | cons e rest => exact h.right d hd

theorem IsMaximalRun.append_left {cs before run rest : List Char} {c : Char}
    (h : IsMaximalRun cs before run rest) (hc : isWordChar c = false) (ds : List Char) :
    IsMaximalRun (ds ++ c :: cs) (ds ++ c :: before) run rest where
  text := by rw [h.text, List.append_assoc, List.cons_append]
  ne_nil := h.ne_nil
  wordChars := h.wordChars
  left d hd := by
    rw [List.getLast?_append_cons] at hd
    cases before with
    | nil => exact Option.some.inj hd ▸ hc
    | cons e before => exact h.left d (by simpa using hd)
  right := h.right

/-- What is left of a maximal run of the text without the apostrophes at its two ends, if anything
is. -/
def Piece.IsTrimmedRun (w : Piece) (cs : List Char) : Prop :=
  ∃ before lead word tail rest, IsMaximalRun cs before (lead ++ word ++ tail) rest ∧
    (∀ c ∈ lead, isApostrophe c = true) ∧ (∀ c ∈ tail, isApostrophe c = true) ∧
      Firm isApostrophe word ∧ w = Piece.after (before ++ lead) word

/-- A word is left of a maximal run, -/
theorem isTrimmedRun_of_mem {w : Piece} {cs : List Char} (h : w ∈ wordPieces cs) :
    w.IsTrimmedRun cs := by
  induction cs using run_induction generalizing w with
  | run run hrun =>
      rw [wordPieces_of_run hrun] at h
      rcases wordOfRun_cases run with
        ⟨-, hnone⟩ | ⟨lead, word, tail, rfl, hlead, hword, htail, hsome⟩
      · simp [hnone] at h
      · rw [hsome, Option.toList_some, List.mem_singleton, Piece.shift_zero] at h
        have hne : lead ++ word ++ tail ≠ [] := by simp [hword.ne_nil]
        exact ⟨[], lead, word, tail, [], ⟨by simp, hne, hrun, nofun, nofun⟩, hlead, htail, hword, h⟩
  | cut run c ds hc hrun hds =>
      rw [wordPieces_append_cons hc, List.mem_append, List.mem_map] at h
      rcases h with h | ⟨v, hv, rfl⟩
      · obtain ⟨before, lead, word, tail, rest, hmax, hw⟩ := hrun h
        exact ⟨before, lead, word, tail, _, hmax.append_right hc ds, hw⟩
      · obtain ⟨before, lead, word, tail, rest, hmax, hlead, htail, hword, rfl⟩ := hds hv
        refine ⟨run ++ c :: before, lead, word, tail, rest, hmax.append_left hc run, hlead, htail,
          hword, ?_⟩
        have hlength : byteLength run + c.utf8Size = byteLength (run ++ [c]) := by simp
        rw [hlength, Piece.shift_after]
        simp

theorem mem_wordPieces_append_right {w : Piece} {cs rest : List Char} (h : w ∈ wordPieces cs)
    (hrest : ∀ c, rest.head? = some c → isWordChar c = false) : w ∈ wordPieces (cs ++ rest) := by
  cases rest with
  | nil => rwa [List.append_nil]
  | cons c rest =>
      rw [wordPieces_append_cons (hrest c rfl)]
      exact List.mem_append_left _ h

theorem mem_wordPieces_append_left {w : Piece} {cs before : List Char} (h : w ∈ wordPieces cs)
    (hbefore : ∀ c, before.getLast? = some c → isWordChar c = false) :
    w.shift (byteLength before) ∈ wordPieces (before ++ cs) := by
  rcases List.eq_nil_or_concat' before with rfl | ⟨front, c, rfl⟩
  · exact h
  · have hc : isWordChar c = false := hbefore c (by simp)
    rw [List.append_assoc, List.singleton_append, wordPieces_append_cons hc, byteLength_append]
    exact List.mem_append_right _ (List.mem_map_of_mem h)

/-- and what is left of a maximal run is a word. -/
theorem mem_of_isTrimmedRun {w : Piece} {cs : List Char} (h : w.IsTrimmedRun cs) :
    w ∈ wordPieces cs := by
  obtain ⟨before, lead, word, tail, rest, hmax, hlead, htail, hword, rfl⟩ := h
  have hchars : ∀ c ∈ word, isWordChar c = true := fun c hc => hmax.wordChars c (by simp [hc])
  have hrun : Piece.after lead word ∈ wordPieces (lead ++ word ++ tail) := by
    rw [wordPieces_eq_singleton hlead hword hchars htail]
    exact List.mem_singleton_self _
  rw [hmax.text, ← Piece.shift_after]
  exact mem_wordPieces_append_left (mem_wordPieces_append_right hrun hmax.right) hmax.left

/-! ### Places in a text -/

theorem utf8Len_eq (cs : List Char) : String.utf8Len cs = byteLength cs := by
  induction cs with
  | nil => rfl
  | cons c cs ih => rw [String.utf8Len_cons, ih, byteLength_cons, Nat.add_comm]

/-- A place in a text that no character lies across. -/
def IsBoundary (s : String) (n : Nat) : Prop := String.Pos.Raw.IsValid s ⟨n⟩

theorem isBoundary_of_eq {s : String} {before rest : List Char} (h : s.toList = before ++ rest) :
    IsBoundary s (byteLength before) := by
  refine String.Pos.Raw.isValid_iff_exists_append.2 ⟨.ofList before, .ofList rest, ?_, ?_⟩
  · rw [← String.ofList_append, ← h, String.ofList_toList]
  · rw [String.rawEndPos_ofList, utf8Len_eq]

/-- What the text shows between the ends of a span. -/
def Span.textIn (t : Span) (s : String) : String :=
  String.Pos.Raw.extract s ⟨t.start⟩ ⟨t.stop⟩

/-- **A piece can be cut out of the text** by its bytes. -/
theorem Piece.IsIn.textIn_span {w : Piece} {s : String} (h : w.IsIn s.toList) :
    IsBoundary s w.span.start ∧ IsBoundary s w.span.stop ∧ w.span.textIn s = w.text := by
  obtain ⟨before, chars, rest, hs, rfl⟩ := h
  have hfront : s.toList = (before ++ chars) ++ rest := by rw [hs, List.append_assoc]
  refine ⟨isBoundary_of_eq hs, ?_, ?_⟩
  · rw [stop_after, ← byteLength_append]
    exact isBoundary_of_eq hfront
  · have hcut := String.extract_of_valid before chars rest
    rwa [← hfront, String.ofList_toList, utf8Len_eq, utf8Len_eq] at hcut

/-! ### One word for each letter -/

/-- Word characters that begin and end with a letter or digit lie within one word. -/
theorem exists_word {v : Piece} {cs : List Char} (hv : v.IsIn cs) (hletters : IsLettered v.chars)
    (hchars : ∀ c ∈ v.chars, isWordChar c = true) :
    ∃ w ∈ wordPieces cs, v.span.within w.span = true := by
  have hfirm : Firm isApostrophe v.chars := hletters.mono fun c _ hletter => by
    by_contra hc
    simp [isAlphanumeric_of_isApostrophe (Bool.of_not_eq_false hc)] at hletter
  induction cs using run_induction generalizing v with
  | run run hrun =>
      rw [wordPieces_of_run hrun]
      rcases wordOfRun_cases run with ⟨hall, -⟩ | ⟨lead, word, tail, rfl, hlead, -, htail, hsome⟩
      · obtain ⟨before, chars, rest, rfl, rfl⟩ := hv
        obtain ⟨c, ds, rfl, hc⟩ := hfirm.head
        simp [hall c (by simp)] at hc
      · rw [hsome]
        exact ⟨Piece.after lead word, by simp, hv.within_middle hfirm hlead htail⟩
  | cut run c ds hc hrun hds =>
      have hnone : c ∉ v.chars := fun hmem => by simp [hchars c hmem] at hc
      rw [wordPieces_append_cons hc]
      rcases hv.of_append_cons hnone with hv | ⟨u, hu, rfl⟩
      · obtain ⟨w, hw, hwithin⟩ := hrun hv hletters hchars hfirm
        exact ⟨w, List.mem_append_left _ hw, hwithin⟩
      · obtain ⟨w, hw, hwithin⟩ := hds hu hletters hchars hfirm
        refine ⟨_, List.mem_append_right _ (List.mem_map_of_mem hw), ?_⟩
        have hlength : byteLength run + c.utf8Size = byteLength (run ++ [c]) := by simp
        rw [hlength, Piece.span_shift, Piece.span_shift, Span.within_shift]
        exact hwithin

/-! ### All words -/

/-- A text and its words. -/
structure IsCutInto (s : String) (ws : List Piece) : Prop where
  /-- Words are what is left of the maximal runs. -/
  runs : ∀ w, w ∈ ws ↔ w.IsTrimmedRun s.toList
  /-- Words stand in the order of the text, with something between them. -/
  ordered : ws.Pairwise fun v w => v.span.stop < w.span.start
  nonempty : ∀ w ∈ ws, w.span.start < w.span.stop
  /-- A word is what the text shows at its place. -/
  shown : ∀ w ∈ ws,
    IsBoundary s w.span.start ∧ IsBoundary s w.span.stop ∧ w.span.textIn s = w.text
  lettered : ∀ w ∈ ws, IsLettered w.chars
  /-- Each letter and digit is in one word. -/
  covered : ∀ before c rest, s.toList = before ++ c :: rest → isAlphanumeric c = true →
    ∃! w, w ∈ ws ∧ (Piece.after before [c]).span.within w.span = true

/-- **A text is cut into its words.** -/
theorem isCutInto_words (s : String) : IsCutInto s (words s) where
  runs _ := ⟨isTrimmedRun_of_mem, mem_of_isTrimmedRun⟩
  ordered := pairwise_wordPieces s.toList
  nonempty _ hw := (isWord_of_mem hw).start_lt
  shown _ hw := (isWord_of_mem hw).isIn.textIn_span
  lettered _ hw := (isWord_of_mem hw).isLettered
  covered before c rest hs hc := by
    have hin : (Piece.after before [c]).IsIn s.toList := ⟨before, [c], rest, hs, rfl⟩
    have hletter : IsLettered [c] := ⟨⟨c, [], rfl, by simp [hc]⟩, ⟨[], c, rfl, by simp [hc]⟩⟩
    obtain ⟨w, hw, hwithin⟩ := exists_word hin hletter
      (List.forall_mem_singleton.2 (isWordChar_of_isAlphanumeric hc))
    refine ⟨w, ⟨hw, hwithin⟩, fun v hv => ?_⟩
    have hordered := (pairwise_wordPieces s.toList).imp Nat.le_of_lt
    exact Piece.eq_of_within hordered (hin.start_lt (List.cons_ne_nil c [])) hv.1 hw hv.2 hwithin

example : (words "'Don’t' -- ''").map (fun w => (w.text, w.span)) = [("Don’t", ⟨1, 8⟩)] := by
  decide +kernel

end GradedReading.Text
