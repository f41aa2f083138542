import GradedReading.Text.Sentences
import GradedReading.Text.Words
import Mathlib.Data.List.Basic
import Mathlib.Data.List.Infix
import Mathlib.Data.List.Pairwise
import Mathlib.Data.List.TakeWhile

/-!
# GradedReading.Proofs.Text.Place

Where a piece stands in its text, and what trimming leaves of a stretch.

Words and sentences are found in one way: a text is cut into stretches at the characters of one
class, and each stretch loses the characters of another class at both ends. This module holds what
the two have in common:

* the classes of characters that must not meet (`isAlphanumeric_of_isBlank` and others);
* what trimming leaves of a stretch is the one part of it that begins and ends outside the class,
  with nothing but the class around it (`exists_middle`, `trimBoth_eq`);
* a piece is what the text shows at its place (`Piece.IsIn`), so that it is cut at character
  boundaries;
* induction along the stretches of a text (`stretch_induction`).
-/

namespace GradedReading.Text

/-! ### Classes of characters -/

/-- The code points of blanks. -/
def blankPoints : List Nat :=
  List.range' 9 5 ++ [0x20, 0x85, 0xa0, 0x1680] ++ List.range' 0x2000 11 ++
    [0x2028, 0x2029, 0x202f, 0x205f, 0x3000]

theorem mem_blankPoints {c : Char} (h : isBlank c = true) : c.toNat ∈ blankPoints := by
  simp only [isBlank, Bool.or_eq_true, Bool.and_eq_true, decide_eq_true_eq, beq_iff_eq] at h
  simp only [blankPoints, List.mem_append, List.mem_range'_1, List.mem_cons, List.not_mem_nil,
    or_false]
  omega

theorem isAlphanumeric_of_isBlank {c : Char} (h : isBlank c = true) : isAlphanumeric c = false := by
  have hpoints : ∀ n ∈ blankPoints, isAlphanumeric (Char.ofNat n) = false := by decide +kernel
  simpa using hpoints c.toNat (mem_blankPoints h)

theorem isApostrophe_of_isBlank {c : Char} (h : isBlank c = true) : isApostrophe c = false := by
  have hpoints : ∀ n ∈ blankPoints, isApostrophe (Char.ofNat n) = false := by decide
  simpa using hpoints c.toNat (mem_blankPoints h)

theorem isWordChar_of_isBlank {c : Char} (h : isBlank c = true) : isWordChar c = false := by
  rw [isWordChar, isAlphanumeric_of_isBlank h, isApostrophe_of_isBlank h, Bool.or_self]

theorem isApostrophe_iff {c : Char} : isApostrophe c = true ↔ c = '\'' ∨ c = '\u2019' := by
  simp [isApostrophe]

theorem isAlphanumeric_of_isApostrophe {c : Char} (h : isApostrophe c = true) :
    isAlphanumeric c = false := by
  rcases isApostrophe_iff.1 h with rfl | rfl <;> decide +kernel

theorem isWordChar_of_isAlphanumeric {c : Char} (h : isAlphanumeric c = true) :
    isWordChar c = true := by
  rw [isWordChar, h, Bool.true_or]

/-- A word character that is no apostrophe is a letter or digit. -/
theorem isAlphanumeric_of_isWordChar {c : Char} (h : isWordChar c = true)
    (hc : isApostrophe c = false) : isAlphanumeric c = true := by
  rwa [isWordChar, hc, Bool.or_false] at h

theorem closesSentence_iff {c : Char} :
    closesSentence c = true ↔ c ∈ ['.', '!', '?', '\u061f', '\n'] := by
  simp [closesSentence, isTerminator, or_assoc]

theorem isWordChar_of_closesSentence {c : Char} (h : closesSentence c = true) :
    isWordChar c = false := by
  have hall : ['.', '!', '?', '\u061f', '\n'].all (fun d => !isWordChar d) = true := by
    decide +kernel
  simpa using List.all_eq_true.1 hall c (closesSentence_iff.1 h)

/-! ### Lengths in bytes -/

theorem byteLength_pos {cs : List Char} (h : cs ≠ []) : 0 < byteLength cs := by
  cases cs with
  | nil => exact absurd rfl h
  | cons c cs =>
      rw [byteLength_cons]
      exact Nat.add_pos_left c.utf8Size_pos _

theorem byteLength_reverse (cs : List Char) : byteLength cs.reverse = byteLength cs := by
  induction cs with
  | nil => rfl
  | cons c cs ih => simp [ih, Nat.add_comm]

/-- Of two beginnings of a text the shorter one is a beginning of the other one. -/
theorem prefix_of_byteLength_le {as bs cs : List Char} (ha : as <+: cs) (hb : bs <+: cs)
    (h : byteLength as ≤ byteLength bs) : as <+: bs := by
  rcases List.prefix_or_prefix_of_prefix ha hb with hab | ⟨ds, rfl⟩
  · exact hab
  · have hds : ds = [] := by
      by_contra hne
      have := byteLength_pos hne
      rw [byteLength_append] at h
      omega
    rw [hds, List.append_nil]

/-! ### What trimming leaves -/

/-- A stretch of text that begins and ends outside a class of characters. -/
structure Firm (p : Char → Bool) (cs : List Char) : Prop where
  head : ∃ c ds, cs = c :: ds ∧ p c = false
  last : ∃ ds c, cs = ds ++ [c] ∧ p c = false

theorem Firm.ne_nil {p : Char → Bool} {cs : List Char} (h : Firm p cs) : cs ≠ [] := by
  obtain ⟨c, ds, rfl, -⟩ := h.head
  exact List.cons_ne_nil c ds

theorem Firm.mono {p q : Char → Bool} {cs : List Char} (h : Firm p cs)
    (hpq : ∀ c ∈ cs, p c = false → q c = false) : Firm q cs where
  head := by
    obtain ⟨c, ds, rfl, hc⟩ := h.head
    exact ⟨c, ds, rfl, hpq c (by simp) hc⟩
  last := by
    obtain ⟨ds, c, rfl, hc⟩ := h.last
    exact ⟨ds, c, rfl, hpq c (by simp) hc⟩

theorem Firm.of_prefix_suffix {p : Char → Bool} {cs ds es : List Char} (hcs : Firm p cs)
    (hds : Firm p ds) (hfront : cs <+: es) (hback : ds <:+ es) : Firm p es where
  head := by
    obtain ⟨rest, rfl⟩ := hfront
    obtain ⟨c, cs, rfl, hc⟩ := hcs.head
    exact ⟨c, cs ++ rest, rfl, hc⟩
  last := by
    obtain ⟨rest, rfl⟩ := hback
    obtain ⟨ds, c, rfl, hc⟩ := hds.last
    exact ⟨rest ++ ds, c, by simp, hc⟩

theorem Firm.reverse {p : Char → Bool} {cs : List Char} (h : Firm p cs) : Firm p cs.reverse where
  head := by
    obtain ⟨ds, c, rfl, hc⟩ := h.last
    exact ⟨c, ds.reverse, List.reverse_concat, hc⟩
  last := by
    obtain ⟨c, ds, rfl, hc⟩ := h.head
    exact ⟨ds.reverse, c, List.reverse_cons, hc⟩

/-- Characters of the class at the front of a text come before all that begins outside it. -/
theorem byteLength_le_of_firm {p : Char → Bool} {lead rest before middle after : List Char}
    (hlead : ∀ c ∈ lead, p c = true) (hmiddle : Firm p middle)
    (h : lead ++ rest = before ++ (middle ++ after)) : byteLength lead ≤ byteLength before := by
  rcases List.append_eq_append_iff.1 h with ⟨x, rfl, -⟩ | ⟨x, rfl, hx⟩
  · simp
  · obtain ⟨c, ds, rfl, hc⟩ := hmiddle.head
    cases x with
    | nil => simp
    | cons d x =>
        obtain rfl : c = d := by simpa using (List.cons.inj hx).1
        simp [hlead c (by simp)] at hc

theorem trimEnd_append_of_all {p : Char → Bool} (cs : List Char) {tail : List Char}
    (h : ∀ c ∈ tail, p c = true) : trimEnd p (cs ++ tail) = trimEnd p cs := by
  rw [trimEnd, trimEnd, List.reverse_append,
    List.dropWhile_append_of_pos fun c hc => h c (List.mem_reverse.1 hc)]

/-- **Trimming finds the middle** of a stretch that has one. -/
theorem trimBoth_eq {p : Char → Bool} {lead middle tail : List Char}
    (hlead : ∀ c ∈ lead, p c = true) (hmiddle : Firm p middle) (htail : ∀ c ∈ tail, p c = true) :
    trimBoth p (lead ++ middle ++ tail) = middle := by
  have hstart : trimStart p (lead ++ middle ++ tail) = middle ++ tail := by
    obtain ⟨c, ds, rfl, hc⟩ := hmiddle.head
    rw [trimStart, List.append_assoc, List.dropWhile_append_of_pos hlead, List.cons_append,
      List.dropWhile_cons_of_neg (by simp [hc])]
  have hend : trimEnd p middle = middle := by
    obtain ⟨ds, c, rfl, hc⟩ := hmiddle.last
    rw [trimEnd, List.reverse_concat, List.dropWhile_cons_of_neg (by simp [hc]), List.reverse_cons,
      List.reverse_reverse]
  rw [trimBoth, hstart, trimEnd_append_of_all _ htail, hend]

theorem takeWhile_eq {p : Char → Bool} {lead middle tail : List Char}
    (hlead : ∀ c ∈ lead, p c = true) (hmiddle : Firm p middle) :
    (lead ++ middle ++ tail).takeWhile p = lead := by
  obtain ⟨c, ds, rfl, hc⟩ := hmiddle.head
  rw [List.append_assoc, List.takeWhile_append_of_pos hlead, List.cons_append,
    List.takeWhile_cons_of_neg (by simp [hc]), List.append_nil]

/-- A stretch with a character outside the class has a middle. -/
theorem exists_middle {p : Char → Bool} {cs : List Char} (h : ∃ c ∈ cs, p c = false) :
    ∃ lead middle tail, cs = lead ++ middle ++ tail ∧ (∀ c ∈ lead, p c = true) ∧ Firm p middle ∧
      ∀ c ∈ tail, p c = true := by
  induction cs with
  | nil => simp at h
  | cons c cs ih =>
      cases hc : p c with
      | true =>
          have hcs : ∃ d ∈ cs, p d = false := by simpa [hc] using h
          obtain ⟨lead, middle, tail, rfl, hlead, hmiddle, htail⟩ := ih hcs
          exact ⟨c :: lead, middle, tail, rfl, List.forall_mem_cons.2 ⟨hc, hlead⟩, hmiddle, htail⟩
      | false =>
          by_cases hcs : ∃ d ∈ cs, p d = false
          · -- the middle begins here instead of further on
            obtain ⟨lead, middle, tail, rfl, -, hmiddle, htail⟩ := ih hcs
            obtain ⟨ds, d, rfl, hd⟩ := hmiddle.last
            exact ⟨[], c :: (lead ++ (ds ++ [d])), tail, rfl, by simp,
              ⟨⟨c, _, rfl, hc⟩, ⟨c :: (lead ++ ds), d, by simp, hd⟩⟩, htail⟩
          · exact ⟨[], [c], cs, rfl, by simp, ⟨⟨c, [], rfl, hc⟩, ⟨[], c, rfl, hc⟩⟩,
              fun d hd => by simpa using fun h => hcs ⟨d, hd, h⟩⟩

theorem trimBoth_map {p : Char → Bool} {f : Char → Char} (h : ∀ c, p (f c) = p c)
    (cs : List Char) : trimBoth p (cs.map f) = (trimBoth p cs).map f := by
  have hp : p ∘ f = p := funext h
  rw [trimBoth, trimStart, List.dropWhile_map, hp, trimEnd, ← List.map_reverse, List.dropWhile_map,
    hp, ← List.map_reverse, trimBoth, trimStart, trimEnd]

theorem trimBoth_eq_nil {p : Char → Bool} {cs : List Char} (h : ∀ c ∈ cs, p c = true) :
    trimBoth p cs = [] := by
  rw [trimBoth, trimStart, List.dropWhile_eq_nil_iff.2 h, trimEnd_nil]

/-! ### Spans and pieces -/

theorem Span.within_iff {inner outer : Span} :
    inner.within outer = true ↔ outer.start ≤ inner.start ∧ inner.stop ≤ outer.stop := by
  simp [Span.within]

theorem Span.within_shift (n : Nat) (s t : Span) : (s.shift n).within (t.shift n) = s.within t := by
  rw [Bool.eq_iff_iff, Span.within_iff, Span.within_iff]
  simp [Span.shift]

/-- A span with a byte does not lie within one that ends before it or begins after it. -/
theorem Span.not_within_of_apart {s t : Span} (hs : s.start < s.stop)
    (h : s.stop ≤ t.start ∨ t.stop ≤ s.start) : s.within t = false := by
  by_contra hwithin
  obtain ⟨hstart, hstop⟩ := Span.within_iff.1 (Bool.of_not_eq_false hwithin)
  omega

namespace Piece

/-- The piece `n` bytes further to the right. -/
def shift (n : Nat) (w : Piece) : Piece := ⟨w.span.shift n, w.chars⟩

@[simp] theorem span_shift (n : Nat) (w : Piece) : (w.shift n).span = w.span.shift n := rfl

@[simp] theorem chars_shift (n : Nat) (w : Piece) : (w.shift n).chars = w.chars := rfl

@[simp] theorem shift_zero (w : Piece) : w.shift 0 = w := rfl

theorem shift_shift (m n : Nat) (w : Piece) : (w.shift m).shift n = w.shift (m + n) := by
  rw [shift, shift, shift, Span.shift_shift]

theorem shift_byteLength_append (cs ds : List Char) :
    shift (byteLength (cs ++ ds)) = shift (byteLength cs) ∘ shift (byteLength ds) := by
  funext w
  rw [Function.comp_apply, shift_shift, byteLength_append, Nat.add_comm]

/-- The piece of a text that comes after `before`. -/
def after (before chars : List Char) : Piece :=
  ⟨⟨byteLength before, byteLength before + byteLength chars⟩, chars⟩

@[simp] theorem start_after (before chars : List Char) :
    (after before chars).span.start = byteLength before := rfl

@[simp] theorem stop_after (before chars : List Char) :
    (after before chars).span.stop = byteLength before + byteLength chars := rfl

@[simp] theorem chars_after (before chars : List Char) : (after before chars).chars = chars := rfl

theorem shift_after (before chars ds : List Char) :
    (after before chars).shift (byteLength ds) = after (ds ++ before) chars := by
  simp only [after, shift, Span.shift, byteLength_append, Piece.mk.injEq, Span.mk.injEq, and_true]
  omega

/-- The piece is what the text shows at its place. -/
def IsIn (w : Piece) (cs : List Char) : Prop :=
  ∃ before chars rest, cs = before ++ (chars ++ rest) ∧ w = after before chars

theorem isIn_after (before chars rest : List Char) :
    (after before chars).IsIn (before ++ (chars ++ rest)) := ⟨before, chars, rest, rfl, rfl⟩

theorem IsIn.append_left {w : Piece} {cs : List Char} (h : w.IsIn cs) (ds : List Char) :
    (w.shift (byteLength ds)).IsIn (ds ++ cs) := by
  obtain ⟨before, chars, rest, rfl, rfl⟩ := h
  rw [shift_after, ← List.append_assoc]
  exact isIn_after ..

theorem IsIn.append_right {w : Piece} {cs : List Char} (h : w.IsIn cs) (ds : List Char) :
    w.IsIn (cs ++ ds) := by
  obtain ⟨before, chars, rest, rfl, rfl⟩ := h
  rw [List.append_assoc, List.append_assoc]
  exact isIn_after ..

theorem IsIn.stop_le {w : Piece} {cs : List Char} (h : w.IsIn cs) :
    w.span.stop ≤ byteLength cs := by
  obtain ⟨before, chars, rest, rfl, rfl⟩ := h
  simp only [stop_after, byteLength_append]
  omega

theorem IsIn.start_lt {w : Piece} {cs : List Char} (h : w.IsIn cs) (hne : w.chars ≠ []) :
    w.span.start < w.span.stop := by
  obtain ⟨before, chars, rest, rfl, rfl⟩ := h
  exact Nat.lt_add_of_pos_right (byteLength_pos hne)

/-- A piece of a piece lies within it. -/
theorem IsIn.within {v w : Piece} {cs : List Char} (hw : w.IsIn cs) (hv : v.IsIn w.chars) :
    (v.shift w.span.start).span.within w.span = true := by
  obtain ⟨before, chars, rest, -, rfl⟩ := hw
  have hstop := hv.stop_le
  rw [chars_after] at hstop
  refine Span.within_iff.2 ⟨Nat.le_add_left .., ?_⟩
  simp only [span_shift, start_after, stop_after, Span.shift]
  omega

/-- What is left of a text without the characters of a class at both ends holds every piece that
begins and ends outside the class. -/
theorem IsIn.within_middle {p : Char → Bool} {v : Piece} {lead middle tail : List Char}
    (hv : v.IsIn (lead ++ middle ++ tail)) (hfirm : Firm p v.chars)
    (hlead : ∀ c ∈ lead, p c = true) (htail : ∀ c ∈ tail, p c = true) :
    v.span.within (after lead middle).span = true := by
  obtain ⟨before, chars, rest, heq, rfl⟩ := hv
  refine Span.within_iff.2 ⟨?_, ?_⟩
  · rw [List.append_assoc] at heq
    exact byteLength_le_of_firm hlead hfirm heq
  · have hreverse := congrArg List.reverse heq
    simp only [List.reverse_append] at hreverse
    have htail : byteLength tail.reverse ≤ byteLength rest.reverse :=
      byteLength_le_of_firm (by simpa using htail) hfirm.reverse (by simpa using hreverse)
    have hlength := congrArg byteLength heq
    simp only [byteLength_append, byteLength_reverse] at hlength htail
    simp only [stop_after]
    omega

/-- Two of some pieces that follow one another are one if they have a byte in common. -/
theorem eq_of_within {ps : List Piece} (hps : ps.Pairwise fun s t => s.span.stop ≤ t.span.start)
    {v : Span} (hv : v.start < v.stop) {s t : Piece} (hs : s ∈ ps) (ht : t ∈ ps)
    (hvs : v.within s.span = true) (hvt : v.within t.span = true) : s = t := by
  let apart (s t : Piece) : Prop := s.span.stop ≤ t.span.start ∨ t.span.stop ≤ s.span.start
  have : Std.Symm apart := ⟨fun _ _ => Or.symm⟩
  by_contra hne
  have happart : apart s t := (hps.imp (S := apart) Or.inl).forall hs ht hne
  obtain ⟨hs₁, hs₂⟩ := Span.within_iff.1 hvs
  obtain ⟨ht₁, ht₂⟩ := Span.within_iff.1 hvt
  rcases happart with h | h <;> omega

/-- A piece without a certain character comes before it or after it. -/
theorem IsIn.of_append_cons {w : Piece} {cs ds : List Char} {c : Char}
    (h : w.IsIn (cs ++ c :: ds)) (hc : c ∉ w.chars) :
    w.IsIn cs ∨ ∃ v : Piece, v.IsIn ds ∧ w = v.shift (byteLength (cs ++ [c])) := by
  obtain ⟨before, chars, rest, heq, rfl⟩ := h
  rw [chars_after] at hc
  rcases List.append_eq_append_iff.1 heq with ⟨x, rfl, hx⟩ | ⟨x, rfl, hx⟩
  · cases x with
    | nil =>
        cases chars with
        | nil => exact .inl (by simpa using isIn_after cs [] [])
        | cons d chars => exact absurd (List.cons.inj hx).1 fun h => hc (by simp [h])
    | cons d x =>
        obtain ⟨rfl, rfl⟩ := List.cons.inj hx
        exact .inr ⟨after x chars, isIn_after .., by rw [shift_after]; simp⟩
  · refine .inl ?_
    rcases List.append_eq_append_iff.1 hx with ⟨y, rfl, -⟩ | ⟨y, rfl, hy⟩
    · exact isIn_after ..
    · cases y with
      | nil => simpa using isIn_after before x []
      | cons d y => exact absurd (List.cons.inj hy).1 fun h => hc (by simp [h])

/-- A piece inside another one shows a part of its characters. -/
theorem IsIn.chars_within {v w : Piece} {cs : List Char} (hv : v.IsIn cs) (hw : w.IsIn cs)
    (h : v.span.within w.span = true) : v.chars <:+: w.chars := by
  obtain ⟨before, chars, rest, hcs, rfl⟩ := hv
  obtain ⟨before', chars', rest', hcs', rfl⟩ := hw
  obtain ⟨hstart, hstop⟩ := Span.within_iff.1 h
  obtain ⟨lead, rfl⟩ := prefix_of_byteLength_le ⟨_, hcs'.symm⟩ ⟨_, hcs.symm⟩ hstart
  have hfront : before' ++ (lead ++ chars) <+: before' ++ chars' := by
    refine prefix_of_byteLength_le (show _ <+: cs from ⟨rest, ?_⟩) ⟨rest', ?_⟩ ?_
    · simp [hcs]
    · simp [hcs']
    · simpa only [stop_after, byteLength_append, Nat.add_assoc] using hstop
  obtain ⟨tail, htail⟩ := (List.prefix_append_right_inj _).1 hfront
  exact ⟨lead, tail, htail⟩

/-- The text from one piece to a later one is a piece as well, which begins like the one and ends
like the other. -/
theorem IsIn.exists_cover {v w : Piece} {cs : List Char} (hv : v.IsIn cs) (hw : w.IsIn cs)
    (h : v.span.stop ≤ w.span.start) :
    ∃ u : Piece, u.IsIn cs ∧ u.span = v.span.cover w.span ∧ v.chars <+: u.chars ∧
      w.chars <:+ u.chars := by
  obtain ⟨before, chars, rest, hcs, rfl⟩ := hv
  obtain ⟨before', chars', rest', hcs', rfl⟩ := hw
  have hfront : before ++ chars <+: before' := by
    refine prefix_of_byteLength_le (show _ <+: cs from ⟨rest, ?_⟩) ⟨_, hcs'.symm⟩ ?_
    · simp [hcs]
    · simpa only [byteLength_append, stop_after, start_after] using h
  obtain ⟨between, rfl⟩ := hfront
  refine ⟨after before (chars ++ between ++ chars'), ⟨before, _, rest', ?_, rfl⟩, ?_, ?_, ?_⟩
  · simp [hcs']
  · simp only [after, Span.cover, byteLength_append, Span.mk.injEq, true_and]
    omega
  · exact ⟨between ++ chars', by simp⟩
  · exact ⟨chars ++ between, by simp⟩

end Piece

/-! ### Texts that are cut twice -/

/-- Of two cuts of a list one comes before the other. -/
theorem append_eq_append_cons {α : Type} {as bs cs ds : List α} {a : α}
    (h : as ++ bs = cs ++ a :: ds) :
    (∃ es, as = cs ++ a :: es ∧ ds = es ++ bs) ∨ ∃ es, cs = as ++ es ∧ bs = es ++ a :: ds := by
  rcases List.append_eq_append_iff.1 h with ⟨es, hcs, hbs⟩ | ⟨es, has, hes⟩
  · exact .inr ⟨es, hcs, hbs⟩
  · cases es with
    | nil => exact .inr ⟨[], by rw [has, List.append_nil, List.append_nil], hes.symm⟩
    | cons e es =>
        obtain ⟨rfl, rfl⟩ := List.cons.inj hes
        exact .inl ⟨es, has, rfl⟩

/-! ### Induction along a text -/

/-- To prove something of all texts, prove it of the stretches without a character of a class, and
that such a stretch, a character of the class and a text with the property make another one. -/
theorem stretch_induction (p : Char → Bool) {motive : List Char → Prop}
    (stretch : ∀ cs, (∀ c ∈ cs, p c = false) → motive cs)
    (cut : ∀ cs c ds, (∀ c ∈ cs, p c = false) → p c = true → motive cs → motive ds →
      motive (cs ++ c :: ds))
    (cs : List Char) : motive cs := by
  suffices h : ∀ cs before, (∀ c ∈ before, p c = false) → motive (before ++ cs) by
    simpa using h cs [] (by simp)
  intro cs
  induction cs with
  | nil => intro before hbefore; simpa using stretch before hbefore
  | cons c cs ih =>
      intro before hbefore
      cases hc : p c with
      | true => exact cut before c cs hbefore hc (stretch before hbefore) (by simpa using ih [])
      | false =>
          have hlonger : ∀ d ∈ before ++ [c], p d = false := by
            simpa [or_imp, forall_and] using ⟨hbefore, hc⟩
          simpa using ih (before ++ [c]) hlonger

end GradedReading.Text
