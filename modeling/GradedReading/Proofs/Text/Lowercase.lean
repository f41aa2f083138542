import GradedReading.Proofs.Text.Alike
import GradedReading.Proofs.Text.CodePoints
import GradedReading.Text.Lowercase

/-!
# GradedReading.Proofs.Text.Lowercase

Lowercase forms.

**Key idea:** all about the table of lowercase forms is checked on its rows, not on the code points
that they stand for, and gives one statement about characters: a character is in lowercase, or both
it and its lowercase form are letters (`lowerChar_cases`). The exception is the dotted capital `İ`,
whose lowercase form is a letter and a mark. Lowercase forms are therefore in lowercase
(`isLower_of_mem_lowerFrom`), and but for `İ` the words of a text in lowercase stand where those of
the text stand (`forall₂_lowerWithin`).

What a text becomes depends on the text around it only through a capital sigma, so that the form
*between other text* (`lowerWithin`) is the one to speak about.
-/

namespace GradedReading.Text

/-! ### The table -/

/-- The code points of a row of the table. -/
def rowPoints (r : Nat × Nat × Nat × Int) : List Nat :=
  List.range' r.1 ((r.2.1 - r.1) / r.2.2.1 + 1) r.2.2.1

/-- The code point that a row makes of `n`. -/
def rowTarget (r : Nat × Nat × Nat × Int) (n : Nat) : Nat := ((n : Int) + r.2.2.2).toNat

theorem mem_rowPoints {r : Nat × Nat × Nat × Int} {n : Nat} (hfirst : r.1 ≤ n) (hlast : n ≤ r.2.1)
    (hstride : (n - r.1) % r.2.2.1 = 0) : n ∈ rowPoints r := by
  refine List.mem_range'.2 ⟨(n - r.1) / r.2.2.1, ?_, ?_⟩
  · exact Nat.lt_succ_of_le (Nat.div_le_div_right (Nat.sub_le_sub_right hlast r.1))
  · rw [Nat.mul_div_cancel' (Nat.dvd_of_mod_eq_zero hstride)]
    omega

theorem first_le_of_lowercaseRowRank {c fuel lo hi k : Nat}
    (hlo : ∀ j, lo = j + 1 → (lowercaseRows.getD j (0, 0, 1, 0)).1 ≤ c)
    (h : lowercaseRowRank c fuel lo hi = k + 1) :
    (lowercaseRows.getD k (0, 0, 1, 0)).1 ≤ c := by
  induction fuel generalizing lo hi with
  | zero => exact hlo k h
  | succ fuel ih =>
      rw [lowercaseRowRank] at h
      split at h
      · dsimp only at h
        split at h
        · next hmid =>
          exact ih (fun j hj => (Nat.succ.inj hj) ▸ hmid) h
        · exact ih hlo h
      · exact hlo k h

/-- A code point moves as one row of the table says, if it moves. -/
theorem lowercasePoint_cases (n : Nat) :
    lowercasePoint n = n ∨
      ∃ r ∈ lowercaseRows.toList, n ∈ rowPoints r ∧ lowercasePoint n = rowTarget r n := by
  unfold lowercasePoint
  split
  · exact .inl rfl
  · next k hk =>
    have hfirst := first_le_of_lowercaseRowRank (by omega) hk
    clear hk
    generalize lowercaseRows = rows at hfirst
    rw [Array.getD_eq_getD_getElem?] at hfirst ⊢
    cases hrow : rows[k]? with
    | none =>
        -- beyond the table is a row that moves nothing
        simp only [Option.getD_none, Int.add_zero, Int.toNat_natCast, ite_self, true_or]
    | some r =>
        obtain ⟨hk, rfl⟩ := Array.getElem?_eq_some_iff.1 hrow
        rw [hrow] at hfirst
        simp only [Option.getD_some] at hfirst ⊢
        split
        · next hmoves =>
          simp only [Bool.and_eq_true, decide_eq_true_eq, beq_iff_eq] at hmoves
          exact .inr ⟨_, Array.getElem_mem_toList hk,
            mem_rowPoints hfirst hmoves.1 hmoves.2, rfl⟩
        · exact .inl rfl

/-! ### Letters and their small forms -/

/-- The code points that move. -/
def movingPoints : List Nat := lowercaseRows.toList.flatMap rowPoints

/-- The code points to which they move. -/
def movedPoints : List Nat := lowercaseRows.toList.flatMap fun r => (rowPoints r).map (rowTarget r)

theorem mem_movingPoints {r : Nat × Nat × Nat × Int} (hr : r ∈ lowercaseRows.toList) {n : Nat}
    (hn : n ∈ rowPoints r) : n ∈ movingPoints := List.mem_flatMap.2 ⟨r, hr, hn⟩

theorem mem_movedPoints {r : Nat × Nat × Nat × Int} (hr : r ∈ lowercaseRows.toList) {n : Nat}
    (hn : n ∈ rowPoints r) : rowTarget r n ∈ movedPoints :=
  List.mem_flatMap.2 ⟨r, hr, List.mem_map_of_mem hn⟩

theorem lowercasePoint_of_not_mem {n : Nat} (h : n ∉ movingPoints) : lowercasePoint n = n :=
  (lowercasePoint_cases n).elim id fun ⟨_, hr, hn, _⟩ => absurd (mem_movingPoints hr hn) h

/-- **What moves and where it moves to are letters**, and what has moved does not move again. -/
theorem tables_agree :
    alphanumericPoints.Ascending ∧ alphanumericPoints.covers movingPoints = true ∧
      alphanumericPoints.covers movedPoints = true ∧
        CodePoints.apart movedPoints (0x130 :: movingPoints) = true ∧
          ∀ n ∈ movedPoints, n.isValidChar := by
  decide +kernel

/-- ASCII is decided without the tables, and in the same way. -/
theorem ascii_agrees : ∀ n < 128,
    isAsciiAlphanumeric (Char.ofNat n) = alphanumericPoints.contains n ∧
      (lowerChar (Char.ofNat n) = [Char.ofNat n] ∨
        isAlphanumeric (Char.ofNat n) = true ∧
          isAlphanumeric (lowerAscii (Char.ofNat n)) = true ∧
            lowerChar (lowerAscii (Char.ofNat n)) = [lowerAscii (Char.ofNat n)]) := by
  decide +kernel

/-- The characters that have rules of their own. -/
theorem special_letters :
    (isAlphanumeric 'İ' = true ∧ lowerChar 'İ' = ['i', '\u0307'] ∧ lowerChar 'i' = ['i'] ∧
        lowerChar '\u0307' = ['\u0307'] ∧ isWordChar '\u0307' = false) ∧
      isAlphanumeric 'Σ' = true ∧ isAlphanumeric 'ς' = true ∧ isAlphanumeric 'σ' = true ∧
        lowerChar 'Σ' ≠ ['Σ'] ∧ lowerChar 'ς' = ['ς'] ∧ lowerChar 'σ' = ['σ'] := by
  decide +kernel

theorem isAlphanumeric_eq_has (c : Char) : isAlphanumeric c = alphanumericPoints.has c := by
  rw [isAlphanumeric]
  split
  · next h => rw [← c.ofNat_toNat, (ascii_agrees c.toNat h).1, CodePoints.has, c.ofNat_toNat]
  · rfl

/-- A character that is its own lowercase form. -/
def IsLower (c : Char) : Prop := lowerChar c = [c]

theorem lowerAscii_of_not_mem {c : Char} (h : c.toNat ∉ movingPoints) : lowerAscii c = c := by
  rw [lowerAscii, if_neg]
  rintro ⟨hfirst, hlast⟩
  have hrow : (0x41, 0x5a, 1, 32) ∈ lowercaseRows.toList := List.mem_cons_self
  exact h (mem_movingPoints hrow (mem_rowPoints hfirst hlast (Nat.mod_one _)))

/-- What a row makes of its code points is in lowercase. -/
theorem isLower_of_mem_movedPoints {n : Nat} (h : n ∈ movedPoints) :
    (Char.ofNat n).toNat = n ∧ IsLower (Char.ofNat n) := by
  obtain ⟨-, -, -, hapart, hvalid⟩ := tables_agree
  have htoNat : (Char.ofNat n).toNat = n := by
    rw [Char.ofNat, dif_pos (hvalid n h)]
    rfl
  have hstays := CodePoints.not_mem_of_apart hapart h
  rw [List.mem_cons, not_or] at hstays
  refine ⟨htoNat, ?_⟩
  by_cases hascii : (Char.ofNat n).toNat < 128
  · rw [IsLower, lowerChar_ascii hascii, lowerAscii_of_not_mem (htoNat.symm ▸ hstays.2)]
  · have hdotted : Char.ofNat n ≠ 'İ' := fun heq => hstays.1 (by rw [← htoNat, heq]; rfl)
    rw [IsLower, lowerChar, if_neg hascii, if_neg hdotted, htoNat,
      lowercasePoint_of_not_mem hstays.2]

/-- **A character is in lowercase, or it is a letter and has one letter for its lowercase form.**
The one exception is `İ`. -/
theorem lowerChar_cases {c : Char} (hc : c ≠ 'İ') :
    IsLower c ∨ ∃ d, lowerChar c = [d] ∧ isAlphanumeric c = true ∧ isAlphanumeric d = true ∧
      IsLower d := by
  by_cases hascii : c.toNat < 128
  · have hcase := (ascii_agrees c.toNat hascii).2
    rw [c.ofNat_toNat] at hcase
    exact hcase.imp id fun h => ⟨lowerAscii c, lowerChar_ascii hascii, h⟩
  · have hlower : lowerChar c = [Char.ofNat (lowercasePoint c.toNat)] := by
      rw [lowerChar, if_neg hascii, if_neg hc]
    rcases lowercasePoint_cases c.toNat with hstays | ⟨r, hr, hn, hmoves⟩
    · rw [hstays, c.ofNat_toNat] at hlower
      exact .inl hlower
    · rw [hmoves] at hlower
      obtain ⟨hascending, hmoving, hmoved, -⟩ := tables_agree
      obtain ⟨htoNat, hsmall⟩ := isLower_of_mem_movedPoints (mem_movedPoints hr hn)
      refine .inr ⟨_, hlower, ?_, ?_, hsmall⟩
      · rw [isAlphanumeric_eq_has]
        exact CodePoints.contains_of_covers hascending hmoving (mem_movingPoints hr hn)
      · rw [isAlphanumeric_eq_has, CodePoints.has, htoNat]
        exact CodePoints.contains_of_covers hascending hmoved (mem_movedPoints hr hn)

/-- **Lowercase forms are in lowercase.** -/
theorem isLower_of_mem_lowerAt {before after : List Char} {c d : Char}
    (h : d ∈ lowerAt before c after) : IsLower d := by
  obtain ⟨⟨-, hdotted, hletter, hmark, -⟩, -, -, -, -, hfinal, hinner⟩ := special_letters
  rw [lowerAt] at h
  split at h
  · split at h <;> obtain rfl := List.mem_singleton.1 h
    · exact hfinal
    · exact hinner
  · by_cases hc : c = 'İ'
    · rw [hc, hdotted, List.mem_cons, List.mem_singleton] at h
      rcases h with rfl | rfl
      · exact hletter
      · exact hmark
    · rcases lowerChar_cases hc with hlower | ⟨e, hlower, -, -, he⟩
      · rw [hlower, List.mem_singleton] at h
        exact h ▸ hlower
      · rw [hlower, List.mem_singleton] at h
        exact h ▸ he

theorem isLower_of_mem_lowerFrom {before cs : List Char} {d : Char} (h : d ∈ lowerFrom before cs) :
    IsLower d := by
  induction cs generalizing before with
  | nil => exact absurd h List.not_mem_nil
  | cons c cs ih => exact (List.mem_append.1 h).elim isLower_of_mem_lowerAt ih

theorem IsLower.lowerAt {c : Char} (h : IsLower c) (before after : List Char) :
    lowerAt before c after = [c] := by
  have hsigma : c ≠ 'Σ' := by
    rintro rfl
    exact special_letters.2.2.2.2.1 h
  rw [Text.lowerAt, if_neg hsigma]
  exact h

/-- Text in lowercase stays as it is. -/
theorem lowerChars_of_isLower {cs : List Char} (h : ∀ c ∈ cs, IsLower c) : lowerChars cs = cs := by
  suffices hfrom : ∀ before, lowerFrom before cs = cs from hfrom []
  induction cs with
  | nil => exact fun _ => rfl
  | cons c cs ih =>
      obtain ⟨hc, hcs⟩ := List.forall_mem_cons.1 h
      intro before
      rw [lowerFrom, hc.lowerAt, ih hcs, List.singleton_append]

/-! ### Between other text -/

/-- The lowercase form that a text has between `before`, nearest first, and `after`. -/
def lowerWithin (before after : List Char) : List Char → List Char
  | [] => []
  | c :: cs => lowerAt before c (cs ++ after) ++ lowerWithin (c :: before) after cs

theorem lowerWithin_append (before after cs ds : List Char) :
    lowerWithin before after (cs ++ ds) =
      lowerWithin before (ds ++ after) cs ++ lowerWithin (cs.reverse ++ before) after ds := by
  induction cs generalizing before with
  | nil => rfl
  | cons c cs ih => simp [lowerWithin, ih]

theorem lowerWithin_nil_nil (cs : List Char) : lowerWithin [] [] cs = lowerChars cs := by
  suffices h : ∀ before, lowerWithin before [] cs = lowerFrom before cs from h []
  induction cs with
  | nil => exact fun _ => rfl
  | cons c cs ih => exact fun before => by rw [lowerWithin, ih, lowerFrom, List.append_nil]

/-- **But for `İ` lowercase forms are alike**, character by character. -/
theorem forall₂_lowerWithin {cs : List Char} (h : 'İ' ∉ cs) (before after : List Char) :
    List.Forall₂ Alike cs (lowerWithin before after cs) := by
  induction cs generalizing before with
  | nil => exact .nil
  | cons c cs ih =>
      rw [List.mem_cons, not_or] at h
      have halike : ∃ d, lowerAt before c (cs ++ after) = [d] ∧ Alike c d := by
        rw [lowerAt]
        split
        · next hsigma =>
          obtain ⟨-, hcapital, hfinal, hinner, -⟩ := special_letters
          refine ⟨_, rfl, hsigma ▸ Alike.of_isAlphanumeric hcapital ?_⟩
          split
          · exact hfinal
          · exact hinner
        · rcases lowerChar_cases (Ne.symm h.1) with hlower | ⟨d, hlower, hc, hd, -⟩
          · exact ⟨c, hlower, .refl c⟩
          · exact ⟨d, hlower, .of_isAlphanumeric hc hd⟩
      obtain ⟨d, hd, hcd⟩ := halike
      rw [lowerWithin, hd]
      exact .cons hcd (ih h.2 (c :: before))

/-! ### Texts changed character by character -/

/-- The change keeps what decides on the form of a sigma. -/
structure KeepsCasing (f : Char → Char) : Prop where
  cased : ∀ c, isCased (f c) = isCased c
  ignorable : ∀ c, isCaseIgnorable (f c) = isCaseIgnorable c
  sigma : ∀ c, f c = 'Σ' ↔ c = 'Σ'

theorem KeepsCasing.meetsCased {f : Char → Char} (hf : KeepsCasing f) (cs : List Char) :
    meetsCased (cs.map f) = meetsCased cs := by
  have hignorable : isCaseIgnorable ∘ f = isCaseIgnorable := by
    funext c
    rw [Function.comp_apply, hf.ignorable]
  rw [Text.meetsCased, List.dropWhile_map, hignorable, Text.meetsCased]
  cases cs.dropWhile isCaseIgnorable with
  | nil => rfl
  | cons c rest => exact hf.cased c

/-- **The lowercase form is changed like the lowercase forms of single characters.** -/
theorem KeepsCasing.lowerChars {f g : Char → Char} (hf : KeepsCasing f)
    (hg : ∀ c, lowerChar (f c) = (lowerChar c).map g) (hfinal : g 'ς' = 'ς') (hinner : g 'σ' = 'σ')
    (cs : List Char) : lowerChars (cs.map f) = (lowerChars cs).map g := by
  suffices h : ∀ before, lowerFrom (before.map f) (cs.map f) = (lowerFrom before cs).map g from h []
  induction cs with
  | nil => exact fun _ => rfl
  | cons c cs ih =>
      intro before
      have hchar : lowerAt (before.map f) (f c) (cs.map f) = (lowerAt before c cs).map g := by
        have hends : endsWord (before.map f) (cs.map f) = endsWord before cs := by
          rw [endsWord, hf.meetsCased, hf.meetsCased, endsWord]
        simp only [lowerAt, hf.sigma, hends]
        split
        · cases endsWord before cs
          · exact congrArg ([·]) hinner.symm
          · exact congrArg ([·]) hfinal.symm
        · exact hg c
      rw [List.map_cons, lowerFrom, lowerFrom, hchar, List.map_append, ← ih, List.map_cons]

/-! ### The case of ASCII letters -/

theorem apply_lowerAscii {α : Type} (f : Char → α)
    (h : ∀ n < 128, f (lowerAscii (Char.ofNat n)) = f (Char.ofNat n)) (c : Char) :
    f (lowerAscii c) = f c := by
  by_cases hascii : c.toNat < 128
  · simpa using h c.toNat hascii
  · have hlarge : ¬('A' ≤ c ∧ c ≤ 'Z') := fun hc => hascii (Nat.lt_of_le_of_lt hc.2 (by decide))
    rw [lowerAscii, if_neg hlarge]

/-- What the case of an ASCII letter does not count for. -/
theorem lowerAscii_keeps (c : Char) :
    (isWordChar (lowerAscii c) = isWordChar c ∧ isApostrophe (lowerAscii c) = isApostrophe c ∧
      isBlank (lowerAscii c) = isBlank c ∧ isCased (lowerAscii c) = isCased c ∧
        isCaseIgnorable (lowerAscii c) = isCaseIgnorable c ∧
          (lowerAscii c == 'Σ') = (c == 'Σ')) ∧
      (lowerAscii c).utf8Size = c.utf8Size ∧ lowerChar (lowerAscii c) = lowerChar c := by
  have hall := apply_lowerAscii (fun c => ([isWordChar c, isApostrophe c, isBlank c, isCased c,
    isCaseIgnorable c, c == 'Σ'], c.utf8Size, lowerChar c)) (by decide +kernel) c
  simpa only [Prod.mk.injEq, List.cons.injEq, and_true] using hall

theorem alike_lowerAscii (c : Char) : Alike c (lowerAscii c) where
  wordChar := (lowerAscii_keeps c).1.1
  apostrophe := (lowerAscii_keeps c).1.2.1

theorem isBlank_lowerAscii (c : Char) : isBlank (lowerAscii c) = isBlank c :=
  (lowerAscii_keeps c).1.2.2.1

theorem utf8Size_lowerAscii (c : Char) : (lowerAscii c).utf8Size = c.utf8Size :=
  (lowerAscii_keeps c).2.1

theorem keepsCasing_lowerAscii : KeepsCasing lowerAscii where
  cased c := (lowerAscii_keeps c).1.2.2.2.1
  ignorable c := (lowerAscii_keeps c).1.2.2.2.2.1
  sigma c := by rw [← beq_iff_eq, (lowerAscii_keeps c).1.2.2.2.2.2, beq_iff_eq]

/-- **The case of ASCII letters does not show in lowercase.** -/
theorem lowerChars_map_lowerAscii (cs : List Char) :
    lowerChars (cs.map lowerAscii) = lowerChars cs := by
  have hchar (c : Char) : lowerChar (lowerAscii c) = (lowerChar c).map id := by
    rw [List.map_id]
    exact (lowerAscii_keeps c).2.2
  rw [keepsCasing_lowerAscii.lowerChars hchar rfl rfl, List.map_id]

end GradedReading.Text
