import GradedReading.Proofs.Text.Lowercase
import GradedReading.Proofs.Text.Sentences

/-!
# GradedReading.Proofs.Text.Straight

Texts whose curly apostrophes are made straight.

**Key idea:** no class of characters tells the two apostrophes apart, and nothing but an apostrophe
becomes one in lowercase. So words, sentences and lowercase forms of the text are those it had, with
straight apostrophes in them (`chars_wordPieces_straight`, `chars_sentencePieces_straight`,
`lowerChars_straight`). Lengths in bytes are not: the curly apostrophe takes three.
-/

namespace GradedReading.Text

/-- The curly apostrophe becomes the straight one, any other character stays. -/
def straight (c : Char) : Char := if c = '\u2019' then '\'' else c

theorem straight_of_ne {c : Char} (h : c ≠ '\u2019') : straight c = c := if_neg h

/-- The text with straight apostrophes. -/
def straighten (s : String) : String := String.ofList (s.toList.map straight)

theorem toList_straighten (s : String) : (straighten s).toList = s.toList.map straight :=
  String.toList_ofList

/-- What does not tell the apostrophes apart does not see the change. -/
theorem apply_straight {α : Type} (f : Char → α) (h : f '\'' = f '\u2019') (c : Char) :
    f (straight c) = f c := by
  rw [straight]
  split
  · next hc => rw [hc, h]
  · rfl

theorem isAlphanumeric_straight (c : Char) : isAlphanumeric (straight c) = isAlphanumeric c := by
  refine apply_straight isAlphanumeric ?_ c
  rw [isAlphanumeric_of_isApostrophe (by decide), isAlphanumeric_of_isApostrophe (by decide)]

theorem isApostrophe_straight (c : Char) : isApostrophe (straight c) = isApostrophe c :=
  apply_straight isApostrophe (by decide) c

theorem isWordChar_straight (c : Char) : isWordChar (straight c) = isWordChar c := by
  rw [isWordChar, isAlphanumeric_straight, isApostrophe_straight, isWordChar]

theorem isBlank_straight (c : Char) : isBlank (straight c) = isBlank c :=
  apply_straight isBlank (by decide) c

theorem closesSentence_straight (c : Char) : closesSentence (straight c) = closesSentence c :=
  apply_straight closesSentence (by decide) c

/-! ### Words and sentences -/

theorem alike_straight (c : Char) : Alike c (straight c) :=
  ⟨isWordChar_straight c, isApostrophe_straight c⟩

/-- **Words keep their characters** but for the apostrophes. -/
theorem chars_wordPieces_straight (cs : List Char) :
    (wordPieces (cs.map straight)).map Piece.chars =
      (wordPieces cs).map fun w => w.chars.map straight :=
  chars_wordPieces_map alike_straight cs

/-- **Sentences keep their characters** but for the apostrophes. -/
theorem chars_sentencePieces_straight (cs : List Char) :
    (sentencePieces (cs.map straight)).map Piece.chars =
      (sentencePieces cs).map fun s => s.chars.map straight := by
  induction cs using sentence_induction with
  | stretch cs hcs =>
      have hcs' : IsStretch (cs.map straight) := by
        rw [IsStretch, ← List.map_dropLast, List.forall_mem_map]
        exact fun c hc => (closesSentence_straight c).trans (hcs c hc)
      have hletter : (fun c => isAlphanumeric (straight c)) = isAlphanumeric :=
        funext isAlphanumeric_straight
      rw [sentencePieces_of_isStretch hcs, sentencePieces_of_isStretch hcs', sentenceOfStretch,
        sentenceOfStretch, trimBoth_map isBlank_straight, List.any_map, Function.comp_def, hletter]
      split <;> rfl
  | append cs c ds hc hfirst hrest =>
      have hc' : closesSentence (straight c) = true := by rwa [closesSentence_straight]
      rw [List.map_append, List.map_singleton] at hfirst
      rw [List.map_append, List.map_append, List.map_singleton, sentencePieces_append hc,
        sentencePieces_append hc', List.map_append, List.map_append, hfirst, List.map_map,
        List.map_map]
      exact congrArg _ hrest

/-! ### Lowercase forms -/

/-- An apostrophe is in lowercase. -/
theorem isLower_of_isApostrophe {c : Char} (h : isApostrophe c = true) : IsLower c := by
  have hletter := isAlphanumeric_of_isApostrophe h
  have hdotted : c ≠ 'İ' := by
    rintro rfl
    exact absurd h (by decide)
  rcases lowerChar_cases hdotted with hlower | ⟨d, -, hc, -⟩
  · exact hlower
  · exact absurd hc (Bool.eq_false_iff.1 hletter)

theorem not_mem_lowerChar {c : Char} (hc : c ≠ '\u2019') : '\u2019' ∉ lowerChar c := by
  by_cases hdotted : c = 'İ'
  · rw [hdotted, special_letters.1.2.1]
    decide
  · rcases lowerChar_cases hdotted with hlower | ⟨d, hlower, -, hletter, -⟩
    · rw [hlower, List.mem_singleton]
      exact hc.symm
    · rw [hlower, List.mem_singleton]
      rintro rfl
      exact absurd hletter (Bool.eq_false_iff.1 (isAlphanumeric_of_isApostrophe (by decide)))

theorem map_straight_of_not_mem {cs : List Char} (h : '\u2019' ∉ cs) : cs.map straight = cs :=
  (List.map_congr_left fun _ hc => straight_of_ne fun heq => h (heq ▸ hc)).trans (List.map_id cs)

theorem lowerChar_straight (c : Char) : lowerChar (straight c) = (lowerChar c).map straight := by
  by_cases hc : c = '\u2019'
  · subst hc
    have hcurly : lowerChar '\u2019' = ['\u2019'] := isLower_of_isApostrophe (by decide)
    have hstraight : lowerChar '\'' = ['\''] := isLower_of_isApostrophe (by decide)
    rw [hcurly]
    exact hstraight
  · rw [straight_of_ne hc, map_straight_of_not_mem (not_mem_lowerChar hc)]

theorem keepsCasing_straight : KeepsCasing straight where
  cased := apply_straight isCased (by decide +kernel)
  ignorable := apply_straight isCaseIgnorable (by decide +kernel)
  sigma c := by
    rw [straight]
    split
    · next hc => simp [hc]
    · rfl

/-- **Lowercase forms keep their characters** but for the apostrophes. -/
theorem lowerChars_straight (cs : List Char) :
    lowerChars (cs.map straight) = (lowerChars cs).map straight :=
  keepsCasing_straight.lowerChars lowerChar_straight (by decide) (by decide) cs

theorem lowerAt_ne_nil (before after : List Char) (c : Char) : lowerAt before c after ≠ [] := by
  simp only [lowerAt, lowerChar]
  split_ifs <;> exact List.cons_ne_nil _ _

/-- A word in lowercase does not begin with a curly apostrophe if the word does not. -/
theorem head?_lowerChars_ne {cs : List Char} (h : cs.head? ≠ some '\u2019') :
    (lowerChars cs).head? ≠ some '\u2019' := by
  cases cs with
  | nil => exact h
  | cons c cs =>
      have hc : c ≠ '\u2019' := fun heq => h (congrArg some heq)
      have hcurly : '\u2019' ∉ lowerAt [] c cs := by
        rw [lowerAt]
        split
        · exact fun hmem => by split at hmem <;> simp at hmem
        · exact not_mem_lowerChar hc
      obtain ⟨d, ds, hlower⟩ := List.exists_cons_of_ne_nil (lowerAt_ne_nil [] cs c)
      intro hhead
      rw [lowerChars, lowerFrom, hlower, List.cons_append, List.head?_cons,
        Option.some.injEq] at hhead
      exact hcurly (by simp [hlower, hhead])

/-! ### Endings and sizes -/

theorem straight_eq_iff {c d : Char} (hd : isApostrophe d = false) : straight c = d ↔ c = d := by
  constructor
  · rintro rfl
    rw [isApostrophe_straight] at hd
    refine (straight_of_ne ?_).symm
    rintro rfl
    exact absurd hd (by decide)
  · rintro rfl
    refine straight_of_ne ?_
    rintro rfl
    exact absurd hd (by decide)

theorem map_straight_eq_iff {cs ds : List Char} (h : ds.any isApostrophe = false) :
    cs.map straight = ds ↔ cs = ds := by
  induction ds generalizing cs with
  | nil => exact List.map_eq_nil_iff
  | cons d ds ih =>
      rw [List.any_cons, Bool.or_eq_false_iff] at h
      cases cs with
      | nil => simp
      | cons c cs =>
          rw [List.map_cons, List.cons.injEq, List.cons.injEq, straight_eq_iff h.1, ih h.2]

theorem suffix_map_straight_iff {cs ds : List Char} (h : ds.any isApostrophe = false) :
    ds <:+ cs.map straight ↔ ds <:+ cs := by
  constructor
  · rintro ⟨before, hbefore⟩
    obtain ⟨as, bs, rfl, -, hbs⟩ := List.map_eq_append_iff.1 hbefore.symm
    rw [map_straight_eq_iff h] at hbs
    exact ⟨as, by rw [hbs]⟩
  · rintro ⟨before, rfl⟩
    exact ⟨before.map straight, by rw [List.map_append, (map_straight_eq_iff h).2 rfl]⟩

theorem byteLength_map_straight_le (cs : List Char) :
    byteLength (cs.map straight) ≤ byteLength cs := by
  induction cs with
  | nil => exact Nat.le_refl _
  | cons c cs ih =>
      rw [List.map_cons, byteLength_cons, byteLength_cons]
      refine Nat.add_le_add ?_ ih
      rw [straight]
      split
      · next hc => subst hc; decide
      · exact Nat.le_refl _

/-- A short text keeps its size, unless it is a character of one byte and a curly apostrophe. -/
theorem byteLength_map_straight_cases {cs : List Char} (hhead : cs.head? ≠ some '\u2019')
    (hshort : byteLength (cs.map straight) ≤ 2) :
    byteLength (cs.map straight) = byteLength cs ∨ ∃ c, c.utf8Size = 1 ∧ cs = [c, '\u2019'] := by
  have hpos (e : Char) (es : List Char) : 1 ≤ byteLength (e :: es) := byteLength_pos (by simp)
  match cs with
  | [] => exact .inl rfl
  | [c] =>
      have hc : c ≠ '\u2019' := fun heq => hhead (congrArg some heq)
      rw [List.map_singleton, straight_of_ne hc]
      exact .inl rfl
  | [c, d] =>
      have hc : c ≠ '\u2019' := fun heq => hhead (congrArg some heq)
      by_cases hd : d = '\u2019'
      · refine .inr ⟨c, ?_, by rw [hd]⟩
        have := c.utf8Size_pos
        have := (straight d).utf8Size_pos
        simp only [List.map_cons, List.map_nil, straight_of_ne hc, byteLength_cons,
          byteLength_nil] at hshort
        omega
      · simp [straight_of_ne hc, straight_of_ne hd]
  | c :: d :: e :: rest =>
      have := (straight c).utf8Size_pos
      have := (straight d).utf8Size_pos
      have := hpos (straight e) (rest.map straight)
      simp only [List.map_cons, byteLength_cons] at hshort this
      omega

theorem byteLength_clipped {c : Char} (hc : c.utf8Size = 1) :
    byteLength ([c, '\u2019'].map straight) = 2 := by
  have hne : c ≠ '\u2019' := by
    rintro rfl
    exact absurd hc (by decide)
  have hsize : (straight '\u2019').utf8Size = 1 := by decide
  simp [straight_of_ne hne, hc, hsize]

theorem two_lt_byteLength_map_straight {cs : List Char} (hhead : cs.head? ≠ some '\u2019') :
    2 < byteLength (cs.map straight) ↔
      2 < byteLength cs ∧ ¬ ∃ c, c.utf8Size = 1 ∧ cs = [c, '\u2019'] := by
  have hle := byteLength_map_straight_le cs
  constructor
  · refine fun hlong => ⟨by omega, ?_⟩
    rintro ⟨c, hc, rfl⟩
    exact absurd (byteLength_clipped hc) (by omega)
  · rintro ⟨hlong, hclipped⟩
    by_contra hshort
    rcases byteLength_map_straight_cases hhead (by omega) with heq | hclips
    · omega
    · exact hclipped hclips

theorem one_lt_byteLength_map_straight {cs : List Char} (hhead : cs.head? ≠ some '\u2019') :
    1 < byteLength (cs.map straight) ↔ 1 < byteLength cs := by
  have hle := byteLength_map_straight_le cs
  refine ⟨fun hlong => by omega, fun hlong => ?_⟩
  by_contra hshort
  rcases byteLength_map_straight_cases hhead (by omega) with heq | ⟨c, hc, rfl⟩
  · omega
  · exact absurd (byteLength_clipped hc) (by omega)

end GradedReading.Text
