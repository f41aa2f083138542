import GradedReading.Proofs.Text.Lowercase
import GradedReading.Text.Glob
import Mathlib.Data.Set.NAry

/-!
# GradedReading.Proofs.Text.Glob

What a pattern describes.

**Key idea:** a pattern is a sequence of signs, and its language is the product of theirs: `*` has
all texts, `?` all texts of one character, and any other character itself. The matcher keeps flags
for all tails of the pattern at once. Read tail by tail, these flags obey one equation for each sign
and each end of the text (`matchesChars_anySequence_cons` and the others), and these equations are
all that is needed of them.

The main statement is `describes_globMatches`.
-/

namespace GradedReading.Text

/-! ### The language of a pattern -/

/-- The texts that one character of a pattern stands for. -/
def signLanguage (c : Char) : Set (List Char) :=
  if c = '*' then Set.univ else if c = '?' then Set.range fun d => [d] else {[c]}

/-- The texts that a pattern stands for. -/
def patternLanguage : List Char → Set (List Char)
  | [] => {[]}
  | c :: pattern => Set.image2 (· ++ ·) (signLanguage c) (patternLanguage pattern)

/-- The pattern describes the text, if no difference is made between capital and small ASCII
letters. -/
def Describes (pattern text : List Char) : Prop :=
  text.map lowerAscii ∈ patternLanguage (pattern.map lowerAscii)

theorem mem_signLanguage_star (cs : List Char) : cs ∈ signLanguage '*' := trivial

theorem mem_signLanguage_mark {cs : List Char} : cs ∈ signLanguage '?' ↔ ∃ d, cs = [d] := by
  rw [signLanguage, if_neg (by decide), if_pos rfl]
  simp [eq_comm]

theorem mem_signLanguage_of_ne {c : Char} {cs : List Char} (hstar : c ≠ '*') (hmark : c ≠ '?') :
    cs ∈ signLanguage c ↔ cs = [c] := by
  rw [signLanguage, if_neg hstar, if_neg hmark, Set.mem_singleton_iff]

/-! ### The flags of the matcher -/

namespace Glob

theorem tail_stepFlags (c : Char) (sign : GlobSign) (g : Glob) (flags : List Bool) :
    (stepFlags c (sign :: g) flags).tail = stepFlags c g flags.tail := rfl

/-- The flags for the tails of a pattern without its first sign come after the first flag. -/
theorem tail_flagsFor (sign : GlobSign) (g : Glob) (cs : List Char) :
    (flagsFor (sign :: g) cs).tail = flagsFor g cs := by
  induction cs with
  | nil => cases sign <;> rfl
  | cons c cs ih => rw [flagsFor, tail_stepFlags, ih, flagsFor]

@[simp] theorem matchesChars_nil (cs : List Char) : matchesChars [] cs = cs.isEmpty := by
  cases cs <;> rfl

@[simp] theorem matchesChars_anySequence_nil (g : Glob) :
    matchesChars (.anySequence :: g) [] = matchesChars g [] := rfl

/-- A star goes on, or it is done. -/
@[simp] theorem matchesChars_anySequence_cons (g : Glob) (c : Char) (cs : List Char) :
    matchesChars (.anySequence :: g) (c :: cs) =
      (matchesChars (.anySequence :: g) cs || matchesChars g (c :: cs)) := by
  simp only [matchesChars, flagsFor, stepFlags, List.headD_cons, tail_flagsFor]

@[simp] theorem matchesChars_anyChar_nil (g : Glob) : matchesChars (.anyChar :: g) [] = false := rfl

@[simp] theorem matchesChars_anyChar_cons (g : Glob) (c : Char) (cs : List Char) :
    matchesChars (.anyChar :: g) (c :: cs) = matchesChars g cs := by
  simp only [matchesChars, flagsFor, stepFlags, List.headD_cons, tail_flagsFor]

@[simp] theorem matchesChars_literal_nil (d : Char) (g : Glob) :
    matchesChars (.literal d :: g) [] = false := rfl

@[simp] theorem matchesChars_literal_cons (d : Char) (g : Glob) (c : Char) (cs : List Char) :
    matchesChars (.literal d :: g) (c :: cs) = (d == lowerAscii c && matchesChars g cs) := by
  simp only [matchesChars, flagsFor, stepFlags, List.headD_cons, tail_flagsFor]

/-- A star leaves any end of the text to the rest of the pattern. -/
theorem matchesChars_anySequence_iff {g : Glob} {cs : List Char} :
    matchesChars (.anySequence :: g) cs = true ↔
      ∃ front rest, front ++ rest = cs ∧ matchesChars g rest = true := by
  induction cs with
  | nil =>
      simp only [matchesChars_anySequence_nil, List.append_eq_nil_iff]
      exact ⟨fun h => ⟨[], [], ⟨rfl, rfl⟩, h⟩, fun ⟨_, _, ⟨_, hrest⟩, h⟩ => hrest ▸ h⟩
  | cons c cs ih =>
      rw [matchesChars_anySequence_cons, Bool.or_eq_true, ih]
      constructor
      · rintro (⟨front, rest, rfl, h⟩ | h)
        · exact ⟨c :: front, rest, rfl, h⟩
        · exact ⟨[], c :: cs, rfl, h⟩
      · rintro ⟨front, rest, heq, h⟩
        cases front with
        | nil =>
            obtain rfl : rest = c :: cs := heq
            exact .inr h
        | cons d front => exact .inl ⟨front, rest, (List.cons.inj heq).2, h⟩

/-! ### Reading a pattern -/

/-- The sign that a character of a pattern is read as. -/
def signOf (c : Char) : GlobSign :=
  if c = '*' then .anySequence else if c = '?' then .anyChar else .literal (lowerAscii c)

theorem ofString_eq (s : String) : ofString s = s.toList.map signOf := rfl

/-- The case of a letter does not make it a sign of another kind. -/
theorem lowerAscii_ne {c : Char} (hstar : c ≠ '*') (hmark : c ≠ '?') :
    lowerAscii c ≠ '*' ∧ lowerAscii c ≠ '?' := by
  have hsame := apply_lowerAscii (fun c => (c == '*', c == '?')) (by decide) c
  simpa [hstar, hmark] using hsame

/-- A sign for one character takes the first one away, if it stands for it. -/
theorem exists_append_cons_iff {p : Char → Prop} {q : List Char → Prop} {c : Char}
    {cs : List Char} :
    (∃ front rest, front ++ rest = c :: cs ∧ (∃ d, front = [d] ∧ p d) ∧ q rest) ↔ p c ∧ q cs := by
  constructor
  · rintro ⟨_, rest, heq, ⟨d, rfl, hd⟩, hrest⟩
    obtain ⟨rfl, rfl⟩ := List.cons.inj heq
    exact ⟨hd, hrest⟩
  · rintro ⟨hc, hcs⟩
    exact ⟨[c], cs, rfl, ⟨c, rfl, hc⟩, hcs⟩

/-- **Every sign takes a text of its language away** and leaves the rest to the other signs. -/
theorem matchesChars_signOf_cons {c : Char} {g : Glob} {cs : List Char} :
    matchesChars (signOf c :: g) cs = true ↔
      ∃ front rest, front ++ rest = cs ∧ front.map lowerAscii ∈ signLanguage (lowerAscii c) ∧
        matchesChars g rest = true := by
  by_cases hstar : c = '*'
  · subst hstar
    have hall (front : List Char) : front.map lowerAscii ∈ signLanguage (lowerAscii '*') :=
      mem_signLanguage_star _
    simp only [hall, true_and]
    exact matchesChars_anySequence_iff
  by_cases hmark : c = '?'
  · subst hmark
    have hone (front : List Char) : front.map lowerAscii ∈ signLanguage (lowerAscii '?') ↔
        ∃ d, front = [d] ∧ True := by
      rw [show lowerAscii '?' = '?' from rfl, mem_signLanguage_mark]
      simp [List.map_eq_singleton_iff]
    have hsign : signOf '?' = .anyChar := rfl
    simp only [hone, hsign]
    cases cs with
    | nil => simp
    | cons d cs => rw [exists_append_cons_iff, matchesChars_anyChar_cons, true_and]
  · obtain ⟨hstar', hmark'⟩ := lowerAscii_ne hstar hmark
    have hsign : signOf c = .literal (lowerAscii c) := by
      rw [signOf, if_neg hstar, if_neg hmark]
    simp only [hsign, mem_signLanguage_of_ne hstar' hmark', List.map_eq_singleton_iff]
    cases cs with
    | nil => simp
    | cons d cs =>
        rw [exists_append_cons_iff, matchesChars_literal_cons, Bool.and_eq_true, beq_iff_eq,
          eq_comm]

end Glob

theorem describes_nil {text : List Char} : Describes [] text ↔ text = [] := by
  rw [Describes, List.map_nil, patternLanguage, Set.mem_singleton_iff, List.map_eq_nil_iff]

theorem describes_cons {c : Char} {pattern text : List Char} :
    Describes (c :: pattern) text ↔
      ∃ front rest, front ++ rest = text ∧ front.map lowerAscii ∈ signLanguage (lowerAscii c) ∧
        Describes pattern rest := by
  rw [Describes, List.map_cons, patternLanguage, Set.mem_image2]
  constructor
  · rintro ⟨front, hfront, rest, hrest, heq⟩
    obtain ⟨front, rest, rfl, rfl, rfl⟩ := List.map_eq_append_iff.1 heq.symm
    exact ⟨front, rest, rfl, hfront, hrest⟩
  · rintro ⟨front, rest, rfl, hfront, hrest⟩
    exact ⟨_, hfront, _, hrest, List.map_append.symm⟩

/-- **The matcher decides the language of a pattern.** -/
theorem matchesChars_ofString_iff (pattern : String) (text : List Char) :
    (Glob.ofString pattern).matchesChars text = true ↔ Describes pattern.toList text := by
  rw [Glob.ofString_eq]
  induction pattern.toList generalizing text with
  | nil => rw [List.map_nil, Glob.matchesChars_nil, List.isEmpty_iff, describes_nil]
  | cons c pattern ih =>
      simp only [List.map_cons, Glob.matchesChars_signOf_cons, describes_cons, ih]

/-- Capital and small ASCII letters are the same to the description. -/
theorem describes_congr {pattern pattern' text text' : List Char}
    (hpattern : pattern.map lowerAscii = pattern'.map lowerAscii)
    (htext : text.map lowerAscii = text'.map lowerAscii) :
    Describes pattern text ↔ Describes pattern' text' := by
  rw [Describes, Describes, hpattern, htext]

/-- **A pattern matches exactly the texts that it describes**, whatever the case of ASCII letters in
either of them. -/
theorem describes_globMatches (pattern text : String) :
    (globMatches pattern text = true ↔ Describes pattern.toList text.toList) ∧
      ∀ pattern' text' : String,
        pattern.toList.map lowerAscii = pattern'.toList.map lowerAscii →
          text.toList.map lowerAscii = text'.toList.map lowerAscii →
            globMatches pattern text = globMatches pattern' text' := by
  refine ⟨matchesChars_ofString_iff pattern text.toList, fun pattern' text' hpattern htext => ?_⟩
  rw [Bool.eq_iff_iff, globMatches, globMatches, matchesChars_ofString_iff,
    matchesChars_ofString_iff]
  exact describes_congr hpattern htext

/-- Two stars in a row with a question mark behind them, and both texts in another case. -/
theorem describes_shops :
    "eb**?.*".toList.map lowerAscii = "EB**?.*".toList.map lowerAscii ∧
      "ebay.de".toList.map lowerAscii = "eBay.DE".toList.map lowerAscii ∧
        Describes "eb**?.*".toList "ebay.de".toList ∧
          globMatches "eb**?.*" "ebay.de" = globMatches "EB**?.*" "eBay.DE" := by
  have hpattern : "eb**?.*".toList.map lowerAscii = "EB**?.*".toList.map lowerAscii := by decide
  have htext : "ebay.de".toList.map lowerAscii = "eBay.DE".toList.map lowerAscii := by decide
  obtain ⟨hiff, hsame⟩ := describes_globMatches "eb**?.*" "ebay.de"
  exact ⟨hpattern, htext, hiff.1 (by decide), hsame _ _ hpattern htext⟩

end GradedReading.Text
