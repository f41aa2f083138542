import GradedReading.Html.Node
import GradedReading.Proofs.Text.Lines

/-!
# GradedReading.Proofs.Html.Tidy

What tidying makes of a text.

**Key idea:** a tidied text is the words of the text, line by line, put together again
(`tidy_eq`). What has been put together in this way can be taken apart (`lines_typeset`,
`wordLines_typeset`), so that tidying keeps all words in order, leaves no blank but the ones between
words and lines, and has nothing to do on a text that is tidy.
-/

namespace GradedReading.Html

open Text

/-- The words of each line of a text, without the lines that have none. -/
def wordLines (cs : List Char) : List (List (List Char)) :=
  ((cs.splitOnP (· == '\n')).map fields).filter (!·.isEmpty)

/-- Put words together, with a space between words and a line feed between lines. -/
def typeset (ls : List (List (List Char))) : List Char := joinWith '\n' (ls.map (joinWith ' '))

/-- Lines of words: each line has a word, and each word has a character and no blank. -/
def IsLayout (ls : List (List (List Char))) : Prop := ∀ l ∈ ls, l ≠ [] ∧ ∀ f ∈ l, IsField f

theorem isLayout_wordLines (cs : List Char) : IsLayout (wordLines cs) := by
  intro l hl
  rw [wordLines, List.mem_filter] at hl
  obtain ⟨line, -, rfl⟩ := List.mem_map.1 hl.1
  exact ⟨by simpa using hl.2, fun f hf => isField_of_mem hf⟩

theorem wordLines_eq (cs : List Char) :
    wordLines cs = ((lines cs).map fields).filter (!·.isEmpty) :=
  (filter_map_lines fields_nil fields_dropCarriageReturn cs).symm

/-- **All words stand in the lines**, in order. -/
theorem flatten_wordLines (cs : List Char) : (wordLines cs).flatten = fields cs := by
  suffices h : ∀ pieces : List (List Char), (pieces.map fields).flatten =
      fields (['\n'].intercalate pieces) by
    rw [wordLines, List.flatten_filter_not_isEmpty, h]
    exact congrArg fields (List.intercalate_splitOn '\n')
  intro pieces
  exact (fields_joinWith (by decide) pieces).symm

/-! ### A line of words -/

section Line

variable {l : List (List Char)}

theorem joinWith_ne_nil (hl : l ≠ []) (hfields : ∀ f ∈ l, IsField f) : joinWith ' ' l ≠ [] := by
  intro hnil
  have hread : fields (joinWith ' ' l) = l := fields_joinWith_of_isField (by decide) hfields
  rw [hnil, fields_nil] at hread
  exact hl hread.symm

theorem lineFeed_not_mem_joinWith (hfields : ∀ f ∈ l, IsField f) : '\n' ∉ joinWith ' ' l := by
  intro hmem
  rcases mem_joinWith hmem with h | ⟨f, hf, hc⟩
  · exact absurd h (by decide)
  · exact absurd ((hfields f hf).visible _ hc) (by decide)

theorem getLast?_joinWith_ne (hl : l ≠ []) (hfields : ∀ f ∈ l, IsField f) :
    (joinWith ' ' l).getLast? ≠ some '\r' := by
  have hlast := hfields _ (List.getLast_mem hl)
  rw [getLast?_joinWith (List.getLast?_eq_some_getLast hl) hlast.ne_nil]
  intro hreturn
  exact absurd (hlast.visible _ (List.mem_of_getLast? hreturn)) (by decide)

end Line

/-! ### Taking a text apart -/

theorem lines_typeset {ls : List (List (List Char))} (h : IsLayout ls) :
    lines (typeset ls) = ls.map (joinWith ' ') := by
  refine lines_joinWith fun line hline => ?_
  obtain ⟨l, hl, rfl⟩ := List.mem_map.1 hline
  obtain ⟨hne, hfields⟩ := h l hl
  exact ⟨joinWith_ne_nil hne hfields, lineFeed_not_mem_joinWith hfields,
    getLast?_joinWith_ne hne hfields⟩

/-- **Lines of words are read back.** -/
theorem wordLines_typeset {ls : List (List (List Char))} (h : IsLayout ls) :
    wordLines (typeset ls) = ls := by
  have hfields : (ls.map (joinWith ' ')).map fields = ls := by
    rw [List.map_map]
    refine (List.map_congr_left fun l hl => ?_).trans (List.map_id ls)
    exact fields_joinWith_of_isField (by decide) (h l hl).2
  rw [wordLines_eq, lines_typeset h, hfields, List.filter_eq_self]
  exact fun l hl => by simpa using (h l hl).1

/-- **Tidying puts the words together again.** -/
theorem tidy_eq (cs : List Char) : tidy cs = typeset (wordLines cs) := by
  have hempty : ∀ l ∈ (lines cs).map fields, (joinWith ' ' l).isEmpty = l.isEmpty := by
    intro l hl
    obtain ⟨line, -, rfl⟩ := List.mem_map.1 hl
    by_cases hnil : fields line = []
    · rw [hnil]
      rfl
    · rw [List.isEmpty_eq_false_iff.2 hnil, List.isEmpty_eq_false_iff]
      exact joinWith_ne_nil hnil fun f hf => isField_of_mem hf
  have htidyLine : (lines cs).map tidyLine = ((lines cs).map fields).map (joinWith ' ') := by
    rw [List.map_map]
    rfl
  rw [tidy, typeset, htidyLine, wordLines_eq, List.filter_map]
  refine congrArg _ (congrArg _ (List.filter_congr fun l hl => ?_))
  rw [Function.comp_apply, hempty l hl]

theorem lines_tidy (cs : List Char) : lines (tidy cs) = (wordLines cs).map (joinWith ' ') := by
  rw [tidy_eq, lines_typeset (isLayout_wordLines cs)]

theorem fields_tidy (cs : List Char) : fields (tidy cs) = fields cs := by
  rw [tidy_eq, ← flatten_wordLines, wordLines_typeset (isLayout_wordLines cs), flatten_wordLines]

theorem tidy_tidy (cs : List Char) : tidy (tidy cs) = tidy cs := by
  rw [tidy_eq cs, tidy_eq, wordLines_typeset (isLayout_wordLines cs)]

/-! ### Visible characters -/

/-- **Line by line the visible characters of a tidied text are those of the text.** -/
theorem map_visible_lines_tidy (cs : List Char) :
    (lines (tidy cs)).map visible =
      ((cs.splitOnP (· == '\n')).map visible).filter (!·.isEmpty) := by
  have hjoined : (wordLines cs).map (visible ∘ joinWith ' ') = (wordLines cs).map List.flatten := by
    refine List.map_congr_left fun l hl => ?_
    rw [Function.comp_apply, ← flatten_fields,
      fields_joinWith_of_isField (by decide) (isLayout_wordLines cs l hl).2]
  have hempty (line : List Char) : (visible line).isEmpty = (fields line).isEmpty := by
    rw [← flatten_fields, Bool.eq_iff_iff, List.isEmpty_iff, List.isEmpty_iff,
      List.flatten_eq_nil_iff]
    refine ⟨fun h => List.eq_nil_iff_forall_not_mem.2 fun f hf => ?_, fun h => by simp [h]⟩
    exact (isField_of_mem hf).ne_nil (h f hf)
  have hvisible : List.flatten ∘ fields = visible := funext flatten_fields
  rw [lines_tidy, List.map_map, hjoined, wordLines, List.filter_map, List.map_map, hvisible,
    List.filter_map]
  refine congrArg _ (List.filter_congr fun line _ => ?_)
  rw [Function.comp_apply, Function.comp_apply, hempty]

end GradedReading.Html
