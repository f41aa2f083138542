import GradedReading.Text.Blank
import Mathlib.Data.List.Basic
import Mathlib.Data.List.DropRight

/-!
# GradedReading.Proofs.Text.Lines

Fields and lines, and the texts that are made by joining them.

**Key idea:** fields and lines are both what a split at one class of characters leaves, so that
everything about them follows from one equation: a character of the class cuts the text in two, and
the pieces are those before it and those after it. Fields that are joined by a blank are read back
(`fields_joinWith`), and so are lines that are joined by a line feed, if none of them is empty or
ends in a carriage return (`lines_joinWith`).
-/

namespace GradedReading.Text

/-! ### Splitting -/

theorem exists_splitOnP_eq_cons {α : Type} (p : α → Bool) (as : List α) :
    ∃ piece rest, as.splitOnP p = piece :: rest :=
  List.exists_cons_of_ne_nil (List.splitOnP_ne_nil p as)

theorem splitOnClass_eq (p : Char → Bool) (cs : List Char) : splitOnClass p cs = cs.splitOnP p := by
  induction cs with
  | nil => rfl
  | cons c cs ih =>
      rw [splitOnClass, List.splitOnP_cons_eq_if_modifyHead, ih]
      split
      · rfl
      · obtain ⟨piece, rest, hsplit⟩ := exists_splitOnP_eq_cons p cs
        rw [hsplit, List.modifyHead_cons]

/-- No piece has a character of the class. -/
theorem not_of_mem_splitOnP {α : Type} {p : α → Bool} {as piece : List α}
    (h : piece ∈ as.splitOnP p) : ∀ a ∈ piece, p a = false := by
  induction as generalizing piece with
  | nil =>
      rw [List.splitOnP_nil, List.mem_singleton] at h
      exact h ▸ List.forall_mem_nil _
  | cons a as ih =>
      rw [List.splitOnP_cons_eq_if_modifyHead] at h
      split at h
      · rcases List.mem_cons.1 h with rfl | h
        · exact List.forall_mem_nil _
        · exact ih h
      · next ha =>
        obtain ⟨first, rest, hsplit⟩ := exists_splitOnP_eq_cons p as
        rw [hsplit, List.modifyHead_cons] at h
        rw [hsplit] at ih
        rcases List.mem_cons.1 h with rfl | h
        · exact List.forall_mem_cons.2 ⟨Bool.eq_false_iff.2 ha, ih (List.mem_cons_self ..)⟩
        · exact ih (List.mem_cons_of_mem _ h)

/-- Nothing is lost but the characters of the class. -/
theorem flatten_splitOnP {α : Type} (p : α → Bool) (as : List α) :
    (as.splitOnP p).flatten = as.filter (!p ·) := by
  induction as with
  | nil => rfl
  | cons a as ih =>
      rw [List.splitOnP_cons_eq_if_modifyHead, List.filter_cons, ← ih]
      obtain ⟨piece, rest, hsplit⟩ := exists_splitOnP_eq_cons p as
      rw [hsplit]
      cases p a <;> rfl

theorem splitOnP_map {α β : Type} (p : β → Bool) (f : α → β) (as : List α) :
    (as.map f).splitOnP p = (as.splitOnP (p ∘ f)).map (List.map f) := by
  induction as with
  | nil => rfl
  | cons a as ih =>
      rw [List.map_cons, List.splitOnP_cons_eq_if_modifyHead, List.splitOnP_cons_eq_if_modifyHead,
        ih, Function.comp_apply]
      split
      · rfl
      · obtain ⟨piece, rest, hsplit⟩ := exists_splitOnP_eq_cons (p ∘ f) as
        rw [hsplit]
        rfl

/-- What has no character of the class stays in one piece. -/
theorem exists_infix_mem_splitOnP {α : Type} {p : α → Bool} {bs : List α}
    (h : ∀ b ∈ bs, p b = false) (as cs : List α) :
    ∃ piece ∈ (as ++ (bs ++ cs)).splitOnP p, bs <:+: piece := by
  have hfront : ∃ rest pieces, (bs ++ cs).splitOnP p = (bs ++ rest) :: pieces := by
    induction bs with
    | nil => exact exists_splitOnP_eq_cons p cs
    | cons b bs ih =>
        obtain ⟨hb, hbs⟩ := List.forall_mem_cons.1 h
        obtain ⟨rest, pieces, hsplit⟩ := ih hbs
        refine ⟨rest, pieces, ?_⟩
        rw [List.cons_append, List.splitOnP_cons_eq_if_modifyHead, hb, hsplit]
        rfl
  induction as with
  | nil =>
      obtain ⟨rest, pieces, hsplit⟩ := hfront
      rw [List.nil_append, hsplit]
      exact ⟨_, List.mem_cons_self, (List.prefix_append bs rest).isInfix⟩
  | cons a as ih =>
      obtain ⟨piece, hpiece, hpart⟩ := ih
      rw [List.cons_append, List.splitOnP_cons_eq_if_modifyHead]
      split
      · exact ⟨piece, List.mem_cons_of_mem _ hpiece, hpart⟩
      · obtain ⟨first, rest, hsplit⟩ := exists_splitOnP_eq_cons p (as ++ (bs ++ cs))
        rw [hsplit] at hpiece
        rw [hsplit, List.modifyHead_cons]
        rcases List.mem_cons.1 hpiece with rfl | hpiece
        · exact ⟨_, List.mem_cons_self, hpart.trans (List.suffix_cons a piece).isInfix⟩
        · exact ⟨piece, List.mem_cons_of_mem _ hpiece, hpart⟩

/-! ### Visible characters -/

/-- The characters that are no blanks. -/
def visible (cs : List Char) : List Char := cs.filter (!isBlank ·)

/-- A text with a visible character has a first one. -/
theorem exists_first_visible {cs : List Char} (h : ∃ c ∈ cs, isBlank c = false) :
    ∃ c rest, cs = cs.takeWhile isBlank ++ c :: rest ∧ isBlank c = false := by
  obtain ⟨c, hc, hblank⟩ := h
  have hne : cs.dropWhile isBlank ≠ [] := fun hnil =>
    absurd (List.dropWhile_eq_nil_iff.1 hnil c hc) (Bool.eq_false_iff.1 hblank)
  refine ⟨(cs.dropWhile isBlank).head hne, (cs.dropWhile isBlank).tail, ?_, ?_⟩
  · rw [List.cons_head_tail, List.takeWhile_append_dropWhile]
  · exact List.head_dropWhile_not isBlank hne

/-- A text with a visible character has a last one. -/
theorem exists_last_visible {cs : List Char} (h : ∃ c ∈ cs, isBlank c = false) :
    ∃ front c, cs = front ++ c :: cs.rtakeWhile isBlank ∧ isBlank c = false := by
  obtain ⟨c, hc, hblank⟩ := h
  obtain ⟨d, rest, hrest, hd⟩ := exists_first_visible ⟨c, List.mem_reverse.2 hc, hblank⟩
  have hcs := congrArg List.reverse hrest
  rw [List.reverse_reverse, List.reverse_append, List.reverse_cons, List.append_assoc] at hcs
  exact ⟨rest.reverse, d, hcs, hd⟩

/-! ### Fields -/

/-- A stretch that is not empty and has no blank. -/
structure IsField (cs : List Char) : Prop where
  ne_nil : cs ≠ []
  visible : ∀ c ∈ cs, isBlank c = false

theorem fieldsFrom_eq (p : Char → Bool) (cur cs : List Char) :
    fieldsFrom p cur cs = (cs.splitOnPPrepend p cur).filter (!·.isEmpty) := by
  induction cs generalizing cur with
  | nil => cases cur <;> simp [fieldsFrom]
  | cons c cs ih =>
      rw [fieldsFrom, List.splitOnPPrepend, ih, ih]
      split
      · rw [List.filter_cons, List.isEmpty_reverse]
        cases cur.isEmpty <;> rfl
      · rfl

/-- **Fields are the pieces between blanks** that are not empty. -/
theorem fields_eq (cs : List Char) :
    fields cs = (cs.splitOnP isBlank).filter (!·.isEmpty) :=
  fieldsFrom_eq isBlank [] cs

/-- A blank cuts a text in two. -/
theorem fields_append_cons {c : Char} (hc : isBlank c = true) (cs ds : List Char) :
    fields (cs ++ c :: ds) = fields cs ++ fields ds := by
  rw [fields_eq, List.splitOnP_append_cons cs ds hc, List.filter_append, fields_eq, fields_eq]

theorem isField_of_mem {f cs : List Char} (h : f ∈ fields cs) : IsField f := by
  rw [fields_eq, List.mem_filter] at h
  exact ⟨by simpa using h.2, not_of_mem_splitOnP h.1⟩

theorem IsField.fields_eq {f : List Char} (h : IsField f) : fields f = [f] := by
  rw [Text.fields_eq, List.splitOnP_eq_singleton h.visible]
  simp [h.ne_nil]

@[simp] theorem fields_nil : fields [] = [] := rfl

/-- The visible characters stand in the fields. -/
theorem flatten_fields (cs : List Char) : (fields cs).flatten = visible cs := by
  rw [fields_eq, List.flatten_filter_not_isEmpty, flatten_splitOnP]
  rfl

/-! ### Joining -/

theorem joinWith_cons_cons (sep : Char) (piece next : List Char) (rest : List (List Char)) :
    joinWith sep (piece :: next :: rest) = piece ++ sep :: joinWith sep (next :: rest) := by
  simp [joinWith]

@[simp] theorem joinWith_singleton (sep : Char) (piece : List Char) :
    joinWith sep [piece] = piece := by
  simp [joinWith]

theorem mem_joinWith {sep c : Char} {pieces : List (List Char)} (h : c ∈ joinWith sep pieces) :
    c = sep ∨ ∃ piece ∈ pieces, c ∈ piece := by
  induction pieces with
  | nil => exact absurd h List.not_mem_nil
  | cons piece rest ih =>
      cases rest with
      | nil => exact .inr ⟨piece, List.mem_singleton_self _, joinWith_singleton sep piece ▸ h⟩
      | cons next rest =>
          rw [joinWith_cons_cons, List.mem_append, List.mem_cons] at h
          rcases h with h | rfl | h
          · exact .inr ⟨piece, List.mem_cons_self, h⟩
          · exact .inl rfl
          · exact (ih h).imp_right fun ⟨p, hp, hc⟩ => ⟨p, List.mem_cons_of_mem _ hp, hc⟩

/-- Joined text ends like its last piece. -/
theorem getLast?_joinWith {sep : Char} {pieces : List (List Char)} {last : List Char}
    (hlast : pieces.getLast? = some last) (hne : last ≠ []) :
    (joinWith sep pieces).getLast? = last.getLast? := by
  induction pieces with
  | nil => exact absurd hlast nofun
  | cons piece rest ih =>
      cases rest with
      | nil =>
          rw [List.getLast?_singleton, Option.some.injEq] at hlast
          rw [joinWith_singleton, hlast]
      | cons next rest =>
          rw [List.getLast?_cons_cons] at hlast
          have hsome : (last.getLast?).isSome = true := List.getLast?_isSome.2 hne
          rw [joinWith_cons_cons, List.getLast?_append, List.getLast?_cons, ih hlast]
          obtain ⟨c, hc⟩ := Option.isSome_iff_exists.1 hsome
          rw [hc]
          rfl

/-- Texts that are joined by a blank keep their fields. -/
theorem fields_joinWith {sep : Char} (hsep : isBlank sep = true) (pieces : List (List Char)) :
    fields (joinWith sep pieces) = pieces.flatMap fields := by
  induction pieces with
  | nil => rfl
  | cons piece rest ih =>
      cases rest with
      | nil => simp
      | cons next rest =>
          rw [joinWith_cons_cons, fields_append_cons hsep, ih]
          rfl

/-- Fields that are joined by a blank are read back. -/
theorem fields_joinWith_of_isField {sep : Char} (hsep : isBlank sep = true)
    {fs : List (List Char)} (h : ∀ f ∈ fs, IsField f) : fields (joinWith sep fs) = fs := by
  rw [fields_joinWith hsep]
  induction fs with
  | nil => rfl
  | cons f fs ih =>
      obtain ⟨hf, hfs⟩ := List.forall_mem_cons.1 h
      rw [List.flatMap_cons, hf.fields_eq, ih hfs, List.singleton_append]

/-! ### Lines -/

theorem fields_dropCarriageReturn (line : List Char) :
    fields (dropCarriageReturn line) = fields line := by
  rw [dropCarriageReturn]
  split
  · next hlast =>
    obtain ⟨front, rfl⟩ := List.getLast?_eq_some_iff.1 hlast
    rw [List.dropLast_concat, fields_append_cons (by decide), fields_nil, List.append_nil]
  · rfl

/-- What is made of the lines of a text is made of the pieces between line feeds, if nothing is
made of an empty line and carriage returns do not count. -/
theorem filter_map_lines {α : Type} {f : List Char → List α} (hnil : f [] = [])
    (hreturn : ∀ line, f (dropCarriageReturn line) = f line) (cs : List Char) :
    ((lines cs).map f).filter (!·.isEmpty) =
      ((cs.splitOnP (· == '\n')).map f).filter (!·.isEmpty) := by
  have hwhole (pieces : List (List Char)) :
      (pieces.map dropCarriageReturn).map f = pieces.map f := by
    rw [List.map_map]
    exact List.map_congr_left fun line _ => hreturn line
  have hne := List.splitOnP_ne_nil (· == '\n') cs
  rw [lines, splitOnClass_eq]
  rcases List.eq_nil_or_concat (cs.splitOnP (· == '\n')) with hpieces | ⟨front, last, hpieces⟩
  · exact absurd hpieces hne
  · rw [List.concat_eq_append] at hpieces
    simp only [hpieces, List.getLast?_concat, List.dropLast_concat]
    split
    · next hempty =>
      rw [hwhole, List.isEmpty_iff.1 hempty, List.map_append, List.filter_append]
      simp [hnil]
    · rw [List.map_append, hwhole, List.map_append]

/-- **Lines that are joined by line feeds are read back.** -/
theorem lines_joinWith {ls : List (List Char)}
    (h : ∀ l ∈ ls, l ≠ [] ∧ '\n' ∉ l ∧ l.getLast? ≠ some '\r') : lines (joinWith '\n' ls) = ls := by
  by_cases hls : ls = []
  · subst hls
    rfl
  · have hsplit : splitOnClass (· == '\n') (joinWith '\n' ls) = ls := by
      rw [splitOnClass_eq]
      exact List.splitOn_intercalate '\n' (fun l hl => (h l hl).2.1) hls
    have hlast := List.getLast?_eq_some_getLast hls
    have hne := (h _ (List.getLast_mem hls)).1
    have hwhole : ls.dropLast.map dropCarriageReturn = ls.dropLast := by
      refine (List.map_congr_left fun l hl => ?_).trans (List.map_id _)
      rw [dropCarriageReturn, if_neg (h l (List.dropLast_subset _ hl)).2.2, id]
    rw [lines]
    simp only [hsplit, hlast, hwhole, List.isEmpty_iff, if_neg hne]
    exact List.dropLast_append_getLast hls

end GradedReading.Text
