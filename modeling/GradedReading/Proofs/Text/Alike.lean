import GradedReading.Proofs.Text.Words
import Mathlib.Data.List.Forall2

/-!
# GradedReading.Proofs.Text.Alike

Texts that are cut into words alike.

**Key idea:** the cutting looks at no more than two classes of characters. Where the characters of
two texts agree in these one by one, the words of the texts agree one by one as well: they stand at
the same places, counted in characters (`forall₂_wordPieces`). What a text becomes character by
character, in another case or with other apostrophes, therefore has the words of the text, each of
them changed in the same way.
-/

namespace GradedReading.Text

/-- The cutting into words does not tell the two characters apart. -/
structure Alike (c d : Char) : Prop where
  wordChar : isWordChar d = isWordChar c
  apostrophe : isApostrophe d = isApostrophe c

theorem Alike.refl (c : Char) : Alike c c := ⟨rfl, rfl⟩

/-- Letters and digits are alike. -/
theorem Alike.of_isAlphanumeric {c d : Char} (hc : isAlphanumeric c = true)
    (hd : isAlphanumeric d = true) : Alike c d where
  wordChar := by rw [isWordChar_of_isAlphanumeric hc, isWordChar_of_isAlphanumeric hd]
  apostrophe := by
    have hnone {e : Char} (he : isAlphanumeric e = true) : isApostrophe e = false :=
      Bool.eq_false_iff.2 fun h => by simp [isAlphanumeric_of_isApostrophe h] at he
    rw [hnone hc, hnone hd]

theorem forall₂_append_left {α β : Type} {R : α → β → Prop} {as bs : List α} {ds : List β}
    (h : List.Forall₂ R (as ++ bs) ds) :
    ∃ as' bs', ds = as' ++ bs' ∧ List.Forall₂ R as as' ∧ List.Forall₂ R bs bs' := by
  refine ⟨ds.take as.length, ds.drop as.length, (List.take_append_drop ..).symm, ?_, ?_⟩
  · simpa using List.forall₂_take as.length h
  · simpa using List.forall₂_drop as.length h

/-- What holds of all characters of a text by their class holds of those of the other text. -/
theorem forall_mem_of_forall₂ {p : Char → Bool} {b : Bool}
    (hp : ∀ c d, Alike c d → p d = p c) {cs ds : List Char} (h : List.Forall₂ Alike cs ds)
    (hcs : ∀ c ∈ cs, p c = b) : ∀ d ∈ ds, p d = b := by
  induction h with
  | nil => simp
  | cons h _ ih =>
      obtain ⟨hc, hcs⟩ := List.forall_mem_cons.1 hcs
      exact List.forall_mem_cons.2 ⟨(hp _ _ h).trans hc, ih hcs⟩

theorem Firm.of_forall₂ {cs ds : List Char} (h : List.Forall₂ Alike cs ds)
    (hcs : Firm isApostrophe cs) : Firm isApostrophe ds where
  head := by
    obtain ⟨c, rest, rfl, hc⟩ := hcs.head
    obtain ⟨d, rest', hd, -, rfl⟩ := List.forall₂_cons_left_iff.1 h
    exact ⟨d, rest', rfl, hd.apostrophe.trans hc⟩
  last := by
    obtain ⟨front, c, rfl, hc⟩ := hcs.last
    obtain ⟨front', last, rfl, -, hlast⟩ := forall₂_append_left h
    obtain ⟨d, rest, hd, hrest, rfl⟩ := List.forall₂_cons_left_iff.1 hlast
    obtain rfl := List.forall₂_nil_left_iff.1 hrest
    exact ⟨front', d, rfl, hd.apostrophe.trans hc⟩

/-- The two pieces stand at the same place, counted in characters, of the two texts. -/
def Piece.Matches (cs ds : List Char) (w v : Piece) : Prop :=
  ∃ before chars rest before' chars' rest',
    cs = before ++ (chars ++ rest) ∧ ds = before' ++ (chars' ++ rest') ∧
      before.length = before'.length ∧ chars.length = chars'.length ∧
        w = after before chars ∧ v = after before' chars'

theorem Piece.Matches.append_right {cs ds : List Char} {w v : Piece} (h : Piece.Matches cs ds w v)
    (cs' ds' : List Char) : Piece.Matches (cs ++ cs') (ds ++ ds') w v := by
  obtain ⟨before, chars, rest, before', chars', rest', rfl, rfl, hbefore, hchars, hw, hv⟩ := h
  exact ⟨before, chars, rest ++ cs', before', chars', rest' ++ ds', by simp, by simp, hbefore,
    hchars, hw, hv⟩

theorem Piece.Matches.append_left {cs ds cs' ds' : List Char} {w v : Piece}
    (h : Piece.Matches cs ds w v) (hlength : cs'.length = ds'.length) :
    Piece.Matches (cs' ++ cs) (ds' ++ ds) (w.shift (byteLength cs'))
      (v.shift (byteLength ds')) := by
  obtain ⟨before, chars, rest, before', chars', rest', rfl, rfl, hbefore, hchars, rfl, rfl⟩ := h
  refine ⟨cs' ++ before, chars, rest, ds' ++ before', chars', rest', by simp, by simp, ?_, hchars,
    shift_after .., shift_after ..⟩
  rw [List.length_append, List.length_append, hlength, hbefore]

/-- **Texts that are alike have their words at the same places.** -/
theorem forall₂_wordPieces {cs ds : List Char} (h : List.Forall₂ Alike cs ds) :
    List.Forall₂ (Piece.Matches cs ds) (wordPieces cs) (wordPieces ds) := by
  induction cs using run_induction generalizing ds with
  | run run hrun =>
      rw [wordPieces_of_run hrun,
        wordPieces_of_run (forall_mem_of_forall₂ (fun _ _ h => h.wordChar) h hrun)]
      have hap : ∀ c d, Alike c d → isApostrophe d = isApostrophe c := fun _ _ h => h.apostrophe
      rcases wordOfRun_cases run with
        ⟨hall, hnone⟩ | ⟨lead, word, tail, rfl, hlead, hword, htail, hsome⟩
      · rw [hnone, wordOfRun_eq_none 0 (forall_mem_of_forall₂ hap h hall)]
        exact .nil
      · obtain ⟨front', tail', rfl, hfront, htail'⟩ := forall₂_append_left h
        obtain ⟨lead', word', rfl, hlead', hword'⟩ := forall₂_append_left hfront
        rw [hsome, wordOfRun_eq_some 0 (forall_mem_of_forall₂ hap hlead' hlead)
          (hword.of_forall₂ hword') (forall_mem_of_forall₂ hap htail' htail)]
        refine .cons ⟨lead, word, tail, lead', word', tail', ?_⟩ .nil
        simp [hlead'.length_eq, hword'.length_eq]
  | cut run c rest hc hrun hrest =>
      obtain ⟨run', ds', rfl, hrun', hds'⟩ := forall₂_append_left h
      obtain ⟨d, rest', hd, hrest', rfl⟩ := List.forall₂_cons_left_iff.1 hds'
      rw [wordPieces_append_cons hc, wordPieces_append_cons (hd.wordChar.trans hc)]
      refine List.rel_append ((hrun hrun').imp fun w v hwv => hwv.append_right ..) ?_
      refine List.forall₂_map_left_iff.2 (List.forall₂_map_right_iff.2 ?_)
      refine (hrest hrest').imp fun w v hwv => ?_
      have hlength : (run ++ [c]).length = (run' ++ [d]).length := by
        simp [hrun'.length_eq]
      simpa using hwv.append_left hlength

/-! ### Texts changed character by character -/

theorem map_eq_of_forall₂ {α β γ : Type} {f : α → γ} {g : β → γ} {as : List α} {bs : List β}
    (h : List.Forall₂ (fun a b => f a = g b) as bs) : as.map f = bs.map g := by
  rw [← List.forall₂_eq_eq_eq, List.forall₂_map_left_iff, List.forall₂_map_right_iff]
  exact h

section Map

variable {f : Char → Char}

theorem Piece.Matches.of_map {cs : List Char} {w v : Piece} (h : Piece.Matches cs (cs.map f) w v) :
    ∃ before, w = after before w.chars ∧ v = after (before.map f) (w.chars.map f) := by
  obtain ⟨before, chars, rest, before', chars', rest', rfl, hmap, hbefore, hchars, rfl, rfl⟩ := h
  rw [List.map_append, List.map_append] at hmap
  obtain ⟨rfl, htail⟩ := List.append_inj hmap (by rw [List.length_map, hbefore])
  obtain ⟨rfl, -⟩ := List.append_inj htail (by rw [List.length_map, hchars])
  exact ⟨before, rfl, rfl⟩

theorem forall₂_map_of_alike (hf : ∀ c, Alike c (f c)) (cs : List Char) :
    List.Forall₂ Alike cs (cs.map f) :=
  List.forall₂_map_right_iff.2 (List.forall₂_same.2 fun c _ => hf c)

/-- **The words are changed like the text.** -/
theorem chars_wordPieces_map (hf : ∀ c, Alike c (f c)) (cs : List Char) :
    (wordPieces (cs.map f)).map Piece.chars = (wordPieces cs).map fun w => w.chars.map f := by
  refine (map_eq_of_forall₂ ((forall₂_wordPieces (forall₂_map_of_alike hf cs)).imp ?_)).symm
  intro w v h
  obtain ⟨before, -, rfl⟩ := h.of_map
  rfl

theorem byteLength_map (hsize : ∀ c, (f c).utf8Size = c.utf8Size) (cs : List Char) :
    byteLength (cs.map f) = byteLength cs := by
  induction cs with
  | nil => rfl
  | cons c cs ih => rw [List.map_cons, byteLength_cons, byteLength_cons, hsize, ih]

/-- A change that keeps all sizes keeps the places of the words. -/
theorem wordPieces_map (hf : ∀ c, Alike c (f c)) (hsize : ∀ c, (f c).utf8Size = c.utf8Size)
    (cs : List Char) :
    wordPieces (cs.map f) = (wordPieces cs).map fun w => ⟨w.span, w.chars.map f⟩ := by
  rw [← List.map_id (wordPieces (cs.map f))]
  refine (map_eq_of_forall₂ ((forall₂_wordPieces (forall₂_map_of_alike hf cs)).imp ?_)).symm
  intro w v h
  obtain ⟨before, hw, rfl⟩ := h.of_map
  rw [hw]
  simp only [Piece.after, byteLength_map hsize, id]

end Map

end GradedReading.Text
