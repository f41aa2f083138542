import GradedReading.Html.Page
import GradedReading.Proofs.Html.Walk
import Mathlib

/-!
# GradedReading.Proofs.Html.Blocks

Which texts of a page share a line.

**Key idea:** tidying moves no visible character past another one, so that each visible character of
the readable text comes from one event of the walk (`Node.Traces`, which at most one account of the
lines satisfies). Two visible characters share a line exactly if the walk leaves no line feed
between them (`shares_glyphLines_iff`). A block leaves one where it starts, and none where it ends:
text after the end of a block goes on in the line of the block's last text.
-/

namespace GradedReading.Html

open Text

/-- A character of a page with the number of the event that it comes from. -/
structure Glyph where
  event : Nat
  char : Char
deriving DecidableEq, Repr

namespace Glyph

def isVisible (g : Glyph) : Bool := !isBlank g.char

def isLineFeed (g : Glyph) : Bool := g.char == '\n'

theorem isLineFeed_of_isVisible {g : Glyph} (h : g.isVisible = true) : g.isLineFeed = false := by
  by_contra hfeed
  rw [isVisible, eq_of_beq (Bool.of_not_eq_false hfeed)] at h
  exact absurd h (by decide)

theorem forall_isLineFeed_iff {gs : List Glyph} :
    (∀ g ∈ gs, g.isLineFeed = false) ↔ '\n' ∉ gs.map char := by
  simp [isLineFeed]

@[simp] theorem map_char_mk (n : Nat) (cs : List Char) : (cs.map (mk n)).map char = cs := by
  rw [List.map_map]
  exact List.map_id cs

end Glyph

/-- What events leave, if the first of them has the number `n`. -/
def glyphsFrom (n : Nat) : List Event → List Glyph
  | [] => []
  | e :: es => e.raw.map (Glyph.mk n) ++ glyphsFrom (n + 1) es

theorem glyphsFrom_append (n : Nat) (es fs : List Event) :
    glyphsFrom n (es ++ fs) = glyphsFrom n es ++ glyphsFrom (n + es.length) fs := by
  induction es generalizing n with
  | nil => rfl
  | cons e es ih =>
      rw [List.cons_append, glyphsFrom, glyphsFrom, ih, List.append_assoc, List.length_cons,
        Nat.add_assoc, Nat.add_comm 1]

theorem map_char_glyphsFrom (n : Nat) (es : List Event) :
    (glyphsFrom n es).map Glyph.char = es.flatMap Event.raw := by
  induction es generalizing n with
  | nil => rfl
  | cons e es ih =>
      rw [glyphsFrom, List.map_append, Glyph.map_char_mk, ih, List.flatMap_cons]

theorem event_of_mem_glyphsFrom {n : Nat} {es : List Event} {g : Glyph} (h : g ∈ glyphsFrom n es) :
    n ≤ g.event ∧ g.event < n + es.length := by
  induction es generalizing n with
  | nil => exact absurd h List.not_mem_nil
  | cons e es ih =>
      rcases List.mem_append.1 h with h | h
      · obtain ⟨c, -, rfl⟩ := List.mem_map.1 h
        simp
      · have hlater := ih h
        rw [List.length_cons]
        omega

/-! ### Lines of glyphs -/

/-- The visible glyphs of each line that has one. -/
def glyphLines (gs : List Glyph) : List (List Glyph) :=
  ((gs.splitOnP Glyph.isLineFeed).map (·.filter Glyph.isVisible)).filter (!·.isEmpty)

theorem glyphLines_append_cons {g : Glyph} (hg : g.isLineFeed = true) (gs hs : List Glyph) :
    glyphLines (gs ++ g :: hs) = glyphLines gs ++ glyphLines hs := by
  rw [glyphLines, List.splitOnP_append_cons gs hs hg, List.map_append, List.filter_append]
  rfl

/-- The lines hold all visible glyphs, in order. -/
theorem flatten_glyphLines (gs : List Glyph) :
    (glyphLines gs).flatten = gs.filter Glyph.isVisible := by
  rw [glyphLines, List.flatten_filter_not_isEmpty, ← List.filter_flatten, flatten_splitOnP,
    List.filter_filter]
  refine List.filter_congr fun g _ => ?_
  cases hvisible : g.isVisible
  · rfl
  · rw [Glyph.isLineFeed_of_isVisible hvisible]
    rfl

theorem map_char_glyphLines (gs : List Glyph) :
    (glyphLines gs).map (·.map Glyph.char) = (lines (tidy (gs.map Glyph.char))).map visible := by
  have hvisible (hs : List Glyph) :
      visible (hs.map Glyph.char) = (hs.filter Glyph.isVisible).map Glyph.char := by
    rw [visible, List.filter_map]
    rfl
  have hcompose : visible ∘ List.map Glyph.char =
      List.map Glyph.char ∘ List.filter Glyph.isVisible := funext hvisible
  rw [map_visible_lines_tidy, splitOnP_map, List.map_map, hcompose, ← List.map_map]
  conv_rhs => rw [List.filter_map]
  refine congrArg _ (List.filter_congr fun line _ => ?_)
  rw [Function.comp_apply, List.isEmpty_map]

/-! ### Where the readable text comes from -/

/-- The readable text line by line, with the event that each visible character comes from: the
lines are those of the readable text, and the characters are those that the walk leaves, in the same
order. -/
structure Node.Traces (page : Node) (ls : List (List Glyph)) : Prop where
  shown : ls.map (·.map Glyph.char) = (lines page.readableText.toList).map visible
  origin : ls.flatten = (glyphsFrom 0 (page.events [])).filter Glyph.isVisible

theorem traces_glyphLines (page : Node) :
    page.Traces (glyphLines (glyphsFrom 0 (page.events []))) where
  shown := by rw [map_char_glyphLines, map_char_glyphsFrom, toList_readableText, Node.walked]
  origin := flatten_glyphLines _

/-- There is one account of where the readable text comes from. -/
theorem Node.Traces.unique {page : Node} {ls ls' : List (List Glyph)} (h : page.Traces ls)
    (h' : page.Traces ls') : ls = ls' := by
  refine List.eq_iff_flatten_eq.2 ⟨h.origin.trans h'.origin.symm, ?_⟩
  have hlength (ms : List (List Glyph)) :
      ms.map List.length = (ms.map (·.map Glyph.char)).map List.length := by
    rw [List.map_map]
    exact List.map_congr_left fun l _ => (List.length_map ..).symm
  rw [hlength ls, hlength ls', h.shown, h'.shown]

/-- Some line has a character of the one event and one of the other. -/
def Shares (ls : List (List Glyph)) (i j : Nat) : Prop :=
  ∃ line ∈ ls, (∃ g ∈ line, g.event = i) ∧ ∃ g ∈ line, g.event = j

theorem of_mem_glyphLines {gs line : List Glyph} {g : Glyph} (hline : line ∈ glyphLines gs)
    (hg : g ∈ line) : g ∈ gs ∧ g.isVisible = true := by
  have hmem : g ∈ (glyphLines gs).flatten := List.mem_flatten.2 ⟨line, hline, hg⟩
  rwa [flatten_glyphLines, List.mem_filter] at hmem

/-- **Two events share a line exactly if no line feed is left between them**, that is between the
last visible glyph of the one and the first of the other. -/
theorem shares_glyphLines_iff {before between after : List Glyph} {g h : Glyph}
    (hg : g.isVisible = true) (hh : h.isVisible = true)
    (hbefore : ∀ x ∈ before ++ g :: between, x.isVisible = true → x.event ≠ h.event)
    (hafter : ∀ x ∈ between ++ h :: after, x.isVisible = true → x.event ≠ g.event) :
    Shares (glyphLines (before ++ g :: (between ++ h :: after))) g.event h.event ↔
      ∀ x ∈ between, x.isLineFeed = false := by
  constructor
  · rintro ⟨line, hline, ⟨x, hx, hxg⟩, y, hy, hyh⟩
    by_contra hfeed
    obtain ⟨z, hz, hzfeed⟩ : ∃ z ∈ between, z.isLineFeed = true := by simpa using hfeed
    obtain ⟨front, back, rfl⟩ := List.append_of_mem hz
    rw [List.append_assoc, List.cons_append, ← List.cons_append, ← List.append_assoc,
      glyphLines_append_cons hzfeed, List.mem_append] at hline
    rcases hline with hline | hline
    · obtain ⟨hmem, hvisible⟩ := of_mem_glyphLines hline hy
      refine hbefore y ?_ hvisible hyh
      simp only [List.mem_append, List.mem_cons] at hmem ⊢
      tauto
    · obtain ⟨hmem, hvisible⟩ := of_mem_glyphLines hline hx
      refine hafter x ?_ hvisible hxg
      simp only [List.mem_append, List.mem_cons] at hmem ⊢
      tauto
  · intro hbetween
    have hrun : ∀ x ∈ g :: (between ++ [h]), x.isLineFeed = false := by
      intro x hx
      simp only [List.mem_cons, List.mem_append, List.not_mem_nil, or_false] at hx
      rcases hx with rfl | hx | rfl
      · exact Glyph.isLineFeed_of_isVisible hg
      · exact hbetween x hx
      · exact Glyph.isLineFeed_of_isVisible hh
    obtain ⟨piece, hpiece, hpart⟩ := exists_infix_mem_splitOnP hrun before after
    have hgs : before ++ (g :: (between ++ [h]) ++ after) =
        before ++ g :: (between ++ h :: after) := by simp
    rw [hgs] at hpiece
    have hmem {x : Glyph} (hx : x ∈ g :: (between ++ [h])) (hvisible : x.isVisible = true) :
        x ∈ piece.filter Glyph.isVisible :=
      List.mem_filter.2 ⟨hpart.subset hx, hvisible⟩
    have hgmem := hmem (by simp) hg
    refine ⟨piece.filter Glyph.isVisible, ?_, ⟨g, hgmem, rfl⟩, h, hmem (by simp) hh, rfl⟩
    rw [glyphLines, List.mem_filter]
    exact ⟨List.mem_map_of_mem hpiece, by simpa using List.ne_nil_of_mem hgmem⟩

/-- Two events with all others before, between and after them: what is left between them are the
blanks at the end of the one, what the events between them leave, and the blanks at the start of the
other. -/
theorem shares_events_iff {i j : Nat} {front tail lead back : List Char} {c c' : Char}
    {first inner last : List Glyph} (hc : isBlank c = false) (hc' : isBlank c' = false)
    (htail : ∀ x ∈ tail, isBlank x = true) (hlead : ∀ x ∈ lead, isBlank x = true) (hij : i < j)
    (hfirst : ∀ x ∈ first, x.event < i) (hinner : ∀ x ∈ inner, i < x.event ∧ x.event < j)
    (hlast : ∀ x ∈ last, j < x.event) :
    Shares (glyphLines (first ++ ((front ++ c :: tail).map (.mk i) ++
        (inner ++ ((lead ++ c' :: back).map (.mk j) ++ last))))) i j ↔
      '\n' ∉ tail ++ (inner.map Glyph.char ++ lead) := by
  -- the glyphs, cut around the two visible characters
  have hglyphs : first ++ ((front ++ c :: tail).map (.mk i) ++
        (inner ++ ((lead ++ c' :: back).map (.mk j) ++ last))) =
      first ++ front.map (.mk i) ++ ⟨i, c⟩ :: (tail.map (.mk i) ++ (inner ++ lead.map (.mk j)) ++
        ⟨j, c'⟩ :: (back.map (.mk j) ++ last)) := by
    simp
  rw [hglyphs]
  refine (shares_glyphLines_iff (g := ⟨i, c⟩) (h := ⟨j, c'⟩) (by simp [Glyph.isVisible, hc])
    (by simp [Glyph.isVisible, hc']) ?_ ?_).trans ?_
  · intro x hx hvisible
    simp only [List.mem_append, List.mem_cons, List.mem_map] at hx
    rcases hx with (hx | ⟨y, -, rfl⟩) | rfl | ⟨y, -, rfl⟩ | hx | ⟨y, hy, rfl⟩
    · exact Nat.ne_of_lt ((hfirst x hx).trans hij)
    · exact Nat.ne_of_lt hij
    · exact Nat.ne_of_lt hij
    · exact Nat.ne_of_lt hij
    · exact Nat.ne_of_lt (hinner x hx).2
    · simp [Glyph.isVisible, hlead y hy] at hvisible
  · intro x hx hvisible
    simp only [List.mem_append, List.mem_cons, List.mem_map] at hx
    rcases hx with (⟨y, hy, rfl⟩ | hx | ⟨y, -, rfl⟩) | rfl | ⟨y, -, rfl⟩ | hx
    · simp [Glyph.isVisible, htail y hy] at hvisible
    · exact Nat.ne_of_gt (hinner x hx).1
    · exact Nat.ne_of_gt hij
    · exact Nat.ne_of_gt hij
    · exact Nat.ne_of_gt hij
    · exact Nat.ne_of_gt (hij.trans (hlast x hx))
  · rw [Glyph.forall_isLineFeed_iff, List.map_append, List.map_append, Glyph.map_char_mk,
      Glyph.map_char_mk]

/-! ### Texts of a page -/

/-- A text that is read and has a visible character. -/
def Event.IsShown : Event → Prop
  | .text ancestors content =>
    ancestors.any isUnread = false ∧ ∃ c ∈ content.toList, isBlank c = false
  | _ => False

theorem Event.IsShown.exists_visible {e : Event} (h : e.IsShown) :
    ∃ c ∈ e.raw, isBlank c = false := by
  cases e with
  | enter | leave => exact h.elim
  | text ancestors content =>
      rw [Event.raw, h.1]
      exact h.2

/-- The page shows the text `d` and later the text `e`, with these events before, between and after
them. -/
structure Node.ShowsInTurn (page : Node) (before : List Event) (d : Event) (between : List Event)
    (e : Event) (after : List Event) : Prop where
  events : page.events [] = before ++ d :: (between ++ e :: after)
  first : d.IsShown
  second : e.IsShown

/-- What is left from the last visible character of `d` to the first visible character of `e`. -/
def leftBetween (d : Event) (between : List Event) (e : Event) : List Char :=
  d.raw.rtakeWhile isBlank ++ (between.flatMap Event.raw ++ e.raw.takeWhile isBlank)

/-- **Two texts share a line exactly if no line feed is left between them.** -/
theorem Node.ShowsInTurn.shares_iff {page : Node} {before between after : List Event} {d e : Event}
    (h : page.ShowsInTurn before d between e after) :
    Shares (glyphLines (glyphsFrom 0 (page.events []))) before.length
        (before.length + 1 + between.length) ↔ '\n' ∉ leftBetween d between e := by
  obtain ⟨front, c, hd, hc⟩ := exists_last_visible h.first.exists_visible
  obtain ⟨c', back, he, hc'⟩ := exists_first_visible h.second.exists_visible
  have hglyphs : glyphsFrom 0 (page.events []) =
      glyphsFrom 0 before ++ (d.raw.map (.mk before.length) ++
        (glyphsFrom (before.length + 1) between ++
          (e.raw.map (.mk (before.length + 1 + between.length)) ++
            glyphsFrom (before.length + 1 + between.length + 1) after))) := by
    rw [h.events, glyphsFrom_append, Nat.zero_add, glyphsFrom, glyphsFrom_append, glyphsFrom]
  have htail : ∀ x ∈ d.raw.rtakeWhile isBlank, isBlank x = true := fun _ =>
    List.mem_rtakeWhile_imp
  have hlead : ∀ x ∈ e.raw.takeWhile isBlank, isBlank x = true := fun _ => List.mem_takeWhile_imp
  rw [hglyphs, leftBetween, ← map_char_glyphsFrom (before.length + 1)]
  generalize d.raw.rtakeWhile isBlank = tail at hd htail ⊢
  generalize e.raw.takeWhile isBlank = lead at he hlead ⊢
  rw [hd, he]
  exact shares_events_iff hc hc' htail hlead (by omega)
    (fun x hx => by simpa using (event_of_mem_glyphsFrom hx).2)
    (fun x hx => event_of_mem_glyphsFrom hx) (fun x hx => (event_of_mem_glyphsFrom hx).1)

/-- The start of a block leaves a line feed. -/
theorem lineFeed_mem_leftBetween {d e : Event} {between : List Event} {name : String}
    (h : .enter name ∈ between) (hname : isBlock name = true) :
    '\n' ∈ leftBetween d between e := by
  refine List.mem_append_right _ (List.mem_append_left _ (List.mem_flatMap.2 ⟨_, h, ?_⟩))
  rw [Event.raw, if_pos hname]
  exact List.mem_singleton_self _

/-- **Where a block starts, a line starts.** Each visible character of the readable text comes from
one text of the page, and two texts share a line exactly if no line feed is left between them, so
that the start of a block keeps what is before it from what is after it. -/
theorem exists_traces_apart (page : Node) :
    ∃ ls, page.Traces ls ∧ (∀ ls', page.Traces ls' → ls' = ls) ∧
      ∀ before d between e after, page.ShowsInTurn before d between e after →
        (Shares ls before.length (before.length + 1 + between.length) ↔
            '\n' ∉ leftBetween d between e) ∧
          ((∃ name, .enter name ∈ between ∧ isBlock name = true) →
            ¬Shares ls before.length (before.length + 1 + between.length)) := by
  refine ⟨_, traces_glyphLines page, fun ls' h' => h'.unique (traces_glyphLines page), ?_⟩
  intro before d between e after h
  refine ⟨h.shares_iff, ?_⟩
  rintro ⟨name, hname, hblock⟩ hshares
  exact h.shares_iff.1 hshares (lineFeed_mem_leftBetween hname hblock)

/-- The end of a block does not: a text after a paragraph goes on in its line. -/
theorem not_apart_paragraph :
    ¬∀ (page : String) (ls : List (List Glyph)) (before : List Event) (d : Event)
      (between : List Event) (e : Event) (after : List Event), (parsePage page).Traces ls →
        (parsePage page).ShowsInTurn before d between e after →
          (∃ name, (.enter name ∈ between ∨ .leave name ∈ between) ∧ isBlock name = true) →
            ¬Shares ls before.length (before.length + 1 + between.length) := by
  intro hall
  have hshown (as : List String) (content : String) (has : as.any isUnread = false)
      (hcontent : content.toList.any (!isBlank ·) = true) : (Event.text as content).IsShown := by
    refine ⟨has, ?_⟩
    simpa using hcontent
  have hpage : parsePage "<p>one</p>two" = .element "#page" [.element "html" [.element "head" [],
      .element "body" [.element "p" [.text "one"], .text "two"]]] := by cbv
  have hapart := hall "<p>one</p>two"
  rw [hpage] at hapart
  refine hapart _
    [.enter "#page", .enter "html", .enter "head", .leave "head", .enter "body", .enter "p"]
    (.text ["p", "body", "html", "#page"] "one") [.leave "p"]
    (.text ["body", "html", "#page"] "two") [.leave "body", .leave "html", .leave "#page"]
    (traces_glyphLines _)
    ⟨by decide +kernel, hshown _ _ (by decide) (by decide), hshown _ _ (by decide) (by decide)⟩
    ⟨"p", .inr (by decide), by decide⟩ ?_
  refine ⟨[⟨6, 'o'⟩, ⟨6, 'n'⟩, ⟨6, 'e'⟩, ⟨8, 't'⟩, ⟨8, 'w'⟩, ⟨8, 'o'⟩], by decide +kernel,
    ⟨⟨6, 'o'⟩, by decide, rfl⟩, ⟨8, 't'⟩, by decide, rfl⟩

end GradedReading.Html
