import GradedReading.Proofs.Html.Tidy
import GradedReading.Proofs.Text.Place

/-!
# GradedReading.Proofs.Html.Walk

The walk through a page, and the readable text as what is met on it.

**Key idea:** a walk meets the start of each element, what is in it, and its end, and each text with
the names of all elements around it (`Event`). The text of a page before it is tidied is what the
events leave one by one (`rawText_eq`), so that what is left of a text is decided by the elements
around it and by nothing else. A text that nobody reads can be exchanged (`readableText_fill`): the
*way* to it names its surroundings, and a page is its way filled with it (`exists_way`).
-/

namespace GradedReading.Html

open Text

/-! ### The events of a walk -/

/-- What is met on a walk through a page in document order. -/
inductive Event where
  | enter (name : String)
  /-- A text, with the names of the elements around it, the innermost one first. -/
  | text (ancestors : List String) (content : String)
  | leave (name : String)
deriving DecidableEq, Repr

mutual

/-- The events of a walk through a node inside of these elements. -/
def Node.events (ancestors : List String) : Node → List Event
  | .element name children =>
    .enter name :: (eventsAll (name :: ancestors) children ++ [.leave name])
  | .text content => [.text ancestors content]
  | .silent => []

/-- The events of a walk through several nodes. -/
def eventsAll (ancestors : List String) : List Node → List Event
  | [] => []
  | n :: ns => n.events ancestors ++ eventsAll ancestors ns

end

/-- What an event leaves in the text of the page: a line feed where a block starts, and a text
without an element around it that keeps it from being read. -/
def Event.raw : Event → List Char
  | .enter name => if isBlock name then ['\n'] else []
  | .text ancestors content => if ancestors.any isUnread then [] else content.toList
  | .leave _ => []

mutual

/-- **The text of a page is what the events leave.** -/
theorem rawText_eq (ancestors : List String) :
    ∀ n : Node, n.rawText (ancestors.any isUnread) = (n.events ancestors).flatMap Event.raw
  | .element name children => by
      have hchildren := rawTextAll_eq (name :: ancestors) children
      rw [List.any_cons, Bool.or_comm] at hchildren
      rw [Node.rawText, Node.events, hchildren, List.flatMap_cons, List.flatMap_append]
      simp [Event.raw]
  | .text content => by simp [Node.rawText, Node.events, Event.raw]
  | .silent => by simp [Node.rawText, Node.events]

theorem rawTextAll_eq (ancestors : List String) :
    ∀ ns : List Node,
      rawTextAll (ancestors.any isUnread) ns = (eventsAll ancestors ns).flatMap Event.raw
  | [] => by simp [eventsAll]
  | n :: ns => by
      rw [rawTextAll, eventsAll, rawText_eq ancestors n, rawTextAll_eq ancestors ns,
        List.flatMap_append]

end

/-- What a walk leaves of a page. -/
def Node.walked (page : Node) : List Char := (page.events []).flatMap Event.raw

theorem toList_readableText (page : Node) : page.readableText.toList = tidy page.walked := by
  rw [Node.readableText, String.toList_ofList, Node.walked, ← rawText_eq]
  rfl

/-! ### Ways -/

/-- An element with a place between its children. -/
structure Frame where
  name : String
  before : List Node
  after : List Node

/-- The element with a node at the place. -/
def Frame.fill (f : Frame) (n : Node) : Node := .element f.name (f.before ++ n :: f.after)

/-- The page with a node at the end of a way. The way begins at the innermost element. -/
def fill (way : List Frame) (n : Node) : Node := way.foldl (fun n f => f.fill n) n

theorem fill_concat (way : List Frame) (f : Frame) (n : Node) :
    fill (way ++ [f]) n = f.fill (fill way n) := by
  rw [fill, List.foldl_append]
  rfl

mutual

/-- **A text that is met on the walk stands at the end of a way**, and exchanging it changes nothing
else on the walk. -/
theorem exists_way {ancestors : List String} {before after : List Event} {as : List String}
    {content : String} :
    ∀ n : Node, n.events ancestors = before ++ .text as content :: after →
      ∃ way, n = fill way (.text content) ∧ as = way.map Frame.name ++ ancestors ∧ ∀ other,
        (fill way (.text other)).events ancestors = before ++ .text as other :: after
  | .element name children => by
      intro h
      rw [Node.events] at h
      obtain ⟨before', rfl, hinside⟩ : ∃ before', before = .enter name :: before' ∧
          eventsAll (name :: ancestors) children ++ [.leave name] =
            before' ++ .text as content :: after := by
        rcases List.cons_eq_append_iff.1 h with ⟨-, h⟩ | hinside
        · exact absurd (List.cons.inj h).1 nofun
        · exact hinside
      rcases append_eq_append_cons hinside with ⟨after', hchildren, rfl⟩ | ⟨es, rfl, hend⟩
      · obtain ⟨front, way, back, rfl, rfl, hother⟩ := exists_way_all children hchildren
        refine ⟨way ++ [⟨name, front, back⟩], ?_, by simp, fun other => ?_⟩ <;>
          rw [fill_concat, Frame.fill]
        rw [Node.events, hother]
        simp
      · rcases List.singleton_eq_append_iff.1 hend with ⟨-, h⟩ | ⟨-, h⟩
        · exact absurd (List.cons.inj h).1 nofun
        · exact absurd h (List.cons_ne_nil _ _)
  | .text old => by
      intro h
      rw [Node.events] at h
      rcases List.singleton_eq_append_iff.1 h with ⟨rfl, h⟩ | ⟨-, h⟩
      · obtain ⟨htext, rfl⟩ := List.cons.inj h
        obtain ⟨rfl, rfl⟩ := Event.text.inj htext
        exact ⟨[], rfl, rfl, fun other => by rw [fill, List.foldl_nil, Node.events]; rfl⟩
      · exact absurd h (List.cons_ne_nil _ _)
  | .silent => by
      intro h
      rw [Node.events] at h
      exact absurd h.symm (by simp)

/-- The same for several nodes. -/
theorem exists_way_all {ancestors : List String} {before after : List Event} {as : List String}
    {content : String} :
    ∀ ns : List Node, eventsAll ancestors ns = before ++ .text as content :: after →
      ∃ front way back, ns = front ++ fill way (.text content) :: back ∧
        as = way.map Frame.name ++ ancestors ∧ ∀ other,
          eventsAll ancestors (front ++ fill way (.text other) :: back) =
            before ++ .text as other :: after
  | [] => by
      intro h
      rw [eventsAll] at h
      exact absurd h.symm (by simp)
  | n :: ns => by
      intro h
      rw [eventsAll] at h
      rcases append_eq_append_cons h with ⟨after', hn, rfl⟩ | ⟨before', rfl, hns⟩
      · obtain ⟨way, rfl, rfl, hother⟩ := exists_way n hn
        refine ⟨[], way, ns, rfl, rfl, fun other => ?_⟩
        rw [List.nil_append, eventsAll, hother]
        simp
      · obtain ⟨front, way, back, rfl, rfl, hother⟩ := exists_way_all ns hns
        refine ⟨n :: front, way, back, rfl, rfl, fun other => ?_⟩
        rw [List.cons_append, eventsAll, hother, List.append_assoc]

end

/-! ### The readable text -/

/-- What the readable text of a page is like. -/
structure Node.ReadsTidily (page : Node) : Prop where
  /-- There are single spaces between words and line feeds between lines, and no other blank. -/
  layout : ∃ ls, IsLayout ls ∧ page.readableText.toList = typeset ls
  noEmptyLine : ∀ line ∈ lines page.readableText.toList, line ≠ []
  /-- The words are those that the walk leaves. -/
  words : fields page.readableText.toList = fields page.walked
  tidy : Html.tidy page.readableText.toList = page.readableText.toList
  /-- A text inside of an element that keeps it from being read can be exchanged for any other. -/
  unread : ∀ before as content after, page.events [] = before ++ .text as content :: after →
    as.any isUnread = true →
      ∃ way, page = fill way (.text content) ∧ way.map Frame.name = as ∧ ∀ other,
        (fill way (.text other)).events [] = before ++ .text as other :: after ∧
          (fill way (.text other)).readableText = page.readableText

theorem readableText_congr {page other : Node} (h : page.walked = other.walked) :
    page.readableText = other.readableText := by
  rw [← String.toList_inj, toList_readableText, toList_readableText, h]

/-- **The readable text of any page** is tidy, has the words of the page in order, and does not
depend on what is not read. -/
theorem readsTidily (page : Node) : page.ReadsTidily where
  layout := ⟨_, isLayout_wordLines _, by rw [toList_readableText, tidy_eq]⟩
  noEmptyLine line hline := by
    rw [toList_readableText, lines_tidy] at hline
    obtain ⟨l, hl, rfl⟩ := List.mem_map.1 hline
    obtain ⟨hne, hfields⟩ := isLayout_wordLines _ l hl
    exact joinWith_ne_nil hne hfields
  words := by rw [toList_readableText, fields_tidy]
  tidy := by rw [toList_readableText, tidy_tidy]
  unread before as content after h hunread := by
    obtain ⟨way, rfl, has, hother⟩ := exists_way page h
    rw [List.append_nil] at has
    refine ⟨way, rfl, has.symm, fun other => ⟨hother other, readableText_congr ?_⟩⟩
    rw [Node.walked, Node.walked, hother, hother]
    simp [Event.raw, hunread]

end GradedReading.Html
