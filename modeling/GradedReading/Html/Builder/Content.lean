import GradedReading.Html.Builder.Basic

/-!
# GradedReading.Html.Builder.Content

Steps that open and close elements and add text.

Inside a table, text and elements that do not belong there are put before the table; `placeIn` is
the one function that decides it.
-/

namespace GradedReading.Html

namespace Builder

/-- Close the innermost element. -/
def pop : Build Unit := modify fun b => { b with opened := b.opened.drop 1 }

/-- Close elements until the innermost one has the property `p`. -/
def popWhileNot (p : Builder → NodeId → Bool) : Build Unit :=
  modify fun b => { b with opened := b.opened.dropWhile (!p b ·) }

/-- Close elements up to and including one with one of these names. -/
def popThrough (names : List String) : Build Unit := do
  popWhileNot fun b id => b.isOneOf id names
  pop

/-- Close elements up to, but not including, one with one of these names. -/
def popTo (names : List String) : Build Unit := popWhileNot fun b id => b.isOneOf id names

/-- Elements whose end tag may be left out. -/
def impliedEnds : List String :=
  ["dd", "dt", "li", "option", "optgroup", "p", "rb", "rp", "rt", "rtc"]

/-- Elements whose end tag may be left out at the end of a template. -/
def impliedEndsOfTemplate : List String :=
  impliedEnds ++ ["caption", "colgroup", "tbody", "td", "tfoot", "th", "thead", "tr"]

/-- Close elements whose end tag may be left out, but none with the name `kept`. -/
def closeImplied (names : List String) (kept : String) : Build Unit :=
  popWhileNot fun b id => !b.isOneOf id (names.filter (· != kept))

/-- Where a new node goes. -/
inductive Place where
  | lastChildOf (parent : NodeId)
  | beforeTable (table fallback : NodeId)
deriving Repr

/-- Elements in which misplaced content goes before the table. -/
def fosterTargets : List String := ["table", "tbody", "tfoot", "thead", "tr"]

/-- The root element. -/
def root (b : Builder) : NodeId := b.opened.getLastD 0

/-- Where content of `target` goes. -/
def placeIn (b : Builder) (target : NodeId) : Place :=
  if b.fostering && b.isOneOf target fosterTargets then
    match b.opened.dropWhile (!b.isOneOf · ["template", "table"]) with
    | id :: outer =>
      if b.isOneOf id ["template"] then .lastChildOf id else .beforeTable id (outer.headD 0)
    | [] => .lastChildOf b.root
  else .lastChildOf target

/-- Put a node at its place. -/
def putAt (place : Place) (id : NodeId) : Build Unit :=
  modify fun b =>
    { b with
      draft := match place with
        | .lastChildOf parent => b.draft.append parent id
        | .beforeTable table fallback =>
          match (b.draft.node table).parent with
          | some _ => b.draft.insertBefore table id
          | none => b.draft.append fallback id }

/-- A new node without a place. -/
def create (kind : DraftKind) : Build NodeId :=
  modifyGet fun b =>
    let (draft, id) := b.draft.create kind
    (id, { b with draft })

/-- A new element where the current content goes. -/
def insertOnly (space : Space) (name : String) : Build NodeId := do
  let id ← create (.element space name)
  let b ← get
  putAt (b.placeIn b.current) id
  pure id

/-- A comment as the last child of a node. -/
def addCommentTo (parent : NodeId) : Build Unit := do
  let id ← create .silent
  putAt (.lastChildOf parent) id

/-- A comment where the current content goes. -/
def addComment : Build Unit := do
  let id ← create .silent
  let b ← get
  putAt (b.placeIn b.current) id

/-- Make an element the innermost one. -/
def push (id : NodeId) : Build Unit := modify fun b => { b with opened := id :: b.opened }

/-- A new element that is open from now on. -/
def insertIn (space : Space) (name : String) : Build NodeId := do
  let id ← insertOnly space name
  push id
  pure id

/-- A new open HTML element. -/
def insert (name : String) : Build Unit := do
  let _ ← insertIn .html name

/-- A new HTML element that is closed at once. -/
def insertClosed (name : String) : Build Unit := do
  let _ ← insertOnly .html name

/-- Add a character at the end of a parent's text. -/
def addCharTo (parent : NodeId) (c : Char) : Build Unit := do
  let b ← get
  match (b.draft.node parent).ends with
  | some (_, last) =>
    if b.draft.isText last then
      modify fun b => { b with draft := b.draft.addChar last c }
    else
      let id ← create (.text (String.singleton c))
      putAt (.lastChildOf parent) id
  | none =>
    let id ← create (.text (String.singleton c))
    putAt (.lastChildOf parent) id

/-- Add a character where the current content goes. -/
def addChar (c : Char) : Build Unit := do
  let b ← get
  match b.placeIn b.current with
  | .lastChildOf parent => addCharTo parent c
  | .beforeTable table fallback =>
    match (b.draft.node table).parent with
    | none => addCharTo fallback c
    | some _ =>
      match (b.draft.node table).previous with
      | some before =>
        if b.draft.isText before then
          modify fun b => { b with draft := b.draft.addChar before c }
        else
          let id ← create (.text (String.singleton c))
          putAt (.beforeTable table fallback) id
      | none =>
        let id ← create (.text (String.singleton c))
        putAt (.beforeTable table fallback) id

/-- Close a paragraph. -/
def closeParagraph : Build Unit := do
  closeImplied impliedEnds "p"
  popThrough ["p"]

/-- Close a paragraph that is open within a button. -/
def closeOpenParagraph : Build Unit := do
  if (← get).inScope .button ["p"] then closeParagraph

/-- Open an element whose content is text without markup. -/
def insertText (name : String) (kind : TextKind) : Build Unit := do
  insert name
  modify fun b => { b with returnMode := b.mode, mode := .text, wanted := some kind }

end Builder

end GradedReading.Html
