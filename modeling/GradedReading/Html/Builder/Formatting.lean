import GradedReading.Html.Builder.Content

/-!
# GradedReading.Html.Builder.Formatting

Formatting elements: which are opened again after their parent was closed, and what happens when
they overlap other elements.

**Key idea:** an end tag such as that of `b` may come while other elements are open inside. The
nearest of these with rules of its own, the *block*, is taken out of the formatting element, and a
copy of the formatting element is put around the block's content. `misnest` repeats such rounds, at
most eight of them.
-/

namespace GradedReading.Html

namespace Builder

/-! ### The formatting list -/

/-- The entries back to the last marker. -/
def recentFormats (b : Builder) : List (NodeId × Tag) :=
  (b.formats.takeWhile fun e => match e with
    | .marker => false
    | .element .. => true).filterMap fun e =>
      match e with
      | .marker => none
      | .element id tag => some (id, tag)

/-- The entry is this element. -/
def FormatEntry.isElement (e : FormatEntry) (id : NodeId) : Bool :=
  match e with
  | .marker => false
  | .element id' _ => id' == id

/-- The position of an element in the formatting list. -/
def formatPosition (b : Builder) (id : NodeId) : Option Nat :=
  b.formats.findIdx? (FormatEntry.isElement · id)

/-- Take an element off the formatting list. -/
def dropFormat (id : NodeId) : Build Unit :=
  modify fun b => { b with formats := b.formats.filter (!FormatEntry.isElement · id) }

/-- Take an element off the open elements. -/
def dropOpened (id : NodeId) : Build Unit :=
  modify fun b => { b with opened := b.opened.filter (· != id) }

/-- Keep formatting elements of outside from being opened again inside. -/
def pushMarker : Build Unit := modify fun b => { b with formats := .marker :: b.formats }

/-- Forget the formatting elements back to the last marker, and the marker. -/
def clearToMarker : Build Unit :=
  modify fun b =>
    { b with
      formats := (b.formats.dropWhile fun e => match e with
        | .marker => false
        | .element .. => true).drop 1 }

/-- The same tag up to the order of attributes. -/
def sameTag (x y : Tag) : Bool :=
  x.name == y.name && x.attributes.all (y.attributes.contains ·) &&
    y.attributes.all (x.attributes.contains ·)

/-- Open a formatting element. Of the same tag at most three are kept in the list. -/
def insertFormat (tag : Tag) : Build Unit := do
  let alike := (← get).recentFormats.filter fun e => sameTag e.2 tag
  if alike.length ≥ 3 then
    match alike.getLast? with
    | some (id, _) => dropFormat id
    | none => pure ()
  let id ← insertIn .html tag.name
  modify fun b => { b with formats := .element id tag :: b.formats }

/-- The formatting elements at the front of the list that are no longer open, the latest first. -/
def closedFormats (b : Builder) : List (NodeId × Tag) :=
  b.recentFormats.takeWhile fun e => !b.opened.contains e.1

/-- Open one formatting element again, in the place of its old entry. -/
def reopen (old : NodeId) (tag : Tag) : Build Unit := do
  let id ← insertIn .html tag.name
  modify fun b =>
    { b with
      formats := b.formats.map fun e =>
        if FormatEntry.isElement e old then .element id tag else e }

/-- Open the formatting elements again that were closed by the end of their parents. -/
def reconstruct : Build Unit := do
  for (old, tag) in (← get).closedFormats.reverse do
    reopen old tag

/-! ### Overlapping elements -/

/-- Elements with rules of their own. -/
def specialElements : List String :=
  ["address", "applet", "area", "article", "aside", "base", "basefont", "bgsound", "blockquote",
   "body", "br", "button", "caption", "center", "col", "colgroup", "dd", "details", "dir", "div",
   "dl", "dt", "embed", "fieldset", "figcaption", "figure", "footer", "form", "frame", "frameset",
   "h1", "h2", "h3", "h4", "h5", "h6", "head", "header", "hgroup", "hr", "html", "iframe", "img",
   "input", "isindex", "li", "link", "listing", "main", "marquee", "menu", "meta", "nav",
   "noembed", "noframes", "noscript", "object", "ol", "p", "param", "plaintext", "pre", "script",
   "section", "select", "source", "style", "summary", "table", "tbody", "td", "template",
   "textarea", "tfoot", "th", "thead", "title", "tr", "track", "ul", "wbr", "xmp"]

/-- The element has rules of its own. -/
def isSpecial (b : Builder) (id : NodeId) : Bool := b.isOneOf id specialElements

/-- The end tag of an ordinary element: close it, unless an element with rules of its own is open
inside it. -/
def closeOrdinary (name : String) : Build Unit := do
  let b ← get
  match b.opened.find? fun id => b.isOneOf id [name] || b.isSpecial id with
  | none => pure ()
  | some id =>
    if b.isOneOf id [name] then
      closeImplied impliedEnds name
      modify fun b => { b with opened := (b.opened.dropWhile (· != id)).drop 1 }

/-- Where the new formatting element goes in the list. -/
inductive Bookmark where
  | replace (id : NodeId)
  | before (id : NodeId)
deriving Repr

/-- Walk outwards from the block to the formatting element over the elements `between`, the
innermost first. The nearest three that are formatting elements are renewed and wrapped around the
content, the others are closed. Returns the outermost node of the chain and the bookmark. -/
def renewBetween (block : NodeId) :
    Nat → List NodeId → NodeId → Bookmark → Build (NodeId × Bookmark)
  | _, [], last, mark => pure (last, mark)
  | count, id :: outer, last, mark => do
    let b ← get
    let entry := b.formats.find? (FormatEntry.isElement · id)
    match entry with
    | some (.element _ tag) =>
      if count ≥ 3 then
        dropFormat id
        dropOpened id
        renewBetween block (count + 1) outer last mark
      else
        let fresh ← create (.element .html tag.name)
        modify fun b =>
          { b with
            opened := b.opened.map fun o => if o == id then fresh else o
            formats := b.formats.map fun e =>
              if FormatEntry.isElement e id then .element fresh tag else e
            draft := (b.draft.detach last).append fresh last }
        renewBetween block (count + 1) outer fresh
          (if last == block then .before fresh else mark)
    | _ =>
      dropOpened id
      renewBetween block (count + 1) outer last mark

/-- Put a new entry into the formatting list at the bookmark, and take the old one off. -/
def placeFormat (mark : Bookmark) (old : NodeId) (entry : FormatEntry) : Build Unit :=
  modify fun b =>
    { b with
      formats := match mark with
        | .replace id => b.formats.map fun e => if FormatEntry.isElement e id then entry else e
        | .before id =>
          (b.formats.flatMap fun e =>
            if FormatEntry.isElement e id then [entry, e] else [e]).filter
              (!FormatEntry.isElement · old) }

/-- One round of resolving an end tag for a formatting element that overlaps others. The answer
says whether another round may follow. -/
def misnestRound (name : String) : Build Bool := do
  let b ← get
  match b.recentFormats.find? (·.2.name == name) with
  | none =>
    closeOrdinary name
    pure false
  | some (format, tag) =>
    if !b.opened.contains format then
      dropFormat format
      pure false
    else if !b.inScopeWhere .standard (· == format) then pure false
    else
      let inner := b.opened.takeWhile (· != format)
      match (inner.reverse.find? b.isSpecial) with
      | none =>
        modify fun b => { b with opened := (b.opened.dropWhile (· != format)).drop 1 }
        dropFormat format
        pure false
      | some block =>
        let ancestor := ((b.opened.dropWhile (· != format)).drop 1).headD 0
        let between := (inner.dropWhile (· != block)).drop 1
        let (last, mark) ← renewBetween block 0 between block (.replace format)
        modify fun b => { b with draft := b.draft.detach last }
        putAt ((← get).placeIn ancestor) last
        let fresh ← create (.element .html tag.name)
        modify fun b => { b with draft := (b.draft.moveChildren block fresh).append block fresh }
        placeFormat mark format (.element fresh tag)
        dropOpened format
        modify fun b =>
          { b with
            opened := b.opened.flatMap fun o => if o == block then [fresh, o] else [o] }
        pure true

/-- Up to `n` rounds. -/
def misnestRounds (name : String) : Nat → Build Unit
  | 0 => pure ()
  | n + 1 => do
    if ← misnestRound name then misnestRounds name n

/-- The end tag of a formatting element, which may overlap other elements. -/
def misnest (name : String) : Build Unit := do
  let b ← get
  if b.currentIs [name] && (b.formatPosition b.current).isNone then pop
  else misnestRounds name 8

end Builder

end GradedReading.Html
