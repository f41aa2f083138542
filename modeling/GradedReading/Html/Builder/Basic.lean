import GradedReading.Html.Draft
import GradedReading.Html.Token

/-!
# GradedReading.Html.Builder.Basic

The state in which a page's tree is built, and what can be asked of it.

**Key idea:** two lists steer the construction. The *open elements* are those whose end has not
come, the innermost first. The *formatting list* holds elements such as `b` and `i`, the latest
first, that are opened again wherever text follows after their parent was closed.

A *scope* says how far outwards an end tag looks for the element that it closes.
-/

namespace GradedReading.Html

/-- Where in a page the construction is; each mode has its own rules. -/
inductive Mode where
  | initial
  | beforeHtml
  | beforeHead
  | inHead
  | afterHead
  | inBody
  | text
  | inTable
  | inTableText
  | inCaption
  | inColumnGroup
  | inTableBody
  | inRow
  | inCell
  | inSelect
  | inSelectInTable
  | inTemplate
  | afterBody
  | inFrameset
  | afterFrameset
  | afterAfterBody
  | afterAfterFrameset
deriving DecidableEq, Repr, Inhabited

/-- An entry of the formatting list. -/
inductive FormatEntry where
  /-- Nothing behind it is opened again. -/
  | marker
  | element (id : NodeId) (tag : Tag)
deriving Repr, Inhabited

/-- The construction so far. -/
structure Builder where
  draft : Draft
  /-- Open elements, the innermost first. -/
  opened : List NodeId
  /-- Formatting elements, the latest first. -/
  formats : List FormatEntry
  mode : Mode
  /-- The mode to go back to after a text. -/
  returnMode : Mode
  /-- Modes of the open templates, the innermost first. -/
  templateModes : List Mode
  head : Option NodeId
  form : Option NodeId
  framesetOk : Bool
  /-- The page follows old rules for tables in paragraphs. -/
  oldRules : Bool
  /-- Content goes before the table that it stands in. -/
  fostering : Bool
  /-- The characters of a table's text, the latest first. -/
  tableText : List Char
  /-- A line feed that comes next is dropped. -/
  dropLineFeed : Bool
  /-- How the text after the current tag is to be read. -/
  wanted : Option TextKind
deriving Repr, Inhabited

/-- A step of the construction. -/
abbrev Build := StateM Builder

/-- What a rule makes of a token. -/
inductive Verdict where
  | done
  /-- The rules of the mode that is now in force get the token. -/
  | again
deriving DecidableEq, Repr, Inhabited

namespace Builder

/-- Before the first token. -/
def start : Builder :=
  { draft := .empty, opened := [], formats := [], mode := .initial, returnMode := .initial
    templateModes := [], head := none, form := none, framesetOk := true, oldRules := false
    fostering := false, tableText := [], dropLineFeed := false, wanted := none }

/-! ### Names -/

/-- The name of an element of HTML proper. -/
def htmlName (b : Builder) (id : NodeId) : Option String :=
  match b.draft.elementName id with
  | some (.html, name) => some name
  | _ => none

/-- The element is an HTML element with one of these names. -/
def isOneOf (b : Builder) (id : NodeId) (names : List String) : Bool :=
  match b.htmlName id with
  | some name => names.contains name
  | none => false

/-- The innermost open element; the page when there is none. -/
def current (b : Builder) : NodeId := b.opened.headD 0

/-- The innermost open element has one of these names. -/
def currentIs (b : Builder) (names : List String) : Bool := b.isOneOf b.current names

/-- Some open element has this name. -/
def hasOpen (b : Builder) (name : String) : Bool := b.opened.any (b.isOneOf · [name])

/-- Elements of MathML that hold ordinary text. -/
def isMathText (b : Builder) (id : NodeId) : Bool :=
  match b.draft.elementName id with
  | some (.mathml, name) => ["mi", "mo", "mn", "ms", "mtext"].contains name
  | _ => false

/-- Elements of SVG that hold ordinary HTML. -/
def isSvgHtml (b : Builder) (id : NodeId) : Bool :=
  match b.draft.elementName id with
  | some (.svg, name) => ["foreignobject", "desc", "title"].contains name.toLower
  | _ => false

/-! ### Scopes -/

/-- How far to look outwards for an open element. -/
inductive Scope where
  | standard
  | listItem
  | button
  | table
  | select
deriving DecidableEq, Repr

/-- Elements at which the standard scope ends. -/
def scopeEnds : List String :=
  ["applet", "caption", "html", "table", "td", "th", "marquee", "object", "template"]

/-- The scope ends at this element. -/
def endsScope (b : Builder) (s : Scope) (id : NodeId) : Bool :=
  let standard := b.isOneOf id scopeEnds || b.isMathText id || b.isSvgHtml id
  match s with
  | .standard => standard
  | .listItem => standard || b.isOneOf id ["ol", "ul"]
  | .button => standard || b.isOneOf id ["button"]
  | .table => b.isOneOf id ["html", "table", "template"]
  | .select => !b.isOneOf id ["optgroup", "option"]

/-- An open element with the property `p` comes before the end of the scope. -/
def inScopeWhere (b : Builder) (s : Scope) (p : NodeId → Bool) : Bool :=
  match b.opened.find? fun id => p id || b.endsScope s id with
  | some id => p id
  | none => false

/-- An open element with one of these names comes before the end of the scope. -/
def inScope (b : Builder) (s : Scope) (names : List String) : Bool :=
  b.inScopeWhere s (b.isOneOf · names)

/-! ### Modes -/

/-- Go to another mode. -/
def setMode (m : Mode) : Build Unit := modify fun b => { b with mode := m }

/-- Framesets are no longer possible. -/
def noFrameset : Build Unit := modify fun b => { b with framesetOk := false }

/-- The mode that belongs to the open elements, from the innermost outwards. -/
def modeFrom (b : Builder) : List NodeId → Mode
  | [] => .inBody
  | id :: outer =>
    let last := outer.isEmpty
    match b.htmlName id with
    | some "select" =>
      match outer.find? (b.isOneOf · ["template", "table"]) with
      | some o => if b.isOneOf o ["table"] then .inSelectInTable else .inSelect
      | none => .inSelect
    | some "td" => if last then .inBody else .inCell
    | some "th" => if last then .inBody else .inCell
    | some "tr" => .inRow
    | some "tbody" => .inTableBody
    | some "thead" => .inTableBody
    | some "tfoot" => .inTableBody
    | some "caption" => .inCaption
    | some "colgroup" => .inColumnGroup
    | some "table" => .inTable
    | some "template" => b.templateModes.headD .inBody
    | some "head" => if last then .inBody else .inHead
    | some "body" => .inBody
    | some "frameset" => .inFrameset
    | some "html" => if b.head.isSome then .afterHead else .beforeHead
    | _ => modeFrom b outer

/-- Go to the mode that belongs to the open elements. -/
def resetMode : Build Unit := modify fun b => { b with mode := b.modeFrom b.opened }

end Builder

end GradedReading.Html
