import GradedReading.Html.Rules.Select
import GradedReading.Html.Rules.Table
import GradedReading.Html.Rules.Template

/-!
# GradedReading.Html.Rules.Foreign

The rules for drawings and formulas, and the choice of the rules that a token is treated by.

A drawing or a formula has rules of its own, whatever the mode, until a tag breaks out of it.
-/

namespace GradedReading.Html

namespace Builder

/-- The rules of a mode. -/
def rulesOf : Mode → Token → Build Verdict
  | .initial => initial
  | .beforeHtml => beforeHtml
  | .beforeHead => beforeHead
  | .inHead => inHead
  | .afterHead => afterHead
  | .inBody => inBody
  | .text => inText
  | .inTable => inTable
  | .inTableText => inTableText
  | .inCaption => inCaption
  | .inColumnGroup => inColumnGroup
  | .inTableBody => inTableBody
  | .inRow => inRow
  | .inCell => inCell
  | .inSelect => inSelect
  | .inSelectInTable => inSelectInTable
  | .inTemplate => inTemplate
  | .afterBody => afterBody
  | .inFrameset => inFrameset
  | .afterFrameset => afterFrameset
  | .afterAfterBody => afterAfterBody
  | .afterAfterFrameset => afterAfterFrameset

/-! ### Other vocabularies -/

/-- Start tags that end a drawing or a formula. -/
def breakoutTags : List String :=
  ["b", "big", "blockquote", "body", "br", "center", "code", "dd", "div", "dl", "dt", "em",
   "embed", "h1", "h2", "h3", "h4", "h5", "h6", "head", "hr", "i", "img", "li", "listing", "menu",
   "meta", "nobr", "ol", "p", "pre", "ruby", "s", "small", "span", "strong", "strike", "sub",
   "sup", "table", "tt", "u", "ul", "var"]

/-- The tag ends a drawing or a formula. -/
def breaksOut : Token → Bool
  | .startTag tag =>
    breakoutTags.contains tag.name ||
      (tag.name == "font" &&
        tag.attributes.any fun a => ["color", "face", "size"].contains a.1)
  | .endTag name => name == "br" || name == "p"
  | _ => false

/-- The token is content of a drawing or a formula. -/
def isForeign (b : Builder) (t : Token) : Bool :=
  match t, b.draft.elementName b.current with
  | .eof, _ => false
  | _, none => false
  | _, some (.html, _) => false
  | .char _, some (.mathml, _) => !b.isMathText b.current
  | .char _, some (.svg, _) => !b.isSvgHtml b.current
  | .startTag tag, some (.mathml, name) =>
    if b.isMathText b.current then ["mglyph", "malignmark"].contains tag.name
    else !(name == "annotation-xml" && tag.name == "svg")
  | .startTag _, some (.svg, _) => !b.isSvgHtml b.current
  | _, _ => true

/-- The vocabulary of the innermost element. -/
def currentSpace (b : Builder) : Space :=
  match b.draft.elementName b.current with
  | some (space, _) => space
  | none => .html

/-- Close elements up to and including the nearest one of this name. An HTML element on the way
leaves the tag to the rules of the mode. -/
def closeForeign (name : String) (first : Bool) : List NodeId → Build Verdict
  | [] => ignore
  | [_] => ignore
  | id :: outer => do
    let b ← get
    let html := (b.htmlName id).isSome
    if !first && html then rulesOf b.mode (.endTag name)
    else if ((b.draft.elementName id).map (·.2.toLower)) == some name then
      modify fun b => { b with opened := outer }
      pure .done
    else closeForeign name false outer

/-- Content of a drawing or a formula. -/
def foreignRules (t : Token) : Build Verdict := do
  if breaksOut t then
    popWhileNot fun b id => (b.htmlName id).isSome || b.isMathText id || b.isSvgHtml id
    rulesOf (← get).mode t
  else
    match t with
    | .char c => doing do
      if c ≠ '\x00' && !isSpace c then noFrameset
      addChar (showNull c)
    | .startTag tag => doing (enterForeign (← get).currentSpace tag)
    | .endTag name => closeForeign name true (← get).opened
    | .comment => doing addComment
    | _ => ignore


/-! ### All tokens -/

/-- Treat one token. Each repetition leaves a mode or closes an element, so `fuel` in the order of
the open elements suffices. -/
def treat (t : Token) : Nat → Build Unit
  | 0 => pure ()
  | fuel + 1 => do
    let b ← get
    let v ← if b.isForeign t then foreignRules t else rulesOf b.mode t
    if v = .again then treat t fuel

/-- Treat one token, unless it is a line feed to be dropped. -/
def accept (t : Token) : Build Unit := do
  let b ← get
  modify fun b => { b with dropLineFeed := false }
  if b.dropLineFeed && t == .char '\n' then pure ()
  else treat t (2 * b.opened.length + b.templateModes.length + 16)

end Builder

end GradedReading.Html
