import GradedReading.Html.Builder.Content
import GradedReading.Html.Builder.Formatting
import GradedReading.Html.Doctype

/-!
# GradedReading.Html.Rules.Head

The rules for what comes before the body of a page: its type, its root, its head.

**Key idea:** each mode has one function from a token to a step of the construction and a
`Verdict`. A mode that treats some tokens like another mode calls that mode's function; a token
that ends the mode is handed on with the verdict `again`.
-/

namespace GradedReading.Html

namespace Builder

/-- Nothing happens. -/
def ignore : Build Verdict := pure .done

/-- The token goes to the rules of another mode. -/
def goTo (m : Mode) : Build Verdict := do
  setMode m
  pure .again

/-- Run a step; the token is done with. -/
def doing (step : Build Unit) : Build Verdict := do
  step
  pure .done

/-! ### Before the root -/

/-- Before everything else. -/
def initial (t : Token) : Build Verdict :=
  match t with
  | .comment => doing (addCommentTo 0)
  | .doctype d => doing do
    modify fun b => { b with oldRules := d.isOld, mode := .beforeHtml }
  | .char c =>
    if isSpace c then ignore
    else do
      modify fun b => { b with oldRules := true }
      goTo .beforeHtml
  | _ => do
    modify fun b => { b with oldRules := true }
    goTo .beforeHtml

/-- The first element of a page. -/
def createRoot : Build Unit := do
  let id ← create (.element .html "html")
  putAt (.lastChildOf 0) id
  push id

/-- Before the root element. -/
def beforeHtml (t : Token) : Build Verdict :=
  match t with
  | .comment => doing (addCommentTo 0)
  | .doctype _ => ignore
  | .char c =>
    if isSpace c then ignore
    else do
      createRoot
      goTo .beforeHead
  | .startTag ⟨"html", _, _⟩ => doing do
    createRoot
    setMode .beforeHead
  | .endTag name =>
    if ["head", "body", "html", "br"].contains name then do
      createRoot
      goTo .beforeHead
    else ignore
  | _ => do
    createRoot
    goTo .beforeHead

/-- Open the head. -/
def insertHead : Build Unit := do
  let id ← insertIn .html "head"
  modify fun b => { b with head := some id, mode := .inHead }

/-- Before the head. -/
def beforeHead (t : Token) : Build Verdict :=
  match t with
  | .comment => doing addComment
  | .doctype _ => ignore
  | .char c =>
    if isSpace c then ignore
    else do
      insertHead
      pure .again
  | .startTag ⟨"html", _, _⟩ => ignore
  | .startTag ⟨"head", _, _⟩ => doing insertHead
  | .endTag name =>
    if ["head", "body", "html", "br"].contains name then do
      insertHead
      pure .again
    else ignore
  | _ => do
    insertHead
    pure .again

/-! ### The head -/

/-- Names of the tags that belong into the head. -/
def headTags : List String :=
  ["base", "basefont", "bgsound", "link", "meta", "noframes", "script", "style", "template",
   "title"]

/-- The template is meant to become the hidden content of the element around it. -/
def isShadow (tag : Tag) : Bool :=
  tag.attributes.any fun (name, value) =>
    name == "shadowrootmode" && (value == "open" || value == "closed")

/-- Open a template. No element takes hidden content here: a template that asks for it is left
without any, and what follows goes to the element around it. The root is never asked. -/
def openTemplate (tag : Tag) : Build Unit := do
  pushMarker
  noFrameset
  modify fun b =>
    { b with mode := .inTemplate, templateModes := .inTemplate :: b.templateModes }
  let b ← get
  if isShadow tag && b.opened.length > 1 then
    let id ← create (.element .html "template")
    putAt (.lastChildOf b.current) id
  else insert "template"

/-- Close the innermost template. -/
def closeTemplate : Build Unit := do
  if (← get).hasOpen "template" then
    closeImplied impliedEndsOfTemplate ""
    popThrough ["template"]
    clearToMarker
    modify fun b => { b with templateModes := b.templateModes.drop 1 }
    resetMode

/-- Start tags that belong into the head. -/
def headTag (tag : Tag) : Build Unit :=
  match tag.name with
  | "title" => insertText "title" .escapable
  | "noframes" => insertText "noframes" .raw
  | "style" => insertText "style" .raw
  | "script" => insertText "script" .script
  | "template" => openTemplate tag
  | name => insertClosed name

/-- In the head. -/
def inHead (t : Token) : Build Verdict :=
  let leave : Build Verdict := do
    pop
    goTo .afterHead
  match t with
  | .char c => if isSpace c then doing (addChar c) else leave
  | .comment => doing addComment
  | .doctype _ => ignore
  | .startTag tag =>
    if headTags.contains tag.name then doing (headTag tag)
    else if tag.name == "noscript" then doing (insertText "noscript" .raw)
    else if ["html", "head"].contains tag.name then ignore
    else leave
  | .endTag "head" => doing do
    pop
    setMode .afterHead
  | .endTag "template" => doing closeTemplate
  | .endTag name => if ["body", "html", "br"].contains name then leave else ignore
  | .eof => leave

/-- After the head. -/
def afterHead (t : Token) : Build Verdict :=
  let leave : Build Verdict := do
    insert "body"
    goTo .inBody
  match t with
  | .char c => if isSpace c then doing (addChar c) else leave
  | .comment => doing addComment
  | .doctype _ => ignore
  | .startTag tag =>
    if tag.name == "body" then doing do
      insert "body"
      noFrameset
      setMode .inBody
    else if tag.name == "frameset" then doing do
      insert "frameset"
      setMode .inFrameset
    else if headTags.contains tag.name then doing do
      let head := (← get).head.getD 0
      push head
      headTag tag
      dropOpened head
    else if ["html", "head"].contains tag.name then ignore
    else leave
  | .endTag "template" => doing closeTemplate
  | .endTag name => if ["body", "html", "br"].contains name then leave else ignore
  | .eof => leave

end Builder

end GradedReading.Html
