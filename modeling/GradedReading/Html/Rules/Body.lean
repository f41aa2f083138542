import GradedReading.Html.Rules.Head

/-!
# GradedReading.Html.Rules.Body

The rules for the body of a page, and for texts without markup.
-/

namespace GradedReading.Html

namespace Builder

/-- The tag is an input field that does not show. -/
def isHiddenInput (tag : Tag) : Bool :=
  tag.attributes.any fun (name, value) => name == "type" && value.toLower == "hidden"

/-- Names of the headings. -/
def headings : List String := ["h1", "h2", "h3", "h4", "h5", "h6"]

/-- The page ends inside a template: close it, and treat the end again. -/
def templateEnd : Build Verdict := do
  if (← get).hasOpen "template" then
    popThrough ["template"]
    clearToMarker
    modify fun b => { b with templateModes := b.templateModes.drop 1 }
    resetMode
    pure .again
  else pure .done

/-- Close the list item that a new one ends: the nearest of `names`, unless an element with rules
of its own comes first. -/
def closeItem (names : List String) : Build Unit := do
  let b ← get
  let stops (id : NodeId) : Bool := b.isSpecial id && !b.isOneOf id ["address", "div", "p"]
  match b.opened.find? fun id => b.isOneOf id names || stops id with
  | none => pure ()
  | some id =>
    match b.htmlName id with
    | some name =>
      if names.contains name then
        closeImplied impliedEnds name
        popThrough [name]
    | none => pure ()

/-- Open an element of another vocabulary. -/
def enterForeign (space : Space) (tag : Tag) : Build Unit := do
  let _ ← if tag.selfClosing then insertOnly space tag.name else insertIn space tag.name

/-- Elements that end a paragraph and hold content of their own. -/
def blocksOfBody : List String :=
  ["address", "article", "aside", "blockquote", "center", "details", "dialog", "dir", "div", "dl",
   "fieldset", "figcaption", "figure", "footer", "header", "hgroup", "main", "menu", "nav", "ol",
   "p", "search", "section", "summary", "ul"]

/-- Elements whose end tag closes everything inside them. -/
def closableBlocks : List String :=
  ["address", "article", "aside", "blockquote", "button", "center", "details", "dialog", "dir",
   "div", "dl", "fieldset", "figcaption", "figure", "footer", "header", "hgroup", "listing",
   "main", "menu", "nav", "ol", "pre", "search", "section", "summary", "ul"]

/-- Formatting elements, apart from `a` and `nobr`. -/
def formatTags : List String :=
  ["b", "big", "code", "em", "font", "i", "s", "small", "strike", "strong", "tt", "u"]

/-- Start tags that have no place in a body. -/
def strayTags : List String :=
  ["caption", "col", "colgroup", "frame", "head", "tbody", "td", "tfoot", "th", "thead", "tr"]

/-- A second `a` closes the first one. -/
def closeOpenLink : Build Unit := do
  match (← get).recentFormats.find? (·.2.name == "a") with
  | none => pure ()
  | some (id, _) =>
    misnest "a"
    dropFormat id
    dropOpened id

/-- A start tag in the body. -/
def bodyStartTag (tag : Tag) : Build Unit := do
  let name := tag.name
  if headTags.contains name then headTag tag
  else if blocksOfBody.contains name then
    closeOpenParagraph
    insert name
  else if headings.contains name then
    closeOpenParagraph
    if (← get).currentIs headings then pop
    insert name
  else if formatTags.contains name then
    reconstruct
    insertFormat tag
  else if strayTags.contains name then pure ()
  else
    match name with
    | "html" => pure ()
    | "body" =>
      let b ← get
      if b.opened.length > 1 && !b.hasOpen "template" then noFrameset
    | "frameset" =>
      let b ← get
      if b.framesetOk then
        match b.opened.reverse with
        | root :: body :: _ =>
          if b.isOneOf body ["body"] then
            modify fun b => { b with draft := b.draft.detach body, opened := [root] }
            insert "frameset"
            setMode .inFrameset
        | _ => pure ()
    | "pre" | "listing" =>
      closeOpenParagraph
      insert name
      modify fun b => { b with dropLineFeed := true, framesetOk := false }
    | "form" =>
      let b ← get
      let inTemplate := b.hasOpen "template"
      if b.form.isNone || inTemplate then
        closeOpenParagraph
        let id ← insertIn .html "form"
        if !inTemplate then modify fun b => { b with form := some id }
    | "li" =>
      noFrameset
      closeItem ["li"]
      closeOpenParagraph
      insert name
    | "dd" | "dt" =>
      noFrameset
      closeItem ["dd", "dt"]
      closeOpenParagraph
      insert name
    | "plaintext" =>
      closeOpenParagraph
      insert name
      modify fun b => { b with wanted := some .plain }
    | "button" =>
      if (← get).inScope .standard ["button"] then
        closeImplied impliedEnds ""
        popThrough ["button"]
      reconstruct
      insert name
      noFrameset
    | "a" =>
      closeOpenLink
      reconstruct
      insertFormat tag
    | "nobr" =>
      reconstruct
      if (← get).inScope .standard ["nobr"] then
        misnest "nobr"
        reconstruct
      insertFormat tag
    | "applet" | "marquee" | "object" =>
      reconstruct
      insert name
      pushMarker
      noFrameset
    | "table" =>
      if !(← get).oldRules then closeOpenParagraph
      insert name
      noFrameset
      setMode .inTable
    | "area" | "br" | "embed" | "img" | "keygen" | "wbr" =>
      reconstruct
      insertClosed name
      noFrameset
    | "input" =>
      reconstruct
      insertClosed name
      if !isHiddenInput tag then noFrameset
    | "param" | "source" | "track" => insertClosed name
    | "hr" =>
      closeOpenParagraph
      insertClosed name
      noFrameset
    | "image" =>
      reconstruct
      insertClosed "img"
      noFrameset
    | "textarea" =>
      noFrameset
      modify fun b => { b with dropLineFeed := true }
      insertText name .escapable
    | "xmp" =>
      closeOpenParagraph
      reconstruct
      noFrameset
      insertText name .raw
    | "iframe" =>
      noFrameset
      insertText name .raw
    | "noembed" | "noscript" => insertText name .raw
    | "select" =>
      reconstruct
      insert name
      noFrameset
      let tables : List Mode := [.inTable, .inCaption, .inTableBody, .inRow, .inCell]
      setMode (if tables.contains (← get).mode then .inSelectInTable else .inSelect)
    | "optgroup" | "option" =>
      if (← get).currentIs ["option"] then pop
      reconstruct
      insert name
    | "rb" | "rtc" =>
      if (← get).inScope .standard ["ruby"] then closeImplied impliedEnds ""
      insert name
    | "rp" | "rt" =>
      if (← get).inScope .standard ["ruby"] then closeImplied impliedEnds "rtc"
      insert name
    | "math" =>
      reconstruct
      enterForeign .mathml tag
    | "svg" =>
      reconstruct
      enterForeign .svg tag
    | _ =>
      reconstruct
      insert name

/-- The end tag of a form. -/
def closeForm : Build Unit := do
  let b ← get
  if b.hasOpen "template" then
    if b.inScope .standard ["form"] then
      closeImplied impliedEnds ""
      popThrough ["form"]
  else
    modify fun b => { b with form := none }
    match b.form with
    | some id =>
      if b.inScopeWhere .standard (· == id) then
        closeImplied impliedEnds ""
        dropOpened id
    | none => pure ()

/-- An end tag in the body other than those of the body and the page. -/
def bodyEndTag (name : String) : Build Unit := do
  let b ← get
  if closableBlocks.contains name then
    if b.inScope .standard [name] then
      closeImplied impliedEnds ""
      popThrough [name]
  else if headings.contains name then
    if b.inScope .standard headings then
      closeImplied impliedEnds ""
      popThrough headings
  else if formatTags.contains name then misnest name
  else
    match name with
    | "template" => closeTemplate
    | "form" => closeForm
    | "p" =>
      if !b.inScope .button ["p"] then insert "p"
      closeParagraph
    | "li" =>
      if b.inScope .listItem ["li"] then
        closeImplied impliedEnds "li"
        popThrough ["li"]
    | "dd" | "dt" =>
      if b.inScope .standard [name] then
        closeImplied impliedEnds name
        popThrough [name]
    | "a" | "nobr" => misnest name
    | "applet" | "marquee" | "object" =>
      if b.inScope .standard [name] then
        closeImplied impliedEnds ""
        popThrough [name]
        clearToMarker
    | "br" =>
      reconstruct
      insertClosed "br"
      noFrameset
    | _ => closeOrdinary name

/-- In the body. -/
def inBody (t : Token) : Build Verdict :=
  match t with
  | .char c =>
    if c = '\x00' then ignore
    else doing do
      reconstruct
      if !isSpace c then noFrameset
      addChar c
  | .comment => doing addComment
  | .doctype _ => ignore
  | .startTag tag => doing (bodyStartTag tag)
  | .endTag "body" => do
    if (← get).inScope .standard ["body"] then setMode .afterBody
    pure .done
  | .endTag "html" => do
    if (← get).inScope .standard ["body"] then goTo .afterBody else ignore
  | .endTag name => doing (bodyEndTag name)
  | .eof => do
    if (← get).templateModes.isEmpty then ignore else templateEnd

/-- In a text without markup. -/
def inText (t : Token) : Build Verdict :=
  match t with
  | .char c => doing (addChar c)
  | .eof => do
    pop
    modify fun b => { b with mode := b.returnMode }
    pure .again
  | .endTag _ => doing do
    pop
    modify fun b => { b with mode := b.returnMode }
  | _ => ignore

end Builder

end GradedReading.Html
