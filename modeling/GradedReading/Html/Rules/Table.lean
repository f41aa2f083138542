import GradedReading.Html.Rules.Body

/-!
# GradedReading.Html.Rules.Table

The rules for tables, their captions, groups of columns, rows and cells. What does not belong into
a table goes before it.
-/

namespace GradedReading.Html

namespace Builder

/-- Treat a token by the rules for the body, with content going before the table. -/
def fostered (t : Token) : Build Verdict := do
  modify fun b => { b with fostering := true }
  let v ← inBody t
  modify fun b => { b with fostering := false }
  pure v

/-- In a table, outside its rows. -/
def inTable (t : Token) : Build Verdict :=
  let table : List String := ["table", "template", "html"]
  match t with
  | .char _ => do
    if (← get).currentIs fosterTargets then
      modify fun b => { b with returnMode := b.mode, mode := .inTableText }
      pure .again
    else fostered t
  | .comment => doing addComment
  | .doctype _ => ignore
  | .startTag tag =>
    match tag.name with
    | "caption" => doing do
      popTo table
      pushMarker
      insert "caption"
      setMode .inCaption
    | "colgroup" => doing do
      popTo table
      insert "colgroup"
      setMode .inColumnGroup
    | "col" => do
      popTo table
      insert "colgroup"
      goTo .inColumnGroup
    | "tbody" | "tfoot" | "thead" => doing do
      popTo table
      insert tag.name
      setMode .inTableBody
    | "td" | "th" | "tr" => do
      popTo table
      insert "tbody"
      goTo .inTableBody
    | "table" => do
      if (← get).inScope .table ["table"] then
        popThrough ["table"]
        resetMode
        pure .again
      else ignore
    | "style" | "script" | "template" => doing (headTag tag)
    | "input" => if isHiddenInput tag then doing (insertClosed "input") else fostered t
    | "form" => doing do
      let b ← get
      if !b.hasOpen "template" && b.form.isNone then
        let id ← insertOnly .html "form"
        modify fun b => { b with form := some id }
    | _ => fostered t
  | .endTag "table" => doing do
    if (← get).inScope .table ["table"] then
      popThrough ["table"]
      resetMode
  | .endTag "template" => doing closeTemplate
  | .endTag name =>
    if ["body", "caption", "col", "colgroup", "html", "tbody", "td", "tfoot", "th", "thead",
        "tr"].contains name then ignore
    else fostered t
  | .eof => inBody t

/-- Put out the characters of a table's text: before the table, unless all are blanks. -/
def flushTableText (cs : List Char) : Build Unit := do
  if cs.all isSpace then
    for c in cs do addChar c
  else
    for c in cs do
      let _ ← fostered (.char c)

/-- In the text of a table. A document type does not end it. -/
def inTableText (t : Token) : Build Verdict :=
  match t with
  | .char c => doing do
    if c ≠ '\x00' then modify fun b => { b with tableText := c :: b.tableText }
  | .doctype _ => ignore
  | _ => do
    let cs := (← get).tableText.reverse
    modify fun b => { b with tableText := [] }
    flushTableText cs
    modify fun b => { b with mode := b.returnMode }
    pure .again

/-- The parts of a table. -/
def tableParts : List String :=
  ["caption", "col", "colgroup", "tbody", "td", "tfoot", "th", "thead", "tr"]

/-- In the caption of a table. -/
def inCaption (t : Token) : Build Verdict :=
  let leave (last : Bool) : Build Verdict := do
    if (← get).inScope .table ["caption"] then
      closeImplied impliedEnds ""
      popThrough ["caption"]
      clearToMarker
      setMode .inTable
      pure (if last then .done else .again)
    else ignore
  match t with
  | .startTag tag => if tableParts.contains tag.name then leave false else inBody t
  | .endTag "caption" => leave true
  | .endTag "table" => leave false
  | .endTag name =>
    if ["body", "col", "colgroup", "html", "tbody", "td", "tfoot", "th", "thead",
        "tr"].contains name then ignore
    else inBody t
  | _ => inBody t

/-- In a group of columns. -/
def inColumnGroup (t : Token) : Build Verdict :=
  let leave : Build Verdict := do
    if (← get).currentIs ["colgroup"] then
      pop
      goTo .inTable
    else ignore
  match t with
  | .char c => if isSpace c then doing (addChar c) else leave
  | .comment => doing addComment
  | .doctype _ => ignore
  | .startTag ⟨"html", _, _⟩ => ignore
  | .startTag ⟨"col", _, _⟩ => doing (insertClosed "col")
  | .startTag ⟨"template", as, closing⟩ => doing (openTemplate ⟨"template", as, closing⟩)
  | .endTag "colgroup" => doing do
    if (← get).currentIs ["colgroup"] then
      pop
      setMode .inTable
  | .endTag "col" => ignore
  | .endTag "template" => doing closeTemplate
  | .eof => inBody t
  | _ => leave

/-- In the body of a table. -/
def inTableBody (t : Token) : Build Verdict :=
  let body : List String := ["tbody", "tfoot", "thead", "template", "html"]
  let leave : Build Verdict := do
    if (← get).inScope .table ["table", "tbody", "tfoot"] then
      popTo body
      pop
      goTo .inTable
    else ignore
  match t with
  | .startTag tag =>
    match tag.name with
    | "tr" => doing do
      popTo body
      insert "tr"
      setMode .inRow
    | "td" | "th" => do
      popTo body
      insert "tr"
      goTo .inRow
    | name =>
      if ["caption", "col", "colgroup", "tbody", "tfoot", "thead"].contains name then leave
      else inTable t
  | .endTag "table" => leave
  | .endTag name =>
    if ["tbody", "tfoot", "thead"].contains name then doing do
      if (← get).inScope .table [name] then
        popTo body
        pop
        setMode .inTable
    else if ["body", "caption", "col", "colgroup", "html", "td", "th", "tr"].contains name then
      ignore
    else inTable t
  | _ => inTable t

/-- In a row of a table. -/
def inRow (t : Token) : Build Verdict :=
  let row : List String := ["tr", "template", "html"]
  let leave : Build Verdict := do
    if (← get).inScope .table ["tr"] then
      popTo row
      pop
      goTo .inTableBody
    else ignore
  match t with
  | .startTag tag =>
    if ["td", "th"].contains tag.name then doing do
      popTo row
      insert tag.name
      setMode .inCell
      pushMarker
    else if ["caption", "col", "colgroup", "tbody", "tfoot", "thead", "tr"].contains tag.name then
      leave
    else inTable t
  | .endTag "tr" => doing do
    if (← get).inScope .table ["tr"] then
      popTo row
      pop
      setMode .inTableBody
  | .endTag "table" => leave
  | .endTag name =>
    if ["tbody", "tfoot", "thead"].contains name then do
      if (← get).inScope .table [name] then leave else ignore
    else if ["body", "caption", "col", "colgroup", "html", "td", "th"].contains name then ignore
    else inTable t
  | _ => inTable t

/-- Close the cell that is open. -/
def closeCell : Build Unit := do
  closeImplied impliedEnds ""
  popThrough ["td", "th"]
  clearToMarker
  setMode .inRow

/-- In a cell of a table. -/
def inCell (t : Token) : Build Verdict :=
  match t with
  | .startTag tag =>
    if tableParts.contains tag.name then do
      if (← get).inScope .table ["td", "th"] then
        closeCell
        pure .again
      else ignore
    else inBody t
  | .endTag name =>
    if ["td", "th"].contains name then doing do
      if (← get).inScope .table [name] then
        closeImplied impliedEnds ""
        popThrough [name]
        clearToMarker
        setMode .inRow
    else if ["body", "caption", "col", "colgroup", "html"].contains name then ignore
    else if ["table", "tbody", "tfoot", "thead", "tr"].contains name then do
      if (← get).inScope .table [name] then
        closeCell
        pure .again
      else ignore
    else inBody t
  | _ => inBody t

end Builder

end GradedReading.Html
