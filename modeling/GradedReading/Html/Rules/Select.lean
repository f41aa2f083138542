import GradedReading.Html.Rules.Body

/-!
# GradedReading.Html.Rules.Select

The rules for choices, inside and outside of tables.
-/

namespace GradedReading.Html

namespace Builder

/-- Close the open choice and go on with the mode around it. -/
def closeSelect : Build Unit := do
  popThrough ["select"]
  resetMode

/-- In a choice. -/
def inSelect (t : Token) : Build Verdict :=
  match t with
  | .char c => if c = '\x00' then ignore else doing (addChar c)
  | .comment => doing addComment
  | .doctype _ => ignore
  | .startTag tag =>
    match tag.name with
    | "option" => doing do
      if (← get).currentIs ["option"] then pop
      insert "option"
    | "optgroup" => doing do
      if (← get).currentIs ["option"] then pop
      if (← get).currentIs ["optgroup"] then pop
      insert "optgroup"
    | "hr" => doing do
      if (← get).currentIs ["option"] then pop
      if (← get).currentIs ["optgroup"] then pop
      insertClosed "hr"
    | "select" => doing do
      if (← get).inScope .select ["select"] then closeSelect
    | "input" | "keygen" | "textarea" => do
      if (← get).inScope .select ["select"] then
        closeSelect
        pure .again
      else ignore
    | "script" | "template" => doing (headTag tag)
    | _ => ignore
  | .endTag name =>
    match name with
    | "optgroup" => doing do
      let b ← get
      if b.currentIs ["option"] && b.isOneOf (b.opened.getD 1 0) ["optgroup"] then pop
      if (← get).currentIs ["optgroup"] then pop
    | "option" => doing do
      if (← get).currentIs ["option"] then pop
    | "select" => doing do
      if (← get).inScope .select ["select"] then closeSelect
    | "template" => doing closeTemplate
    | _ => ignore
  | .eof => inBody t

/-- In a choice inside a table. -/
def inSelectInTable (t : Token) : Build Verdict :=
  let parts : List String :=
    ["caption", "table", "tbody", "tfoot", "thead", "tr", "td", "th"]
  match t with
  | .startTag tag =>
    if parts.contains tag.name then do
      closeSelect
      pure .again
    else inSelect t
  | .endTag name =>
    if parts.contains name then do
      if (← get).inScope .table [name] then
        closeSelect
        pure .again
      else ignore
    else inSelect t
  | _ => inSelect t

end Builder

end GradedReading.Html
