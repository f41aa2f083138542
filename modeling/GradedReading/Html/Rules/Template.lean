import GradedReading.Html.Rules.Body

/-!
# GradedReading.Html.Rules.Template

The rules for templates and framesets, and for what follows the body of a page.
-/

namespace GradedReading.Html

namespace Builder

/-- In a template. -/
def inTemplate (t : Token) : Build Verdict :=
  let become (m : Mode) : Build Verdict := do
    modify fun b => { b with templateModes := m :: b.templateModes.drop 1 }
    goTo m
  match t with
  | .char _ | .comment | .doctype _ => inBody t
  | .startTag tag =>
    if headTags.contains tag.name then doing (headTag tag)
    else
      match tag.name with
      | "caption" | "colgroup" | "tbody" | "tfoot" | "thead" => become .inTable
      | "col" => become .inColumnGroup
      | "tr" => become .inTableBody
      | "td" | "th" => become .inRow
      | _ => become .inBody
  | .endTag "template" => doing closeTemplate
  | .endTag _ => ignore
  | .eof => templateEnd

/-- After the body. -/
def afterBody (t : Token) : Build Verdict :=
  match t with
  | .char c => if isSpace c then inBody t else goTo .inBody
  | .comment => doing do addCommentTo (← get).root
  | .doctype _ | .eof => ignore
  | .startTag ⟨"html", _, _⟩ => ignore
  | .endTag "html" => doing (setMode .afterAfterBody)
  | _ => goTo .inBody

/-- In a frameset. -/
def inFrameset (t : Token) : Build Verdict :=
  match t with
  | .comment => doing addComment
  | .char c => if isSpace c then doing (addChar c) else ignore
  | .startTag tag =>
    match tag.name with
    | "frameset" => doing (insert "frameset")
    | "frame" => doing (insertClosed "frame")
    | "noframes" => doing (insertText "noframes" .raw)
    | _ => ignore
  | .endTag "frameset" => doing do
    if (← get).opened.length > 1 then
      pop
      if !(← get).currentIs ["frameset"] then setMode .afterFrameset
  | _ => ignore

/-- After a frameset. -/
def afterFrameset (t : Token) : Build Verdict :=
  match t with
  | .comment => doing addComment
  | .char c => if isSpace c then doing (addChar c) else ignore
  | .startTag ⟨"noframes", _, _⟩ => doing (insertText "noframes" .raw)
  | .endTag "html" => doing (setMode .afterAfterFrameset)
  | _ => ignore

/-- After the page. -/
def afterAfterBody (t : Token) : Build Verdict :=
  match t with
  | .char c => if isSpace c then inBody t else goTo .inBody
  | .comment => doing (addCommentTo 0)
  | .doctype _ | .eof => ignore
  | .startTag ⟨"html", _, _⟩ => ignore
  | _ => goTo .inBody

/-- After a page of frames. -/
def afterAfterFrameset (t : Token) : Build Verdict :=
  match t with
  | .comment => doing (addCommentTo 0)
  | .char c => if isSpace c then inBody t else ignore
  | .startTag ⟨"noframes", _, _⟩ => doing (insertText "noframes" .raw)
  | _ => ignore

end Builder

end GradedReading.Html
