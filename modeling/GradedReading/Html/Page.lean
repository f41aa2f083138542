import GradedReading.Html.Node
import GradedReading.Html.Rules.Foreign

/-!
# GradedReading.Html.Page

The tree of a page and its readable text, from the text of the page.
-/

namespace GradedReading.Html

/-- Build a page from its text. Each round drops a character of the text or something cut off it,
and a reference of several characters is cut into at most three, so three rounds for each character
suffice. -/
def buildFrom : Nat → Input → Builder → Builder
  | 0, _, b => b
  | fuel + 1, input, b =>
    let (cut, input) := input.next (b.currentSpace != .html)
    match cut with
    | .nothing => buildFrom fuel input b
    | .fault => buildFrom fuel input { b with dropLineFeed := false }
    | .token .eof => ((Builder.accept .eof).run b).2
    | .token t =>
      let b := ((Builder.accept t).run b).2
      match b.wanted, t with
      | some kind, .startTag tag =>
        buildFrom fuel (input.enter kind tag.name) { b with wanted := none }
      | _, _ => buildFrom fuel input b

/-- Drop the mark that some texts begin with. -/
def dropMark : List Char → List Char
  | '\ufeff' :: cs => cs
  | cs => cs

/-- The tree of a page. -/
def parsePage (page : String) : Node :=
  let cs := normalizeLineEnds (dropMark page.toList)
  (buildFrom (3 * cs.length + 16) ⟨[], cs⟩ .start).draft.toPage

/-- The readable text of a page. -/
def readableText (page : String) : String := (parsePage page).readableText

end GradedReading.Html
