import GradedReading.Text.Blank

/-!
# GradedReading.Html.Node

Pages as trees, and the readable text of a page.

**Key idea:** the text of a page is read off its tree in document order: a line feed for every
element that starts a block, and the text nodes outside the elements whose content nobody reads.
The result is then tidied: one line per block, single blanks between words, no empty line.
-/

namespace GradedReading.Html

open Text

/-- A node of a page. -/
inductive Node where
  | element (name : String) (children : List Node)
  | text (content : String)
  /-- A comment or a declaration. -/
  | silent
deriving Repr, Inhabited

/-- Elements whose text is never read. -/
def unreadElements : List String := ["script", "style", "noscript", "template", "head"]

/-- Elements that start a new line. -/
def blockElements : List String :=
  ["p", "div", "br", "li", "ul", "ol", "tr", "td", "th", "h1", "h2", "h3", "h4", "h5", "h6",
   "section", "article", "main", "header", "footer", "blockquote", "pre", "table", "dd", "dt"]

/-- The element's text, and all text inside it, is not read. -/
def isUnread (name : String) : Bool := unreadElements.contains name

/-- The element starts a new line. -/
def isBlock (name : String) : Bool := blockElements.contains name

mutual

/-- The text of a node before it is tidied; `unread` tells whether some element around the node
keeps its text from being read. -/
def Node.rawText (unread : Bool) : Node → List Char
  | .element name children =>
    (if isBlock name then ['\n'] else []) ++ rawTextAll (unread || isUnread name) children
  | .text content => if unread then [] else content.toList
  | .silent => []

/-- The texts of several nodes, one after the other. -/
def rawTextAll (unread : Bool) : List Node → List Char
  | [] => []
  | n :: ns => n.rawText unread ++ rawTextAll unread ns

end

@[simp] theorem rawTextAll_nil (unread : Bool) : rawTextAll unread [] = [] := by
  simp [rawTextAll]

theorem rawTextAll_append (unread : Bool) (ns ms : List Node) :
    rawTextAll unread (ns ++ ms) = rawTextAll unread ns ++ rawTextAll unread ms := by
  induction ns with
  | nil => simp
  | cons n ns ih => simp [rawTextAll, ih]

/-- One line with single blanks between its words. -/
def tidyLine (line : List Char) : List Char := joinWith ' ' (fields line)

/-- Tidy all lines and drop those without a word. -/
def tidy (cs : List Char) : List Char :=
  joinWith '\n' (((lines cs).map tidyLine).filter (!·.isEmpty))

/-- The readable text of a page. -/
def Node.readableText (page : Node) : String := String.ofList (tidy (page.rawText false))

end GradedReading.Html
