import GradedReading.Html.Entity
import GradedReading.Text.Lowercase

/-!
# GradedReading.Html.Token

The tokens of an HTML page and how they are cut off its text, one at a time.

**Key idea:** what the next token is depends on what the tree made of the earlier ones: after the
start of a script, a title or the like the text up to the matching end tag is not markup. The
`TextKind` says so, and `Input.next` cuts off one token and hands back the rest.

Design points:

* characters are tokens of their own, so that the tree can treat blanks apart;
* a text kind other than `data` lasts until the matching end tag; its characters are decoded at
  once and wait in `pending`;
* a tag, comment or declaration that the page's end cuts short is dropped or closed as the standard
  for HTML says, so every text has tokens.
-/

namespace GradedReading.Html

open Text

/-- An attribute: name and value. -/
abbrev Attribute := String × String

/-- A start tag. -/
structure Tag where
  name : String
  attributes : List Attribute
  selfClosing : Bool
deriving DecidableEq, Repr, Inhabited

/-- A document type declaration. -/
structure Doctype where
  name : Option String
  publicId : Option String
  systemId : Option String
  /-- It breaks off or is out of order. -/
  malformed : Bool
deriving DecidableEq, Repr, Inhabited

/-- A token. -/
inductive Token where
  | char (c : Char)
  | startTag (tag : Tag)
  | endTag (name : String)
  | comment
  | doctype (d : Doctype)
  | eof
deriving DecidableEq, Repr, Inhabited

/-- What is cut off the front of a page's text. -/
inductive Cut where
  | token (t : Token)
  /-- Markup that says nothing, such as an end tag without a name. A line feed behind it is not the
  one right after a start tag. -/
  | fault
  /-- Nothing yet: the front of the text was decoded. -/
  | nothing
deriving DecidableEq, Repr, Inhabited

/-- How the text that follows is to be read. -/
inductive TextKind where
  /-- Markup and references. -/
  | data
  /-- No markup but the matching end tag; references count. -/
  | escapable
  /-- No markup but the matching end tag. -/
  | raw
  /-- Like `raw`, but an end tag inside a commented inner script does not count. -/
  | script
  /-- No markup to the end of the page. -/
  | plain
deriving DecidableEq, Repr, Inhabited

/-! ### Characters -/

/-- The blanks of markup. -/
def isSpace (c : Char) : Bool := c == ' ' || c == '\t' || c == '\n' || c == '\x0c' || c == '\r'

/-- An ASCII letter. -/
def isLetter (c : Char) : Bool := c.isAlpha

/-- Line ends are line feeds: a carriage return counts as one, also together with a line feed. -/
def normalizeLineEnds : List Char → List Char
  | '\r' :: '\n' :: cs => '\n' :: normalizeLineEnds cs
  | '\r' :: cs => '\n' :: normalizeLineEnds cs
  | c :: cs => c :: normalizeLineEnds cs
  | [] => []

/-- The null character cannot be shown. -/
def showNull (c : Char) : Char := if c = '\x00' then replacement else c

/-- A name in lowercase. -/
def nameOf (cs : List Char) : String := String.ofList (cs.map fun c => lowerAscii (showNull c))

/-- The text starts with these characters, up to ASCII case. -/
def startsLike (start : List Char) (cs : List Char) : Bool :=
  (cs.take start.length).map lowerAscii == start

/-- A character that ends a tag's name. -/
def endsName (c : Char) : Bool := isSpace c || c == '/' || c == '>'

/-! ### Tags -/

/-- The value of an attribute after its equals sign and the rest; none if the page ends in it. -/
def attributeValue (cs : List Char) : Option (List Char × List Char) :=
  match cs.dropWhile isSpace with
  | '"' :: r =>
    match r.dropWhile (· != '"') with
    | _ :: rest => some (r.takeWhile (· != '"'), rest)
    | [] => none
  | '\'' :: r =>
    match r.dropWhile (· != '\'') with
    | _ :: rest => some (r.takeWhile (· != '\''), rest)
    | [] => none
  | '>' :: r => some ([], '>' :: r)
  | r =>
    let isValue (c : Char) : Bool := !isSpace c && c != '>'
    match r.dropWhile isValue with
    | [] => none
    | rest => some (r.takeWhile isValue, rest)

/-- The text of an attribute value. -/
def valueText (cs : List Char) : String :=
  String.ofList (decodeReferences true cs.length (cs.map showNull))

/-- One attribute, whose name starts here, and the rest; none if the page ends in it. -/
def attributeAt (cs : List Char) : Option (Attribute × List Char) :=
  match cs with
  | [] => none
  | first :: r =>
    let isName (c : Char) : Bool := !endsName c && c != '='
    let name := nameOf (first :: r.takeWhile isName)
    let afterName := r.dropWhile isName
    match afterName.dropWhile isSpace with
    | '=' :: v => (attributeValue v).map fun (value, rest) => ((name, valueText value), rest)
    | [] => none
    | _ => some ((name, ""), afterName)

/-- Add an attribute unless there is one of its name. -/
def addAttribute (a : Attribute) (attributes : List Attribute) : List Attribute :=
  if attributes.any (·.1 == a.1) then attributes else attributes ++ [a]

/-- The attributes of a tag, whether it closes itself, and the rest after `>`; none if the page
ends in it. Each attribute takes at least one character. -/
def attributesOf : Nat → List Attribute → List Char → Option (List Attribute × Bool × List Char)
  | 0, _, _ => none
  | fuel + 1, found, cs =>
    match cs.dropWhile isSpace with
    | [] => none
    | '>' :: rest => some (found, false, rest)
    | '/' :: '>' :: rest => some (found, true, rest)
    | '/' :: rest => attributesOf fuel found rest
    | r =>
      match attributeAt r with
      | some (a, rest) => attributesOf fuel (addAttribute a found) rest
      | none => none

/-- The name of a tag and everything up to its `>`. -/
def tagAt (cs : List Char) : Option (Tag × List Char) :=
  let name := cs.takeWhile (!endsName ·)
  (attributesOf (cs.length + 1) [] (cs.dropWhile (!endsName ·))).map fun (as, closing, rest) =>
    (⟨nameOf name, as, closing⟩, rest)

/-! ### Comments and declarations -/

/-- The rest after a comment whose text starts here; a missing end is the page's end. -/
def afterComment : List Char → List Char
  | [] => []
  | '-' :: '-' :: '>' :: rest => rest
  | '-' :: '-' :: '!' :: '>' :: rest => rest
  | _ :: cs => afterComment cs

/-- The rest after a comment, right after its `<!--`. It may end at once. -/
def afterCommentStart : List Char → List Char
  | '>' :: rest => rest
  | '-' :: '>' :: rest => rest
  | cs => afterComment cs

/-- The rest after something that is taken for a comment: it ends at the first `>`. -/
def afterBogusComment (cs : List Char) : List Char := (cs.dropWhile (· != '>')).drop 1

/-- A quoted identifier of a document type: the text, whether it was closed, and the rest. -/
def quotedIdentifier (cs : List Char) : Option (String × Bool × List Char) :=
  match cs.dropWhile isSpace with
  | q :: r =>
    if q == '"' || q == '\'' then
      let isText (c : Char) : Bool := c != q && c != '>'
      let text := String.ofList ((r.takeWhile isText).map showNull)
      match r.dropWhile isText with
      | c :: rest => if c == q then some (text, true, rest) else some (text, false, c :: rest)
      | [] => some (text, false, [])
    else none
  | [] => none

/-- The identifiers of a document type after its name, and whether they are well formed. -/
def identifiers (cs : List Char) : Option String × Option String × Bool :=
  let r := cs.dropWhile isSpace
  let system (publicId : Option String) (needed : Bool) (cs : List Char) :
      Option String × Option String × Bool :=
    match quotedIdentifier cs with
    | some (s, closed, _) => (publicId, some s, closed)
    | none => (publicId, none, !needed && (cs.dropWhile isSpace).head? == some '>')
  if startsLike ['p', 'u', 'b', 'l', 'i', 'c'] r then
    match quotedIdentifier (r.drop 6) with
    | some (p, true, rest) => system (some p) false rest
    | some (p, false, _) => (some p, none, false)
    | none => (none, none, false)
  else if startsLike ['s', 'y', 's', 't', 'e', 'm'] r then system none true (r.drop 6)
  else (none, none, r.head? == some '>')

/-- A document type after `<!doctype`, and the rest. -/
def doctypeAt (cs : List Char) : Doctype × List Char :=
  let r := cs.dropWhile isSpace
  let isName (c : Char) : Bool := !isSpace c && c != '>'
  let name := r.takeWhile isName
  let afterName := r.dropWhile isName
  let (publicId, systemId, good) := identifiers afterName
  let closed := afterName.any (· == '>')
  (⟨if name.isEmpty then none else some (nameOf name), publicId, systemId,
      !(good && closed) || name.isEmpty⟩, afterBogusComment afterName)

/-! ### Texts without markup -/

/-- The end tag of this name starts here: the name ends right after it. -/
def isEndOf (name : List Char) (cs : List Char) : Bool :=
  match cs with
  | '<' :: '/' :: r =>
    startsLike name r &&
      (match r[name.length]? with
       | some c => endsName c
       | none => false)
  | _ => false

/-- Split before the end tag of this name. -/
def splitAtEnd (name : List Char) : List Char → List Char × List Char
  | [] => ([], [])
  | c :: cs =>
    if isEndOf name (c :: cs) then ([], c :: cs)
    else
      let (text, rest) := splitAtEnd name cs
      (c :: text, rest)

/-- Where the text of a script stands: outside comments, in a comment, or in a script that starts
inside a comment. -/
inductive ScriptPart where
  | plain
  | escaped
  | doublyEscaped
deriving DecidableEq, Repr

/-- A script's start tag, or with `slash` its end tag, starts here. -/
def isScriptTag (slash : Bool) (cs : List Char) : Bool :=
  match cs, slash with
  | '<' :: '/' :: r, true => isEndOf "script".toList ('<' :: '/' :: r)
  | '<' :: r, false => isEndOf "script".toList ('<' :: '/' :: r)
  | _, _ => false

/-- Split a script before its end tag. `dashes` counts the dashes right before. -/
def splitScript (part : ScriptPart) (dashes : Nat) : List Char → List Char × List Char
  | [] => ([], [])
  | c :: cs =>
    let here := c :: cs
    if part ≠ .doublyEscaped ∧ isScriptTag true here then ([], here)
    else
      let next : ScriptPart :=
        match part with
        | .plain => if ['<', '!', '-', '-'].isPrefixOf here then .escaped else .plain
        | .escaped =>
          if c == '>' && dashes ≥ 2 then .plain
          else if isScriptTag false here then .doublyEscaped else .escaped
        | .doublyEscaped =>
          if c == '>' && dashes ≥ 2 then .plain
          else if isScriptTag true here then .escaped else .doublyEscaped
      let (text, rest) := splitScript next (if c == '-' then dashes + 1 else 0) cs
      (c :: text, rest)

/-! ### The next token -/

/-- What is left of a page: what is cut off already, and text. -/
structure Input where
  pending : List Cut
  rest : List Char
deriving Repr, Inhabited

/-- Characters that are decoded. A text may begin with a fault. -/
def decoded (faulty : Bool) (cs : List Char) : List Cut :=
  (if faulty then [.fault] else []) ++ cs.map fun c => .token (.char c)

/-- The text begins with a number that lacks its semicolon. -/
def beginsWithFault : List Char → Bool
  | '&' :: cs => lacksSemicolon cs
  | _ => false

/-- Decode the text up to the end tag of `name`, if the kind of text says so. -/
def Input.enter (kind : TextKind) (name : String) (input : Input) : Input :=
  let waiting (text rest : List Char) : Input := ⟨input.pending ++ decoded false text, rest⟩
  match kind with
  | .data => input
  | .plain => waiting (input.rest.map showNull) []
  | .raw =>
    let (text, rest) := splitAtEnd name.toList input.rest
    waiting (text.map showNull) rest
  | .escapable =>
    let (text, rest) := splitAtEnd name.toList input.rest
    ⟨input.pending ++
      decoded (beginsWithFault text) (decodeReferences false text.length (text.map showNull)), rest⟩
  | .script =>
    let (text, rest) := splitScript .plain 0 input.rest
    waiting (text.map showNull) rest

/-- Markup that starts with `<!`. Marked sections count only where `sections` says so. -/
def declaration (sections : Bool) (cs : List Char) : Cut × Input :=
  if ['-', '-'].isPrefixOf cs then (.token .comment, ⟨[], afterCommentStart (cs.drop 2)⟩)
  else if startsLike "doctype".toList cs then
    let (d, rest) := doctypeAt (cs.drop 7)
    (.token (.doctype d), ⟨[], rest⟩)
  else if sections && "[CDATA[".toList.isPrefixOf cs then
    let (text, rest) := splitSection (cs.drop 7)
    (.nothing, ⟨decoded false text, rest⟩)
  else (.token .comment, ⟨[], afterBogusComment cs⟩)
where
  /-- Split after the end of a marked section; the end is in neither part. -/
  splitSection : List Char → List Char × List Char
    | [] => ([], [])
    | ']' :: ']' :: '>' :: rest => ([], rest)
    | c :: cs =>
      let (text, rest) := splitSection cs
      (c :: text, rest)

/-- What starts with `<`. -/
def markup (sections : Bool) (cs : List Char) : Cut × Input :=
  match cs with
  | '!' :: r => declaration sections r
  | '/' :: c :: r =>
    if isLetter c then
      match tagAt (c :: r) with
      | some (tag, rest) => (.token (.endTag tag.name), ⟨[], rest⟩)
      | none => (.token .eof, ⟨[], []⟩)
    else if c == '>' then (.fault, ⟨[], r⟩)
    else (.token .comment, ⟨[], afterBogusComment (c :: r)⟩)
  | '?' :: r => (.token .comment, ⟨[], afterBogusComment r⟩)
  | c :: r =>
    if isLetter c then
      match tagAt (c :: r) with
      | some (tag, rest) => (.token (.startTag tag), ⟨[], rest⟩)
      | none => (.token .eof, ⟨[], []⟩)
    else (.token (.char '<'), ⟨[], c :: r⟩)
  | [] => (.token (.char '<'), ⟨[], []⟩)

/-- Cut off what comes next. -/
def Input.next (sections : Bool) (input : Input) : Cut × Input :=
  match input.pending, input.rest with
  | cut :: pending, rest => (cut, ⟨pending, rest⟩)
  | [], [] => (.token .eof, ⟨[], []⟩)
  | [], '<' :: cs => markup sections cs
  | [], '&' :: cs =>
    match reference false cs with
    | some (meaning, rest) => (.nothing, ⟨decoded (lacksSemicolon cs) meaning, rest⟩)
    | none => (.token (.char '&'), ⟨[], cs⟩)
  | [], c :: cs => (.token (.char c), ⟨[], cs⟩)

end GradedReading.Html
