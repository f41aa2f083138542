import GradedReading.Number.Reader

/-!
# GradedReading.Format.Toml.Quoted

Texts in quotes.

**Key idea:** a text is cut out first, up to the quotes that end it, and then its escapes are
resolved. Between double quotes a backslash starts an escape; between single quotes it stands for
itself. Three quotes enclose a text of several lines, whose first line end does not count.
-/

namespace GradedReading.Format.Toml

open Number

/-- The single quote. -/
def singleQuote : Char := '\x27'

/-- A space or a tab. -/
def isSpace (c : Char) : Bool := c == ' ' || c == '\t'

/-- A character that may stand in a text or a comment: no control character but the tab. -/
def isPlain (c : Char) : Bool := c == '\t' || (' ' ≤ c && c != '\x7f')

/-! ### Where a text ends -/

/-- The text up to the quote that ends it, and the rest. A quote after a backslash ends nothing if
backslashes escape. -/
def quotedBody (quote : Char) (escapes : Bool) : List Char → Option (List Char × List Char)
  | [] => none
  | c :: cs =>
    if c = quote then some ([], cs)
    else if c = '\\' && escapes then
      match cs with
      | [] => none
      | d :: cs => (quotedBody quote escapes cs).map fun (body, rest) => (c :: d :: body, rest)
    else (quotedBody quote escapes cs).map fun (body, rest) => (c :: body, rest)

/-- The same for a text that ends with three quotes. Up to two more quotes before them belong to
the text. -/
def longBody (quote : Char) (escapes : Bool) : List Char → Option (List Char × List Char)
  | [] => none
  | c :: cs =>
    if c = quote && cs.take 2 == [quote, quote] then
      let more := ((cs.drop 2).take 2).takeWhile (· == quote)
      some (more, cs.drop (2 + more.length))
    else if c = '\\' && escapes then
      match cs with
      | [] => none
      | d :: cs => (longBody quote escapes cs).map fun (body, rest) => (c :: d :: body, rest)
    else (longBody quote escapes cs).map fun (body, rest) => (c :: body, rest)

/-! ### Escapes -/

/-- The character that one letter after a backslash stands for. -/
def shortEscape? (c : Char) : Option Char :=
  match c with
  | 'b' => some '\x08'
  | 't' => some '\t'
  | 'n' => some '\n'
  | 'f' => some '\x0c'
  | 'r' => some '\r'
  | 'e' => some '\x1b'
  | '"' => some '"'
  | '\\' => some '\\'
  | _ => none

/-- The number of hexadecimal digits after this letter. -/
def hexDigitsAfter (c : Char) : Nat :=
  match c with
  | 'x' => 2
  | 'u' => 4
  | 'U' => 8
  | _ => 0

/-- The character with this code point, written in hexadecimal digits. -/
def codePoint? (ds : List Char) : Option Char :=
  let n := digitsValue 16 ds
  if ds.all (fun d => (digitValue? d).isSome) && n.isValidChar then some (Char.ofNat n) else none

/-- The line ends and blanks that a backslash at the end of a line takes away; it has to be at the
end of a line. -/
def afterFold? (cs : List Char) : Option (List Char) :=
  match cs.dropWhile isSpace with
  | '\n' :: rest => some (rest.dropWhile fun c => isSpace c || c == '\n' || c == '\r')
  | '\r' :: '\n' :: rest => some (rest.dropWhile fun c => isSpace c || c == '\n' || c == '\r')
  | _ => none

/-- Resolve escapes. `long` allows line ends. `steps` bounds the characters. -/
def unescape (long : Bool) : (steps : Nat) → List Char → Option (List Char)
  | _, [] => some []
  | 0, _ => none
  | steps + 1, '\\' :: c :: cs =>
    match shortEscape? c with
    | some e => (unescape long steps cs).map (e :: ·)
    | none =>
      let n := hexDigitsAfter c
      if 0 < n then
        if cs.length < n then none
        else do
          let e ← codePoint? (cs.take n)
          (unescape long steps (cs.drop n)).map (e :: ·)
      else if long then do unescape long steps (← afterFold? (c :: cs))
      else none
  | steps + 1, '\r' :: '\n' :: cs =>
    if long then (unescape long steps cs).map fun r => '\r' :: '\n' :: r else none
  | steps + 1, c :: cs =>
    if c != '\\' && (isPlain c || (long && c == '\n')) then
      (unescape long steps cs).map (c :: ·)
    else none

/-- A text without escapes has only characters that are allowed. -/
def checked (long : Bool) : List Char → Option (List Char)
  | [] => some []
  | '\r' :: '\n' :: cs =>
    if long then (checked long cs).map fun r => '\r' :: '\n' :: r else none
  | c :: cs => if isPlain c || (long && c == '\n') then (checked long cs).map (c :: ·) else none

/-- Drop the line end right after three opening quotes. -/
def dropLineEnd : List Char → List Char
  | '\n' :: cs => cs
  | '\r' :: '\n' :: cs => cs
  | cs => cs

/-- What the characters between quotes stand for. -/
def meaning (quote : Char) (long : Bool) (body : List Char) : Option String :=
  let resolved :=
    if quote = '"' then unescape long body.length body else checked long body
  resolved.map String.ofList

/-- A text on one line, after its opening quote. -/
def shortText (quote : Char) (cs : List Char) : Option (String × List Char) := do
  let (body, rest) ← quotedBody quote (quote == '"') cs
  pure (← meaning quote false body, rest)

/-- A text of several lines, after its opening quotes. -/
def longText (quote : Char) (cs : List Char) : Option (String × List Char) := do
  let (body, rest) ← longBody quote (quote == '"') (dropLineEnd cs)
  pure (← meaning quote true body, rest)

/-- A text after its first quote. -/
def quotedText (quote : Char) (cs : List Char) : Option (String × List Char) :=
  if cs.take 2 == [quote, quote] then longText quote (cs.drop 2) else shortText quote cs

end GradedReading.Format.Toml
