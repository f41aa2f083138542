import GradedReading.Format.Toml.Quoted
import GradedReading.Format.Toml.Scalar

/-!
# GradedReading.Format.Toml.Document

TOML documents: lines that open a table or give a value to a key.

**Key idea:** a text is read as a list of statements, without regard to what came before; the
statements are then carried out one after the other, and that is where repeated keys and tables are
refused.
-/

namespace GradedReading.Format.Toml

/-! ### Blanks, comments and keys -/

/-- Skip blanks, line ends and comments. -/
def skipTrivia (inComment : Bool) : List Char → Option (List Char)
  | [] => some []
  | c :: cs =>
    if c == '\n' || (c == '\r' && cs.head? == some '\n') then skipTrivia false cs
    else if inComment then if isPlain c then skipTrivia true cs else none
    else if isSpace c then skipTrivia false cs
    else if c == '#' then skipTrivia true cs
    else some (c :: cs)

/-- Skip spaces and tabs. -/
def skipSpaces (cs : List Char) : List Char := cs.dropWhile isSpace

/-- The end of a line: blanks, an optional comment, and a line end or the end of the text. -/
def lineEnd? (cs : List Char) : Option (List Char) :=
  match skipSpaces cs with
  | [] => some []
  | c :: rest =>
    if c == '\n' || c == '#' || (c == '\r' && rest.head? == some '\n') then
      skipTrivia false (c :: rest)
    else none

/-- A character of a key without quotes. -/
def isBare (c : Char) : Bool := c.isAlphanum || c == '_' || c == '-'

/-- One part of a key. -/
def keyPart? (cs : List Char) : Option (String × List Char) :=
  match cs with
  | [] => none
  | c :: rest =>
    if c == '"' || c == singleQuote then shortText c rest
    else
      let name := cs.takeWhile isBare
      if name.isEmpty then none else some (String.ofList name, cs.drop name.length)

/-- Arrays and tables in braces are nested no deeper than this, and keys have no more parts. -/
def deepest : Nat := 80

/-- The parts of a key, with dots between them. `steps` bounds the parts. -/
def keyParts? : (steps : Nat) → List Char → Option (List String × List Char)
  | 0, _ => none
  | steps + 1, cs => do
    let (part, rest) ← keyPart? (skipSpaces cs)
    match skipSpaces rest with
    | '.' :: rest =>
      let (parts, rest) ← keyParts? steps rest
      pure (part :: parts, rest)
    | rest => pure ([part], rest)

/-- A key. -/
def key? (cs : List Char) : Option (List String × List Char) := keyParts? deepest cs

/-! ### Values -/

/-- A character that ends a scalar. -/
def endsScalar (c : Char) : Bool :=
  isSpace c || ['\n', '\r', ',', '=', '[', ']', '\x7b', '\x7d', '#'].contains c

/-- A scalar and the rest. A space between a date and a time belongs to it. -/
def scalarText (cs : List Char) : List Char × List Char :=
  let first := cs.takeWhile (!endsScalar ·)
  let rest := cs.drop first.length
  match rest with
  | ' ' :: more =>
    let second := more.takeWhile (!endsScalar ·)
    if afterDate? first == some [] && !second.isEmpty then
      (first ++ ' ' :: second, more.drop second.length)
    else (first, rest)
  | rest => (first, rest)

mutual

/-- A value at the front, inside of `depth` brackets. `steps` bounds the depth and the number of
parts. -/
def value? : (steps depth : Nat) → List Char → Option (Value × List Char)
  | 0, _, _ => none
  | _, _, [] => none
  | steps + 1, depth, c :: cs =>
    if c == '"' || c == singleQuote then
      (quotedText c cs).map fun (s, rest) => (.text s, rest)
    else if (c == '[' || c == '\x7b') && depth ≥ deepest then none
    else if c == '[' then (items? steps (depth + 1) cs).map fun (vs, rest) => (.array vs, rest)
    else if c == '\x7b' then members? steps (depth + 1) (Value.newTable .braces) cs
    else
      let (text, rest) := scalarText (c :: cs)
      (scalar? text).map fun v => (v, rest)

/-- The items of an array up to its closing bracket. -/
def items? : (steps depth : Nat) → List Char → Option (List Value × List Char)
  | 0, _, _ => none
  | steps + 1, depth, cs => do
    match ← skipTrivia false cs with
    | ']' :: rest => pure ([], rest)
    | cs =>
      let (v, rest) ← value? steps depth cs
      match ← skipTrivia false rest with
      | ']' :: rest => pure ([v], rest)
      | ',' :: rest =>
        let (vs, rest) ← items? steps depth rest
        pure (v :: vs, rest)
      | _ => none

/-- The entries of a table in braces up to its closing brace, added to `table`. -/
def members? : (steps depth : Nat) → (table : Value) → List Char → Option (Value × List Char)
  | 0, _, _, _ => none
  | steps + 1, depth, table, cs => do
    match ← skipTrivia false cs with
    | '\x7d' :: rest => pure (table, rest)
    | cs =>
      let (path, v, rest) ← pair? steps depth cs
      let table ← Value.assign path.dropLast (path.getLastD "") v table
      match ← skipTrivia false rest with
      | '\x7d' :: rest => pure (table, rest)
      | ',' :: rest => members? steps depth table rest
      | _ => none

/-- A key, an equals sign and a value. -/
def pair? : (steps depth : Nat) → List Char → Option (List String × Value × List Char)
  | 0, _, _ => none
  | steps + 1, depth, cs => do
    let (path, rest) ← key? cs
    match skipSpaces rest with
    | '=' :: rest =>
      let (v, rest) ← value? steps depth (skipSpaces rest)
      pure (path, v, rest)
    | _ => none

end

/-! ### Statements -/

/-- What a line of a document does. -/
inductive Statement where
  /-- Open the table with this path. -/
  | openTable (path : List String)
  /-- Open one more table of the array with this path. -/
  | openItem (path : List String)
  /-- Give a value to a key of the open table. -/
  | assign (path : List String) (v : Value)

/-- One statement at the front. -/
def statement? (steps : Nat) (cs : List Char) : Option (Statement × List Char) :=
  match cs with
  | '[' :: '[' :: rest => do
    match ← key? rest with
    | (path, ']' :: ']' :: rest) => pure (.openItem path, rest)
    | _ => none
  | '[' :: rest => do
    match ← key? rest with
    | (path, ']' :: rest) => pure (.openTable path, rest)
    | _ => none
  | cs => do
    let (path, v, rest) ← pair? steps 0 cs
    pure (.assign path v, rest)

/-- The statements of a text. `steps` bounds their number. -/
def statementsFrom? : (steps : Nat) → List Char → Option (List Statement)
  | 0, _ => none
  | steps + 1, cs => do
    match ← skipTrivia false cs with
    | [] => pure []
    | cs =>
      let (s, rest) ← statement? (2 * (cs.length + 2)) cs
      let later ← statementsFrom? steps (← lineEnd? rest)
      pure (s :: later)

/-- The statements of a text, after an optional byte order mark. -/
def statements? (cs : List Char) : Option (List Statement) :=
  let cs := match cs with
    | '\ufeff' :: rest => rest
    | cs => cs
  statementsFrom? (cs.length + 1) cs

/-- Carry out a statement: `current` is the path of the open table. -/
def Statement.run (current : List String) (root : Value) :
    Statement → Option (List String × Value)
  | .openTable path => do
    let root ← root.within false (Value.openTable (path.getLastD "")) path.dropLast
    pure (path, root)
  | .openItem path => do
    let root ← root.within false (Value.openItem (path.getLastD "")) path.dropLast
    pure (path, root)
  | .assign path v => do
    let root ← root.within false (Value.assign path.dropLast (path.getLastD "") v) current
    pure (current, root)

/-- The table that a document stands for. -/
def read? (text : String) : Option Value := do
  let statements ← statements? text.toList
  let (_, root) ← statements.foldlM (fun (current, root) s => s.run current root)
    ([], Value.newTable .header)
  pure root

end GradedReading.Format.Toml
