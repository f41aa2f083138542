import GradedReading.Text.Lowercase

/-!
# GradedReading.Files.Path

Paths of files, as texts and as lists of components.

**Key idea:** two texts stand for the same path iff they have the same components: repeated and
trailing slashes and inner dots do not count. A component remembers where it stands in the text, so
that a part of a path can be cut out as it was written.
-/

namespace GradedReading.Files

open Text

/-- One step of a path. -/
inductive Component where
  /-- The slash at the start of an absolute path. -/
  | root
  /-- A dot at the start of a relative path. -/
  | here
  /-- Two dots. -/
  | up
  | name (chars : List Char)
deriving DecidableEq, Repr, Inhabited

namespace Component

/-- The order of kinds: root, dot, two dots, names. -/
def kindRank : Component → Nat
  | .root => 0
  | .here => 1
  | .up => 2
  | .name _ => 3

/-- The order of components: by kind, and names by their characters. -/
def order : Component → Component → Ordering
  | .name a, .name b => compare (String.ofList a) (String.ofList b)
  | a, b => compare a.kindRank b.kindRank

end Component

/-- A component with the places where it starts and ends in the text. -/
structure PlacedComponent where
  component : Component
  start : Nat
  stop : Nat
deriving Repr

namespace Path

/-- What a stretch between slashes stands for. -/
def componentOf (first : Bool) (piece : List Char) : Option Component :=
  if piece.isEmpty then none
  else if piece == ['.'] then if first then some .here else none
  else if piece == ['.', '.'] then some .up
  else some (.name piece)

/-- The components of the stretches between slashes, the first of which starts at `start`. -/
def placedFrom (first : Bool) (start : Nat) : List (List Char) → List PlacedComponent
  | [] => []
  | piece :: rest =>
    ((componentOf first piece).map fun c => ⟨c, start, start + piece.length⟩).toList ++
      placedFrom false (start + piece.length + 1) rest

/-- The components of a path with their places. -/
def placed (path : List Char) : List PlacedComponent :=
  match path with
  | '/' :: rest => ⟨.root, 0, 1⟩ :: placedFrom false 1 (splitOnClass (· == '/') rest)
  | cs => placedFrom true 0 (splitOnClass (· == '/') cs)

/-- The components of a path. -/
def components (path : String) : List Component := (placed path.toList).map (·.component)

/-- The path is absolute. -/
def isAbsolute (path : String) : Bool := path.toList.head? == some '/'

/-- Drop the components of `base` from the front, if they are there. -/
def dropComponents : List Component → List PlacedComponent → Option (List PlacedComponent)
  | [], ps => some ps
  | c :: cs, p :: ps => if c = p.component then dropComponents cs ps else none
  | _ :: _, [] => none

/-- The part of a path below another one, as it is written. -/
def relativeTo? (path base : String) : Option String :=
  (dropComponents (components base) (placed path.toList)).map fun ps =>
    match ps.head?, ps.getLast? with
    | some first, some last =>
      String.ofList ((path.toList.take last.stop).drop first.start)
    | _, _ => ""

/-- The path lies at or below another one. -/
def isBelow (path base : String) : Bool := (components base).isPrefixOf (components path)

/-- The order of lists of components: the first difference decides. -/
def orderOf : List Component → List Component → Ordering
  | [], [] => .eq
  | [], _ :: _ => .lt
  | _ :: _, [] => .gt
  | a :: as, b :: bs =>
    match a.order b with
    | .eq => orderOf as bs
    | o => o

/-- The order of paths, component by component. -/
def order (a b : String) : Ordering := orderOf (components a) (components b)

/-- `a` comes before `b` or is the same path. -/
def atMost (a b : String) : Bool := order a b != .gt

/-- A path taken relative to another one. An absolute path stays as it is. -/
def join (base path : String) : String :=
  if isAbsolute path || base.isEmpty then path
  else if base.toList.getLast? == some '/' then base ++ path
  else base ++ "/" ++ path

/-! ### File names -/

/-- The name of the file, if the path ends in a name. -/
def fileName (path : String) : Option (List Char) :=
  match (components path).getLast? with
  | some (.name cs) => some cs
  | _ => none

/-- A file's name without its extension, and the extension after the last dot. A name that only
starts with a dot has no extension. -/
def splitName (name : List Char) : List Char × Option (List Char) :=
  let extension := (name.reverse.takeWhile (· != '.')).reverse
  let stem := name.take (name.length - extension.length - 1)
  if extension.length = name.length || stem.isEmpty then (name, none) else (stem, some extension)

/-- The name of the file without its extension; empty when there is no name. -/
def stem (path : String) : String :=
  match fileName path with
  | some name => String.ofList (splitName name).1
  | none => ""

/-- The extension of the file is one of these, up to ASCII case. -/
def hasExtension (path : String) (extensions : List String) : Bool :=
  match (fileName path).bind fun name => (splitName name).2 with
  | some e => extensions.contains (String.ofList (e.map lowerAscii))
  | none => false

/-- Extensions of pages. -/
def pageExtensions : List String := ["html", "htm"]

/-- Extensions of texts and pages. -/
def textExtensions : List String := ["txt", "md", "html", "htm"]

/-- The file is a page with markup. -/
def isPage (path : String) : Bool := hasExtension path pageExtensions

/-- The file is a text or a page. -/
def isReadable (path : String) : Bool := hasExtension path textExtensions

end Path

end GradedReading.Files
