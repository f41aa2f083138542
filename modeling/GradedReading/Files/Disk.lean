import GradedReading.Files.Path
import GradedReading.Text.Span

/-!
# GradedReading.Files.Disk

Folders and files as data.

**Key idea:** a disk is a tree of folders and a working folder. A path is followed step by step,
from the root or from the working folder, and each step but the last needs a folder to start from;
where it fails, the error tells why, in the words of the operating system.
-/

namespace GradedReading.Files

open Text

/-- A file or a folder. -/
inductive Entry where
  | file (bytes : ByteArray)
  | folder (entries : List (String × Entry))

/-- Why a file cannot be read or a path cannot be followed. -/
inductive FileError where
  | notFound
  | notFolder
  | isFolder
  | nameTooLong
  /-- The path holds a character that no file name can hold. -/
  | nullInName
  /-- The bytes are no text. -/
  | notText
deriving DecidableEq, Repr

/-- The wording of a file error. -/
def FileError.message : FileError → String
  | .notFound => "No such file or directory (os error 2)"
  | .notFolder => "Not a directory (os error 20)"
  | .isFolder => "Is a directory (os error 21)"
  | .nameTooLong => "File name too long (os error 36)"
  | .nullInName => "file name contained an unexpected NUL byte"
  | .notText => "stream did not contain valid UTF-8"

namespace Entry

/-- An empty folder. -/
def emptyFolder : Entry := .folder []

/-- The entry is a file. -/
def isFile : Entry → Bool
  | .file _ => true
  | .folder _ => false

/-- The contents of a folder; a file has none. -/
def children : Entry → List (String × Entry)
  | .file _ => []
  | .folder es => es

/-- Replace or add a child. -/
def putChild (name : String) (e : Entry) : List (String × Entry) → List (String × Entry)
  | [] => [(name, e)]
  | (n, e') :: rest => if n = name then (n, e) :: rest else (n, e') :: putChild name e rest

/-- Put an entry below a folder, with the folders on the way. What is a folder already stays when a
folder is put there. -/
def put (new : Entry) : List String → Entry → Entry
  | [], old => if new.isFile then new else .folder old.children
  | name :: rest, old =>
    let child := (old.children.lookup name).getD emptyFolder
    .folder (putChild name (put new rest child) old.children)

end Entry

/-- Folders and files, and the working folder. -/
structure Disk where
  root : Entry
  /-- The names from the root to the working folder. -/
  workingFolder : List String

/-- An entry that was reached, below the entries on the way, the nearest first. -/
structure Location where
  above : List (String × Entry)
  entry : Entry
  /-- The entry's name; empty for the root. -/
  name : String

namespace Location

/-- One step of a path. -/
def step (l : Location) (piece : List Char) : Except FileError Location :=
  match l.entry with
  | .file _ => .error .notFolder
  | .folder entries =>
    if piece.isEmpty || piece == ['.'] then .ok l
    else if piece == ['.', '.'] then
      match l.above with
      | [] => .ok l
      | (name, e) :: above => .ok ⟨above, e, name⟩
    else if byteLength piece > 255 then .error .nameTooLong
    else
      let name := String.ofList piece
      match entries.lookup name with
      | some e => .ok ⟨(l.name, l.entry) :: l.above, e, name⟩
      | none => .error .notFound

/-- The absolute path of a location. -/
def path (l : Location) : String :=
  let names := ((l.name :: l.above.map (·.1)).reverse.drop 1)
  "/" ++ "/".intercalate names

end Location

namespace Disk

/-- The root of a disk. -/
def top (d : Disk) : Location := ⟨[], d.root, ""⟩

/-- The working folder. -/
def here (d : Disk) : Except FileError Location :=
  d.workingFolder.foldlM (fun l name => l.step name.toList) d.top

/-- The longest path that can be followed, in bytes. -/
def longestPath : Nat := 4095

/-- Follow a path. -/
def find (d : Disk) (path : String) : Except FileError Location := do
  let cs := path.toList
  if cs.contains '\x00' then .error .nullInName
  else if cs.isEmpty then .error .notFound
  else if byteLength cs > longestPath then .error .nameTooLong
  else
    let start ← if Path.isAbsolute path then .ok d.top else d.here
    (splitOnClass (· == '/') cs).foldlM Location.step start

/-- The text of a file. -/
def readText (d : Disk) (path : String) : Except FileError String := do
  match (← d.find path).entry with
  | .folder _ => .error .isFolder
  | .file bytes =>
    match String.fromUTF8? bytes with
    | some s => .ok s
    | none => .error .notText

mutual

/-- The paths of all files at or below an entry with this path. -/
def filesBelow (path : String) : Entry → List (String × ByteArray)
  | .file bytes => [(path, bytes)]
  | .folder entries => filesOfFolder path entries

/-- The paths of all files in a folder with this path. -/
def filesOfFolder (path : String) : List (String × Entry) → List (String × ByteArray)
  | [] => []
  | (name, e) :: rest => filesBelow (Path.join path name) e ++ filesOfFolder path rest

end

end Disk

end GradedReading.Files
