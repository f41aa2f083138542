import GradedReading.Document.Basic
import GradedReading.Files.Disk
import GradedReading.Html.Page

/-!
# GradedReading.Files.Sources

The sources that a list of paths stands for: files as they are given, and the texts and pages in
folders.

A source is called after its file, and the markup of pages is stripped. Files that hold no text are
left out; it is an error if none is left.
-/

namespace GradedReading.Files

/-- Why no sources could be collected. -/
inductive CollectError where
  /-- A path that was given cannot be followed. -/
  | unreadable (path : String) (cause : FileError)
  /-- Nothing could be read. -/
  | nothing
deriving DecidableEq, Repr

namespace CollectError

/-- The error, and what caused it. -/
def chain : CollectError → List String
  | .unreadable path cause => ["read " ++ path, cause.message]
  | .nothing => ["no readable documents found"]

/-- The wording in one line. -/
def message (e : CollectError) : String := ": ".intercalate e.chain

end CollectError

/-- The files that a path stands for: itself, or the texts and pages below it in order. -/
def expand (d : Disk) (path : String) : Except CollectError (List String) :=
  match d.find path with
  | .error e => .error (.unreadable path e)
  | .ok l =>
    if l.entry.isFile then .ok [path]
    else
      .ok ((((Disk.filesBelow path l.entry).map (·.1)).filter Path.isReadable).mergeSort
        Path.atMost)

/-- The text of a file without markup. -/
def plainText (path text : String) : String :=
  if Path.isPage path then Html.readableText text else text

/-- Number the files that can be read. -/
def sourcesFrom (d : Disk) (rank : Nat) : List String → List Source
  | [] => []
  | path :: rest =>
    match d.readText path with
    | .error _ => sourcesFrom d rank rest
    | .ok text =>
      { rank, title := Path.stem path, url := some ("file://" ++ path)
        text := plainText path text } :: sourcesFrom d (rank + 1) rest

/-- The sources that these paths stand for. -/
def collectSources (d : Disk) (paths : List String) : Except CollectError (List Source) := do
  let files ← paths.mapM (expand d)
  match sourcesFrom d 0 files.flatten with
  | [] => .error .nothing
  | sources => .ok sources

end GradedReading.Files
