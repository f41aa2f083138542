import GradedReading.Files.Crawl
import GradedReading.Text.Words

/-!
# GradedReading.Files.Corpus

A folder of texts and pages as something to search.

**Key idea:** a file's score is the number of its words that are words of the query, in lowercase.
Files without a hit are left out; of the others the higher score comes first, and files of one score
keep the order of their paths. A restricted search looks only into the folders that were chosen for
it.
-/

namespace GradedReading.Files

open Search Text

/-- A file of a corpus. -/
structure CorpusFile where
  /-- The absolute path. -/
  path : String
  /-- The path below the corpus. -/
  display : String
  title : String
  /-- How the text begins. -/
  snippet : String
  /-- The words of the text in lowercase. -/
  words : List String
deriving DecidableEq, Repr, Inhabited

/-- Files to search. -/
structure Corpus where
  /-- The absolute path of the folder. -/
  root : String
  /-- The files in the order of their paths. -/
  files : List CorpusFile
  /-- The folders that a restricted search looks into. -/
  chosen : List String
deriving DecidableEq, Repr, Inhabited

/-- Characters of a title that are kept. -/
def titleChars : Nat := 80

/-- Characters of a snippet that are kept. -/
def snippetChars : Nat := 160

/-- A line without blanks around it and without the marks of a heading. -/
def headingText (line : List Char) : List Char :=
  trimBoth isBlank ((trimBoth isBlank line).dropWhile (· == '#'))

/-- The first line of a text that says something. -/
def titleOf? (text : String) : Option String :=
  (((lines text.toList).map headingText).find? fun l => !l.isEmpty).map fun l =>
    String.ofList (l.take titleChars)

/-- The beginning of a text, with one blank between words. -/
def snippetOf (text : String) : String :=
  String.ofList ((joinWith ' ' (fields text.toList)).take snippetChars)

/-- The words of a text in lowercase. -/
def lowerWords (text : String) : List String := (words text).map fun p => lowercase p.text

namespace CorpusFile

/-- A file below `root` with its text. -/
def ofText (root path text : String) : CorpusFile :=
  let display := (Path.relativeTo? path root).getD path
  { path, display
    title := (titleOf? text).getD display
    snippet := snippetOf text
    words := lowerWords text }

/-- The number of words that are among these terms. -/
def score (f : CorpusFile) (terms : List String) : Nat := f.words.countP terms.contains

/-- The file as the result at this place. -/
def result (f : CorpusFile) (rank : Nat) : SearchResult :=
  { title := f.title, url := fileScheme ++ f.path, displayUrl := f.display
    snippet := f.snippet, rank }

end CorpusFile

namespace Corpus

/-- No file at all. -/
def empty : Corpus := { root := "", files := [], chosen := [] }

/-- The texts and pages at or below a path. -/
def openAt (d : Disk) (path : String) : Except SearchError Corpus :=
  match d.find path with
  | .error e => .error (.unreachable (path ++ ": " ++ e.message))
  | .ok l =>
    let root := l.path
    let files := (Disk.filesBelow root l.entry).filterMap fun (path, bytes) =>
      if Path.isReadable path then
        (String.fromUTF8? bytes).map (CorpusFile.ofText root path)
      else none
    .ok { root, files := files.mergeSort fun a b => Path.atMost a.path b.path, chosen := [] }

/-- Choose the folders of restricted searches, relative to the corpus. -/
def withChosen (c : Corpus) (folders : List String) : Corpus :=
  { c with chosen := folders.map (Path.join c.root) }

/-- The file may be a result of such a query. -/
def admits (c : Corpus) (q : Query) (f : CorpusFile) : Bool :=
  !q.restricted || c.chosen.any (Path.isBelow f.path)

/-- The higher score comes first, then the earlier path. -/
def comesFirst (a b : Nat × CorpusFile) : Bool :=
  b.1 < a.1 || (a.1 == b.1 && Path.atMost a.2.path b.2.path)

/-- The files with a hit, in the order of the results. -/
def matching (c : Corpus) (q : Query) : List CorpusFile :=
  let terms := lowerWords q.text
  let scored := (c.files.filter (c.admits q)).map fun f => (f.score terms, f)
  ((scored.filter fun s => 0 < s.1).mergeSort comesFirst).map (·.2)

/-- One page of results. -/
def page (c : Corpus) (q : Query) (r : PageRequest) : Page :=
  let all := c.matching q
  let start := r.page * r.perPage
  { results := ((all.drop start).take r.perPage).zipIdx.map fun (f, i) => f.result (start + i)
    last := all.length ≤ start + r.perPage }

/-- The corpus as a provider of search results. -/
def provider (c : Corpus) : Provider where
  answer _ q r := .value (c.page q r)

end Corpus

end GradedReading.Files
