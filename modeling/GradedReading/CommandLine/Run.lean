import GradedReading.CommandLine.Invocation
import GradedReading.Files.Corpus
import GradedReading.Ranking.Report
import GradedReading.Session.Run
import GradedReading.Settings.File

/-!
# GradedReading.CommandLine.Run

What the program does for a command line: search a corpus or parse files, and print the ranking of
the documents.

A run is a function of the command line and of the disk. What is printed is kept apart from the
report of a failure, which ends the run.
-/

namespace GradedReading.CommandLine

open Search

/-- Why a command failed: what went wrong, and what caused it. -/
structure Failure where
  message : String
  causes : List String
deriving DecidableEq, Repr, Inhabited

namespace Failure

/-- A failure that tells all about itself. -/
def ofMessage (message : String) : Failure := ⟨message, []⟩

/-- A failure told by its wording and the wordings of its causes. -/
def ofChain : List String → Failure
  | [] => ofMessage ""
  | message :: causes => ⟨message, causes⟩

/-- Lines after the first one stand below its text. -/
def indent (s : String) : String := "    " ++ s.replace "\n" "\n    "

/-- The report of a failure. -/
def report (f : Failure) : String :=
  let causes := if f.causes.isEmpty then "" else
    "\n\nCaused by:" ++ String.join (f.causes.map fun c => "\n" ++ indent c)
  "Error: " ++ f.message ++ causes

end Failure

/-- The wishes for the ranking: the standard ones, those of the settings file, and then those of the
command line. -/
def CommonOptions.ranking (c : CommonOptions) (file : Option Settings.File) :
    Ranking.Config Float :=
  let config := match file with
    | some file => file.applyToRanking .standard
    | none => .standard
  let config := c.weights.foldl (fun config (name, w) => config.withConstructionWeight name w) config
  let config := c.disabled.foldl (fun config name => config.withDisabledConstruction name) config
  let config := c.disabledLevels.foldl (fun config l => config.withLevel l false) config
  let config := match c.keywordWeight with
    | some w => config.withKeywordWeight w
    | none => config
  let config := match c.lengthWeight with
    | some w => config.withLengthWeight w
    | none => config
  match c.minWords with
  | some n => config.withFilter fun d => n ≤ d.length
  | none => config

/-- The settings file that counts: the one that was named, or the one of the working folder. -/
def Invocation.settingsFile (i : Invocation) (d : Files.Disk) : Option Settings.File :=
  match i.config with
  | some path => Settings.File.load? d path
  | none => Settings.File.loadFrom? d "."

/-- A corpus to search, the files of a disk to crawl, and the built-in parsers. -/
def localServices (d : Files.Disk) (corpus : Files.Corpus) (s : Settings) : Services :=
  { provider := corpus.provider, crawler := Files.crawler d, parsers := Parser.heuristicFactory
    blocked := s.blocked, waits := .none }

/-- The outcome of an operation that was begun, with the session afterwards. The answer is whether
the operation completed; one that was cancelled is no failure. -/
def follow (sv : Services) (begun : Option (Except OperationError Nat) × Session) :
    Except Failure (Bool × Session) :=
  match begun with
  | (some (.error e), _) => .error (.ofMessage e.message)
  | (_, s) =>
    match s.wait sv with
    | (.ok (some (.completed ..)), s) => .ok (true, s)
    | (.ok (some (.failed e)), _) => .error (.ofMessage e.message)
    | (.ok _, s) => .ok (false, s)
    | (.error e, _) => .error (.ofMessage e.message)

/-- The printed ranking of what a session has collected. -/
def printed (c : CommonOptions) (file : Option Settings.File) (s : Session) :
    Except Failure String :=
  match s.rerank (c.ranking file) with
  | .ok ranked => .ok (ranked.report c.json c.top)
  | .error e => .error (.ofMessage e.message)

/-- The corpus that a search is to use. -/
def openCorpus (d : Files.Disk) (path : String) (restrictedDirs : List String) :
    Except Failure Files.Corpus :=
  match Files.Corpus.openAt d path with
  | .ok corpus => .ok (corpus.withChosen restrictedDirs)
  | .error e => .error ⟨"open corpus " ++ path, [e.message]⟩

/-- What a command prints. -/
def runTask (d : Files.Disk) (settings : Settings) (file : Option Settings.File) (i : Invocation) :
    Except Failure String := do
  let session := Session.ofPipeline (.ofSettings settings)
  let language := i.common.language
  let keywords := KeywordSet.ofList i.common.keywords
  match i.task with
  | .search text path results restricted restrictedDirs more =>
    let corpus ← openCorpus d path restrictedDirs
    let sv := localServices d corpus settings
    let query : Query := ⟨language, text, restricted⟩
    let (completed, session) ←
      follow sv (session.await sv (Session.search sv query results keywords none))
    let (completed, session) ← match more with
      | some n =>
        let (again, session) := if completed then session.canLoadMore else (false, session)
        if again then follow sv (session.await sv (Session.more sv n none))
        else pure (completed, session)
      | none => pure (completed, session)
    if completed then printed i.common file session else pure ""
  | .parse paths =>
    let sources ← (Files.collectSources d paths).mapError fun e => Failure.ofChain e.chain
    let sv := localServices d .empty settings
    let (completed, session) ←
      follow sv (session.await sv (Session.parse sv language sources keywords none))
    if completed then printed i.common file session else pure ""

/-- What a run leaves behind. -/
structure Result where
  exitCode : Nat
  /-- What was printed. -/
  output : String
  /-- The report of the failure, if there was one. -/
  report : String
deriving DecidableEq, Repr, Inhabited

/-- Run the program on a disk, on a machine that can parse so many documents at once. -/
def run (parseThreads : Nat) (d : Files.Disk) (i : Invocation) : Result :=
  let file := i.settingsFile d
  let standard := Settings.standard parseThreads
  let settings := match file with
    | some file => file.applyTo standard
    | none => standard
  match runTask d settings file i with
  | .ok output => ⟨0, output, ""⟩
  | .error f => ⟨1, "", f.report⟩

end GradedReading.CommandLine
