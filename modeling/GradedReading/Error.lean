import GradedReading.Language
import GradedReading.Number.Duration

/-!
# GradedReading.Error

What can go wrong: in a search, a crawl or a parse, in the task that runs one of them, and in the
operation that the task belongs to. Each error names its cause, and its wording is given once.
-/

namespace GradedReading

open Number

/-- The three stages of work; each has a pool of its own. -/
inductive Stage where
  | search
  | crawl
  | parse
deriving DecidableEq, Repr, Inhabited

/-- The word for a stage. -/
def Stage.name : Stage → String
  | .search => "search"
  | .crawl => "crawl"
  | .parse => "parse"

/-- Why a page of search results could not be had. -/
inductive SearchError where
  /-- The provider refused the credentials. -/
  | unauthorized (message : String)
  /-- The provider could not be reached. -/
  | unreachable (message : String)
  /-- The provider answered with an error of its own. -/
  | provider (message : String)
deriving DecidableEq, Repr, Inhabited

/-- The wording of a search error. -/
def SearchError.message : SearchError → String
  | .unauthorized m => "search provider rejected credentials: " ++ m
  | .unreachable m => "search provider unreachable: " ++ m
  | .provider m => "search provider error: " ++ m

/-- The kind of a search error, in one word. -/
def SearchError.kind : SearchError → String
  | .unauthorized _ => "unauthorized"
  | .unreachable _ => "unreachable"
  | .provider _ => "provider"

/-- Why a search result gave no text. -/
inductive CrawlError where
  /-- The page could not be had. -/
  | fetch (url reason : String)
  /-- The page holds no text. -/
  | noText (url : String)
deriving DecidableEq, Repr, Inhabited

/-- The wording of a crawl error. -/
def CrawlError.message : CrawlError → String
  | .fetch url reason => "failed to fetch " ++ url ++ ": " ++ reason
  | .noText url => "no text could be extracted from " ++ url

/-- The kind of a crawl error, in one word. -/
def CrawlError.kind : CrawlError → String
  | .fetch .. => "fetch"
  | .noText _ => "no_text"

/-- Why a source gave no document. -/
inductive ParseError where
  /-- The parser does not know the language. -/
  | unsupported (language : Language)
  /-- The source with this rank holds nothing to parse. -/
  | empty (rank : Nat)
  /-- The parser itself failed. -/
  | engine (message : String)
deriving DecidableEq, Repr, Inhabited

/-- The wording of a parse error. -/
def ParseError.message : ParseError → String
  | .unsupported l => "language '" ++ l.code ++ "' is not supported by this parser"
  | .empty rank => "source #" ++ toString rank ++ " has no text to parse"
  | .engine m => "parser failed: " ++ m

/-- The kind of a parse error, in one word. -/
def ParseError.kind : ParseError → String
  | .unsupported _ => "unsupported"
  | .empty _ => "empty"
  | .engine _ => "engine"

/-- Why a task gave no result. -/
inductive TaskError where
  | search (cause : SearchError)
  | crawl (cause : CrawlError)
  | parse (cause : ParseError)
  /-- The task gave up for a reason of its own. -/
  | failed (message : String)
  /-- The task was torn down by a panic. -/
  | panicked (message : String)
  /-- The task ran longer than its limit. -/
  | timedOut (limit : Duration)
  /-- The pool no longer runs tasks. -/
  | poolClosed (stage : Stage)
deriving DecidableEq, Repr, Inhabited

/-- The wording of a task error. -/
def TaskError.message : TaskError → String
  | .search e => e.message
  | .crawl e => e.message
  | .parse e => e.message
  | .failed m => m
  | .panicked m => "task panicked: " ++ m
  | .timedOut d => "task timed out after " ++ d.text
  | .poolClosed s => s.name ++ " pool is shut down"

/-- The kind of a task error, in one word. -/
def TaskError.kind : TaskError → String
  | .search _ => "search"
  | .crawl _ => "crawl"
  | .parse _ => "parse"
  | .failed _ => "failed"
  | .panicked _ => "panicked"
  | .timedOut _ => "timed_out"
  | .poolClosed _ => "pool_closed"

/-- Misuse of an operation, a document or a session, and failures of a whole operation. -/
inductive OperationError where
  | alreadyBegun
  | notBegun
  /-- Another operation of the session is still active. -/
  | previousStateNotCleared
  | unsupportedLanguage (language : Language)
  /-- A document of another language was added to a collection. -/
  | languageMismatch (expected found : Language)
  /-- The document with this rank was marked twice. -/
  | alreadyParsed (rank : Nat)
  | noCollection
  | noCursor
  /-- The search of the operation failed. -/
  | searchStage (cause : TaskError)
  | poolStart (stage : Stage) (reason : String)
  | relayStart (reason : String)
deriving DecidableEq, Repr, Inhabited

/-- The wording of an operation error. -/
def OperationError.message : OperationError → String
  | .alreadyBegun => "operation already begun"
  | .notBegun => "operation has not been begun"
  | .previousStateNotCleared => "previous state not cleared: an operation is still active"
  | .unsupportedLanguage l =>
    "language '" ++ l.code ++ "' is not supported by the configured parser"
  | .languageMismatch expected found =>
    "document language '" ++ found.code ++ "' does not match collection language '" ++
      expected.code ++ "'"
  | .alreadyParsed rank => "document #" ++ toString rank ++ " was already flagged as parsed"
  | .noCollection => "no document collection is cached for this session"
  | .noCursor => "no search cursor is available to continue from"
  | .searchStage e => "search stage failed: " ++ e.message
  | .poolStart s reason => "failed to start " ++ s.name ++ " pool: " ++ reason
  | .relayStart reason => "failed to start session relay: " ++ reason

/-- The kind of an operation error, in one word. -/
def OperationError.kind : OperationError → String
  | .alreadyBegun => "already_begun"
  | .notBegun => "not_begun"
  | .previousStateNotCleared => "previous_state_not_cleared"
  | .unsupportedLanguage _ => "unsupported_language"
  | .languageMismatch .. => "language_mismatch"
  | .alreadyParsed _ => "already_parsed"
  | .noCollection => "no_collection"
  | .noCursor => "no_cursor"
  | .searchStage _ => "search_stage"
  | .poolStart .. => "pool_start"
  | .relayStart _ => "relay_start"

end GradedReading
