import GradedReading.Files.Disk
import GradedReading.Format.Toml.Document
import GradedReading.Ranking.Config
import GradedReading.Settings.Basic

/-!
# GradedReading.Settings.File

The settings file: a TOML document with the sections `pipeline` and `ranking`.

What the file gives replaces the standard settings; patterns of hosts are added to them. A file with
a key or a type that is not known is refused as a whole.
-/

namespace GradedReading.Settings

open Format.Toml Number

/-- What a settings file says. -/
structure File where
  threads : PerStage (Option Nat)
  /-- Time limits in seconds. -/
  timeLimits : PerStage (Option Nat)
  blacklist : Option (List String)
  lengthWeight : Option Float
  keywordWeight : Option Float
  disabledLevels : Option (List Level)
deriving Repr, Inhabited

/-- The number that a value stands for. -/
def number? : Value → Option Float
  | .float x => x
  | .integer (some n) =>
    if -(Nat.pow 2 63 : Int) ≤ n && n < Nat.pow 2 64 then some (ofDecimal (n < 0) n.natAbs 0) else none
  | _ => none

/-- A list of texts. -/
def texts? (v : Value) : Option (List String) := do (← v.items?).mapM Value.text?

/-- A list of levels, by their letters. -/
def levels? (v : Value) : Option (List Level) := do
  (← v.items?).mapM fun v => do Level.ofLetter? (← v.choice?)

/-- Read a field, if it is there. The outer result is missing if it cannot be read. -/
def optional {α : Type} (f : Value → Option α) : Option Value → Option (Option α)
  | none => some none
  | some v => (f v).map some

/-- The keys of the section on the pipeline. -/
def pipelineKeys : List String :=
  ["search_threads", "crawl_threads", "parse_threads", "search_timeout_secs",
   "crawl_timeout_secs", "parse_timeout_secs", "blacklist"]

/-- The keys of the section on the ranking. -/
def rankingKeys : List String := ["length_weight", "keyword_weight", "disabled_levels"]

namespace File

/-- A file that says nothing. -/
def silent : File :=
  { threads := .all none, timeLimits := .all none, blacklist := none, lengthWeight := none
    keywordWeight := none, disabledLevels := none }

/-- Read the section on the pipeline into a file. -/
def readPipeline (file : File) (section? : Option Value) : Option File :=
  match section? with
  | none => some file
  | some v => do
    match ← v.fields? pipelineKeys with
    | [ts, tc, tp, ls, lc, lp, b] =>
      let number := optional Value.natural?
      pure { file with
        threads := ⟨← number ts, ← number tc, ← number tp⟩
        timeLimits := ⟨← number ls, ← number lc, ← number lp⟩
        blacklist := ← optional texts? b }
    | _ => none

/-- Read the section on the ranking into a file. -/
def readRanking (file : File) (section? : Option Value) : Option File :=
  match section? with
  | none => some file
  | some v => do
    match ← v.fields? rankingKeys with
    | [l, k, d] =>
      pure { file with
        lengthWeight := ← optional number? l
        keywordWeight := ← optional number? k
        disabledLevels := ← optional levels? d }
    | _ => none

/-- Read a settings file. -/
def ofText? (text : String) : Option File := do
  match ← (← read? text).fields? ["pipeline", "ranking"] with
  | [pipeline, ranking] => (← silent.readPipeline pipeline).readRanking ranking
  | _ => none

/-- The name of the settings file of a folder. -/
def fileName : String := ".flair.toml"

/-- Read the settings file with this path. A file that is missing or wrong says nothing. -/
def load? (d : Files.Disk) (path : String) : Option File := do
  ofText? (← (d.readText path).toOption)

/-- Read the settings file of a folder. -/
def loadFrom? (d : Files.Disk) (folder : String) : Option File :=
  load? d (Files.Path.join folder fileName)

/-- A time limit of no seconds is no limit. -/
def limitOfSeconds (n : Nat) : Option Duration := if 0 < n then some (.ofSeconds n) else none

/-- The settings after the file. -/
def applyTo (file : File) (s : Settings) : Settings :=
  { threads := s.threads.override file.threads
    timeLimits := s.timeLimits.override (file.timeLimits.map (Option.map limitOfSeconds))
    blacklist := s.blacklist ++ file.blacklist.getD [] }

/-- The wishes for a ranking after the file. -/
def applyToRanking (file : File) (c : Ranking.Config Float) : Ranking.Config Float :=
  let c := match file.lengthWeight with
    | some w => c.withLengthWeight w
    | none => c
  let c := match file.keywordWeight with
    | some w => c.withKeywordWeight w
    | none => c
  (file.disabledLevels.getD []).foldl (fun c l => c.withLevel l false) c

end File

end GradedReading.Settings
