import GradedReading.Format.Column
import GradedReading.Format.Debug
import GradedReading.Format.Json
import GradedReading.Ranking.Order

/-!
# GradedReading.Ranking.Report

Rankings as text: a table for people, JSON for programs, and the developers' view of a
configuration.
-/

namespace GradedReading.Ranking

open Format Number

/-- The documents of a report: all of them, or the first few. -/
def Ranked.top (r : Ranked Float) (limit : Option Nat) : List (Scored Float) :=
  match limit with
  | some n => r.documents.take n
  | none => r.documents

/-! ### JSON -/

/-- One document. -/
def documentJson (s : Scored Float) : Json :=
  let d := s.document
  .object [
    ("rank", .nat d.rank),
    ("title", .string d.source.title),
    ("url", .ofString? d.source.url),
    ("score", .float s.score),
    ("level", .string d.level.letter),
    ("readability", .float d.readability.score),
    ("words", .nat d.length),
    ("keyword_hits", .nat d.keywordCount),
    ("constructions",
      .object (d.constructions.toList.map fun (name, spans) => (name, .nat spans.length)))]

/-- One dimension. -/
def dimensionJson (e : Dimension × DimensionStats Float) : Json :=
  .object [
    ("dimension", .string e.1.name),
    ("weight", .float e.2.weight),
    ("df", .nat e.2.documents),
    ("idf", .float e.2.rarity)]

/-- The ranking as JSON, with at most `limit` documents and the dimensions that score. -/
def Ranked.toJson (r : Ranked Float) (limit : Option Nat) : Json :=
  .object [
    ("sort_mode", .string r.mode.name),
    ("num_filtered", .nat r.filtered),
    ("avg_length", .float r.weights.averageLength),
    ("documents", .array ((r.top limit).map documentJson)),
    ("weights", .array (r.weights.scoring.map dimensionJson))]

/-! ### Table -/

/-- The titles of a table are cut to this many characters. -/
def titleWidth : Nat := 60

/-- A line of the table. -/
def tableLine (rank score level words title : String) : String :=
  padLeft 4 rank ++ "  " ++ padLeft 8 score ++ "  " ++ padLeft 5 level ++ "  " ++
    padLeft 6 words ++ "  " ++ title ++ "\n"

/-- The line of one document. -/
def documentLine (s : Scored Float) : String :=
  let d := s.document
  tableLine (toString d.rank) (fixedText 4 s.score) d.level.letter (toString d.length)
    (truncate titleWidth d.source.title)

/-- The line of one dimension. -/
def dimensionLine (e : Dimension × DimensionStats Float) : String :=
  "  " ++ padRight 20 e.1.name ++ " weight " ++ fixedText 3 e.2.weight ++ "  df " ++
    padLeft 3 (toString e.2.documents) ++ "  idf " ++ fixedText 3 e.2.rarity ++ "\n"

/-- The ranking as a table, with at most `limit` documents and the dimensions that score. -/
def Ranked.table (r : Ranked Float) (limit : Option Nat) : String :=
  let scoring := r.weights.scoring
  "Ranking: " ++ toString r.documents.length ++ " documents (" ++ toString r.filtered ++
    " filtered), sorted by " ++ r.mode.title ++ "\n" ++
    tableLine "#" "score" "level" "words" "title" ++
    String.join ((r.top limit).map documentLine) ++
    (if scoring.isEmpty then "" else "Weights:\n" ++ String.join (scoring.map dimensionLine))

/-- The report that a command prints. -/
def Ranked.report (r : Ranked Float) (json : Bool) (limit : Option Nat) : String :=
  if json then (r.toJson limit).render ++ "\n" else r.table limit

/-! ### Configurations -/

/-- A configuration as developers see it. -/
def Config.debug (c : Config Float) : String :=
  let construction (name : String) : String := "Construction(" ++ Debug.text name ++ ")"
  Debug.record "RankerConfig" [
    ("enabled_levels", Debug.braces (c.enabledLevels.map Level.letter)),
    ("construction_weights", Debug.braces (c.constructionWeights.toList.map fun (name, w) =>
      Debug.entry (construction name) (Debug.float w))),
    ("disabled_constructions", Debug.braces (c.disabledConstructions.map construction)),
    ("level_weights", Debug.braces (c.levelWeights.toList.map fun (l, w) =>
      Debug.entry l.letter (Debug.float w))),
    ("keyword_weight", Debug.float c.keywordWeight),
    ("length_weight", Debug.float c.lengthWeight),
    ("custom_filter", Debug.bool c.filter.isSome)]

end GradedReading.Ranking
