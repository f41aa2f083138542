import GradedReading.Document.Readability
import GradedReading.Error
import GradedReading.Keyword.Hits

/-!
# GradedReading.Document.Basic

Documents: sources of text and what a parser found in them.

**Key idea:** text, counts and constructions of a document never change. Three things are added
later: the mark that it was parsed, which is set once, the keyword hits, and the readability, which
is fixed by whoever gives it or asks for it first.
-/

namespace GradedReading

open Text

/-- What a source is called, without its text. -/
structure SourceInfo where
  rank : Nat
  title : String
  url : Option String
deriving DecidableEq, Repr, Inhabited

/-- A text to parse: a page that was fetched or a file that was given. -/
structure Source extends SourceInfo where
  text : String
deriving DecidableEq, Repr, Inhabited

/-- Names of grammatical constructions with the places where they occur. -/
abbrev Constructions := Entries String (List Span)

/-- A parsed source. -/
structure Document where
  source : Source
  language : Language
  stats : TextStats
  constructions : Constructions
  /-- The readability, once it is fixed. -/
  fixed : Option Readability
  hits : Option KeywordHits
  parsed : Bool
deriving Repr, Inhabited

namespace Document

/-- A document fresh from the parser. -/
def fresh (source : Source) (language : Language) (stats : TextStats)
    (constructions : Constructions) : Document :=
  { source, language, stats, constructions, fixed := none, hits := none, parsed := false }

/-- The position of the source in its batch or result list. -/
def rank (d : Document) : Nat := d.source.rank

/-- The length in words. -/
def length (d : Document) : Nat := d.stats.words

/-- The readability: the one that is fixed, else the one for the language. -/
def readability (d : Document) : Readability :=
  d.fixed.getD (.compute d.language d.stats)

/-- The level of the readability. -/
def level (d : Document) : Level := d.readability.level

/-- The document after its readability was asked for. -/
def fixReadability (d : Document) : Document := { d with fixed := some d.readability }

/-- Give a readability. It counts only if none is fixed yet. -/
def withReadability (d : Document) (r : Readability) : Document :=
  { d with fixed := some (d.fixed.getD r) }

/-- Mark the document as parsed, which must not happen twice. -/
def markParsed (d : Document) : Except OperationError Document :=
  if d.parsed then .error (.alreadyParsed d.rank) else .ok { d with parsed := true }

/-- Attach keyword hits in the place of earlier ones. -/
def setHits (d : Document) (h : KeywordHits) : Document := { d with hits := some h }

/-- The number of keyword hits. -/
def keywordCount (d : Document) : Nat := (d.hits.map KeywordHits.total).getD 0

/-- How often a construction occurs. -/
def constructionCount (d : Document) (name : String) : Nat :=
  ((d.constructions.get? name).map List.length).getD 0

/-- The construction occurs. -/
def hasConstruction (d : Document) (name : String) : Bool := d.constructionCount name > 0

@[simp] theorem readability_fixReadability (d : Document) :
    d.fixReadability.readability = d.readability := rfl

@[simp] theorem level_setHits (d : Document) (h : KeywordHits) : (d.setHits h).level = d.level := rfl

end Document

end GradedReading
