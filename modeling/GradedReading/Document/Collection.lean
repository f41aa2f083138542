import GradedReading.Document.Basic

/-!
# GradedReading.Document.Collection

Collections of documents of one language, in the order in which they came.
-/

namespace GradedReading

/-- Documents of one language. -/
structure Collection where
  language : Language
  documents : List Document
deriving Repr, Inhabited

/-- How common a construction is in a collection. -/
structure ConstructionStats where
  /-- Documents in which it occurs. -/
  documentFrequency : Nat
  /-- Occurrences in all documents. -/
  occurrences : Nat
deriving DecidableEq, Repr, Inhabited

namespace Collection

/-- No document yet. -/
def empty (language : Language) : Collection := ⟨language, []⟩

/-- Append a document, which must have the collection's language. -/
def add (c : Collection) (d : Document) : Except OperationError Collection :=
  if d.language = c.language then .ok { c with documents := c.documents ++ [d] }
  else .error (.languageMismatch c.language d.language)

/-- The number of documents. -/
def size (c : Collection) : Nat := c.documents.length

/-- Append those documents that have the collection's language. -/
def addAll (c : Collection) (ds : List Document) : Collection :=
  { c with documents := c.documents ++ ds.filter (·.language = c.language) }

/-- Count one document's occurrences of one construction. -/
def countConstruction (stats : Entries String ConstructionStats) (name : String) (n : Nat) :
    Entries String ConstructionStats :=
  if n = 0 then stats
  else stats.update name ⟨0, 0⟩ fun s => ⟨s.documentFrequency + 1, s.occurrences + n⟩

/-- For each construction that occurs, how common it is. -/
def constructionStats (c : Collection) : Entries String ConstructionStats :=
  c.documents.foldl
    (fun stats d => d.constructions.toList.foldl
      (fun stats (name, spans) => countConstruction stats name spans.length) stats) .empty

/-- How many documents have this level. -/
def levelCount (c : Collection) (l : Level) : Nat := c.documents.countP (·.level = l)

/-- The number of documents for each level. -/
def levelCounts (c : Collection) : Entries Level Nat :=
  ⟨Level.all.map fun l => (l, c.levelCount l), List.pairwise_map.2 Level.ascending_all⟩

@[simp] theorem documents_empty (l : Language) : (empty l).documents = [] := rfl

theorem add_eq_ok_iff {c c' : Collection} {d : Document} :
    c.add d = .ok c' ↔
      d.language = c.language ∧ c' = { c with documents := c.documents ++ [d] } := by
  unfold add
  split <;> simp_all [eq_comm]

end Collection

end GradedReading
