import GradedReading.Document.Basic
import GradedReading.Error

/-!
# GradedReading.Search.Provider

Searches, their results, and whoever answers them page by page.

**Key idea:** a provider is asked for one page at a time. It may answer differently from call to
call, so its answer is a function of the calls that it got before.
-/

namespace GradedReading.Search

/-- What to look for. -/
structure Query where
  language : Language
  text : String
  /-- Only results from the places that the provider holds for curated. -/
  restricted : Bool
deriving DecidableEq, Repr, Inhabited

/-- One result of a search. -/
structure SearchResult where
  title : String
  url : String
  displayUrl : String
  snippet : String
  /-- The position among all results. -/
  rank : Nat
deriving DecidableEq, Repr, Inhabited

/-- One page of results. -/
structure Page where
  results : List SearchResult
  /-- There is no page after this one. -/
  last : Bool
deriving DecidableEq, Repr, Inhabited

/-- A page that is asked for, counted from zero, and how many results a page has. -/
structure PageRequest where
  page : Nat
  perPage : Nat
deriving DecidableEq, Repr, Inhabited

/-- How a call ends: with a value, with an error, or in a panic. -/
inductive Reply (ε α : Type) where
  | value (x : α)
  | error (e : ε)
  | panic (message : String)
deriving DecidableEq, Repr, Inhabited

/-- Whoever answers searches; `calls` are the requests so far, the oldest first. -/
structure Provider where
  answer : (calls : List PageRequest) → Query → PageRequest → Reply SearchError Page

end GradedReading.Search
