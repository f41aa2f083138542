import GradedReading.Parser.Cache
import GradedReading.Web.Blacklist
import GradedReading.Web.Crawler

/-!
# GradedReading.Pipeline.Services

Everybody whom a pipeline calls on: the provider of search results, the crawler and the parsers.

A call may take long. What it waits for is a gate, by name, and is told apart from what the call
answers in the end.
-/

namespace GradedReading

open Search

/-- The gates at which calls wait. -/
structure Waits where
  /-- Each call of the provider. -/
  search : Option String
  crawl : SearchResult → Option String
  parse : Source → Option String

/-- Nothing waits. -/
def Waits.none : Waits := ⟨Option.none, fun _ => Option.none, fun _ => Option.none⟩

/-- Everybody whom a pipeline calls on. -/
structure Services where
  provider : Provider
  crawler : Web.Crawler
  parsers : Parser.Factory
  /-- Hosts never to visit. -/
  blocked : Web.Blacklist
  waits : Waits

end GradedReading
