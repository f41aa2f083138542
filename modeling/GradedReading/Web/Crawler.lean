import GradedReading.Search.Provider

/-!
# GradedReading.Web.Crawler

Whoever fetches the page behind a search result and takes its text out of it.
-/

namespace GradedReading.Web

open Search

/-- The text of a page that was fetched. -/
structure CrawledPage where
  url : String
  title : String
  text : String
deriving DecidableEq, Repr, Inhabited

/-- The page as a source for a parser, at the place of its result. -/
def CrawledPage.source (page : CrawledPage) (rank : Nat) : Source :=
  { rank, title := page.title, url := some page.url, text := page.text }

/-- Whoever fetches pages; `calls` is the number of earlier calls. -/
structure Crawler where
  crawl : (calls : Nat) → SearchResult → Reply CrawlError CrawledPage

end GradedReading.Web
