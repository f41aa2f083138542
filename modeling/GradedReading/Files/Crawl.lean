import GradedReading.Files.Sources
import GradedReading.Web.Crawler

/-!
# GradedReading.Files.Crawl

Pages that are files: a search result names its file by a `file` URL or by its path.
-/

namespace GradedReading.Files

open Search Text Web

/-- How the URL of a local file starts. -/
def fileScheme : String := "file://"

/-- The path that a URL names. A text without the scheme is a path itself. -/
def pathOfUrl (url : String) : String :=
  if fileScheme.toList.isPrefixOf url.toList then
    String.ofList (url.toList.drop fileScheme.length)
  else url

/-- Fetch the file that a result names, and take its text without markup and without blanks around
it. -/
def crawl (d : Disk) (r : SearchResult) : Except CrawlError CrawledPage :=
  let path := pathOfUrl r.url
  match d.readText path with
  | .error e => .error (.fetch r.url e.message)
  | .ok raw =>
    let text := trim (plainText path raw)
    if text.isEmpty then .error (.noText r.url)
    else .ok { url := r.url, title := r.title, text }

/-- The crawler that reads files. -/
def crawler (d : Disk) : Crawler where
  crawl _ r :=
    match crawl d r with
    | .ok page => .value page
    | .error e => .error e

end GradedReading.Files
