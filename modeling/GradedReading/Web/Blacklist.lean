import GradedReading.Text.Glob
import GradedReading.Web.Host

/-!
# GradedReading.Web.Blacklist

Hosts that are never visited.

**Key idea:** a URL is blocked iff one of the patterns describes its host or one of the host's
parent domains, so a pattern for a domain blocks all of its subdomains. A URL without a host is
never blocked.
-/

namespace GradedReading.Web

open GradedReading.Text

/-- Host patterns whose pages are never visited. -/
structure Blacklist where
  patterns : List String
deriving DecidableEq, Repr, Inhabited

namespace Blacklist

/-- Hosts whose pages rarely yield readable prose: video, social media, shops. -/
def standardPatterns : List String :=
  ["youtube.com", "facebook.com", "twitter.com", "x.com", "instagram.com", "tiktok.com",
   "pinterest.*", "amazon.*", "ebay.*"]

/-- No pattern at all. -/
def empty : Blacklist := ⟨[]⟩

/-- The standard patterns and some more. -/
def standardAnd (more : List String) : Blacklist := ⟨standardPatterns ++ more⟩

/-- Some pattern describes this domain. -/
def blocksDomain (b : Blacklist) (domain : List Char) : Bool :=
  b.patterns.any fun p => (Glob.ofString p).matchesChars domain

/-- Some pattern describes this host or one of its parent domains. -/
def blocksHost (b : Blacklist) (host : List Char) : Bool :=
  (domainsOf host).any b.blocksDomain

/-- The URL names a blocked host. -/
def blocks (b : Blacklist) (url : String) : Bool :=
  match hostChars url.toList with
  | none => false
  | some host => b.blocksHost host

end Blacklist

end GradedReading.Web
