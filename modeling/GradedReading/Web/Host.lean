import GradedReading.Text.Lowercase

/-!
# GradedReading.Web.Host

The host that a URL names, and the domains it belongs to.

**Key idea:** a URL is read as `scheme://[userinfo@]host[:port]tail`, where the tail begins at the
first `/`, `?` or `#`. The user information ends at the last `@` before the tail and the host at
the first `:` after it. Local files have no host.
-/

namespace GradedReading.Web

open GradedReading.Text

/-- The characters that end the authority of a URL. -/
def startsTail (c : Char) : Bool := c == '/' || c == '?' || c == '#'

/-- Split at the first `://`; the separator is in neither part. -/
def splitScheme : List Char → Option (List Char × List Char)
  | ':' :: '/' :: '/' :: rest => some ([], rest)
  | [] => none
  | c :: cs => (splitScheme cs).map fun (scheme, rest) => (c :: scheme, rest)

/-- What follows the last `@`, or everything when there is none. -/
def afterUserInfo (authority : List Char) : List Char :=
  (authority.reverse.takeWhile (· != '@')).reverse

/-- The scheme of local files, in any ASCII case. -/
def isFileScheme (scheme : List Char) : Bool := scheme.map lowerAscii == ['f', 'i', 'l', 'e']

/-- The host inside the part of a URL that follows `://`. It may be empty. -/
def hostPart (rest : List Char) : List Char :=
  (afterUserInfo (rest.takeWhile (!startsTail ·))).takeWhile (· != ':')

/-- The host of a URL, as a list of characters. -/
def hostChars (url : List Char) : Option (List Char) := do
  let (scheme, rest) ← splitScheme url
  if isFileScheme scheme then none
  else
    let host := hostPart rest
    if host.isEmpty then none else some host

/-- The host of a URL: none for local files and for texts without a scheme or a host. -/
def hostOf (url : String) : Option String := (hostChars url.toList).map String.ofList

/-- What follows each dot, from left to right. -/
def afterDots : List Char → List (List Char)
  | [] => []
  | c :: cs => if c == '.' then cs :: afterDots cs else afterDots cs

/-- A host followed by each of its parent domains, the nearest one first. -/
def domainsOf (host : List Char) : List (List Char) := host :: afterDots host

end GradedReading.Web
