import GradedReading.Parser.Tags

/-!
# GradedReading.Parser.Heuristic

The built-in parser: counts words, sentences and syllables and tags constructions by word lists and
suffixes. It knows one language at a time.
-/

namespace GradedReading.Parser

open Text

/-- A word of more characters than this is long. -/
def longWordChars : Nat := 6

/-! ### Syllables -/

/-- The vowels of English and German, in lowercase. -/
def isVowel (c : Char) : Bool := "aeiouyäöü".toList.contains c

/-- The groups of vowels in a row; `inGroup` tells whether the last character was a vowel. -/
def vowelGroupsFrom (inGroup : Bool) : List Char → Nat
  | [] => 0
  | c :: cs => (if isVowel c && !inGroup then 1 else 0) + vowelGroupsFrom (isVowel c) cs

/-- The groups of vowels in a row. -/
def vowelGroups (word : List Char) : Nat := vowelGroupsFrom false word

/-- An `e` at the end that is not spoken. -/
def hasSilentE (word : List Char) : Bool :=
  "e".toList.isSuffixOf word && !"le".toList.isSuffixOf word

/-- The syllables of a word, at least one: groups of vowels, or for Arabic half the letters. -/
def syllables (language : Language) (word : List Char) : Nat :=
  match language with
  | .arabic => max (word.length / 2) 1
  | .german => max (vowelGroups word) 1
  | .english =>
    let groups := vowelGroups word
    max (if hasSilentE word && groups > 1 then groups - 1 else groups) 1

/-! ### Parsing -/

/-- The counts of a text. -/
def statsOf (language : Language) (tokens : List Token) (sentences : List Piece) : TextStats :=
  { words := tokens.length
    sentences := max sentences.length 1
    syllables := tokens.foldr (fun t n => syllables language t.lower + n) 0
    longWords := tokens.countP fun t => longWordChars < t.lower.length }

/-- Parse a source in a language. A text without a word is refused. -/
def parse (language : Language) (source : Source) : Except ParseError Document :=
  let cs := source.text.toList
  let tokens := tokenize cs
  if tokens.isEmpty then .error (.empty source.rank)
  else
    let sentences := sentencePieces cs
    .ok (.fresh source language (statsOf language tokens sentences)
      (constructionsOf language tokens sentences))

/-- A parser for one language, asked to parse in another, refuses. -/
def parseAs (own asked : Language) (source : Source) : Except ParseError Document :=
  if asked = own then parse own source else .error (.unsupported asked)

end GradedReading.Parser
