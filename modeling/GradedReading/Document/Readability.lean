import GradedReading.Language
import GradedReading.Level

/-!
# GradedReading.Document.Readability

The reading ease of a text, computed from counts of its words, sentences and syllables.

**Key idea:** each language has a formula that is linear in the words per sentence and in one more
ratio, the syllables per word or, for Arabic, where vowels are rarely written, the share of long
words. The result is kept between 0 and 100 and gives the level.
-/

namespace GradedReading

/-- Counts that a parser takes of a text. -/
structure TextStats where
  words : Nat
  sentences : Nat
  syllables : Nat
  /-- Words of more than six characters. -/
  longWords : Nat
deriving DecidableEq, Repr, Inhabited

/-- Which formula a reading ease comes from. -/
inductive ReadabilityStrategy where
  /-- Counts syllables. -/
  | standard
  /-- Counts long words. -/
  | arabic
deriving DecidableEq, Repr, Inhabited

/-- The word for a strategy. -/
def ReadabilityStrategy.name : ReadabilityStrategy → String
  | .standard => "standard"
  | .arabic => "arabic"

/-- A reading ease with the level it stands for. -/
structure Readability where
  strategy : ReadabilityStrategy
  score : Float
  level : Level
deriving Repr, Inhabited

namespace Readability

/-- Keep a number between two bounds. What compares with neither stays as it is. -/
def clamp (low high x : Float) : Float :=
  if x < low then low else if x > high then high else x

/-- The strategy for a language. -/
def strategyFor : Language → ReadabilityStrategy
  | .arabic => .arabic
  | _ => .standard

/-- `n` for each of `d` things, of which there is at least one. -/
def ratio (n d : Nat) : Float := n.toFloat / (max d 1).toFloat

/-- The formula of each language, before it is kept between the bounds. -/
def ease (language : Language) (stats : TextStats) : Float :=
  let sentenceLength := ratio stats.words stats.sentences
  match language with
  | .english => 206.835 - 1.015 * sentenceLength - 84.6 * ratio stats.syllables stats.words
  | .german => 180.0 - sentenceLength - 58.5 * ratio stats.syllables stats.words
  | .arabic => 200.791 - 1.015 * sentenceLength - 124.181 * ratio stats.longWords stats.words

/-- The readability of a text with these counts. A text without words is as easy as can be. -/
def compute (language : Language) (stats : TextStats) : Readability :=
  let strategy := strategyFor language
  if stats.words = 0 then ⟨strategy, 100.0, .a⟩
  else
    let score := clamp 0.0 100.0 (ease language stats)
    ⟨strategy, score, .ofEase score⟩

end Readability

end GradedReading
