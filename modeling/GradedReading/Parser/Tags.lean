import GradedReading.Document.Basic
import GradedReading.Parser.Lexicon
import GradedReading.Text.Lowercase
import GradedReading.Text.Sentences
import GradedReading.Text.Words

/-!
# GradedReading.Parser.Tags

Which constructions a text shows, and where.

**Key idea:** a text is reduced to its sentences and to *tokens*, the words with their lowercase
forms. Each construction has a rule that looks at one sentence, or at one token with the tokens
right before and after it, and answers with at most one span. The places of a construction are the
answers of its rule from left to right.

Design points:

* rules on words see lowercase forms only;
* sizes in rules are in bytes, like all positions;
* the suffix rules hold for English alone.
-/

namespace GradedReading.Parser

open Text

/-- A word of a text with its lowercase form. -/
structure Token where
  span : Span
  lower : List Char
deriving DecidableEq, Repr, Inhabited

/-- The tokens of a list of characters. -/
def tokenize (cs : List Char) : List Token :=
  (wordPieces cs).map fun p => ⟨p.span, lowerChars p.chars⟩

namespace Token

/-- The word is one of these. -/
def isOneOf (t : Token) (list : List String) : Bool := list.any fun w => w.toList == t.lower

/-- The word ends like this. -/
def endsIn (t : Token) (suffix : String) : Bool := suffix.toList.isSuffixOf t.lower

/-- The word takes more than `n` bytes. -/
def longerThan (t : Token) (n : Nat) : Bool := n < byteLength t.lower

end Token

/-- A token between its neighbours. -/
structure Context where
  previous : Option Token
  token : Token
  next : Option Token
  afterNext : Option Token
deriving Repr

/-- The constructions that can be recognised. -/
inductive Construction where
  | comparative
  | conditional
  /-- A sentence of many words. -/
  | longSentence
  | modalVerb
  | negation
  | passiveVoice
  | pastRegular
  | progressive
  | question
  | relativeClause
  | superlative
deriving DecidableEq, Repr, Inhabited

namespace Construction

/-- All constructions, ordered by name. -/
def all : List Construction :=
  [.comparative, .conditional, .longSentence, .modalVerb, .negation, .passiveVoice, .pastRegular,
   .progressive, .question, .relativeClause, .superlative]

/-- The name under which documents record a construction. -/
def name : Construction → String
  | .comparative => "comparative"
  | .conditional => "conditional"
  | .longSentence => "long_sentence"
  | .modalVerb => "modal_verb"
  | .negation => "negation"
  | .passiveVoice => "passive_voice"
  | .pastRegular => "past_regular"
  | .progressive => "progressive"
  | .question => "question"
  | .relativeClause => "relative_clause"
  | .superlative => "superlative"

theorem mem_all (c : Construction) : c ∈ all := by cases c <;> simp [all]

end Construction

/-! ### Rules on sentences -/

/-- A sentence with at least this many words is long. -/
def longSentenceWords : Nat := 25

/-- The words that lie inside a span. -/
def wordsWithin (tokens : List Token) (s : Span) : Nat := tokens.countP (·.span.within s)

/-- The last character is a question mark. -/
def asksQuestion (sentence : Piece) : Bool :=
  match sentence.chars.getLast? with
  | some c => c == '?' || c == '\u061f'
  | none => false

/-! ### Rules on words -/

/-- The word takes part in no inflection, whatever its ending. -/
def isException (t : Token) : Bool := t.isOneOf suffixExceptions

/-- A regular or irregular participle. -/
def isParticiple (t : Token) : Bool :=
  (t.longerThan 4 && t.endsIn "ed" && !isException t) || t.isOneOf irregularParticiples

/-- A word in one of the lists of negations, or an English word with a short *not*. -/
def negates (language : Language) (t : Token) : Bool :=
  t.isOneOf (lexicon language).negations || (language == .english && t.endsIn "n't")

/-- A form of *to be* followed by a participle, with at most one adverb in `-ly` between. -/
def passiveAt (x : Context) : Option Span :=
  if x.token.isOneOf beForms then
    match x.next, x.afterNext with
    | some n, a =>
      if isParticiple n then some (x.token.span.cover n.span)
      else
        match a with
        | some a =>
          if n.endsIn "ly" && isParticiple a then some (x.token.span.cover a.span) else none
        | none => none
    | none, _ => none
  else none

/-- An inflected form with this suffix: not a form of *to be*, no exception, and not too short. -/
def inflected (suffix : String) (t : Token) : Bool :=
  !t.isOneOf beForms && !isException t && t.longerThan 4 && t.endsIn suffix

/-- The word before *than* together with it. -/
def comparativeAt (x : Context) : Option Span :=
  if x.token.isOneOf ["than"] then x.previous.map fun p => p.span.cover x.token.span else none

/-- *most* or *least* with the word after it, or *the* with a word in `-est` after it. -/
def superlativeAt (x : Context) : Option Span :=
  match x.token.isOneOf ["most", "least"], x.next with
  | true, some n => some (x.token.span.cover n.span)
  | _, _ =>
    match x.previous with
    | some p =>
      if !isException x.token && x.token.longerThan 5 && x.token.endsIn "est" &&
          p.isOneOf ["the"] then
        some (p.span.cover x.token.span)
      else none
    | none => none

/-- What a word shows of a construction. -/
def Construction.atWord (language : Language) (x : Context) : Construction → Option Span
  | .negation => if negates language x.token then some x.token.span else none
  | .conditional =>
    if x.token.isOneOf (lexicon language).conditionals then some x.token.span else none
  | .modalVerb => if x.token.isOneOf (lexicon language).modals then some x.token.span else none
  | .relativeClause =>
    if x.token.isOneOf (lexicon language).relatives then some x.token.span else none
  | .passiveVoice => if language = .english then passiveAt x else none
  | .pastRegular =>
    if language = .english ∧ inflected "ed" x.token then some x.token.span else none
  | .progressive =>
    if language = .english ∧ inflected "ing" x.token then some x.token.span else none
  | .comparative => if language = .english then comparativeAt x else none
  | .superlative => if language = .english then superlativeAt x else none
  | .question => none
  | .longSentence => none

/-- What a sentence shows of a construction. -/
def Construction.atSentence (tokens : List Token) (sentence : Piece) : Construction → Option Span
  | .question => if asksQuestion sentence then some sentence.span else none
  | .longSentence =>
    if longSentenceWords ≤ wordsWithin tokens sentence.span then some sentence.span else none
  | _ => none

/-! ### All places of a construction -/

/-- Each token with its neighbours, `previous` being the one before the first. -/
def contextsFrom (previous : Option Token) : List Token → List Context
  | [] => []
  | t :: ts => ⟨previous, t, ts.head?, ts[1]?⟩ :: contextsFrom (some t) ts

/-- Each token with its neighbours. -/
def contexts (tokens : List Token) : List Context := contextsFrom none tokens

/-- The places of a construction, from left to right. -/
def Construction.places (language : Language) (tokens : List Token) (sentences : List Piece)
    (c : Construction) : List Span :=
  match c with
  | .question | .longSentence => sentences.filterMap (c.atSentence tokens)
  | _ => (contexts tokens).filterMap (c.atWord language)

theorem Construction.ascending_name :
    all.Pairwise fun c d => compare c.name d.name = .lt := by decide

/-- The constructions that occur, by name. -/
def constructionsOf (language : Language) (tokens : List Token) (sentences : List Piece) :
    Constructions where
  toList := (Construction.all.map fun c => (c.name, c.places language tokens sentences)).filter
    fun e => !e.2.isEmpty
  ascending := by
    refine List.Pairwise.filter _ ?_
    rw [List.pairwise_map]
    exact Construction.ascending_name

end GradedReading.Parser
