import GradedReading.Language

/-!
# GradedReading.Parser.Lexicon

Word lists: the words of each language that mark a construction, and for English the forms that
its suffix rules need.
-/

namespace GradedReading.Parser

/-- The words of one language that mark a construction by themselves, in lowercase. -/
structure Lexicon where
  negations : List String
  conditionals : List String
  modals : List String
  relatives : List String
deriving Repr

/-- The lexicon of a language. -/
def lexicon : Language → Lexicon
  | .english =>
    { negations := ["not", "no", "never", "nothing", "nobody", "none", "nor", "cannot", "neither"]
      conditionals := ["if", "unless"]
      modals := ["can", "could", "may", "might", "must", "shall", "should", "will", "would"]
      relatives := ["who", "whom", "whose", "which"] }
  | .german =>
    { negations := ["nicht", "kein", "keine", "keinen", "keinem", "keiner", "keines", "nie",
        "niemals", "nichts"]
      conditionals := ["wenn", "falls", "sofern"]
      modals := ["kann", "kannst", "können", "könnt", "konnte", "könnte", "muss", "musst",
        "müssen", "musste", "darf", "dürfen", "durfte", "soll", "sollen", "sollte", "will",
        "wollen", "wollte", "mag", "möchte", "möchten"]
      relatives := ["welcher", "welche", "welches", "welchen", "welchem"] }
  | .arabic =>
    { negations := ["لا", "لم", "لن", "ليس", "ليست", "ما"]
      conditionals := ["إذا", "اذا", "لو", "إن"]
      modals := ["يجب", "يمكن", "ينبغي", "يستطيع"]
      relatives := ["الذي", "التي", "الذين", "اللذان", "اللتان", "اللواتي", "اللاتي"] }

/-- The forms of *to be*. -/
def beForms : List String := ["am", "is", "are", "was", "were", "be", "been", "being"]

/-- Participles that do not end in `-ed`. -/
def irregularParticiples : List String :=
  ["done", "made", "written", "given", "taken", "seen", "known", "built", "found", "held",
   "told", "sold", "paid", "said", "sent", "kept", "left", "brought", "bought", "taught",
   "thought", "caught", "shown", "born", "chosen", "driven", "eaten", "forgotten", "hidden",
   "spoken", "stolen", "broken", "won", "put", "set", "cut", "read"]

/-- Common words that end like an inflected form and are none. -/
def suffixExceptions : List String :=
  ["need", "feed", "seed", "speed", "bed", "red", "shed", "hundred", "indeed", "bred", "weed",
   "other", "never", "over", "under", "after", "water", "number", "paper", "order", "rest",
   "best", "test", "west", "interest", "forest", "nest", "chest", "honest", "guest", "request",
   "thing", "king", "ring", "sing", "spring", "string", "bring", "nothing", "something",
   "anything", "everything", "morning", "evening", "during", "ceiling"]

end GradedReading.Parser
