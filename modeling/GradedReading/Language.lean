/-!
# GradedReading.Language

The languages that texts can be searched, parsed and ranked in.
-/

namespace GradedReading

/-- A language of documents. -/
inductive Language where
  | english
  | german
  | arabic
deriving DecidableEq, Repr, Inhabited

namespace Language

/-- All languages, in their standing order. -/
def all : List Language := [.english, .german, .arabic]

/-- The two-letter code of ISO 639. -/
def code : Language → String
  | .english => "en"
  | .german => "de"
  | .arabic => "ar"

/-- The English name in small letters. -/
def name : Language → String
  | .english => "english"
  | .german => "german"
  | .arabic => "arabic"

/-- The language with this name. -/
def ofName? (s : String) : Option Language := all.find? (·.name == s)

/-- The language with this code. -/
def ofCode? (s : String) : Option Language := all.find? (·.code == s)

/-- The language with this name or this code, as a user may give it. -/
def ofUser? (s : String) : Option Language := all.find? fun l => l.name == s || l.code == s

theorem mem_all (l : Language) : l ∈ all := by cases l <;> simp [all]

theorem ofCode?_code (l : Language) : ofCode? l.code = some l := by cases l <;> rfl

theorem ofName?_name (l : Language) : ofName? l.name = some l := by cases l <;> rfl

end Language

end GradedReading
