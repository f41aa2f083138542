import GradedReading.Text.Lowercase

/-!
# GradedReading.Keyword.Set

The keywords to look for, in normal form: trimmed, in lowercase, none empty and none twice.
-/

namespace GradedReading

open Text

/-- Keywords in normal form, in the order in which they were first given. -/
structure KeywordSet where
  keywords : List String
deriving DecidableEq, Repr, Inhabited

namespace KeywordSet

/-- The normal form of one keyword. -/
def normalize (keyword : String) : String := lowercase (trim keyword)

/-- Add a keyword in normal form, unless it is empty or there already. -/
def add (set : KeywordSet) (keyword : String) : KeywordSet :=
  if keyword.isEmpty || set.keywords.contains keyword then set
  else ⟨set.keywords ++ [keyword]⟩

/-- The set of these keywords. -/
def ofList (keywords : List String) : KeywordSet :=
  keywords.foldl (fun set k => set.add (normalize k)) ⟨[]⟩

/-- No keyword at all. -/
def isEmpty (set : KeywordSet) : Bool := set.keywords.isEmpty

/-- The number of keywords. -/
def size (set : KeywordSet) : Nat := set.keywords.length

end KeywordSet

end GradedReading
