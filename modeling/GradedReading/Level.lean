/-!
# GradedReading.Level

How hard a text is to read, in three bands.
-/

namespace GradedReading

/-- A band of difficulty; `a` is the easiest. -/
inductive Level where
  | a
  | b
  | c
deriving DecidableEq, Repr, Inhabited, Ord

namespace Level

/-- All levels, the easiest first. -/
def all : List Level := [.a, .b, .c]

/-- The letter of a level. -/
def letter : Level → String
  | .a => "A"
  | .b => "B"
  | .c => "C"

/-- The small letter of a level, as it is typed. -/
def typed : Level → String
  | .a => "a"
  | .b => "b"
  | .c => "c"

/-- The level with this capital letter. -/
def ofLetter? (s : String) : Option Level := all.find? (·.letter == s)

/-- The level with this small letter. -/
def ofTyped? (s : String) : Option Level := all.find? (·.typed == s)

theorem mem_all (l : Level) : l ∈ all := by cases l <;> simp [all]

instance : Std.LawfulEqOrd Level where
  compare_self {l} := by cases l <;> rfl
  eq_of_compare {l m} h := by cases l <;> cases m <;> first | rfl | exact absurd h (by decide)

instance : Std.TransOrd Level where
  eq_swap {l m} := by cases l <;> cases m <;> rfl
  isLE_trans {l m n} hlm hmn := by
    cases l <;> cases m <;> cases n <;>
      first | rfl | exact absurd hlm (by decide) | exact absurd hmn (by decide)

theorem ascending_all : all.Pairwise fun l m => compare l m = .lt := by decide

theorem ofLetter?_letter (l : Level) : ofLetter? l.letter = some l := by cases l <;> rfl

/-- The band of a reading ease: a higher ease is an easier text. -/
def ofEase (ease : Float) : Level :=
  if ease ≥ 60.0 then .a else if ease ≥ 30.0 then .b else .c

end Level

end GradedReading
