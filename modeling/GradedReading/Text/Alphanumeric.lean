import GradedReading.Text.Table.Alphanumeric

/-!
# GradedReading.Text.Alphanumeric

The test for letters and digits of any script. ASCII characters are decided directly and only the
others consult the table, so facts about ASCII text need no table at all.
-/

namespace GradedReading.Text

/-- An ASCII letter or digit. -/
def isAsciiAlphanumeric (c : Char) : Bool :=
  ('a' ≤ c && c ≤ 'z') || ('A' ≤ c && c ≤ 'Z') || ('0' ≤ c && c ≤ '9')

/-- A letter or number of any script. -/
def isAlphanumeric (c : Char) : Bool :=
  if c.toNat < 128 then isAsciiAlphanumeric c else alphanumericPoints.has c

theorem isAlphanumeric_ascii {c : Char} (h : c.toNat < 128) :
    isAlphanumeric c = isAsciiAlphanumeric c := by
  simp [isAlphanumeric, h]

end GradedReading.Text
