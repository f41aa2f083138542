/-!
# GradedReading.Format.Column

Text in columns: padding to a width and cutting to a length, both counted in characters.
-/

namespace GradedReading.Format

/-- Blanks before a text, up to a width. -/
def padLeft (width : Nat) (s : String) : String :=
  String.ofList (List.replicate (width - s.length) ' ') ++ s

/-- Blanks after a text, up to a width. -/
def padRight (width : Nat) (s : String) : String :=
  s ++ String.ofList (List.replicate (width - s.length) ' ')

/-- A text of at most `limit` characters; one that is cut ends in an ellipsis. -/
def truncate (limit : Nat) (s : String) : String :=
  if s.length ≤ limit then s else String.ofList (s.toList.take (limit - 1) ++ ['…'])

end GradedReading.Format
