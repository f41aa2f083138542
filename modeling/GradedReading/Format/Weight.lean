import GradedReading.Number.Reader
import GradedReading.Text.Blank

/-!
# GradedReading.Format.Weight

Weights as they are typed: a construction, an equals sign and a number.
-/

namespace GradedReading.Format

open Number Text

/-- Split at the first equals sign; it is in neither part. -/
def splitEquals : List Char → Option (List Char × List Char)
  | [] => none
  | c :: cs =>
    if c = '=' then some ([], cs) else (splitEquals cs).map fun (left, right) => (c :: left, right)

/-- Read a weight such as `negation=2`; the error is a message for the user. -/
def readWeight (s : String) : Except String (String × Float) :=
  match splitEquals s.toList with
  | none => .error ("expected CONSTRUCTION=W, got '" ++ s ++ "'")
  | some (left, right) =>
    let name := trimBoth isBlank left
    if name.isEmpty then .error ("missing construction name in '" ++ s ++ "'")
    else
      match readFloat (String.ofList (trimBoth isBlank right)) with
      | .ok w => .ok (String.ofList name, w)
      | .error e => .error ("bad weight in '" ++ s ++ "': " ++ e.message)

end GradedReading.Format
