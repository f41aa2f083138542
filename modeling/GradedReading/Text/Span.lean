/-!
# GradedReading.Text.Span

Places in a text. All positions are byte offsets into the text's UTF-8 form, so a span can be used
to cut the text without counting characters.
-/

namespace GradedReading.Text

/-- The bytes from `start` up to, but not including, `stop`. -/
structure Span where
  start : Nat
  stop : Nat
deriving DecidableEq, Repr, Inhabited

namespace Span

/-- Number of bytes; a span that ends before it starts has none. -/
def length (s : Span) : Nat := s.stop - s.start

/-- A span without any byte. -/
def isEmpty (s : Span) : Bool := s.length == 0

/-- `inner` lies inside `outer`. -/
def within (inner outer : Span) : Bool :=
  outer.start ≤ inner.start && inner.stop ≤ outer.stop

/-- The span moved `n` bytes to the right. -/
def shift (n : Nat) (s : Span) : Span := ⟨s.start + n, s.stop + n⟩

/-- From the start of the first span to the end of the second. -/
def cover (a b : Span) : Span := ⟨a.start, b.stop⟩

/-- Order by start, then by end. -/
def before (a b : Span) : Bool :=
  a.start < b.start || (a.start == b.start && a.stop < b.stop)

@[simp] theorem shift_zero (s : Span) : s.shift 0 = s := rfl

theorem shift_shift (m n : Nat) (s : Span) : (s.shift m).shift n = s.shift (m + n) := by
  simp [shift, Nat.add_assoc]

end Span

/-- Bytes that a list of characters takes. -/
def byteLength (cs : List Char) : Nat := cs.foldr (fun c n => c.utf8Size + n) 0

@[simp] theorem byteLength_nil : byteLength [] = 0 := rfl

@[simp] theorem byteLength_cons (c : Char) (cs : List Char) :
    byteLength (c :: cs) = c.utf8Size + byteLength cs := by
  simp [byteLength]

@[simp] theorem byteLength_append (cs ds : List Char) :
    byteLength (cs ++ ds) = byteLength cs + byteLength ds := by
  induction cs with
  | nil => simp
  | cons c cs ih => simp [ih, Nat.add_assoc]

/-- A stretch of text together with its place. -/
structure Piece where
  span : Span
  chars : List Char
deriving DecidableEq, Repr, Inhabited

/-- The stretch as a text. -/
def Piece.text (p : Piece) : String := String.ofList p.chars

end GradedReading.Text
