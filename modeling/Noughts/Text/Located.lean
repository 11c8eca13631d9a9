/-!
# Reasons with a position

A reason may end with the position it is about: ` at line 3 column 14`, the numbers in decimal and
below 2^64. Lines are counted from one, so line zero says that there is no position. The position
is read off the end of a text, and written again in one form.
-/

namespace Noughts.Text

/-- A place in a text. -/
structure Position where
  line : Nat
  column : Nat
deriving DecidableEq, Repr

/-- A reason and, if it is known, the place it is about. -/
structure Located where
  reason : String
  position? : Option Position
deriving DecidableEq, Repr

/-- The number at the end of a text and what stands before it, if a marker stands between them. Both
texts are given from their end. -/
def numberAfter? (marker : List Char) (reversed : List Char) : Option (Nat × List Char) :=
  let digits := (reversed.takeWhile Char.isDigit).reverse
  let before := reversed.dropWhile Char.isDigit
  let n := Nat.ofDigitChars 10 digits 0
  if digits.isEmpty ∨ UInt64.size ≤ n then none
  else if marker.reverse.isPrefixOf before then some (n, before.drop marker.length)
  else none

namespace Located

/-- What stands before the number of a line. -/
def lineMarker : List Char := " at line ".toList

/-- What stands between the number of a line and that of a column. -/
def columnMarker : List Char := " column ".toList

/-- Read the position off the end of a text. -/
def ofText (s : String) : Located :=
  let found? : Option (Nat × Nat × List Char) := do
    let (column, rest) ← numberAfter? columnMarker s.toList.reverse
    let (line, rest) ← numberAfter? lineMarker rest
    some (line, column, rest)
  match found? with
  | none => ⟨s, none⟩
  | some (line, column, rest) =>
    ⟨String.ofList rest.reverse, if line = 0 then none else some ⟨line, column⟩⟩

/-- The reason with its position behind it. -/
def text (l : Located) : String :=
  match l.position? with
  | none => l.reason
  | some p => s!"{l.reason} at line {p.line} column {p.column}"

end Located

end Noughts.Text
