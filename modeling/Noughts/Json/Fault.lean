/-!
# What can be wrong with a text

A text that is read as a value of some type either is not well formed or has the wrong shape. The
first fault in the order of the text is the one that is reported. How a fault is put into words is
left to whoever reports it.
-/

namespace Noughts

/-- Why a text is not the written form of a value of the wanted type. -/
inductive Fault where
  /-- The text is not well formed, ends early, nests too deep or goes on after the value. -/
  | malformed
  | missingField (name : String)
  | duplicateField (name : String)
  | unknownVariant (name : String)
  /-- A list has this number of items, and another number is wanted. -/
  | invalidLength (length : Nat)
  /-- A value of another kind stands where this one is wanted. -/
  | invalidType
  /-- A value has the right kind and is out of range. -/
  | invalidValue
deriving DecidableEq, Repr

end Noughts
