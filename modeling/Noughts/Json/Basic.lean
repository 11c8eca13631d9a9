/-!
# JSON values and how they are written

A `Json` value is what the library writes. Records keep their members in the order in which they
are given. The written form is compact: no blanks, and in texts only the quote, the backslash and
the characters below U+0020 are escaped.
-/

namespace Noughts

/-- A value to be written. -/
inductive Json where
  | null
  | bool (b : Bool)
  | natural (n : UInt64)
  | integer (i : Int64)
  | text (s : String)
  | list (items : List Json)
  | record (members : List (String × Json))

namespace Json

/-- The six characters that stand for a character in hexadecimal. -/
def hexEscape (c : Char) : List Char :=
  let digit (k : Nat) : Char := Nat.digitChar (c.toNat / Nat.pow 16 k % 16)
  ['\\', 'u', digit 3, digit 2, digit 1, digit 0]

/-- How a character is written inside a text. -/
def escaped (c : Char) : List Char :=
  if c = '"' then ['\\', '"']
  else if c = '\\' then ['\\', '\\']
  else if c = '\n' then ['\\', 'n']
  else if c = '\r' then ['\\', 'r']
  else if c = '\t' then ['\\', 't']
  else if c = '\x08' then ['\\', 'b']
  else if c = '\x0c' then ['\\', 'f']
  else if c.toNat < 0x20 then hexEscape c
  else [c]

/-- A text between quotes. -/
def quoted (s : String) : List Char := '"' :: (s.toList.flatMap escaped ++ ['"'])

/-- The decimal digits of a whole number, behind a minus sign if it is negative. -/
def decimal (i : Int) : List Char :=
  if i < 0 then '-' :: Nat.toDigits 10 i.natAbs else Nat.toDigits 10 i.natAbs

mutual

/-- The written form of a value. -/
def chars : Json → List Char
  | null => ['n', 'u', 'l', 'l']
  | bool true => ['t', 'r', 'u', 'e']
  | bool false => ['f', 'a', 'l', 's', 'e']
  | natural n => Nat.toDigits 10 n.toNat
  | integer i => decimal i.toInt
  | text s => quoted s
  | list [] => ['[', ']']
  | list (item :: rest) => '[' :: (chars item ++ charsOfItems rest)
  | record [] => ['\x7b', '\x7d']
  | record (member :: rest) => '\x7b' :: (charsOfMember member ++ charsOfMembers rest)

/-- The further items of a list, up to its closing bracket. -/
def charsOfItems : List Json → List Char
  | [] => [']']
  | item :: rest => ',' :: (chars item ++ charsOfItems rest)

/-- A member of a record: its key, a colon and its value. -/
def charsOfMember : String × Json → List Char
  | (key, value) => quoted key ++ ':' :: chars value

/-- The further members of a record, up to its closing brace. -/
def charsOfMembers : List (String × Json) → List Char
  | [] => ['\x7d']
  | member :: rest => ',' :: (charsOfMember member ++ charsOfMembers rest)

end

/-- The written form of a value as a string. -/
def render (j : Json) : String := String.ofList j.chars

/-- A value that may be missing, `null` if it is. -/
def orNull (f : α → Json) : Option α → Json
  | none => null
  | some a => f a

/-- A list, written item by item. -/
def ofList (f : α → Json) (items : List α) : Json := list (items.map f)

end Json

end Noughts
