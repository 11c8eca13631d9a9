import Noughts.Json.Node

/-!
# Numbers, words and dates of a configuration

A bare value is a truth word, a number or a date. Digits of numbers may be divided by single
underscores. Dates and times are checked to exist in the calendar, and are then kept as text.

Whole numbers are judged twice: when they are read, by their looks, and when somebody asks for their
value. So a number too large for every type may stand where nobody asks, and so may a text that only
looks like a number (`looksDivided`).
-/

namespace Noughts.Toml

/-- The value of a digit in a base up to sixteen. -/
def digit? (base : Nat) (c : Char) : Option Nat :=
  let value :=
    if c.isDigit then c.toNat - '0'.toNat
    else if 'a' ≤ c ∧ c ≤ 'f' then c.toNat - 'a'.toNat + 10
    else if 'A' ≤ c ∧ c ≤ 'F' then c.toNat - 'A'.toNat + 10
    else base
  if value < base then some value else none

/-- Read the digits that follow a digit or an underscore. -/
def digitsAfter (base n : Nat) (wasDigit : Bool) : List Char → Option Nat
  | [] => if wasDigit then some n else none
  | c :: rest =>
    if c = '_' then
      if wasDigit then digitsAfter base n false rest else none
    else
      (digit? base c).bind fun d => digitsAfter base (base * n + d) true rest

/-- A number in a base: digits, divided by single underscores. -/
def digits? (base : Nat) (s : List Char) : Option Nat := digitsAfter base 0 false s

/-- A sign in front of a number, and what it stands in front of. -/
def splitSign : List Char → Bool × List Char
  | '-' :: rest => (true, rest)
  | '+' :: rest => (false, rest)
  | s => (false, s)

/-- A decimal number without leading zeros. -/
def decimal? (s : List Char) : Option Nat :=
  match s with
  | '0' :: _ :: _ => none
  | _ => digits? 10 s

/-- What a whole number amounts to. One of up to 128 bits may stand where nobody looks at its value;
a longer one may only stand where nobody looks at all. -/
def wholeNumeral (isNegative : Bool) (n : Nat) : Numeral :=
  if isNegative then
    if n = 0 then .natural 0
    else if n ≤ Nat.pow 2 63 then .negative (Int64.ofInt (-n))
    else if n ≤ Nat.pow 2 127 then .wide
    else .unreadable
  else if n < UInt64.size then .natural (UInt64.ofNat n)
  else if n < Nat.pow 2 128 then .wide
  else .unreadable

/-- Whether every underscore stands between two digits, among which `a` to `f` count. The flag says
whether a digit stands in front of the text. -/
def areBetweenDigits (wasDigit : Bool) : List Char → Bool
  | [] => true
  | c :: rest =>
    let isDigit (c : Char) : Bool := (digit? 16 c).isSome
    if c = '_' then wasDigit && rest.head?.any isDigit && areBetweenDigits false rest
    else areBetweenDigits (isDigit c) rest

/-- Whether a text looks like a decimal number with underscores: it begins with a digit other than
zero, its first digits end at an underscore, and all underscores are in their places. Nothing else
is looked at, but a space, a point or the mark of an exponent shows that it is no whole number. -/
def looksDivided (s : List Char) : Bool :=
  s.head? != some '0' && (s.dropWhile Char.isDigit).head? == some '_' && areBetweenDigits false s &&
    s.all fun c => c != ' ' && c != '.' && c != 'e' && c != 'E'

/-- A whole number in a base, behind the letter for the base. Without any digit it has no value. -/
def based? (base : Nat) (s : List Char) : Option Numeral :=
  if s.isEmpty then some .unreadable else (digits? base s).map (wholeNumeral false)

/-- A whole number: decimal with or without a sign, or in base 16, 8 or 2 without. -/
def whole? (s : List Char) : Option Numeral :=
  match s with
  | '0' :: 'x' :: rest => based? 16 rest
  | '0' :: 'o' :: rest => based? 8 rest
  | '0' :: 'b' :: rest => based? 2 rest
  | _ =>
    let (isNegative, rest) := splitSign s
    match decimal? rest with
    | some n => some (wholeNumeral isNegative n)
    | none => if looksDivided rest then some .unreadable else none

/-- Whether digits times a power of ten round to no double. All doubles are below 10^309, and those
below 10^300 leave room for more. -/
def isOverflow (significand : Nat) (exponent : Int) : Bool :=
  let places := (Nat.toDigits 10 significand).length + exponent
  if significand = 0 ∨ places ≤ 300 then false
  else if 310 ≤ places then true
  else if exponent < 0 then
    (Nat.pow 2 1024 - Nat.pow 2 970) * Nat.pow 10 exponent.natAbs ≤ significand
  else Nat.pow 2 1024 - Nat.pow 2 970 ≤ significand * Nat.pow 10 exponent.toNat

/-- A floating point number: what it amounts to. -/
def float? (s : List Char) : Option Numeral :=
  let (_, s) := splitSign s
  if s = ['i', 'n', 'f'] ∨ s = ['n', 'a', 'n'] then some .inexact
  else
    let isMark (c : Char) : Bool := c == 'e' || c == 'E'
    let mantissa := s.takeWhile (!isMark ·)
    let whole := mantissa.takeWhile (· != '.')
    let fraction? : Option (Option (List Char)) :=
      match mantissa.dropWhile (· != '.') with
      | [] => some none
      | _ :: rest => if (digits? 10 rest).isSome then some (some rest) else none
    let exponent? : Option (Option Int) :=
      match s.dropWhile (!isMark ·) with
      | [] => some none
      | _ :: rest =>
        let (isNegative, rest) := splitSign rest
        (digits? 10 rest).map fun n => some (if isNegative then -(n : Int) else n)
    match decimal? whole, fraction?, exponent? with
    | some _, some fraction, some exponent =>
      if fraction.isNone && exponent.isNone then none
      else
        let places := ((fraction.getD []).filter Char.isDigit).length
        let all := (whole ++ fraction.getD []).filter Char.isDigit
        if isOverflow (Nat.ofDigitChars 10 all 0) (exponent.getD 0 - places) then some .unreadable
        else some .inexact
    | _, _, _ => none

/-- A number of so many decimal digits at the beginning of a text, and what stands behind it. -/
def fixedDigits? (count : Nat) (s : List Char) : Option (Nat × List Char) :=
  let head := s.take count
  if head.length = count ∧ head.all Char.isDigit then
    some (Nat.ofDigitChars 10 head 0, s.drop count)
  else
    none

/-- Whether a year has a 29th of February. -/
def isLeapYear (year : Nat) : Bool :=
  year % 4 == 0 && (year % 100 != 0 || year % 400 == 0)

/-- The number of days in a month. -/
def daysIn (year month : Nat) : Nat :=
  if month = 2 then (if isLeapYear year then 29 else 28)
  else if month = 4 ∨ month = 6 ∨ month = 9 ∨ month = 11 then 30
  else 31

/-- What stands behind a date at the beginning of a text. -/
def afterDate? (s : List Char) : Option (List Char) := do
  let (year, s) ← fixedDigits? 4 s
  let '-' :: s := s | none
  let (month, s) ← fixedDigits? 2 s
  let '-' :: s := s | none
  let (day, s) ← fixedDigits? 2 s
  if 1 ≤ month ∧ month ≤ 12 ∧ 1 ≤ day ∧ day ≤ daysIn year month then some s else none

/-- What stands behind the seconds at the beginning of a text; they may be missing. -/
def afterSeconds? (s : List Char) : Option (List Char) :=
  match s with
  | ':' :: s => do
    let (second, s) ← fixedDigits? 2 s
    if 60 < second then none
    else
      match s with
      | '.' :: s =>
        let rest := s.dropWhile Char.isDigit
        if rest.length < s.length then some rest else none
      | _ => some s
  | _ => some s

/-- What stands behind a time of day at the beginning of a text. -/
def afterTime? (s : List Char) : Option (List Char) := do
  let (hour, s) ← fixedDigits? 2 s
  let ':' :: s := s | none
  let (minute, s) ← fixedDigits? 2 s
  if hour ≤ 23 ∧ minute ≤ 59 then afterSeconds? s else none

/-- Whether a text is the offset of a time zone, or empty. -/
def isOffset (s : List Char) : Bool :=
  match s with
  | [] => true
  | ['z'] | ['Z'] => true
  | c :: s =>
    (c == '+' || c == '-') &&
      match fixedDigits? 2 s with
      | some (hour, ':' :: s) =>
        match fixedDigits? 2 s with
        | some (minute, []) => hour ≤ 23 && minute ≤ 59
        | _ => false
      | _ => false

/-- Whether a text is a date, a time of day, or both with or without an offset. -/
def isDateTime (s : List Char) : Bool :=
  match afterDate? s with
  | some [] => true
  | some (c :: rest) =>
    (c == 'T' || c == 't' || c == ' ') &&
      match afterTime? rest with
      | some offset => isOffset offset
      | none => false
  | none => afterTime? s == some []

/-- A date as it is handed on: a record with its text under a name of its own. -/
def dateNode (s : List Char) : Node :=
  .record [(some "$datetime", .text (some (String.ofList s)))] true

/-- The value of a bare word. -/
def scalar? (s : List Char) : Option Node :=
  if s = ['t', 'r', 'u', 'e'] then some (.bool true)
  else if s = ['f', 'a', 'l', 's', 'e'] then some (.bool false)
  else if isDateTime s then some (dateNode s)
  else ((float? s).or (whole? s)).map .number

end Noughts.Toml
