/-!
# From characters to tokens

The lexer reads a text one character at a time. What it has seen of an unfinished token is its
`Scan`, and `Scan.advance` says which tokens a character completes and how reading goes on. A token
is given out as soon as its last character is seen, so `truex` yields `true` before it breaks off.
The character at which reading breaks off is answered by the token `broken`, and nothing follows it.

Texts may escape characters as UTF-16 units. A high and a low unit in a row make one character; a
unit that stands alone leaves the text without a value, which matters only to who asks for it.
Likewise a number is only judged by its size class (`Numeral`), not refused.
-/

namespace Noughts

/-- What a number in the text amounts to. -/
inductive Numeral where
  /-- A whole number from zero to 2^64 - 1, written without sign, fraction and exponent. -/
  | natural (n : UInt64)
  /-- A whole number from -2^63 to -1. -/
  | negative (i : Int64)
  /-- Any other number that a double can approximate. -/
  | inexact
  /-- A whole number of more than 64 bits that is written out in a configuration. -/
  | wide
  /-- A number that is of no type: too large for all of them, or no number at a second look. -/
  | unreadable
deriving DecidableEq, Repr

/-- Whether a number can be kept for later, when its type is not known yet. -/
def Numeral.isKeepable : Numeral → Bool
  | natural _ | negative _ | inexact => true
  | wide | unreadable => false

/-- The parts of a number as they are written; digits are kept newest first. -/
structure NumberText where
  isNegative : Bool
  whole : List Char
  fraction : List Char
  exponentIsNegative : Bool
  exponent : List Char
  /-- Whether there is neither a fraction nor an exponent. -/
  isPlain : Bool
deriving DecidableEq, Repr

namespace NumberText

/-- The number of which nothing is read yet. -/
def blank (isNegative : Bool) : NumberText := ⟨isNegative, [], [], false, [], true⟩

/-- Append decimal digits to a number for as long as it stays below 2^64; also give the digits that
are left. -/
def appendDigits (n : Nat) : List Char → Nat × List Char
  | [] => (n, [])
  | d :: ds =>
    let more := 10 * n + (d.toNat - '0'.toNat)
    if more < UInt64.size then appendDigits more ds else (n, d :: ds)

/-- A natural number rounded to 53 significant bits, a half going to the even neighbour. -/
def roundToDouble (n : Nat) : Nat :=
  let shift := n.log2 + 1 - 53
  let unit := Nat.pow 2 shift
  let down := n / unit
  let rest := n % unit
  if 2 * rest < unit ∨ (2 * rest = unit ∧ down % 2 = 0) then down * unit else (down + 1) * unit

/-- Whether a significand times a power of ten is beyond every double, both factors being rounded
to doubles first. No power above 10^308 is a double. -/
def isBeyondDouble (significand : Nat) (exponent : Int) : Bool :=
  if significand = 0 ∨ exponent < 0 then false
  else if 308 < exponent then true
  else
    Nat.pow 2 1024 - Nat.pow 2 970 ≤
      roundToDouble significand * roundToDouble (Nat.pow 10 exponent.toNat)

/-- The significand of the number, from as many digits as fit, and the power of ten it is taken
times. -/
def scaled (t : NumberText) : Nat × Int :=
  let (whole, wholeLeft) := appendDigits 0 t.whole.reverse
  let (significand, fractionLeft) := appendDigits whole t.fraction.reverse
  let taken := t.fraction.length - fractionLeft.length
  let exponent := Nat.ofDigitChars 10 t.exponent.reverse 0
  let shift : Int := wholeLeft.length - taken
  (significand, if t.exponentIsNegative then shift - exponent else shift + exponent)

/-- What the number amounts to. Minus zero and whole numbers outside the 64-bit ranges are
inexact. -/
def numeral (t : NumberText) : Numeral :=
  let n := Nat.ofDigitChars 10 t.whole.reverse 0
  if t.isPlain ∧ n < UInt64.size then
    if !t.isNegative then .natural (UInt64.ofNat n)
    else if 0 < n ∧ n ≤ Nat.pow 2 63 then .negative (Int64.ofInt (-n))
    else .inexact
  else
    let (significand, exponent) := t.scaled
    if isBeyondDouble significand exponent then .unreadable else .inexact

end NumberText

/-- How far a number has been read. -/
inductive NumberStage where
  /-- A minus sign was read; a digit has to follow. -/
  | sign
  /-- A leading zero was read; no digit may follow. -/
  | zero
  | whole
  /-- A point was read; a digit has to follow. -/
  | point
  | fraction
  /-- The mark of the exponent was read; a sign or a digit has to follow. -/
  | mark
  /-- The sign of the exponent was read; a digit has to follow. -/
  | markSign
  | exponent
deriving DecidableEq, Repr

/-- Whether a number may end here. -/
def NumberStage.mayEnd : NumberStage → Bool
  | zero | whole | fraction | exponent => true
  | sign | point | mark | markSign => false

/-- What a character does to a number that is being read. -/
inductive NumberStep where
  | more (stage : NumberStage) (text : NumberText)
  | ended
  | broken

/-- Read one more character of a number. -/
def NumberText.step (t : NumberText) (stage : NumberStage) (c : Char) : NumberStep :=
  let isMark := c = 'e' ∨ c = 'E'
  let startFraction := NumberStep.more .point { t with isPlain := false }
  let startExponent := NumberStep.more .mark { t with isPlain := false }
  match stage with
  | .sign =>
    if c = '0' then .more .zero { t with whole := [c] }
    else if c.isDigit then .more .whole { t with whole := [c] }
    else .broken
  | .zero =>
    if c.isDigit then .broken
    else if c = '.' then startFraction
    else if isMark then startExponent
    else .ended
  | .whole =>
    if c.isDigit then .more .whole { t with whole := c :: t.whole }
    else if c = '.' then startFraction
    else if isMark then startExponent
    else .ended
  | .point =>
    if c.isDigit then .more .fraction { t with fraction := [c] } else .broken
  | .fraction =>
    if c.isDigit then .more .fraction { t with fraction := c :: t.fraction }
    else if isMark then startExponent
    else .ended
  | .mark =>
    if c = '+' then .more .markSign t
    else if c = '-' then .more .markSign { t with exponentIsNegative := true }
    else if c.isDigit then .more .exponent { t with exponent := [c] }
    else .broken
  | .markSign =>
    if c.isDigit then .more .exponent { t with exponent := [c] } else .broken
  | .exponent =>
    if c.isDigit then .more .exponent { t with exponent := c :: t.exponent } else .ended

/-- A piece of a text: a character, or a UTF-16 unit given in hexadecimal. -/
inductive TextPiece where
  | char (c : Char)
  | unit (n : Nat)
deriving DecidableEq, Repr

/-- The characters that pieces make up; none if a surrogate unit is not part of a pair. -/
def TextPiece.join? : List TextPiece → Option (List Char)
  | [] => some []
  | .char c :: rest => (join? rest).map (c :: ·)
  | .unit n :: .unit m :: rest =>
    if n < 0xD800 ∨ 0xDFFF < n then (join? (.unit m :: rest)).map (Char.ofNat n :: ·)
    else if n < 0xDC00 ∧ 0xDC00 ≤ m ∧ m ≤ 0xDFFF then
      (join? rest).map (Char.ofNat (0x10000 + (n - 0xD800) * 0x400 + (m - 0xDC00)) :: ·)
    else none
  | .unit n :: rest =>
    if n < 0xD800 ∨ 0xDFFF < n then (join? rest).map (Char.ofNat n :: ·) else none

/-- A token of the text. -/
inductive Token where
  | openList
  | closeList
  | openRecord
  | closeRecord
  | comma
  | colon
  | null
  | bool (b : Bool)
  | number (n : Numeral)
  /-- A text; it has no value if a surrogate stands alone in it. -/
  | text (s : Option String)
  /-- Here reading broke off. -/
  | broken
deriving DecidableEq, Repr

/-- An unfinished token. Pieces of texts are kept newest first. -/
inductive Scan where
  /-- No token has begun. -/
  | between
  /-- A word of which these characters are missing. -/
  | word (missing : List Char) (token : Token)
  | text (read : List TextPiece)
  /-- A text in which a backslash was just read. -/
  | escape (read : List TextPiece)
  /-- A text in which a unit is read, with so many hexadecimal digits to come. -/
  | unit (read : List TextPiece) (missing : Nat) (value : Nat)
  | number (stage : NumberStage) (t : NumberText)

namespace Scan

/-- Begin a token with its first character; `none` if no token begins so. -/
def begin (c : Char) : List Token × Option Scan :=
  if c = ' ' ∨ c = '\t' ∨ c = '\n' ∨ c = '\r' then ([], some between)
  else if c = '[' then ([.openList], some between)
  else if c = ']' then ([.closeList], some between)
  else if c = '\x7b' then ([.openRecord], some between)
  else if c = '\x7d' then ([.closeRecord], some between)
  else if c = ',' then ([.comma], some between)
  else if c = ':' then ([.colon], some between)
  else if c = '"' then ([], some (text []))
  else if c = 'n' then ([], some (word ['u', 'l', 'l'] .null))
  else if c = 't' then ([], some (word ['r', 'u', 'e'] (.bool true)))
  else if c = 'f' then ([], some (word ['a', 'l', 's', 'e'] (.bool false)))
  else if c = '-' then ([], some (number .sign (.blank true)))
  else if c = '0' then ([], some (number .zero { NumberText.blank false with whole := [c] }))
  else if c.isDigit then ([], some (number .whole { NumberText.blank false with whole := [c] }))
  else ([], none)

/-- The character that a letter after a backslash stands for. -/
def escapeOf? (c : Char) : Option Char :=
  if c = '"' then some '"'
  else if c = '\\' then some '\\'
  else if c = '/' then some '/'
  else if c = 'b' then some '\x08'
  else if c = 'f' then some '\x0c'
  else if c = 'n' then some '\n'
  else if c = 'r' then some '\r'
  else if c = 't' then some '\t'
  else none

/-- The value of a hexadecimal digit of either case. -/
def hexValue? (c : Char) : Option Nat :=
  if c.isDigit then some (c.toNat - '0'.toNat)
  else if 'a' ≤ c ∧ c ≤ 'f' then some (c.toNat - 'a'.toNat + 10)
  else if 'A' ≤ c ∧ c ≤ 'F' then some (c.toNat - 'A'.toNat + 10)
  else none

/-- Read one more character: the tokens it completes, and what is being read then; `none` if
reading breaks off. -/
def advance : Scan → Char → List Token × Option Scan
  | between, c => begin c
  | word [] _, _ => ([], none)
  | word (m :: missing) token, c =>
    if c ≠ m then ([], none)
    else if missing.isEmpty then ([token], some between)
    else ([], some (word missing token))
  | text read, c =>
    if c = '"' then ([.text ((TextPiece.join? read.reverse).map String.ofList)], some between)
    else if c = '\\' then ([], some (escape read))
    else if c.toNat < 0x20 then ([], none)
    else ([], some (text (.char c :: read)))
  | escape read, c =>
    if c = 'u' then ([], some (unit read 4 0))
    else
      match escapeOf? c with
      | some e => ([], some (text (.char e :: read)))
      | none => ([], none)
  | unit read missing value, c =>
    match hexValue? c with
    | none => ([], none)
    | some d =>
      if missing ≤ 1 then ([], some (text (.unit (16 * value + d) :: read)))
      else ([], some (unit read (missing - 1) (16 * value + d)))
  | number stage t, c =>
    match t.step stage c with
    | .more stage t => ([], some (number stage t))
    | .broken => ([], none)
    | .ended =>
      let (tokens, next) := begin c
      (.number t.numeral :: tokens, next)

/-- The tokens that the end of the text completes. -/
def finish : Scan → List Token
  | between => []
  | number stage t => if stage.mayEnd then [.number t.numeral] else [.broken]
  | _ => [.broken]

/-- The tokens of a text, given what is already read of the first of them. -/
def tokens (s : Scan) : List Char → List Token
  | [] => s.finish
  | c :: rest =>
    match s.advance c with
    | (done, none) => done ++ [.broken]
    | (done, some next) => done ++ next.tokens rest

end Scan

/-- The tokens of a text. -/
def Token.scan (text : List Char) : List Token := Scan.between.tokens text

end Noughts
