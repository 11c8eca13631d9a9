/-!
# Tokens of a configuration text

The lexer of the configuration format reads one character at a time and keeps what it has seen of an
unfinished token in its `Scan`. A word is a run of any characters but those that part tokens, so a
quote inside it belongs to it; what a word means, and whether it means anything, depends on where it
stands and is decided later. Comments leave no token behind, and blanks do, because some tokens have
to touch.

Texts come in four kinds: between single or double quotes, on one line or, with the quote written
three times, on several. Between double quotes a backslash escapes.
-/

namespace Noughts.Toml

/-- A token of the text. -/
inductive Token where
  | word (s : List Char)
  | dot
  | equals
  | comma
  | openBracket
  | closeBracket
  | openBrace
  | closeBrace
  /-- A text; a text of several lines cannot be a key. -/
  | text (s : List Char) (isBlock : Bool)
  /-- A run of spaces and tabs. -/
  | blank (s : List Char)
  | newline
  /-- Here reading broke off. -/
  | broken
deriving DecidableEq, Repr

/-- Which quote a text stands between. -/
inductive Quote where
  | single
  | double
deriving DecidableEq, Repr

/-- The character of a quote. -/
def Quote.char : Quote → Char
  | single => '\''
  | double => '"'

/-- An unfinished token. Characters are kept newest first. -/
inductive Scan where
  /-- No token has begun. -/
  | between
  | word (read : List Char)
  | blank (read : List Char)
  /-- A comment, up to the end of its line. -/
  | comment
  /-- A carriage return that has to be followed by a line feed. -/
  | lineEnd
  /-- One quote was read. -/
  | opened (q : Quote)
  /-- Two quotes were read: an empty text, or the beginning of a text of several lines. -/
  | openedTwice (q : Quote)
  | line (q : Quote) (read : List Char)
  /-- A text of several lines whose first line break is left out. -/
  | blockStart (q : Quote)
  /-- A text of several lines, and how many quotes were read last. -/
  | block (q : Quote) (read : List Char) (quotes : Nat)
  /-- A carriage return right at the beginning of a text of several lines. -/
  | blockStartEnd (q : Quote)
  /-- A carriage return inside a text of several lines. -/
  | blockLineEnd (q : Quote) (read : List Char)
  /-- A backslash was read. -/
  | escape (isBlock : Bool) (read : List Char)
  /-- So many hexadecimal digits of a character are to come. -/
  | code (isBlock : Bool) (read : List Char) (missing : Nat) (value : Nat)
  /-- A backslash at the end of a line: all blanks up to the next character are left out. The flag
  says whether the line did end. -/
  | trim (read : List Char) (isEnded : Bool)
  /-- A carriage return among the blanks left out. -/
  | trimLineEnd (read : List Char)

namespace Scan

/-- Whether a character ends a word. -/
def isWordEnd (c : Char) : Bool :=
  c == ' ' || c == '\t' || c == '\n' || c == '\r' || c == '#' || c == '.' || c == '=' || c == ',' ||
    c == '[' || c == ']' || c == '\x7b' || c == '\x7d'

/-- Whether a character may stand unescaped in a text or a comment. -/
def isPlain (c : Char) : Bool := c == '\t' || (0x20 ≤ c.toNat && c.toNat != 0x7f)

/-- Begin a token with its first character. -/
def begin (c : Char) : List Token × Option Scan :=
  if c = ' ' ∨ c = '\t' then ([], some (blank [c]))
  else if c = '\n' then ([.newline], some between)
  else if c = '\r' then ([], some lineEnd)
  else if c = '#' then ([], some comment)
  else if c = '.' then ([.dot], some between)
  else if c = '=' then ([.equals], some between)
  else if c = ',' then ([.comma], some between)
  else if c = '[' then ([.openBracket], some between)
  else if c = ']' then ([.closeBracket], some between)
  else if c = '\x7b' then ([.openBrace], some between)
  else if c = '\x7d' then ([.closeBrace], some between)
  else if c = '"' then ([], some (opened .double))
  else if c = '\'' then ([], some (opened .single))
  else ([], some (word [c]))

/-- End a token, and begin the next one with the character that ended it. -/
def endWith (token : Token) (c : Char) : List Token × Option Scan :=
  let (tokens, next) := begin c
  (token :: tokens, next)

/-- A text of several lines with the quotes that stand right before its closing ones. -/
def blockText (q : Quote) (read : List Char) (quotes : Nat) : Token :=
  .text (read.reverse ++ List.replicate (quotes - 3) q.char) true

/-- Continue a text after an escaped character. -/
def resume (isBlock : Bool) (read : List Char) : Scan :=
  if isBlock then block .double read 0 else line .double read

/-- The character that a letter after a backslash stands for. -/
def escapeOf? (c : Char) : Option Char :=
  if c = '"' then some '"'
  else if c = '\\' then some '\\'
  else if c = 'b' then some '\x08'
  else if c = 't' then some '\t'
  else if c = 'n' then some '\n'
  else if c = 'f' then some '\x0c'
  else if c = 'r' then some '\r'
  else if c = 'e' then some '\x1b'
  else none

/-- How many hexadecimal digits follow a letter after a backslash. -/
def codeLength? (c : Char) : Option Nat :=
  if c = 'x' then some 2 else if c = 'u' then some 4 else if c = 'U' then some 8 else none

/-- The value of a hexadecimal digit of either case. -/
def hexValue? (c : Char) : Option Nat :=
  if c.isDigit then some (c.toNat - '0'.toNat)
  else if 'a' ≤ c ∧ c ≤ 'f' then some (c.toNat - 'a'.toNat + 10)
  else if 'A' ≤ c ∧ c ≤ 'F' then some (c.toNat - 'A'.toNat + 10)
  else none

/-- Read one more character of a text of several lines, after all quotes before it. -/
def advanceBlock (q : Quote) (read : List Char) (c : Char) : List Token × Option Scan :=
  if c = '\n' then ([], some (block q ('\n' :: read) 0))
  else if c = '\r' then ([], some (blockLineEnd q read))
  else if c = '\\' ∧ q = .double then ([], some (escape true read))
  else if isPlain c then ([], some (block q (c :: read) 0))
  else ([], none)

/-- Read one more character: the tokens it completes, and what is being read then; `none` if
reading breaks off. -/
def advance : Scan → Char → List Token × Option Scan
  | between, c => begin c
  | word read, c =>
    if isWordEnd c then endWith (.word read.reverse) c else ([], some (word (c :: read)))
  | blank read, c =>
    if c = ' ' ∨ c = '\t' then ([], some (blank (c :: read)))
    else endWith (.blank read.reverse) c
  | comment, c =>
    if c = '\n' then ([.newline], some between)
    else if c = '\r' then ([], some lineEnd)
    else if isPlain c then ([], some comment)
    else ([], none)
  | lineEnd, c => if c = '\n' then ([.newline], some between) else ([], none)
  | opened q, c =>
    if c = q.char then ([], some (openedTwice q))
    else if c = '\\' ∧ q = .double then ([], some (escape false []))
    else if isPlain c then ([], some (line q [c]))
    else ([], none)
  | openedTwice q, c =>
    if c = q.char then ([], some (blockStart q)) else endWith (.text [] false) c
  | line q read, c =>
    if c = q.char then ([.text read.reverse false], some between)
    else if c = '\\' ∧ q = .double then ([], some (escape false read))
    else if isPlain c then ([], some (line q (c :: read)))
    else ([], none)
  | blockStart q, c =>
    if c = '\n' then ([], some (block q [] 0))
    else if c = q.char then ([], some (block q [] 1))
    else if c = '\r' then ([], some (blockStartEnd q))
    else advanceBlock q [] c
  | block q read quotes, c =>
    if c = q.char then
      if quotes = 4 then ([blockText q read 5], some between)
      else ([], some (block q read (quotes + 1)))
    else if 3 ≤ quotes then endWith (blockText q read quotes) c
    else advanceBlock q (List.replicate quotes q.char ++ read) c
  | blockStartEnd q, c => if c = '\n' then ([], some (block q [] 0)) else ([], none)
  | blockLineEnd q read, c =>
    if c = '\n' then ([], some (block q ('\n' :: '\r' :: read) 0)) else ([], none)
  | escape isBlock read, c =>
    match escapeOf? c, codeLength? c with
    | some e, _ => ([], some (resume isBlock (e :: read)))
    | none, some length => ([], some (code isBlock read length 0))
    | none, none =>
      if !isBlock then ([], none)
      else if c = '\n' then ([], some (trim read true))
      else if c = '\r' then ([], some (trimLineEnd read))
      else if c = ' ' ∨ c = '\t' then ([], some (trim read false))
      else ([], none)
  | code isBlock read missing value, c =>
    match hexValue? c with
    | none => ([], none)
    | some d =>
      let value := 16 * value + d
      if 1 < missing then ([], some (code isBlock read (missing - 1) value))
      else if value.isValidChar then ([], some (resume isBlock (Char.ofNat value :: read)))
      else ([], none)
  | trim read isEnded, c =>
    if c = '\n' then ([], some (trim read true))
    else if c = '\r' then ([], some (trimLineEnd read))
    else if c = ' ' ∨ c = '\t' then ([], some (trim read isEnded))
    else if !isEnded then ([], none)
    else if c = '"' then ([], some (block .double read 1))
    else advanceBlock .double read c
  | trimLineEnd read, c => if c = '\n' then ([], some (trim read true)) else ([], none)

/-- The tokens that the end of the text completes. -/
def finish : Scan → List Token
  | between | comment => []
  | word read => [.word read.reverse]
  | blank read => [.blank read.reverse]
  | openedTwice _ => [.text [] false]
  | block q read quotes => if 3 ≤ quotes then [blockText q read quotes] else [.broken]
  | _ => [.broken]

/-- The tokens of a text, given what is already read of the first of them. -/
def tokens (s : Scan) : List Char → List Token
  | [] => s.finish
  | c :: rest =>
    match s.advance c with
    | (done, none) => done ++ [.broken]
    | (done, some next) => done ++ next.tokens rest

end Scan

/-- The tokens of a text. A byte order mark at its beginning does not count. -/
def Token.scan : List Char → List Token
  | '\ufeff' :: rest => Scan.between.tokens rest
  | chars => Scan.between.tokens chars

end Noughts.Toml
