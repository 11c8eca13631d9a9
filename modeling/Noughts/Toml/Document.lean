import Noughts.Toml.Scalar
import Noughts.Toml.Table
import Noughts.Toml.Token

/-!
# Reading a configuration

A configuration is read line by line: a header opens a table, and a key with a value sets an entry
of the table that is open. The answer is the whole configuration as one record, or nothing if it
breaks any rule.

The functions for keys and values recur on fuel. Each call uses up a token, so the number of tokens
is enough.
-/

namespace Noughts.Toml

/-- How deep lists and tables may nest in a value, and how many parts a key may have. -/
def maxNesting : Nat := 80

/-- Leave out blanks. -/
def skipBlank : List Token → List Token
  | .blank _ :: rest => skipBlank rest
  | tokens => tokens

/-- Leave out blanks and line breaks. -/
def skipSpace : List Token → List Token
  | .blank _ :: rest | .newline :: rest => skipSpace rest
  | tokens => tokens

/-- Whether a character may be part of a bare key. -/
def isKeyChar (c : Char) : Bool := c.isAlphanum || c == '_' || c == '-'

/-- A key of any length: parts with dots between them. -/
def dottedKey? : (fuel : Nat) → List Token → Option (List String × List Token)
  | 0, _ => none
  | fuel + 1, tokens => do
    let (part, rest) ← match skipBlank tokens with
      | .word s :: rest => if s.all isKeyChar then some (String.ofList s, rest) else none
      | .text s false :: rest => some (String.ofList s, rest)
      | _ => none
    match skipBlank rest with
    | .dot :: rest => do
      let (more, rest) ← dottedKey? fuel rest
      some (part :: more, rest)
    | rest => some ([part], rest)

/-- A key of no more than `maxNesting` parts. -/
def key? (fuel : Nat) (tokens : List Token) : Option (List String × List Token) := do
  let (key, rest) ← dottedKey? fuel tokens
  if key.length ≤ maxNesting then some (key, rest) else none

/-- The characters of words and dots that touch each other, and of the blanks between words. -/
def bareRun : List Token → List Char × List Token
  | .word s :: rest =>
    let (more, rest) := bareRun rest
    (s ++ more, rest)
  | .dot :: rest =>
    let (more, rest) := bareRun rest
    ('.' :: more, rest)
  | .blank gap :: .word s :: rest =>
    let (more, rest) := bareRun rest
    (gap ++ s ++ more, rest)
  | tokens => ([], tokens)

/-- A bare value, of one word or several: a time of day may stand behind a date with a space between
them. -/
def bare? (tokens : List Token) : Option (Node × List Token) :=
  let (run, rest) := bareRun tokens
  (scalar? run).map fun node => (node, rest)

mutual

/-- A value, inside so many lists and tables. -/
def value? : (fuel depth : Nat) → List Token → Option (Node × List Token)
  | 0, _, _ => none
  | fuel + 1, depth, tokens =>
    match tokens with
    | .text s _ :: rest => some (.text (some (String.ofList s)), rest)
    | .openBracket :: rest =>
      if depth < maxNesting then listItems? fuel (depth + 1) [] rest else none
    | .openBrace :: rest =>
      if depth < maxNesting then tableEntries? fuel (depth + 1) [] rest else none
    | _ => bare? tokens

/-- The items of a list up to its closing bracket; those read before are kept newest first. -/
def listItems? : (fuel depth : Nat) → List Node → List Token → Option (Node × List Token)
  | 0, _, _, _ => none
  | fuel + 1, depth, read, tokens =>
    match skipSpace tokens with
    | .closeBracket :: rest => some (.list read.reverse true, rest)
    | tokens => do
      let (item, rest) ← value? fuel depth tokens
      match skipSpace rest with
      | .comma :: rest => listItems? fuel depth (item :: read) rest
      | .closeBracket :: rest => some (.list (item :: read).reverse true, rest)
      | _ => none

/-- The entries of a table in braces up to its closing brace. -/
def tableEntries? : (fuel depth : Nat) → Entries → List Token → Option (Node × List Token)
  | 0, _, _, _ => none
  | fuel + 1, depth, entries, tokens =>
    match skipSpace tokens with
    | .closeBrace :: rest => some (entries.toNode, rest)
    | tokens => do
      let (key, rest) ← key? fuel tokens
      let .equals :: rest := skipSpace rest | none
      let (value, rest) ← value? fuel depth (skipSpace rest)
      let entries ← entries.set value key
      match skipSpace rest with
      | .comma :: rest => tableEntries? fuel depth entries rest
      | .closeBrace :: rest => some (entries.toNode, rest)
      | _ => none

end

/-- A configuration that is being read: its entries, and the path of the open table. -/
structure Reading where
  root : Entries
  path : List String

/-- What has to stand behind an entry or a header: nothing, up to the end of the line. -/
def afterLine? (tokens : List Token) : Option (List Token) :=
  match skipBlank tokens with
  | [] => some []
  | .newline :: rest => some rest
  | _ => none

/-- The last key of a path and those before it. -/
def splitLast? : List String → Option (List String × String)
  | [] => none
  | [last] => some ([], last)
  | key :: rest => (splitLast? rest).map fun (path, last) => (key :: path, last)

/-- Read a header behind its brackets, and open its table. -/
def header? (fuel : Nat) (isRepeated : Bool) (r : Reading) (tokens : List Token) :
    Option (Reading × List Token) := do
  let (path, rest) ← key? fuel tokens
  let (outer, last) ← splitLast? path
  let openLast := if isRepeated then Entries.openRepeated last else Entries.openTable last
  let rest ← match isRepeated, rest with
    | true, .closeBracket :: .closeBracket :: rest => some rest
    | false, .closeBracket :: rest => some rest
    | _, _ => none
  let root ← Entries.within openLast outer r.root
  some (⟨root, path⟩, rest)

/-- Read one entry or header, and what is left of its line. -/
def expression? (fuel : Nat) (r : Reading) (tokens : List Token) :
    Option (Reading × List Token) := do
  match skipBlank tokens with
  | [] => some (r, [])
  | .newline :: rest => some (r, rest)
  | .openBracket :: .openBracket :: rest =>
    let (r, rest) ← header? fuel true r rest
    let rest ← afterLine? rest
    some (r, rest)
  | .openBracket :: rest =>
    let (r, rest) ← header? fuel false r rest
    let rest ← afterLine? rest
    some (r, rest)
  | tokens =>
    let (key, rest) ← key? fuel tokens
    let .equals :: rest := skipBlank rest | none
    let (value, rest) ← value? fuel 0 (skipBlank rest)
    let rest ← afterLine? rest
    let root ← Entries.within (Entries.set value key) r.path r.root
    some ({ r with root := root }, rest)

/-- Read entries and headers to the end of the text. -/
def expressions? : (fuel : Nat) → Reading → List Token → Option Reading
  | _, r, [] => some r
  | 0, _, _ => none
  | fuel + 1, r, tokens => do
    let (r, rest) ← expression? (fuel + 1) r tokens
    expressions? fuel r rest

/-- Read a configuration text as one record. -/
def read? (text : List Char) : Option Node :=
  let tokens := Token.scan text
  (expressions? (tokens.length + 1) ⟨[], []⟩ tokens).map fun r => r.root.toNode

end Noughts.Toml
