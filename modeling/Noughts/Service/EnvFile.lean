import Noughts.Text.Alphanumeric
import Noughts.Text.Blank

/-!
# Files of environment settings

A file of lines `NAME=value` adds to the environment. A line may begin with the word `export`; a
value may stand between quotes, reach over several lines inside them, escape characters with a
backslash, and name earlier settings after a dollar sign. Behind a value a comment may stand. The
first line that breaks these rules ends the reading, and what was read before it counts. A value
with a NUL character follows the rules, and yet no environment can hold it.
-/

namespace Noughts.EnvFile

/-- Where in a line the search for its end is. -/
inductive LineState where
  | plain
  | blank
  | escaped
  | double
  | doubleEscaped
  | single
  | singleEscaped
deriving DecidableEq, Repr

/-- Go on by one character; `none` at the beginning of a comment. -/
def LineState.next? (s : LineState) (c : Char) : Option LineState :=
  let outside : LineState :=
    if c = '\\' then escaped else if c = '"' then double else if c = '\'' then single else plain
  match s with
  | plain => some (if Text.isBlank c && c != '\n' && c != '\r' then blank else outside)
  | blank => if c = '#' then none else some outside
  | escaped => some plain
  | double => some (if c = '\\' then doubleEscaped else if c = '"' then plain else double)
  | doubleEscaped => some double
  | single => some (if c = '\\' then singleEscaped else if c = '\'' then plain else single)
  | singleEscaped => some single

/-- Whether a line so far is blank or a comment. -/
def isComment (read : List Char) : Bool := (read.reverse.dropWhile Text.isBlank).head? == some '#'

/-- The lines of a text. A line break inside quotes does not end a line. The flag tells that the
text ends inside a line that is not finished. -/
def logicalLines : (state : LineState) → (inComment : Bool) → (read : List Char) → List Char →
    List (List Char) × Bool
  | state, inComment, read, [] =>
    let finished := inComment || isComment read || state == .plain
    (if finished then [read.reverse] else [], !finished)
  | state, inComment, read, c :: rest =>
    if inComment || isComment read then
      if c = '\n' then
        let (lines, broken) := logicalLines .plain false [] rest
        (read.reverse :: lines, broken)
      else logicalLines state inComment read rest
    else
      match state.next? c with
      | none => logicalLines state true read rest
      | some next =>
        if c = '\n' && next == .plain then
          let (lines, broken) := logicalLines .plain false [] rest
          (read.reverse :: lines, broken)
        else logicalLines next false (c :: read) rest

/-- The settings read so far, the first one first. -/
abbrev Settings := List (String × String)

/-- How a name after a dollar sign is read. -/
inductive NameState where
  | none
  | bare
  | braced
deriving DecidableEq, Repr

/-- A value that is being read. -/
structure ValueState where
  /-- The characters of the value, newest first. -/
  read : List Char
  inSingle : Bool
  inDouble : Bool
  isEscaped : Bool
  /-- Nothing but a comment may follow. -/
  isEnded : Bool
  isComment : Bool
  nameState : NameState
  /-- The characters of a name after a dollar sign, newest first. -/
  name : List Char

namespace ValueState

/-- Nothing read yet. -/
def start : ValueState := ⟨[], false, false, false, false, false, .none, []⟩

/-- Put the value of the name that was read in its place. -/
def substitute (settings : Settings) (s : ValueState) : ValueState :=
  let value := (settings.lookup (String.ofList s.name.reverse)).getD ""
  { s with read := value.toList.reverse ++ s.read, name := [], nameState := .none }

/-- Read one more character of a value. -/
def next? (settings : Settings) (s : ValueState) (c : Char) : Option ValueState :=
  let push (s : ValueState) : ValueState := { s with read := c :: s.read }
  if s.isComment then some s
  else if s.isEnded then
    if c = ' ' ∨ c = '\t' then some s
    else if c = '#' then some { s with isComment := true }
    else none
  else if s.isEscaped then
    let s := { s with isEscaped := false }
    if c = '\\' ∨ c = '\'' ∨ c = '"' ∨ c = '$' ∨ c = ' ' then some (push s)
    else if c = 'n' then some { s with read := '\n' :: s.read }
    else none
  else if s.inSingle then
    if c = '\'' then some { s with inSingle := false } else some (push s)
  else
    match s.nameState with
    | .bare =>
      if Text.isAlphanumeric c then some { s with name := c :: s.name }
      else if c = '\x7b' ∧ s.name.isEmpty then some { s with nameState := .braced }
      else if c = '$' then some { s.substitute settings with nameState := .bare }
      else some (push (s.substitute settings))
    | .braced =>
      if c = '\x7d' then some (s.substitute settings) else some { s with name := c :: s.name }
    | .none =>
      if c = '$' then some { s with nameState := .bare }
      else if s.inDouble then
        if c = '"' then some { s with inDouble := false }
        else if c = '\\' then some { s with isEscaped := true }
        else some (push s)
      else if c = '\'' then some { s with inSingle := true }
      else if c = '"' then some { s with inDouble := true }
      else if c = '\\' then some { s with isEscaped := true }
      else if c = ' ' ∨ c = '\t' then some { s with isEnded := true }
      else some (push s)

/-- The value when its text ends. -/
def finish? (settings : Settings) (s : ValueState) : Option String :=
  if s.nameState = .braced ∨ s.inSingle ∨ s.inDouble then none
  else some (String.ofList (s.substitute settings).read.reverse)

end ValueState

/-- Read a value. -/
def value? (settings : Settings) (s : List Char) : Option String := do
  let state ← s.foldlM (fun state c => state.next? settings c) ValueState.start
  state.finish? settings

/-- Read a name, and leave out the blanks behind it. -/
def name? (s : List Char) : Option (String × List Char) :=
  match s with
  | c :: _ =>
    if c.isAlpha ∨ c = '_' then
      let isNameChar (c : Char) : Bool := c.isAlphanum || c == '_' || c == '.'
      some (String.ofList (s.takeWhile isNameChar),
        (s.dropWhile isNameChar).dropWhile Text.isBlank)
    else none
  | [] => none

/-- Read a line: nothing, or one setting. -/
def line? (settings : Settings) (line : List Char) : Option (Option (String × String)) := do
  let trimmed := (line.reverse.dropWhile Text.isBlank).reverse.dropWhile Text.isBlank
  if trimmed.isEmpty || trimmed.head? == some '#' then some none
  else
    let (name, rest) ← name? trimmed
    let (name, rest) ←
      match rest with
      | '=' :: rest => some (name, rest)
      | _ =>
        if name = "export" then
          match name? rest with
          | some (name, '=' :: rest) => some (name, rest)
          | _ => none
        else none
    let rest := rest.dropWhile Text.isBlank
    if rest.isEmpty || rest.head? == some '#' then some (some (name, ""))
    else
      let value ← value? settings rest
      some (some (name, value))

/-- A value that no environment can hold, under its name. -/
structure UnfitValue where
  name : String
  value : String
deriving DecidableEq, Repr

/-- The wording of the failure. -/
def UnfitValue.message (e : UnfitValue) : String :=
  s!"failed to set environment variable {e.name}: its value has a NUL character in it"

/-- Read lines up to the first that is broken. A name that was set before keeps its value. -/
def collect (settings : Settings) : List (List Char) → Except UnfitValue Settings
  | [] => .ok settings
  | line :: rest =>
    match line? settings line with
    | none => .ok settings
    | some none => collect settings rest
    | some (some (name, value)) =>
      if (settings.lookup name).isSome then collect settings rest
      else if value.toList.contains '\x00' then .error ⟨name, value⟩
      else collect (settings ++ [(name, value)]) rest

/-- The settings of a file, those of the environment coming first. A byte order mark at its
beginning does not count. -/
def read (environment : Settings) (text : String) : Except UnfitValue Settings :=
  let chars := match text.toList with
    | '\ufeff' :: rest => rest
    | chars => chars
  collect environment (logicalLines .plain false [] chars).1

end Noughts.EnvFile
