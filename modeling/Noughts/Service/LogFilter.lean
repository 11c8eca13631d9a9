import Noughts.Text.Alphanumeric
import Noughts.Text.Blank

/-!
# Log filters

A filter is a list of directives with commas between them. A directive that is the name or the
number of a level says down to which level entries are logged, and the last one counts. Any other
directive is about the entries of one source alone, and no source of this program is ever named; so
where there are no others nothing is logged. The empty filter logs errors.

A directive may be malformed. A filter from the environment is then refused as a whole, and one from
the configuration does without that directive.
-/

namespace Noughts

/-- How severe an entry of the log is. -/
inductive LogLevel where
  | error
  | warn
  | info
  | debug
  | trace
deriving DecidableEq, Repr

namespace LogLevel

/-- The rank of a level, the most severe first. -/
def rank : LogLevel → Nat
  | error => 1
  | warn => 2
  | info => 3
  | debug => 4
  | trace => 5

/-- The name of a level. -/
def label : LogLevel → String
  | error => "error"
  | warn => "warn"
  | info => "info"
  | debug => "debug"
  | trace => "trace"

/-- All levels, the most severe first. -/
def all : List LogLevel := [error, warn, info, debug, trace]

/-- The rank that a name in either case or a number stands for; zero lets nothing through. -/
def rankOf? (text : String) : Option Nat :=
  let digits := match text.toList with
    | '+' :: rest => rest
    | chars => chars
  if !digits.isEmpty && digits.all Char.isDigit then
    let n := Nat.ofDigitChars 10 digits 0
    if n ≤ 5 then some n else none
  else
    let name := text.toLower
    if name = "off" then some 0
    else (all.find? fun level => level.label == name).map rank

end LogLevel

/-- One directive of a filter. -/
inductive Directive where
  /-- Entries up to a rank are logged. -/
  | everything (rank : Nat)
  /-- The entries of a source up to a rank are logged. -/
  | source (name : String) (rank : Nat)
deriving DecidableEq, Repr

namespace Directive

/-- Whether a directive may begin with a character. -/
def mayBegin (c : Char) : Bool := Text.isAlphanumeric c || c == '-' || c == ':' || c == '_'

/-- Read a directive: a level, a source, or both with an equals sign between them. A source without
a level is logged in full. -/
def ofText? (text : String) : Option Directive :=
  match text.toList.dropWhile Text.isBlank with
  | [] => none
  | c :: rest =>
    if !mayBegin c then none
    else
      let chars := ((c :: rest).reverse.dropWhile Text.isBlank).reverse
      let name := String.ofList (chars.takeWhile (· != '='))
      match chars.dropWhile (· != '=') with
      | [] =>
        match LogLevel.rankOf? name with
        | some rank => some (.everything rank)
        | none => some (.source name LogLevel.trace.rank)
      | [_] => some (.source name LogLevel.trace.rank)
      | _ :: level => (LogLevel.rankOf? (String.ofList level)).map (.source name)

/-- The rank up to which directives let every entry through. -/
def rankOfAll : List Directive → Nat
  | [] => LogLevel.error.rank
  | directives =>
    directives.foldl (fun rank d => match d with
      | .everything r => r
      | .source _ _ => rank) 0

end Directive

/-- Which levels a filter logs: those up to a rank. -/
structure LogFilter where
  rank : Nat
deriving DecidableEq, Repr

namespace LogFilter

/-- The texts of the directives of a filter. -/
def pieces (text : String) : List String := (text.splitOn ",").filter (· != "")

/-- The filter of a text in which every directive is well formed. -/
def ofText? (text : String) : Option LogFilter :=
  ((pieces text).mapM Directive.ofText?).map fun directives => ⟨Directive.rankOfAll directives⟩

/-- The filter of a text, without the directives that are malformed. -/
def ofText (text : String) : LogFilter :=
  ⟨Directive.rankOfAll ((pieces text).filterMap Directive.ofText?)⟩

/-- What is said about the malformed directives of a text, a line for each. -/
def notices (text : String) : List String :=
  ((pieces text).filter fun piece => (Directive.ofText? piece).isNone).map fun piece =>
    s!"ignoring `{piece}`: invalid filter directive\n"

/-- Whether a level is logged. -/
def admits (f : LogFilter) (level : LogLevel) : Bool := level.rank ≤ f.rank

end LogFilter

end Noughts
