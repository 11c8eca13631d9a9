/-!
# The command line

Four options take a value, which follows as the next argument or behind an equals sign; the one
with a short form also takes it right behind its letter. An option may be given once. Help and
version are answered as soon as they are met. Anything else is refused.
-/

namespace Noughts

/-- The settings given on the command line. -/
structure Options where
  config? : Option String
  eventsFile? : Option String
  topic? : Option String
  logFilter? : Option String
deriving DecidableEq, Repr

/-- What the command line asks for. -/
inductive Command where
  | run (options : Options)
  | help
  | version
deriving DecidableEq, Repr

/-- The options that take a value. -/
inductive Setting where
  | config
  | eventsFile
  | topic
  | logFilter
deriving DecidableEq, Repr

namespace Setting

/-- The name of an option. -/
def option : Setting → String
  | config => "--config"
  | eventsFile => "--events-file"
  | topic => "--topic"
  | logFilter => "--log-filter"

/-- An option with the name of its value, as it is spoken of. -/
def usage : Setting → String
  | config => "--config <CONFIG>"
  | eventsFile => "--events-file <EVENTS_FILE>"
  | topic => "--topic <TOPIC>"
  | logFilter => "--log-filter <LOG_FILTER>"

/-- The option of a name without its dashes. -/
def ofName? (name : String) : Option Setting :=
  [config, eventsFile, topic, logFilter].find? fun s => s.option == "--" ++ name

/-- Whether the value is a path, which may not be empty. -/
def isPath : Setting → Bool
  | config | eventsFile => true
  | topic | logFilter => false

/-- The value given so far. -/
def get (s : Setting) (o : Options) : Option String :=
  match s with
  | config => o.config?
  | eventsFile => o.eventsFile?
  | topic => o.topic?
  | logFilter => o.logFilter?

end Setting

/-- Why a command line is refused. -/
inductive UsageError where
  | unexpectedArgument (argument : String)
  | missingValue (setting : Setting)
  /-- An option that takes no value was given one. -/
  | unexpectedValue (option value : String)
  | repeatedOption (setting : Setting)
deriving DecidableEq, Repr

/-- The wording of the refusal. -/
def UsageError.message : UsageError → String
  | unexpectedArgument argument => s!"unexpected argument '{argument}' found"
  | missingValue setting => s!"a value is required for '{setting.usage}' but none was supplied"
  | unexpectedValue option value =>
    s!"unexpected value '{value}' for '{option}' found; no more were expected"
  | repeatedOption setting => s!"the argument '{setting.usage}' cannot be used multiple times"

/-- Set the value of an option that has none yet. -/
def Setting.assign (s : Setting) (value : String) (o : Options) : Except UsageError Options :=
  if (s.get o).isSome then .error (.repeatedOption s)
  else if s.isPath && value.isEmpty then .error (.missingValue s)
  else
    .ok <|
      match s with
      | .config => { o with config? := some value }
      | .eventsFile => { o with eventsFile? := some value }
      | .topic => { o with topic? := some value }
      | .logFilter => { o with logFilter? := some value }

namespace Command

/-- Whether an argument is an option rather than a value. A lone dash is a value. -/
def looksLikeOption (argument : String) : Bool :=
  argument.startsWith "-" && argument != "-"

/-- What an argument turns out to be. -/
inductive Reading where
  | setting (s : Setting) (value : Option String)
  | help
  | version
  | refused (e : UsageError)
deriving DecidableEq, Repr

/-- Read an argument that starts with two dashes, of which `body` is the rest. -/
def readLong (body : List Char) : Reading :=
  let name := String.ofList (body.takeWhile (· != '='))
  let value : Option String :=
    match body.dropWhile (· != '=') with
    | [] => none
    | _ :: value => some (String.ofList value)
  match Setting.ofName? name with
  | some s => .setting s value
  | none =>
    if name = "help" then
      (value.map fun v => .refused (.unexpectedValue "--help" v)).getD .help
    else if name = "version" then
      (value.map fun v => .refused (.unexpectedValue "--version" v)).getD .version
    else .refused (.unexpectedArgument ("--" ++ name))

/-- Read an argument that starts with one dash, of which `body` is the rest. -/
def readShort (body : List Char) : Reading :=
  match body with
  | ['c'] => .setting .config none
  | 'c' :: '=' :: value => .setting .config (some (String.ofList value))
  | 'c' :: value => .setting .config (some (String.ofList value))
  | 'h' :: _ => .help
  | 'V' :: _ => .version
  | _ => .refused (.unexpectedArgument (String.ofList ('-' :: body.take 1)))

/-- Read one argument. -/
def read (argument : String) : Reading :=
  match argument.toList with
  | '-' :: '-' :: body => readLong body
  | '-' :: c :: body => readShort (c :: body)
  | _ => .refused (.unexpectedArgument argument)

/-- Read the arguments, some options having been given before. -/
def parseFrom (o : Options) : List String → Except UsageError Command
  | [] => .ok (.run o)
  | ["--"] => .ok (.run o)
  | "--" :: argument :: _ => .error (.unexpectedArgument argument)
  | argument :: rest =>
    match read argument with
    | .refused e => .error e
    | .help => .ok .help
    | .version => .ok .version
    | .setting s (some value) => do parseFrom (← s.assign value o) rest
    | .setting s none =>
      match rest with
      | [] => .error (.missingValue s)
      | value :: rest =>
        if looksLikeOption value then .error (.missingValue s)
        else do parseFrom (← s.assign value o) rest

/-- Read a command line. -/
def parse (arguments : List String) : Except UsageError Command :=
  parseFrom ⟨none, none, none, none⟩ arguments

/-- What is answered to the question for the version. -/
def versionText : String := "tictactoe_service 0.1.0\n"

/-- What is answered to the question for help. -/
def helpText : String :=
  "Authoritative tic-tac-toe session engine\n\n"
    ++ "Usage: tictactoe_service [OPTIONS]\n\n"
    ++ "Options:\n"
    ++ "  -c, --config <CONFIG>            Path to a TOML configuration file\n"
    ++ "      --events-file <EVENTS_FILE>  "
    ++ "Append events to this file instead of the configured target\n"
    ++ "      --topic <TOPIC>              Override the event topic\n"
    ++ "      --log-filter <LOG_FILTER>    Log filter used when RUST_LOG is unset\n"
    ++ "  -h, --help                       Print help\n"
    ++ "  -V, --version                    Print version\n"

end Command

end Noughts
