import Noughts.Config
import Noughts.Journal
import Noughts.Service.CommandLine
import Noughts.Service.EnvFile
import Noughts.Service.LogFilter
import Noughts.Service.Loop

/-!
# The service as a whole

What the service does with its command line, its environment, the files on a disk and the lines it
is sent. The configuration of a file is overridden by options, and the log filter of both by the
environment. `Host.run` is the program; the machine on which it runs is a parameter.

Requests are answered by the request loop, and beside it the dispatcher hands the events in the
outbox on to their target. When the input ends, the service waits until the dispatcher is done; when
the loop fails, it does not: `Desk.handle`.

`Launch` describes a machine on which nothing is left open. There a `Schedule` says how far the
dispatcher gets between any two steps of the loop that concern it, what the target answers, and when
standard output breaks. `Launch.run` is the program on that machine.
-/

namespace Noughts

/-- Why the service ends with a failure. -/
inductive ServiceError where
  | config (cause : ConfigError)
  | eventFile (path : String) (cause : FileError)
  | requestLoop (cause : ServeError)
deriving DecidableEq, Repr

/-- The wording of the failure; its cause is not part of it. -/
def ServiceError.message : ServiceError → String
  | config cause => s!"Error: {cause.message}"
  | eventFile path _ => s!"Error: Failed to open event file {path}"
  | requestLoop _ => "Error: Request loop failed"

namespace Options

/-- The configuration under these options, given the contents of the file that they name. -/
def resolve (o : Options) (report : ConfigReport)
    (contents? : Option (Except FileError (List UInt8))) : Except ConfigError ServiceConfig := do
  let config ← match contents? with
    | some contents => ServiceConfig.ofFile report contents
    | none => .ok .standard
  .ok { config with
    topic := o.topic?.getD config.topic
    logFilter := o.logFilter?.getD config.logFilter
    events := (o.eventsFile?.map EventTarget.file).getD config.events }

end Options

/-- The name of the setting that overrides the log filter. -/
def filterSetting : String := "RUST_LOG"

/-- The log filter in force, and what is said about it: the filter of the environment if there is
one without a fault, else that of the configuration. -/
def ServiceConfig.filter (config : ServiceConfig) (settings : EnvFile.Settings) :
    LogFilter × List String :=
  match (settings.lookup filterSetting).bind LogFilter.ofText? with
  | some filter => (filter, [])
  | none => (.ofText config.logFilter, LogFilter.notices config.logFilter)

/-! ## The program -/

/-- An event target that can be written to. -/
inductive OpenTarget (φ : Type) where
  | log
  | stderr
  | file (file : φ)

/-- What is to be done for the requests: where their events go, and through which outbox. -/
structure Job (φ : Type) where
  topic : String
  filter : LogFilter
  target : OpenTarget φ
  outbox : Outbox GameEvent

/-- A machine on which the service can run. A file that is open there is a `φ`. -/
structure Host (m : Type → Type) (φ : Type) where
  /-- The settings of the environment. -/
  environment : m EnvFile.Settings
  readFile : (path : String) → m (Except FileError (List UInt8))
  openForAppend : (path : String) → m (Except FileError φ)
  /-- Write to standard output. -/
  print : String → m Unit
  /-- Write to standard error. -/
  printError : String → m Unit
  /-- Put an entry into the log. -/
  log : String → m Unit
  /-- Answer the requests on standard input until they end. -/
  handle : Job φ → m (Except ServeError Nat)
  report : ConfigReport

namespace Host

variable {m : Type → Type} [Monad m] {φ : Type} (h : Host m φ)

/-- The settings in force: the environment, then those of the file `.env`. -/
def settings : m (Except EnvFile.UnfitValue EnvFile.Settings) := do
  let environment ← h.environment
  match ← h.readFile ".env" with
  | .error _ => pure (.ok environment)
  | .ok bytes =>
    match String.fromUTF8? ⟨bytes.toArray⟩ with
    | none => pure (.ok environment)
    | some text => pure (EnvFile.read environment text)

/-- Open the event target. -/
def openTarget : EventTarget → m (Except ServiceError (OpenTarget φ))
  | .log => pure (.ok .log)
  | .stderr => pure (.ok .stderr)
  | .file path => do
    let opened ← h.openForAppend path
    pure ((opened.map .file).mapError (.eventFile path))

/-- End with a failure. -/
def fail (exitCode : Nat) (reason : String) : m Nat := do
  h.printError s!"{reason}\n"
  pure exitCode

/-- Break down. The reason stands behind a line break. -/
def breakDown (reason : String) : m Nat := h.fail 101 s!"\n{reason}"

/-- Say under which log filter the service begins, and for which topic. -/
def announce (topic : String) (filter : LogFilter) (notices : List String) : m Unit := do
  h.printError (String.join notices)
  if filter.admits .info then
    h.log s!"INFO Starting tic-tac-toe service topic={topic}"

/-- Answer the requests, with an event target that is open. The result is the exit code, here and
below. -/
def answer (config : ServiceConfig) (filter : LogFilter) (target : OpenTarget φ) : m Nat := do
  match Outbox.new config.outbox.capacity.toNat config.outbox.retryPolicy with
  | .error e => h.breakDown e.message
  | .ok outbox =>
    match ← h.handle ⟨config.topic, filter, target, outbox⟩ with
    | .error e => h.fail 1 (ServiceError.requestLoop e).message
    | .ok _ => pure 0

/-- Serve requests under a configuration. -/
def serve (settings : EnvFile.Settings) (config : ServiceConfig) : m Nat := do
  let (filter, notices) := config.filter settings
  h.announce config.topic filter notices
  match ← h.openTarget config.events with
  | .error e => h.fail 1 e.message
  | .ok target => h.answer config filter target

/-- Obey the command line. -/
def obey (settings : EnvFile.Settings) (arguments : List String) : m Nat := do
  match Command.parse arguments with
  | .error e => h.fail 2 s!"error: {e.message}"
  | .ok .help =>
    h.print Command.helpText
    pure 0
  | .ok .version =>
    h.print Command.versionText
    pure 0
  | .ok (.run options) =>
    let contents? ← options.config?.mapM h.readFile
    match options.resolve h.report contents? with
    | .error e => h.fail 1 (ServiceError.config e).message
    | .ok config => h.serve settings config

/-- Run the service. -/
def run (arguments : List String) : m Nat := do
  match ← h.settings with
  | .error e => h.breakDown e.message
  | .ok settings => h.obey settings arguments

end Host

/-- The request loop of a running service, and the dispatcher beside it. -/
structure Desk (m : Type → Type) where
  /-- Answer every request. -/
  requests : m (Except ServeError Nat × Registry)
  /-- Wait until the dispatcher is done. -/
  finish : m Unit
  /-- Let the dispatcher get as far as it may before it is abandoned. -/
  abandon : m Unit

/-- Answer the requests. When the input ends, the dispatcher works until it is done; when the loop
fails, the dispatcher is abandoned. -/
def Desk.handle {m : Type → Type} [Monad m] (d : Desk m) : m (Except ServeError Nat) := do
  let (result, _) ← d.requests
  match result with
  | .ok handled =>
    d.finish
    pure (.ok handled)
  | .error e =>
    d.abandon
    pure (.error e)

/-! ## A machine on which nothing is left open -/

/-- What happens beside the request loop. -/
structure Schedule where
  /-- How many steps the dispatcher makes each time before an event is offered to the outbox, before
  a response is written, and before the service ends because the loop failed. Once the list is used
  up it always works until it has nothing to do. -/
  pace : List Nat
  /-- What the event target answers; once the list is used up it accepts everything. -/
  answers : List Answer
  /-- What standard output says to a line, by the number of lines that it took before. -/
  output : Nat → Except String Unit

/-- Everything a run of the service depends on. -/
structure Launch where
  arguments : List String
  /-- The environment. -/
  environment : EnvFile.Settings
  disk : Disk
  /-- The bytes on standard input. -/
  input : List UInt8
  /-- What each look at the clock reads. -/
  clock : Nat → Clock
  /-- The identifiers for new sessions. -/
  freshId : Nat → SessionId
  schedule : Schedule
  /-- Where in the program the outbox notices what it reports. -/
  sites : Sites
  /-- What is said about a line that is no request. -/
  describe : (line : String) → Fault → String
  /-- How a failure to get a configuration is reported. -/
  report : ConfigReport

/-- What a run of the service leaves behind. -/
structure Traces where
  /-- The lines on standard output. -/
  output : List String
  /-- What is on standard error beside the log. -/
  errorText : String
  /-- Whether anything was logged. -/
  isLogged : Bool
  disk : Disk

/-- A run of the service that has ended. -/
structure Report extends Traces where
  exitCode : Nat

/-- The state of a running service. -/
structure Running where
  /-- How many looks were taken at the clock. -/
  looks : Nat
  /-- How many identifiers were made. -/
  made : Nat
  outbox : Outbox GameEvent
  /-- The events that the target accepted. -/
  delivered : List GameEvent
  output : List String
  schedule : Schedule

namespace Running

/-- The dispatcher. Each attempt uses up an answer. -/
def dispatcher : Dispatcher (StateM Running) GameEvent where
  update change := fun s =>
    let outbox := change s.outbox
    (outbox, { s with outbox := outbox })
  deliver event := fun s =>
    let answer := s.schedule.answers.headD .accept
    (answer, { s with
      delivered := if answer = .accept then s.delivered ++ [event] else s.delivered
      schedule := { s.schedule with answers := s.schedule.answers.tail } })

/-- One step of the dispatcher. -/
def step (s : Running) : Running := (dispatcher.step s).2

/-- So many steps of the dispatcher. -/
def steps : (count : Nat) → Running → Running
  | 0, s => s
  | count + 1, s => steps count s.step

/-- Let the dispatcher work until it has nothing to do. Each step uses up an answer, or takes an
event out of the queue, or delivers one. -/
def drain (s : Running) : Running :=
  steps (s.schedule.answers.length + 2 * (s.outbox.queue.length + 1)) s

/-- Let the dispatcher work as far as the schedule says. -/
def proceed (s : Running) : Running :=
  match s.schedule.pace with
  | [] => s.drain
  | count :: rest => steps count { s with schedule := { s.schedule with pace := rest } }

/-- Offer an event to the outbox. -/
def publish (sites : Sites) : Publisher (StateM Running) := fun event s =>
  let s := s.proceed
  let (result, outbox) := Outbox.publisher sites event s.outbox
  (result, { s with outbox := outbox })

/-- What the request loop needs. -/
def surroundings (launch : Launch) : Surroundings (StateM Running) where
  clock := fun s => (launch.clock s.looks, { s with looks := s.looks + 1 })
  freshId := fun s => (launch.freshId s.made, { s with made := s.made + 1 })
  publish := publish launch.sites
  describe := launch.describe

/-- Write a line to standard output, if that takes it. -/
def write (line : String) : StateM Running (Except String Unit) := fun s =>
  let s := s.proceed
  match s.schedule.output s.output.length with
  | .error reason => (.error reason, s)
  | .ok () => (.ok (), { s with output := s.output ++ [line] })

end Running

namespace Launch

/-- The request loop and the dispatcher. -/
def desk (l : Launch) : Desk (StateM Running) where
  requests := Registry.empty.serve (Running.surroundings l) Running.write l.input
  finish := fun s => ((), s.drain)
  abandon := fun s => ((), s.proceed)

/-- The state in which the requests begin. -/
def initial (l : Launch) (outbox : Outbox GameEvent) : Running :=
  ⟨0, 0, outbox, [], [], l.schedule⟩

/-- Answer the requests, with an outbox for the events. -/
def handle (l : Launch) (outbox : Outbox GameEvent) : Except ServeError Nat × Running :=
  l.desk.handle (l.initial outbox)

/-- Leave the lines of the responses, the delivered events and the warnings behind. -/
def leave (t : Traces) (job : Job (List String × List UInt8)) (s : Running) : Traces :=
  let journal := String.join (s.delivered.map fun event => event.journalLine job.topic)
  let isWarned := s.output.any fun line => line.startsWith "\x7b\"status\":\"error\""
  let t := { t with
    output := t.output ++ s.output
    isLogged := t.isLogged || (isWarned && job.filter.admits .warn) }
  match job.target with
  | .log => t
  | .stderr => { t with errorText := t.errorText ++ journal }
  | .file (path, held) => { t with disk := t.disk.put path (held ++ utf8Bytes journal) }

/-- The machine. An open file is known by its path and what it held before. -/
def host (l : Launch) : Host (StateM Traces) (List String × List UInt8) where
  environment := pure l.environment
  readFile path := fun t => (t.disk.read path, t)
  openForAppend path := fun t =>
    match t.disk.openForAppend path with
    | .error e => (.error e, t)
    | .ok (file, held) => (.ok (file, held), { t with disk := t.disk.put file held })
  print text := fun t => ((), { t with output := t.output ++ [text] })
  printError text := fun t => ((), { t with errorText := t.errorText ++ text })
  log _ := fun t => ((), { t with isLogged := true })
  handle job := fun t =>
    let (result, s) := l.handle job.outbox
    (result, leave t job s)
  report := l.report

/-- What there is before the service runs. -/
def before (l : Launch) : Traces where
  output := []
  errorText := ""
  isLogged := false
  disk := l.disk

/-- Run the service. -/
def run (l : Launch) : Report :=
  let (exitCode, traces) := l.host.run l.arguments l.before
  { toTraces := traces, exitCode := exitCode }

end Launch

end Noughts
