import Noughts.Service.Program
import Std.Time

/-!
# The service on standard input and output

The outer layer: the machine on which the service really runs. It reads lines, files, the clock and
the environment, and writes what the library answers. The dispatcher of the outbox runs as a task of
its own beside the request loop; each of its steps is `Dispatcher.step`. Standard input is read and
served line by line, which amounts to serving it as a whole: `Registry.serve_line_by_line`.
-/

namespace Noughts.Console

/-- The reason behind a failure of the file system. Its number has either sign. -/
def fileError (e : IO.Error) : FileError :=
  let isNumber (code number : UInt32) : Bool := code == number || code == 0 - number
  match e with
  | .noFileOrDirectory _ _ _ => .notFound
  | .inappropriateType _ code _ => if isNumber code 20 then .notADirectory else .isADirectory
  | .invalidArgument _ code _ => if isNumber code 36 then .nameTooLong else .nulInPath
  | failure => .other (toString failure)

/-- Run an action, and give the reason of its failure as a value. -/
def attempt (action : IO α) : IO (Except IO.Error α) := do
  try
    return .ok (← action)
  catch e =>
    return .error e

/-- Run an action, and give the reason of its failure in words. -/
def attemptInWords (action : IO Unit) : IO (Except String Unit) :=
  return (← attempt action).mapError toString

/-- The time in nanoseconds since the beginning of 1970. -/
def unixNanos : IO Int64 := do
  let now ← Std.Time.Timestamp.now
  return Int64.ofInt now.toNanosecondsSinceUnixEpoch.val

/-- A random identifier. -/
def randomId : IO SessionId := do
  let bytes ← IO.getRandomBytes 16
  return .ofRandom (BitVec.ofNat 128 (bytes.data.foldl (fun n b => 256 * n + b.toNat) 0))

/-- Where in this program faults of publishing are noticed. -/
def sites : Sites
  | .writing _ => ⟨"Noughts/Journal.lean", 29⟩
  | .flushing _ => ⟨"Noughts/Journal.lean", 32⟩
  | _ => ⟨"Noughts/Outbox.lean", 92⟩

/-- What is said about a line that is no request. -/
def describe (_ : String) : Fault → String
  | .malformed => "not well formed"
  | .missingField name => s!"missing field {name}"
  | .duplicateField name => s!"duplicate field {name}"
  | .unknownVariant name => s!"unknown variant {name}"
  | .invalidLength length => s!"invalid length {length}"
  | .invalidType => "invalid type"
  | .invalidValue => "invalid value"

/-- A journal at the end of a stream. -/
def streamWriter (stream : IO.FS.Stream) : Writer IO where
  write bytes := attemptInWords (stream.write ⟨bytes.toArray⟩)
  flush := attemptInWords stream.flush

/-- A journal at the end of a file. -/
def fileWriter (file : IO.FS.Handle) : Writer IO where
  write bytes := attemptInWords (file.write ⟨bytes.toArray⟩)
  flush := attemptInWords file.flush

/-- A publisher that puts each event into the log. -/
def logPublisher (filter : LogFilter) (topic : String) : Publisher IO := fun event => do
  if filter.admits .info then
    let entry := event.logEntry topic
    let fields := s!"kind={entry.kind.label} bytes={entry.bytes} payload={entry.payload}"
    IO.eprintln s!"{entry.level} {entry.message} {fields}"
  return .ok ()

/-- The publisher onto the target of a job. -/
def downstream (job : Job IO.FS.Handle) : IO (Publisher IO) := do
  match job.target with
  | .log => return logPublisher job.filter job.topic
  | .stderr => return (streamWriter (← IO.getStderr)).publisher sites job.topic
  | .file file => return (fileWriter file).publisher sites job.topic

/-- The dispatcher of an outbox that it shares with the request loop. -/
def dispatcher (outbox : IO.Ref (Outbox GameEvent)) (downstream : Publisher IO) :
    Dispatcher IO GameEvent where
  update change := outbox.modifyGet fun o =>
    let o := change o
    (o, o)
  deliver event := do
    match ← downstream event with
    | .ok () => return .accept
    | .error _ => return .fail

/-- Make the steps of a dispatcher, with a pause after each failed attempt, for as long as there are
events or any may come, unless it is abandoned. -/
partial def dispatch (d : Dispatcher IO GameEvent) (isClosed : IO.Ref Bool) : IO Unit := do
  if ← IO.checkCanceled then return
  let closed ← isClosed.get
  let outbox ← d.step
  match outbox.inFlight with
  | none =>
    unless closed && outbox.isIdle do
      if outbox.isIdle then IO.sleep 1
      dispatch d isClosed
  | some flight =>
    if flight.failures ≠ 0 then
      IO.sleep (UInt32.ofNat (min outbox.pause.millisUp (UInt32.size - 1)))
    dispatch d isClosed

/-- The next line of a stream with its line feed; empty at the end. -/
partial def readLine (stream : IO.FS.Stream) (read : List UInt8) : IO (List UInt8) := do
  match (← stream.read 1).data.toList with
  | b :: _ => if b = 0x0a then return (b :: read).reverse else readLine stream (b :: read)
  | [] => return read.reverse

/-- Answer the lines of a stream, `handled` having been answered before. -/
partial def serve (env : Surroundings IO) (write : String → IO (Except String Unit))
    (stream : IO.FS.Stream) (handled : Nat) (registry : Registry) :
    IO (Except ServeError Nat × Registry) := do
  let line ← readLine stream []
  if line.isEmpty then
    return (.ok handled, registry)
  else
    match ← registry.serveLines env write handled (inputLines line) with
    | (.error e, registry) => return (.error e, registry)
    | (.ok handled, registry) => serve env write stream handled registry

/-- The request loop on standard input and output, with a dispatcher that is at work. -/
def desk (job : Job IO.FS.Handle) : IO (Desk IO) := do
  let outbox ← IO.mkRef job.outbox
  let isClosed ← IO.mkRef false
  let task ← IO.asTask (dispatch (dispatcher outbox (← downstream job)) isClosed) .dedicated
  let env : Surroundings IO := {
    clock := do return ⟨← unixNanos, ← unixNanos⟩
    freshId := randomId
    publish := fun event => outbox.modifyGet fun o => Outbox.publisher sites event o
    describe := describe }
  let out ← IO.getStdout
  let write (line : String) : IO (Except String Unit) :=
    attemptInWords (do out.putStr line; out.flush)
  return {
    requests := do serve env write (← IO.getStdin) 0 .empty
    finish := do
      isClosed.set true
      let _ ← IO.wait task
    abandon := IO.cancel task }

/-- The machine. -/
def host : Host IO IO.FS.Handle where
  environment := do
    match ← IO.getEnv filterSetting with
    | some filter => return [(filterSetting, filter)]
    | none => return []
  readFile path := do
    let bytes ← attempt (IO.FS.readBinFile path)
    return (bytes.map fun bytes => bytes.data.toList).mapError fileError
  openForAppend path := do
    return (← attempt (IO.FS.Handle.mk path .append)).mapError fileError
  print := IO.print
  printError := IO.eprint
  log := IO.eprintln
  handle job := do (← desk job).handle
  report := {
    sites := fun
      | .unreadable _ => ⟨"Noughts/Config.lean", 171⟩
      | .unparsable _ => ⟨"Noughts/Config.lean", 159⟩
    detail := fun _ => "not a configuration" }

end Noughts.Console

/-- Run the service on standard input and output. -/
def main (arguments : List String) : IO UInt32 := do
  return (← Noughts.Console.host.run arguments).toUInt32
