import Noughts.Disk
import Noughts.Json.Reader
import Noughts.Outbox
import Noughts.Toml.Document

/-!
# The configuration of the service

A configuration says under which topic events are published, where they go, how the outbox behaves,
and what is logged unless the environment says otherwise. Everything has a default. A configuration
is read from a text, or from the bytes of a file, and single settings can be replaced afterwards.
-/

namespace Noughts

/-- Where events go. -/
inductive EventTarget where
  /-- Into the log. -/
  | log
  /-- Onto standard error, one line each. -/
  | stderr
  /-- To the end of a file, one line each. -/
  | file (path : String)
deriving DecidableEq, Repr

/-- The settings of the outbox. -/
structure OutboxConfig where
  capacity : UInt64
  maxAttempts : UInt32
  backoffMs : UInt64
  maxBackoffMs : UInt64
deriving DecidableEq, Repr

namespace OutboxConfig

/-- The settings unless others are chosen. -/
def standard : OutboxConfig := ⟨Outbox.standardCapacity, 5, 200, 5000⟩

/-- The settings as a policy of the dispatcher. -/
def retryPolicy (c : OutboxConfig) : RetryPolicy :=
  ⟨c.maxAttempts, .ofMillis c.backoffMs, .ofMillis c.maxBackoffMs⟩

end OutboxConfig

/-- The settings of the service. -/
structure ServiceConfig where
  topic : String
  /-- What is logged unless the environment says otherwise. -/
  logFilter : String
  events : EventTarget
  outbox : OutboxConfig
deriving DecidableEq, Repr

/-- The settings unless others are chosen. -/
def ServiceConfig.standard : ServiceConfig := ⟨defaultTopic, "info", .log, .standard⟩

/-- The written form of an event target. -/
instance : WireWritable EventTarget where
  toJson
    | .log => .record [("kind", .text "log")]
    | .stderr => .record [("kind", .text "stderr")]
    | .file path => .record [("kind", .text "file"), ("path", .text path)]

namespace EventTarget

/-- The fields of a file as a target. -/
def fileFields : Fields [String] := .cons "path" .text none .nil

end EventTarget

/-- The reader of an event target. -/
instance : WireReadable EventTarget where
  reader := .tagged "kind" [
    ("log", .tagAlone .log), ("stderr", .tagAlone .stderr),
    ("file", EventTarget.fileFields.reader.map fun (path, ()) => .file path)]

/-- The written form of the settings of the outbox. -/
instance : WireWritable OutboxConfig where
  toJson c := .record [
    ("capacity", .natural c.capacity), ("max_attempts", .natural c.maxAttempts.toUInt64),
    ("backoff_ms", .natural c.backoffMs), ("max_backoff_ms", .natural c.maxBackoffMs)]

namespace OutboxConfig

/-- The fields of the settings of the outbox; each may be missing. -/
def fields : Fields [UInt64, UInt32, UInt64, UInt64] :=
  .cons "capacity" .natural (some standard.capacity) <|
  .cons "max_attempts" .natural32 (some standard.maxAttempts) <|
  .cons "backoff_ms" .natural (some standard.backoffMs) <|
  .cons "max_backoff_ms" .natural (some standard.maxBackoffMs) .nil

end OutboxConfig

/-- The reader of the settings of the outbox. -/
instance : WireReadable OutboxConfig where
  reader := OutboxConfig.fields.reader.map
    fun (capacity, maxAttempts, backoffMs, maxBackoffMs, ()) =>
    ⟨capacity, maxAttempts, backoffMs, maxBackoffMs⟩

/-- The written form of the settings of the service. -/
instance : WireWritable ServiceConfig where
  toJson c := .record [
    ("topic", .text c.topic), ("log_filter", .text c.logFilter), ("events", toJson c.events),
    ("outbox", toJson c.outbox)]

namespace ServiceConfig

/-- The fields of the settings of the service; each may be missing. -/
def fields : Fields [String, String, EventTarget, OutboxConfig] :=
  .cons "topic" .text (some standard.topic) <|
  .cons "log_filter" .text (some standard.logFilter) <|
  .cons "events" WireReadable.reader (some standard.events) <|
  .cons "outbox" WireReadable.reader (some standard.outbox) .nil

end ServiceConfig

/-- The reader of the settings of the service. -/
instance : WireReadable ServiceConfig where
  reader := ServiceConfig.fields.reader.map fun (topic, logFilter, events, outbox, ()) =>
    ⟨topic, logFilter, events, outbox⟩

/-- Why there is no configuration. -/
inductive ConfigFault where
  | unreadable (cause : FileError)
  /-- The text breaks the rules of its format, or a setting has a value that it cannot have. -/
  | unparsable (detail : String)
deriving DecidableEq, Repr

/-- The wording of the reason. -/
def ConfigFault.reason : ConfigFault → String
  | unreadable cause => s!"Failed to read config file: {cause.message}"
  | unparsable detail => s!"Failed to parse config: {detail}"

/-- The failure to get a configuration: why, and where this was noticed. -/
structure ConfigError where
  fault : ConfigFault
  location : Location
deriving DecidableEq, Repr

/-- The wording of the failure. -/
def ConfigError.message (e : ConfigError) : String :=
  s!"Config error: {e.fault.reason} at {e.location.text}"

/-- How a failure to get a configuration is reported. -/
structure ConfigReport where
  /-- Where in the program each fault is noticed. -/
  sites : ConfigFault → Location
  /-- What is said to be wrong with a text that is no configuration. -/
  detail : String → String

/-- The failure that reports a fault. -/
def ConfigReport.failure (report : ConfigReport) (fault : ConfigFault) : ConfigError :=
  ⟨fault, report.sites fault⟩

namespace ServiceConfig

/-- Read a configuration text. -/
def ofText (report : ConfigReport) (text : String) : Except ConfigError ServiceConfig :=
  let unparsable := report.failure (.unparsable (report.detail text))
  match Toml.read? text.toList with
  | none => .error unparsable
  | some node =>
    match WireReadable.reader (α := ServiceConfig) .table node with
    | .ok config => .ok config
    | .error _ => .error unparsable

/-- Read a configuration from the bytes of a file, or from the reason why there are none. -/
def ofFile (report : ConfigReport) (bytes : Except FileError (List UInt8)) :
    Except ConfigError ServiceConfig :=
  match bytes with
  | .error e => .error (report.failure (.unreadable e))
  | .ok bytes =>
    match String.fromUTF8? ⟨bytes.toArray⟩ with
    | none => .error (report.failure (.unreadable .invalidUtf8))
    | some text => ofText report text

end ServiceConfig

end Noughts
