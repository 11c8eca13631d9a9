import Noughts.Wire.Registry

/-!
# The event journal

A journal writes each event as one line: the written form of its envelope and a line break. The
writer behind it may take only a part of a line before it fails, and flushing may fail as well; the
event then counts as not published, whatever part of the line is left behind.
-/

namespace Noughts

/-- Something that takes bytes. Both operations may fail for a reason. -/
structure Writer (m : Type → Type) where
  write : List UInt8 → m (Except String Unit)
  flush : m (Except String Unit)

/-- The bytes of a text in UTF-8. -/
def utf8Bytes (s : String) : List UInt8 := s.toUTF8.data.toList

/-- The line that a journal writes for an event. -/
def GameEvent.journalLine (e : GameEvent) (topic : String) : String :=
  wireText (e.sealed topic) ++ "\n"

/-- Write an event to a journal and flush it. -/
def Writer.publisher {m : Type → Type} [Monad m] (w : Writer m) (sites : Sites) (topic : String) :
    GameEvent → m (Except PublishError Unit) := fun event => do
  match ← w.write (utf8Bytes (event.journalLine topic)) with
  | .error reason => pure (.error (.noticed sites (.writing reason)))
  | .ok () =>
    match ← w.flush with
    | .error reason => pure (.error (.noticed sites (.flushing reason)))
    | .ok () => pure (.ok ())

/-- A writer that remembers what it took. It may have room for a limited number of bytes, and it
may refuse to be flushed. -/
structure Tape where
  written : List UInt8
  /-- How many more bytes it takes, if that is limited. -/
  room : Option Nat
  flushFails : Bool
deriving DecidableEq, Repr

namespace Tape

/-- A tape without limits that holds some bytes already. -/
def holding (bytes : List UInt8) : Tape := ⟨bytes, none, false⟩

/-- Take bytes for as long as there is room. -/
def write (t : Tape) (bytes : List UInt8) : Except String Unit × Tape :=
  match t.room with
  | none => (.ok (), { t with written := t.written ++ bytes })
  | some room =>
    let taken := bytes.take room
    (if bytes.length ≤ room then .ok () else .error "disk full",
      { t with written := t.written ++ taken, room := some (room - taken.length) })

/-- The writer onto a tape. -/
def writer : Writer (StateM Tape) where
  write bytes := fun t => t.write bytes
  flush := fun t => (if t.flushFails then .error "flush failed" else .ok (), t)

end Tape

/-- An entry of the log for a published event. -/
structure LogEntry where
  level : String
  message : String
  kind : EventKind
  /-- The length of the payload in UTF-8. -/
  bytes : Nat
  payload : String
deriving DecidableEq, Repr

/-- The log entry for an event. -/
def GameEvent.logEntry (e : GameEvent) (topic : String) : LogEntry :=
  let payload := wireText (e.sealed topic)
  { level := "INFO"
    message := "Event"
    kind := e.kind
    bytes := payload.utf8ByteSize
    payload := payload }

end Noughts
