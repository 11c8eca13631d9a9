import Noughts.Service.Request
import Noughts.Text.Blank

/-!
# The request loop

Requests are answered one line at a time, in order. A line that is no request gets an error
response and changes nothing; a blank line gets none. The loop ends when the input does, when a
line is not UTF-8, or when a response cannot be written.

What the loop needs from outside it gets as `Surroundings`, in an arbitrary monad.
-/

namespace Noughts

/-- What requests need beside the registry: the clock, identifiers for new sessions, somebody who
takes the events, and words for what is wrong with a line. -/
structure Surroundings (m : Type → Type) where
  clock : m Clock
  freshId : m SessionId
  publish : Publisher m
  /-- What is said about a line that is no request. -/
  describe : (line : String) → Fault → String

variable {m : Type → Type} [Monad m]

/-- When an event is made that is made now. -/
def Surroundings.now (env : Surroundings m) : m Int64 := do
  let clock ← env.clock
  pure clock.reportedAt

namespace Registry

/-- Answer one request. -/
def dispatch (env : Surroundings m) (r : Registry) : Request → m (Response × Registry)
  | .createSession playerIds => do
    match ← r.createSession env.publish env.freshId env.now playerIds with
    | (.ok c, r) => pure (.created c.sessionId c.nextPlayer c.moveId c.validMoves, r)
    | (.error e, r) => pure (.ofError e, r)
  | .applyTurn sessionId playerId moveId x y => do
    let clock ← env.clock
    match ← r.applyTurn env.publish clock ⟨sessionId, playerId, moveId, x, y⟩ with
    | (.ok reply, r) => pure (.ofReply reply, r)
    | (.error e, r) => pure (.ofError e, r)
  | .getSession id =>
    match r.find? id with
    | some session => pure (.session session session.grid.render, r)
    | none => pure (.ofError (.sessionNotFound id), r)

/-- Answer one line. -/
def handleLine (env : Surroundings m) (r : Registry) (line : String) : m (Response × Registry) :=
  match ofWireText (α := Request) line with
  | .ok request => r.dispatch env request
  | .error fault => pure (.error s!"Malformed request: {env.describe line fault}", r)

end Registry

/-- The lines of an input. A line ends with a line feed, and a carriage return right before it is
dropped; what follows the last line feed is a line of its own unless it is empty. -/
def inputLines : List UInt8 → List (List UInt8) := collect []
where
  /-- The lines, given what was read of the first one, newest byte first. -/
  collect (read : List UInt8) : List UInt8 → List (List UInt8)
    | [] => if read.isEmpty then [] else [read.reverse]
    | b :: rest =>
      if b = 0x0a then
        let line := match read with
          | 0x0d :: before => before
          | _ => read
        line.reverse :: collect [] rest
      else
        collect (b :: read) rest

/-- Why the loop ended before the input did. -/
inductive ServeError where
  /-- A line is not UTF-8. -/
  | invalidUtf8
  /-- A response could not be written. -/
  | write (reason : String)
deriving DecidableEq, Repr

/-- The wording of the reason. -/
def ServeError.message : ServeError → String
  | invalidUtf8 => "invalid UTF-8"
  | write reason => reason

namespace Registry

/-- Answer the lines one after the other, `handled` having been answered before. The result is the
number of lines answered, or the reason to stop; the registry is the one left behind. -/
def serveLines (env : Surroundings m) (write : String → m (Except String Unit)) :
    (handled : Nat) → Registry → List (List UInt8) → m (Except ServeError Nat × Registry)
  | handled, r, [] => pure (.ok handled, r)
  | handled, r, line :: rest => do
    match String.fromUTF8? ⟨line.toArray⟩ with
    | none => pure (.error .invalidUtf8, r)
    | some line =>
      if Text.isBlankText line then
        serveLines env write handled r rest
      else
        let (response, r) ← r.handleLine env line
        match ← write (wireText response ++ "\n") with
        | .error reason => pure (.error (.write reason), r)
        | .ok () => serveLines env write (handled + 1) r rest

/-- Answer every line of an input. -/
def serve (env : Surroundings m) (write : String → m (Except String Unit)) (r : Registry)
    (input : List UInt8) : m (Except ServeError Nat × Registry) :=
  r.serveLines env write 0 (inputLines input)

end Registry

end Noughts
