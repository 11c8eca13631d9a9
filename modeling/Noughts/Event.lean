import Noughts.Session
import Noughts.Text.Located

/-!
# Game events

An event reports one accepted transition of one session: that it was created, or that a turn was
played. An event of a game in progress carries the free cells, and one that ends a game carries the
result in their place.
-/

namespace Noughts

/-- What an event reports. -/
inductive EventKind where
  | sessionCreated
  | turnPlayed
deriving DecidableEq, Repr

/-- The name of a kind of event, shown to people and written on the wire alike. -/
def EventKind.label : EventKind → String
  | sessionCreated => "SESSION_CREATED"
  | turnPlayed => "TURN_PLAYED"

/-- Whether the game goes on after a turn. -/
inductive TurnStatus where
  | success
  | finished
deriving DecidableEq, Repr

/-- The cell that a move was made to. -/
structure Coordinates where
  x : UInt64
  y : UInt64
deriving DecidableEq, Repr

/-- One transition as it is published. -/
structure GameEvent where
  kind : EventKind
  /-- When the event was made, in nanoseconds of Unix time. -/
  timestamp : Int64
  sessionId : SessionId
  /-- Who made the move; for a creation, who moves first. -/
  playerId : PlayerId
  /-- Both players in turn order. -/
  players : List PlayerId
  move : Option Coordinates
  turnStatus : Option TurnStatus
  /-- The identifier that the next move has to carry. -/
  moveId : Option MoveId
  /-- Who moves next; nobody once the game is over. -/
  nextPlayer : Option PlayerId
  /-- The free cells, while the game goes on. -/
  validMoves : Option (List MoveRange)
  /-- The result, once the game is over. -/
  outcome : Option WinnerRecord
deriving DecidableEq, Repr

namespace GameEvent

/-- The event for a new session. -/
def created (s : Session) (now : Int64) : GameEvent where
  kind := .sessionCreated
  timestamp := now
  sessionId := s.id
  playerId := s.players.first
  players := s.players.toList
  move := none
  turnStatus := none
  moveId := some s.expectedMoveId
  nextPlayer := s.activePlayer?
  validMoves := some s.validMoves
  outcome := none

/-- The event for a move that `player` made to `(x, y)`; `s` is the session after the move. -/
def played (s : Session) (player : PlayerId) (x y : UInt64) (now : Int64) : GameEvent where
  kind := .turnPlayed
  timestamp := now
  sessionId := s.id
  playerId := player
  players := s.players.toList
  move := some ⟨x, y⟩
  turnStatus := some (if s.isFinished then .finished else .success)
  moveId := some s.expectedMoveId
  nextPlayer := s.activePlayer?
  validMoves := if s.isFinished then none else some s.validMoves
  outcome := s.outcome.map Outcome.record

/-- The key by which the stream is divided: the session. -/
def key (e : GameEvent) : String := e.sessionId.text

end GameEvent

/-- The topic under which events are published unless another one is chosen. -/
def defaultTopic : String := "tictactoe-game-events"

/-- An event addressed to a topic. -/
structure EventEnvelope where
  topic : String
  key : String
  event : GameEvent
deriving DecidableEq, Repr

/-- Address an event to a topic, under its session as the key. -/
def GameEvent.sealed (e : GameEvent) (topic : String) : EventEnvelope := ⟨topic, e.key, e⟩

/-- A place in the text of the program. -/
structure Location where
  file : String
  line : UInt32
deriving DecidableEq, Repr

/-- The wording of a place. -/
def Location.text (l : Location) : String := s!"{l.file}:{l.line.toNat}"

/-- Why an event could not be handed on. -/
inductive PublishFault where
  /-- The receiver gave a reason of its own. -/
  | refused (reason : String)
  /-- The event could not be put into text. -/
  | encoding (reason : Text.Located)
  /-- The text of the event could not be written. -/
  | writing (reason : String)
  /-- The text of the event was written, but could not be flushed. -/
  | flushing (reason : String)
  /-- The outbox is stuck on an event that its downstream keeps refusing. -/
  | stalled
  /-- The outbox holds as many events as it may. -/
  | queueFull
  /-- Nobody empties the outbox any more. -/
  | dispatcherStopped
deriving DecidableEq, Repr

/-- The wording of the reason. -/
def PublishFault.reason : PublishFault → String
  | refused reason => reason
  | encoding reason => s!"Encoding event: {reason.text}"
  | writing reason | flushing reason => s!"Writing event: {reason}"
  | stalled => "Outbox stalled, downstream is not accepting events"
  | queueFull => "Outbox queue is full"
  | dispatcherStopped => "Outbox dispatcher has stopped"

/-- Where in the program each fault is noticed. -/
abbrev Sites := PublishFault → Location

/-- The failure to hand an event on: why, and where this was noticed. -/
structure PublishError where
  fault : PublishFault
  location : Location
deriving DecidableEq, Repr

namespace PublishError

/-- The failure that reports a fault. -/
def noticed (sites : Sites) (fault : PublishFault) : PublishError := ⟨fault, sites fault⟩

/-- The wording of the failure. -/
def message (e : PublishError) : String :=
  s!"Publish error: {e.fault.reason} at {e.location.text}"

end PublishError

end Noughts
