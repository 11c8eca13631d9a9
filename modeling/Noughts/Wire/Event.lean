import Noughts.Event
import Noughts.Wire.Board

/-!
# The written forms of events

Fields of an event that have no value are left out, and a reader takes an absent field and a field
that is `null` as the same.
-/

namespace Noughts

/-- The written form of a kind of event. -/
instance : WireWritable EventKind where
  toJson k := .text k.label

/-- The reader of a kind of event. -/
instance : WireReadable EventKind where
  reader := .choice [("SESSION_CREATED", .sessionCreated), ("TURN_PLAYED", .turnPlayed)]

/-- The name of a turn status on the wire. -/
def TurnStatus.wireName : TurnStatus → String
  | success => "success"
  | finished => "finished"

/-- The written form of a turn status. -/
instance : WireWritable TurnStatus where
  toJson s := .text s.wireName

/-- The reader of a turn status. -/
instance : WireReadable TurnStatus where
  reader := .choice [("success", .success), ("finished", .finished)]

/-- The written form of a pair of coordinates. -/
instance : WireWritable Coordinates where
  toJson c := .record [("x", toJson c.x), ("y", toJson c.y)]

namespace Coordinates

/-- The fields of a pair of coordinates. -/
def fields : Fields [UInt64, UInt64] :=
  .cons "x" .natural none <| .cons "y" .natural none .nil

end Coordinates

/-- The reader of a pair of coordinates. -/
instance : WireReadable Coordinates where
  reader := Coordinates.fields.reader.map fun (x, y, ()) => ⟨x, y⟩

namespace GameEvent

/-- A member that is there only if it has a value. -/
def optionalMember (name : String) (f : α → Json) (a : Option α) : List (String × Json) :=
  (a.map fun a => (name, f a)).toList

/-- The members of a written event, in the order in which they are written. -/
def members (e : GameEvent) : List (String × Json) :=
  [("type", toJson e.kind), ("timestamp", .integer e.timestamp),
    ("session_id", toJson e.sessionId), ("player_id", toJson e.playerId),
    ("players", .ofList toJson e.players)]
  ++ optionalMember "move" toJson e.move
  ++ optionalMember "turn_status" toJson e.turnStatus
  ++ optionalMember "move_id" toJson e.moveId
  ++ optionalMember "next_player" toJson e.nextPlayer
  ++ optionalMember "valid_moves" (.ofList toJson) e.validMoves
  ++ optionalMember "outcome" toJson e.outcome

/-- A field that may be absent. -/
def optionalField (name : String) (reader : Reader α) (rest : Fields τs) :
    Fields (Option α :: τs) :=
  .cons name reader.option (some none) rest

/-- The fields of an event. -/
def fields : Fields [EventKind, Int64, SessionId, PlayerId, List PlayerId, Option Coordinates,
    Option TurnStatus, Option MoveId, Option PlayerId, Option (List MoveRange),
    Option WinnerRecord] :=
  .cons "type" WireReadable.reader none <|
  .cons "timestamp" .integer none <|
  .cons "session_id" WireReadable.reader none <|
  .cons "player_id" WireReadable.reader none <|
  .cons "players" (.list WireReadable.reader) none <|
  optionalField "move" WireReadable.reader <|
  optionalField "turn_status" WireReadable.reader <|
  optionalField "move_id" WireReadable.reader <|
  optionalField "next_player" WireReadable.reader <|
  optionalField "valid_moves" (.list WireReadable.reader) <|
  optionalField "outcome" WireReadable.reader .nil

end GameEvent

/-- The written form of an event. -/
instance : WireWritable GameEvent where
  toJson e := .record e.members

/-- The reader of an event. -/
instance : WireReadable GameEvent where
  reader := GameEvent.fields.reader.map
    fun (kind, timestamp, sessionId, playerId, players, move, turnStatus, moveId, nextPlayer,
        validMoves, outcome, ()) =>
      ⟨kind, timestamp, sessionId, playerId, players, move, turnStatus, moveId, nextPlayer,
        validMoves, outcome⟩

/-- The written form of an addressed event. -/
instance : WireWritable EventEnvelope where
  toJson e := .record [("topic", .text e.topic), ("key", .text e.key), ("event", toJson e.event)]

namespace EventEnvelope

/-- The fields of an addressed event. -/
def fields : Fields [String, String, GameEvent] :=
  .cons "topic" .text none <| .cons "key" .text none <|
  .cons "event" WireReadable.reader none .nil

end EventEnvelope

/-- The reader of an addressed event. -/
instance : WireReadable EventEnvelope where
  reader := EventEnvelope.fields.reader.map fun (topic, key, event, ()) => ⟨topic, key, event⟩

end Noughts
