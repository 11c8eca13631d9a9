import Noughts.Registry
import Noughts.Wire.Event

/-!
# The written forms of what the registry takes and gives

A session is only ever written: it is made by playing, not by reading.
-/

namespace Noughts

/-- The written form of a session. -/
instance : WireWritable Session where
  toJson s := .record [
    ("id", toJson s.id), ("grid", toJson s.grid), ("players", .ofList toJson s.players.toList),
    ("current_player_index", .natural (UInt64.ofNat s.current.val)),
    ("turn_count", .natural (UInt64.ofNat s.turnCount)),
    ("last_move_timestamp", .integer s.lastMoveAt), ("outcome", .orNull toJson s.outcome)]

namespace SessionCreated

/-- The members of a written creation. -/
def members (c : SessionCreated) : List (String × Json) :=
  [("session_id", toJson c.sessionId), ("next_player", toJson c.nextPlayer),
    ("move_id", toJson c.moveId), ("valid_moves", .ofList toJson c.validMoves)]

/-- The fields of a creation. -/
def fields : Fields [SessionId, PlayerId, MoveId, List MoveRange] :=
  .cons "session_id" WireReadable.reader none <| .cons "next_player" WireReadable.reader none <|
  .cons "move_id" WireReadable.reader none <|
  .cons "valid_moves" (.list WireReadable.reader) none .nil

end SessionCreated

/-- The written form of a creation. -/
instance : WireWritable SessionCreated where
  toJson c := .record c.members

/-- The reader of a creation. -/
instance : WireReadable SessionCreated where
  reader := SessionCreated.fields.reader.map
    fun (sessionId, nextPlayer, moveId, validMoves, ()) =>
      ⟨sessionId, nextPlayer, moveId, validMoves⟩

namespace TurnRequest

/-- The members of a written move. -/
def members (r : TurnRequest) : List (String × Json) :=
  [("session_id", toJson r.sessionId), ("player_id", toJson r.playerId),
    ("move_id", toJson r.moveId), ("x", toJson r.x), ("y", toJson r.y)]

/-- The fields of a submitted move. -/
def fields : Fields [SessionId, PlayerId, MoveId, UInt64, UInt64] :=
  .cons "session_id" WireReadable.reader none <| .cons "player_id" WireReadable.reader none <|
  .cons "move_id" WireReadable.reader none <| .cons "x" .natural none <|
  .cons "y" .natural none .nil

end TurnRequest

/-- The written form of a submitted move. -/
instance : WireWritable TurnRequest where
  toJson r := .record r.members

/-- The reader of a submitted move. -/
instance : WireReadable TurnRequest where
  reader := TurnRequest.fields.reader.map fun (sessionId, playerId, moveId, x, y, ()) =>
    ⟨sessionId, playerId, moveId, x, y⟩

namespace TurnReply

/-- The tag of a reply. -/
def status : TurnReply → String
  | accepted _ _ _ => "accepted"
  | finished _ => "finished"
  | invalidMove => "invalid_move"
  | notActivePlayer => "not_active_player"
  | invalidMoveId => "invalid_move_id"

/-- The members of a written reply behind its tag. -/
def members : TurnReply → List (String × Json)
  | accepted moveId nextPlayer validMoves =>
    [("move_id", toJson moveId), ("next_player", toJson nextPlayer),
      ("valid_moves", .ofList toJson validMoves)]
  | finished outcome => [("outcome", toJson outcome)]
  | invalidMove | notActivePlayer | invalidMoveId => []

/-- The fields of a reply to an accepted move. -/
def acceptedFields : Fields [MoveId, PlayerId, List MoveRange] :=
  .cons "move_id" WireReadable.reader none <| .cons "next_player" WireReadable.reader none <|
  .cons "valid_moves" (.list WireReadable.reader) none .nil

/-- The fields of a reply that ends the game. -/
def finishedFields : Fields [Outcome] := .cons "outcome" WireReadable.reader none .nil

end TurnReply

/-- The written form of a reply. -/
instance : WireWritable TurnReply where
  toJson r := .record (("status", .text r.status) :: r.members)

/-- The reader of a reply. -/
instance : WireReadable TurnReply where
  reader := .tagged "status" [
    ("accepted", TurnReply.acceptedFields.reader.map
      fun (moveId, nextPlayer, validMoves, ()) => .accepted moveId nextPlayer validMoves),
    ("finished", TurnReply.finishedFields.reader.map fun (outcome, ()) => .finished outcome),
    ("invalid_move", .tagAlone .invalidMove),
    ("not_active_player", .tagAlone .notActivePlayer),
    ("invalid_move_id", .tagAlone .invalidMoveId)]

end Noughts
