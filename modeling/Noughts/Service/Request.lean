import Noughts.Wire.Registry

/-!
# Requests and responses

A client sends one request per line and gets one response per line. Both have forms of their own on
the wire. A request for a turn has the fields of a submitted move, and a response the fields of the
registry's reply, under a tag.
-/

namespace Noughts

/-- What a client may ask for. -/
inductive Request where
  | createSession (playerIds : List PlayerId)
  | applyTurn (sessionId : SessionId) (playerId : PlayerId) (moveId : MoveId) (x y : UInt64)
  | getSession (sessionId : SessionId)
deriving DecidableEq, Repr

/-- What a client is told. -/
inductive Response where
  /-- The session is there. -/
  | created (sessionId : SessionId) (nextPlayer : PlayerId) (moveId : MoveId)
      (validMoves : List MoveRange)
  /-- The move was made and the game goes on. -/
  | accepted (moveId : MoveId) (nextPlayer : PlayerId) (validMoves : List MoveRange)
  /-- The game is over. -/
  | finished (outcome : Outcome)
  | invalidMove
  | notActivePlayer
  | invalidMoveId
  /-- The state of a session, and its grid drawn as text. -/
  | session (session : Session) (board : String)
  /-- The request failed. -/
  | error (message : String)
deriving DecidableEq, Repr

namespace Response

/-- The answer to a submitted move as a response. -/
def ofReply : TurnReply → Response
  | .accepted moveId nextPlayer validMoves => accepted moveId nextPlayer validMoves
  | .finished outcome => finished outcome
  | .invalidMove => invalidMove
  | .notActivePlayer => notActivePlayer
  | .invalidMoveId => invalidMoveId

/-- A failed operation as a response. -/
def ofError (e : RegistryError) : Response := error e.message

end Response

/-- The written form of a request. -/
instance : WireWritable Request where
  toJson
    | .createSession playerIds => .record [
        ("op", .text "create_session"), ("player_ids", .ofList toJson playerIds)]
    | .applyTurn sessionId playerId moveId x y => .record [
        ("op", .text "apply_turn"), ("session_id", toJson sessionId),
        ("player_id", toJson playerId), ("move_id", toJson moveId), ("x", toJson x),
        ("y", toJson y)]
    | .getSession sessionId => .record [
        ("op", .text "get_session"), ("session_id", toJson sessionId)]

namespace Request

/-- The fields of a request to create a session. -/
def createFields : Fields [List PlayerId] :=
  .cons "player_ids" (.list WireReadable.reader) none .nil

/-- The fields of a request for a turn. -/
def turnFields : Fields [SessionId, PlayerId, MoveId, UInt64, UInt64] :=
  .cons "session_id" WireReadable.reader none <| .cons "player_id" WireReadable.reader none <|
  .cons "move_id" WireReadable.reader none <| .cons "x" .natural none <|
  .cons "y" .natural none .nil

/-- The fields of a request for a session. -/
def getFields : Fields [SessionId] := .cons "session_id" WireReadable.reader none .nil

end Request

/-- The reader of a request. -/
instance : WireReadable Request where
  reader := .tagged "op" [
    ("create_session", Request.createFields.reader.map fun (playerIds, ()) =>
      .createSession playerIds),
    ("apply_turn", Request.turnFields.reader.map fun (sessionId, playerId, moveId, x, y, ()) =>
      .applyTurn sessionId playerId moveId x y),
    ("get_session", Request.getFields.reader.map fun (sessionId, ()) => .getSession sessionId)]

/-- The written form of a response, which is only ever written. -/
instance : WireWritable Response where
  toJson
    | .created sessionId nextPlayer moveId validMoves => .record [
        ("status", .text "created"), ("session_id", toJson sessionId),
        ("next_player", toJson nextPlayer), ("move_id", toJson moveId),
        ("valid_moves", .ofList toJson validMoves)]
    | .accepted moveId nextPlayer validMoves => .record [
        ("status", .text "accepted"), ("move_id", toJson moveId),
        ("next_player", toJson nextPlayer), ("valid_moves", .ofList toJson validMoves)]
    | .finished outcome => .record [("status", .text "finished"), ("outcome", toJson outcome)]
    | .invalidMove => .record [("status", .text "invalid_move")]
    | .notActivePlayer => .record [("status", .text "not_active_player")]
    | .invalidMoveId => .record [("status", .text "invalid_move_id")]
    | .session session board => .record [
        ("status", .text "session"), ("session", toJson session), ("board", .text board)]
    | .error message => .record [("status", .text "error"), ("message", .text message)]

end Noughts
