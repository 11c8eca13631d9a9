import Noughts.Proofs.Registry.Run
import Noughts.Proofs.Wire.Messages
import Noughts.Service.Loop

/-!
# Requests in writing

A client that writes its request as a line gets the same as one that calls the registry: the line is
read as the request that was written, and dispatching it is the call. What the call results in is
read back from the response: `World.transport_transparent`.

Responses have forms of their own, so that the response to a turn is written like the registry's
reply has to be shown form by form: `Response.toJson_ofReply`. The response to a creation is written
like the creation behind a tag, and is read as one: `Response.reads_created`.

`Conditions` are what one request meets outside: a clock, an identifier for a new session, and a
publisher that accepts an event or does not.
-/

namespace Noughts

/-! ## Responses -/

/-- The status of a response, which a client can read without the rest. -/
structure Status where
  name : String
deriving DecidableEq, Repr

namespace Status

/-- The only field that matters for the status. -/
def fields : Fields [String] := .cons "status" .text none .nil

end Status

/-- The reader of a status. -/
instance : WireReadable Status where
  reader := Status.fields.reader.map fun (name, ()) => ⟨name⟩

namespace Response

/-- The result of a creation as a response. -/
def ofCreation : Except RegistryError SessionCreated → Response
  | .ok c => .created c.sessionId c.nextPlayer c.moveId c.validMoves
  | .error e => .ofError e

/-- The result of a turn as a response. -/
def ofTurn : Except RegistryError TurnReply → Response
  | .ok reply => .ofReply reply
  | .error e => .ofError e

/-- A reply has the same written form as the response that is made of it: the same tag, and the same
members in the same order. -/
theorem toJson_ofReply (reply : TurnReply) : toJson (ofReply reply) = toJson reply := by
  cases reply with
  | accepted moveId nextPlayer validMoves => rfl
  | finished outcome => rfl
  | invalidMove => rfl
  | notActivePlayer => rfl
  | invalidMoveId => rfl

/-- The text of the response to a turn is that of the reply. -/
theorem wireText_ofReply (reply : TurnReply) : wireText (ofReply reply) = wireText reply :=
  congrArg Json.render (toJson_ofReply reply)

section

variable (sessionId : SessionId) (nextPlayer : PlayerId) (moveId : MoveId)
  (validMoves : List MoveRange)

/-- The response to a creation nests no deeper than a list of ranges in a record. -/
theorem depth_created :
    (toJson (created sessionId nextPlayer moveId validMoves)).depth ≤ 3 := by
  have hmoves : (Json.ofList toJson validMoves).depth ≤ 2 := WireLawful.depth_ofList_le validMoves
  exact Json.depth_record_le (by simpa [toJson, Json.depth] using hmoves)

/-- The response to a creation is read as the creation; its tag is passed over. -/
theorem reads_created :
    (WireReadable.reader (α := SessionCreated)).Reads
      (toJson (created sessionId nextPlayer moveId validMoves))
      ⟨sessionId, nextPlayer, moveId, validMoves⟩ := by
  have hfields : Fields.Written ["status"] SessionCreated.fields
      (sessionId, nextPlayer, moveId, validMoves, ())
      [("status", .text "created"), ("session_id", toJson sessionId),
        ("next_player", toJson nextPlayer), ("move_id", toJson moveId),
        ("valid_moves", .ofList toJson validMoves)] :=
    .other List.mem_cons_self <| .present (WireLawful.reads sessionId) <|
      .present (WireLawful.reads nextPlayer) <| .present (WireLawful.reads moveId) <|
      .present (WireLawful.reads_ofList validMoves) .nil
  exact (hfields.reads (by decide) (by decide)).map _

/-- The response to a creation has the status that says so; its fields are passed over. -/
theorem reads_status_created :
    (WireReadable.reader (α := Status)).Reads
      (toJson (created sessionId nextPlayer moveId validMoves)) ⟨"created"⟩ := by
  have hfields : Fields.Written SessionCreated.fields.names Status.fields ("created", ())
      [("status", .text "created"), ("session_id", toJson sessionId),
        ("next_player", toJson nextPlayer), ("move_id", toJson moveId),
        ("valid_moves", .ofList toJson validMoves)] :=
    .present (Reader.reads_text "created") <| .other (by decide) <| .other (by decide) <|
      .other (by decide) <| .other (by decide) .nil
  exact (hfields.reads (by decide) (by decide)).map fun (name, ()) => Status.mk name

end

end Response

/-- The text carries the result of a creation: the creation itself under the status `created`, or
the wording of the failure. -/
def CarriesCreation (text : String) : Except RegistryError SessionCreated → Prop
  | .ok creation => ofWireText text = .ok (⟨"created"⟩ : Status) ∧ ofWireText text = .ok creation
  | .error e => text = wireText (Response.error e.message)

/-- The text carries the result of a turn: exactly what is written for the reply, which is read back
from it, or the wording of the failure. -/
def CarriesTurn (text : String) : Except RegistryError TurnReply → Prop
  | .ok reply => text = wireText reply ∧ ofWireText text = .ok reply
  | .error e => text = wireText (Response.error e.message)

/-- The response to a creation carries its result. -/
theorem Response.carries_ofCreation (result : Except RegistryError SessionCreated) :
    CarriesCreation (wireText (ofCreation result)) result := by
  cases result with
  | error e => rfl
  | ok c =>
      have hdepth := Nat.le_trans (depth_created c.sessionId c.nextPlayer c.moveId c.validMoves)
        (show 3 ≤ maxDepth by decide)
      exact ⟨ofWireText_render (reads_status_created _ _ _ _) hdepth,
        ofWireText_render (reads_created _ _ _ _) hdepth⟩

/-- The response to a turn carries its result. -/
theorem Response.carries_ofTurn (result : Except RegistryError TurnReply) :
    CarriesTurn (wireText (ofTurn result)) result := by
  cases result with
  | error e => rfl
  | ok reply =>
      show wireText (ofReply reply) = _ ∧ ofWireText (wireText (ofReply reply)) = _
      rw [wireText_ofReply]
      exact ⟨rfl, WireLawful.ofWireText_wireText (by decide) reply⟩

/-! ## Dispatching -/

namespace Registry

variable {m : Type → Type} [Monad m]

/-- A written request is read and dispatched. -/
theorem handleLine_wireText (env : Surroundings m) (r : Registry) (request : Request) :
    r.handleLine env (wireText request) = r.dispatch env request := by
  rw [handleLine, WireLawful.ofWireText_wireText (by decide)]

/-- To dispatch a request for a session is to call for its creation. -/
theorem dispatch_createSession (env : Surroundings m) (r : Registry) (playerIds : List PlayerId) :
    r.dispatch env (.createSession playerIds) = (do
      let (result, next) ← r.createSession env.publish env.freshId env.now playerIds
      pure (.ofCreation result, next)) := by
  rw [dispatch]
  congr; funext (result, next)
  cases result <;> rfl

/-- To dispatch a request for a turn is to call for it. -/
theorem dispatch_applyTurn (env : Surroundings m) (r : Registry) (sessionId : SessionId)
    (playerId : PlayerId) (moveId : MoveId) (x y : UInt64) :
    r.dispatch env (.applyTurn sessionId playerId moveId x y) = (do
      let clock ← env.clock
      let (result, next) ← r.applyTurn env.publish clock ⟨sessionId, playerId, moveId, x, y⟩
      pure (.ofTurn result, next)) := by
  rw [dispatch]
  congr; funext clock
  congr; funext (result, next)
  cases result <;> rfl

end Registry

/-! ## One request -/

/-- What a request meets outside: the readings of the clock, the identifier for a new session, what
the publisher says to an event, and what is said about a line that is no request. -/
structure Conditions where
  clock : Clock
  freshId : SessionId
  verdict : Except PublishError Unit
  describe : (line : String) → Fault → String

namespace Conditions

/-- The publisher, which logs the events that it accepts. -/
def publisher (c : Conditions) : Publisher (StateM (Unit × List GameEvent)) :=
  Operation.recording fun _ => pure c.verdict

/-- What the request loop is given. -/
def surroundings (c : Conditions) : Surroundings (StateM (Unit × List GameEvent)) where
  clock := pure c.clock
  freshId := pure c.freshId
  publish := c.publisher
  describe := c.describe

end Conditions

namespace World

/-- Call for the creation of a session. -/
def createSession (w : World) (c : Conditions) (playerIds : List PlayerId) :
    Except RegistryError SessionCreated × World :=
  let ((result, registry), _, log) :=
    w.registry.createSession c.publisher (pure c.freshId) (pure c.clock.reportedAt) playerIds
      ((), w.log)
  (result, ⟨registry, log⟩)

/-- Call for a turn. -/
def applyTurn (w : World) (c : Conditions) (turn : TurnRequest) :
    Except RegistryError TurnReply × World :=
  let ((result, registry), _, log) := w.registry.applyTurn c.publisher c.clock turn ((), w.log)
  (result, ⟨registry, log⟩)

/-- Send a line. -/
def handleLine (w : World) (c : Conditions) (line : String) : Response × World :=
  let ((response, registry), _, log) := w.registry.handleLine c.surroundings line ((), w.log)
  (response, ⟨registry, log⟩)

/-- Sending a request for a creation is calling for it. -/
theorem handleLine_createSession (w : World) (c : Conditions) (playerIds : List PlayerId) :
    w.handleLine c (wireText (Request.createSession playerIds)) =
      (.ofCreation (w.createSession c playerIds).1, (w.createSession c playerIds).2) := by
  rw [handleLine, Registry.handleLine_wireText, Registry.dispatch_createSession]
  rfl

/-- Sending a request for a turn is calling for it. -/
theorem handleLine_applyTurn (w : World) (c : Conditions) (sessionId : SessionId)
    (playerId : PlayerId) (moveId : MoveId) (x y : UInt64) :
    w.handleLine c (wireText (Request.applyTurn sessionId playerId moveId x y)) =
      (.ofTurn (w.applyTurn c ⟨sessionId, playerId, moveId, x, y⟩).1,
        (w.applyTurn c ⟨sessionId, playerId, moveId, x, y⟩).2) := by
  rw [handleLine, Registry.handleLine_wireText, Registry.dispatch_applyTurn]
  rfl

/-- A request that is sent as a line does to the registry and to the log what the call does, and the
text of the response carries what the call results in. -/
theorem transport_transparent (w : World) (c : Conditions) :
    (∀ playerIds,
      let direct := w.createSession c playerIds
      let sent := w.handleLine c (wireText (Request.createSession playerIds))
      sent.2 = direct.2 ∧ CarriesCreation (wireText sent.1) direct.1) ∧
    ∀ sessionId playerId moveId x y,
      let direct := w.applyTurn c ⟨sessionId, playerId, moveId, x, y⟩
      let sent := w.handleLine c (wireText (Request.applyTurn sessionId playerId moveId x y))
      sent.2 = direct.2 ∧ CarriesTurn (wireText sent.1) direct.1 := by
  refine ⟨fun playerIds => ?_, fun sessionId playerId moveId x y => ?_⟩
  · show (w.handleLine c _).2 = _ ∧ CarriesCreation (wireText (w.handleLine c _).1) _
    rw [handleLine_createSession]
    exact ⟨rfl, Response.carries_ofCreation _⟩
  · show (w.handleLine c _).2 = _ ∧ CarriesTurn (wireText (w.handleLine c _).1) _
    rw [handleLine_applyTurn]
    exact ⟨rfl, Response.carries_ofTurn _⟩

end World

end Noughts
