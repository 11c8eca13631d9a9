import Noughts.Event

/-!
# The registry of sessions

The registry owns every session and offers two operations: to create a session and to apply a turn.
Each operation first plans a `Transition`. Either there is nothing to publish and the answer is
known, or there is an event to publish, and only when that was accepted is the session stored and
the reply given. `Registry.settle` is the one place where a transition is committed, so a failed
publish leaves the registry as it was, whatever the operation.

The publisher is a parameter in an arbitrary monad; the planning functions do not see it.
-/

namespace Noughts

/-- The failure of an operation as a whole. -/
inductive RegistryError where
  /-- A game needs two distinct players; so many were given. -/
  | invalidPlayerCount (count : Nat)
  | sessionNotFound (id : SessionId)
  /-- The event could not be published, so nothing was stored. -/
  | publish (cause : PublishError)
deriving DecidableEq, Repr

/-- The wording of a failure. -/
def RegistryError.message : RegistryError → String
  | invalidPlayerCount count => s!"Number of distinct players must be 2, got {count}"
  | sessionNotFound id => s!"Session {id.text} not found"
  | publish cause => cause.message

/-- The failure behind a failure, if there is one. -/
def RegistryError.cause? : RegistryError → Option PublishError
  | invalidPlayerCount _ => none
  | sessionNotFound _ => none
  | publish cause => some cause

/-- What the creator of a session is told. -/
structure SessionCreated where
  sessionId : SessionId
  nextPlayer : PlayerId
  moveId : MoveId
  validMoves : List MoveRange
deriving DecidableEq, Repr

/-- A submitted move. -/
structure TurnRequest where
  sessionId : SessionId
  playerId : PlayerId
  moveId : MoveId
  x : UInt64
  y : UInt64
deriving DecidableEq, Repr

/-- The answer to a submitted move. -/
inductive TurnReply where
  /-- The move was made and the game goes on. -/
  | accepted (moveId : MoveId) (nextPlayer : PlayerId) (validMoves : List MoveRange)
  /-- The game is over, by this move or before it. -/
  | finished (outcome : Outcome)
  | invalidMove
  | notActivePlayer
  | invalidMoveId
deriving DecidableEq, Repr

/-- A refused move as an answer. -/
def TurnReply.ofRefusal : PlaceError → TurnReply
  | .notActivePlayer => notActivePlayer
  | .invalidMoveId => invalidMoveId
  | .invalidMove => invalidMove

/-- Every session, in order of creation. -/
structure Registry where
  sessions : List Session
deriving DecidableEq, Repr

/-- Something that takes events, or says why it does not. -/
abbrev Publisher (m : Type → Type) := GameEvent → m (Except PublishError Unit)

/-- What an operation is about to do. -/
inductive Transition (ρ : Type) where
  /-- Nothing is to be published or stored; this is the answer. -/
  | answer (result : Except RegistryError ρ)
  /-- If the event is accepted, store the session and give the reply. -/
  | commit (event : GameEvent) (session : Session) (reply : ρ)

/-- The readings of the clock during one operation: when the move counts as made, and when the
event is made. -/
structure Clock where
  movedAt : Int64
  reportedAt : Int64
deriving DecidableEq, Repr

namespace Registry

/-- The registry without sessions. -/
def empty : Registry := ⟨[]⟩

/-- The session under an identifier. -/
def find? (r : Registry) (id : SessionId) : Option Session :=
  r.sessions.find? fun s => s.id = id

/-- Store a session: in the place of the one with its identifier, or else as the newest. -/
def put (r : Registry) (s : Session) : Registry :=
  if (r.find? s.id).isSome then
    ⟨r.sessions.map fun old => if old.id = s.id then s else old⟩
  else
    ⟨r.sessions ++ [s]⟩

/-- The number of sessions. -/
def size (r : Registry) : Nat := r.sessions.length

/-- Whether no session was ever created. -/
def isEmpty (r : Registry) : Bool := r.sessions.isEmpty

/-- The identifiers of all sessions, in order of creation. -/
def ids (r : Registry) : List SessionId := r.sessions.map (·.id)

/-- The registry in one line, which tells no more than how many sessions there are. -/
def summary (r : Registry) : String :=
  s!"SessionRegistry \x7b sessions: {r.size}, .. \x7d"

/-- Among sessions of which those under one identifier were replaced, a search finds the new one or
what it found before. -/
theorem find?_replaced (s : Session) (id : SessionId) (sessions : List Session) :
    (sessions.map fun old => if old.id = s.id then s else old).find? (fun o => o.id = id)
      = if s.id = id then (sessions.find? fun o => o.id = id).map fun _ => s
        else sessions.find? fun o => o.id = id := by
  induction sessions with
  | nil => simp
  | cons old rest ih =>
    rw [List.map_cons, List.find?_cons, List.find?_cons, ih]
    by_cases hold : old.id = s.id <;> by_cases hid : s.id = id
    · simp [hold, hid]
    · simp [hold, hid]
    · have hother : ¬ old.id = id := fun h => hold (h.trans hid.symm)
      simp [hid, hother]
    · simp [hold, hid]

/-- After a session is stored it is found under its identifier, and nothing else has changed. -/
theorem find?_put (r : Registry) (s : Session) (id : SessionId) :
    (r.put s).find? id = if s.id = id then some s else r.find? id := by
  unfold put
  split
  · rename_i held
    simp only [find?] at held ⊢
    rw [find?_replaced]
    by_cases hid : s.id = id
    · subst hid
      obtain ⟨old, hold⟩ := Option.isSome_iff_exists.1 held
      simp [hold]
    · simp [hid]
  · rename_i absent
    have absent : r.find? s.id = none := by simpa using absent
    simp only [find?] at absent ⊢
    rw [List.find?_append]
    by_cases hid : s.id = id
    · subst hid
      simp [absent]
    · simp [hid]

/-- The players of a game, if they are two distinct ones. Any other list is refused with the number
of players in it; the same player twice counts once. -/
def twoPlayers : (playerIds : List PlayerId) → Except RegistryError Players
  | [first, second] =>
    if first = second then .error (.invalidPlayerCount 1) else .ok ⟨first, second⟩
  | playerIds => .error (.invalidPlayerCount playerIds.length)

/-- Plan the creation of a session under a fresh identifier. -/
def planCreate (id : SessionId) (now : Int64) (players : Players) : Transition SessionCreated :=
  let session := Session.start id players
  let event := GameEvent.created session now
  .commit event session {
    sessionId := session.id
    nextPlayer := session.players.first
    moveId := session.expectedMoveId
    validMoves := event.validMoves.getD [] }

/-- Plan a turn. A finished session answers with its outcome whatever is submitted; a refused move
answers with the refusal; neither publishes anything. -/
def planTurn (r : Registry) (clock : Clock) (request : TurnRequest) : Transition TurnReply :=
  match r.find? request.sessionId with
  | none => .answer (.error (.sessionNotFound request.sessionId))
  | some session =>
    match session.outcome with
    | some outcome => .answer (.ok (.finished outcome))
    | none =>
      match session.place clock.movedAt request.playerId request.moveId request.x request.y with
      | .error refusal => .answer (.ok (.ofRefusal refusal))
      | .ok next =>
        let event := GameEvent.played next request.playerId request.x request.y clock.reportedAt
        .commit event next <|
          match next.outcome with
          | some outcome => .finished outcome
          | none => .accepted next.expectedMoveId next.currentPlayer (event.validMoves.getD [])

variable {m : Type → Type} [Monad m] {ρ : Type}

/-- Carry a transition out: publish its event, and store its session only if that was accepted. -/
def settle (publish : Publisher m) (r : Registry) (t : Transition ρ) :
    m (Except RegistryError ρ × Registry) :=
  match t with
  | .answer result => pure (result, r)
  | .commit event session reply => do
    match ← publish event with
    | .error cause => pure (.error (.publish cause), r)
    | .ok () => pure (.ok reply, r.put session)

/-- Start a game between two distinct players; the first of them moves first. An identifier is made,
and the clock is read, for two distinct players only. -/
def createSession (publish : Publisher m) (r : Registry) (freshId : m SessionId) (now : m Int64)
    (playerIds : List PlayerId) : m (Except RegistryError SessionCreated × Registry) :=
  match twoPlayers playerIds with
  | .error cause => pure (.error cause, r)
  | .ok players => do
    let id ← freshId
    let time ← now
    r.settle publish (planCreate id time players)

/-- Apply a move to a session. -/
def applyTurn (publish : Publisher m) (r : Registry) (clock : Clock) (request : TurnRequest) :
    m (Except RegistryError TurnReply × Registry) :=
  r.settle publish (r.planTurn clock request)

end Registry

end Noughts
