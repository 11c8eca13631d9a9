import Mathlib.Data.List.Basic
import Noughts.Proofs.Session.Play
import Noughts.Registry

/-!
# Runs of a registry

An `Operation` is one call of a registry with everything it is given. `Operation.perform` carries it
out with a publisher, and `recording` lets a publisher keep a log of the events it takes.

`Operation.perform_cases` says all that an operation can do: it leaves the registry and the log
alone, or it commits. `Commits` lists the two ways to commit. A `World` is a registry with its log,
and `World.run` is the world after a list of calls, each with the answer that its publisher gives.
-/

namespace Noughts

/-- One call of a registry. A creation comes with the identifier that was generated for it. -/
inductive Operation where
  | create (id : SessionId) (now : Int64) (playerIds : List PlayerId)
  | turn (clock : Clock) (request : TurnRequest)
  | read (id : SessionId)
deriving DecidableEq, Repr

/-- What an operation answers when it does not fail. -/
inductive Reply where
  | created (created : SessionCreated)
  | turn (reply : TurnReply)
  | session (found : Option Session)
deriving DecidableEq, Repr

/-- The same transition with another form of reply. -/
def Transition.map {ρ τ : Type} (f : ρ → τ) : Transition ρ → Transition τ
  | .answer result => .answer (result.map f)
  | .commit event session reply => .commit event session (f reply)

/-- A submitted turn as a move in its session. -/
def TurnRequest.submission (request : TurnRequest) (clock : Clock) : Submission :=
  ⟨clock.movedAt, request.playerId, request.moveId, request.x, request.y⟩

/-- What the mover is told when the session `next` is stored. -/
def Session.replyAfter (next : Session) : TurnReply :=
  match next.outcome with
  | some outcome => .finished outcome
  | none => .accepted next.expectedMoveId next.currentPlayer next.validMoves

/-- The cells that the mover is told of are those of the event. -/
theorem Session.replyAfter_eq (next : Session) (player : PlayerId) (x y : UInt64) (now : Int64) :
    next.replyAfter =
      match next.outcome with
      | some outcome => .finished outcome
      | none => .accepted next.expectedMoveId next.currentPlayer
          ((GameEvent.played next player x y now).validMoves.getD []) := by
  unfold replyAfter
  cases houtcome : next.outcome with
  | none => simp [GameEvent.played, isFinished, houtcome]
  | some outcome => rfl

/-- What the creator is told when the new session `s` is stored. -/
def Session.creation (s : Session) : SessionCreated :=
  ⟨s.id, s.players.first, s.expectedMoveId, s.validMoves⟩

/-- Two distinct players are taken, in turn order; the same player twice is refused as one player,
and any other list with its length. -/
theorem Registry.twoPlayers_cases (playerIds : List PlayerId) :
    (∃ first second, first ≠ second ∧ playerIds = [first, second] ∧
      twoPlayers playerIds = .ok ⟨first, second⟩) ∨
    (∃ player, playerIds = [player, player] ∧
      twoPlayers playerIds = .error (.invalidPlayerCount 1)) ∨
    (playerIds.length ≠ 2 ∧
      twoPlayers playerIds = .error (.invalidPlayerCount playerIds.length)) := by
  unfold twoPlayers
  split
  · next first second =>
    by_cases hsame : first = second
    · subst hsame
      exact Or.inr (Or.inl ⟨first, rfl, if_pos rfl⟩)
    · exact Or.inl ⟨first, second, hsame, rfl, if_neg hsame⟩
  · next hother =>
    refine Or.inr (Or.inr ⟨fun hcount => ?_, rfl⟩)
    obtain ⟨first, second, rfl⟩ := List.length_eq_two.1 hcount
    exact hother first second rfl

/-- `Commits r op event session reply` says that in the registry `r` the operation `op` publishes
`event` and, if that is accepted, stores `session` and answers `reply`. -/
inductive Commits (r : Registry) : Operation → GameEvent → Session → Reply → Prop where
  | create {id : SessionId} {now : Int64} {first second : PlayerId} (hdistinct : first ≠ second) :
      Commits r (.create id now [first, second])
        (.created (.start id ⟨first, second⟩) now) (.start id ⟨first, second⟩)
        (.created (Session.start id ⟨first, second⟩).creation)
  | turn {clock : Clock} {request : TurnRequest} {session next : Session}
      (hheld : r.find? request.sessionId = some session)
      (hmove : session.submit (request.submission clock) = .ok next) :
      Commits r (.turn clock request)
        (.played next request.playerId request.x request.y clock.reportedAt) next
        (.turn next.replyAfter)

namespace Operation

variable {m : Type → Type} [Monad m]

/-- Carry out an operation. -/
def perform (publish : Publisher m) (r : Registry) :
    Operation → m (Except RegistryError Reply × Registry)
  | create id now playerIds => do
      let (result, next) ← r.createSession publish (pure id) (pure now) playerIds
      pure (result.map .created, next)
  | turn clock request => do
      let (result, next) ← r.applyTurn publish clock request
      pure (result.map .turn, next)
  | read id => pure (.ok (.session (r.find? id)), r)

/-- What an operation is about to do. -/
def plan (r : Registry) : Operation → Transition Reply
  | create id now playerIds =>
      match Registry.twoPlayers playerIds with
      | .error cause => .answer (.error cause)
      | .ok players => (Registry.planCreate id now players).map .created
  | turn clock request => (r.planTurn clock request).map .turn
  | read id => .answer (.ok (.session (r.find? id)))

/-- Settling a transition and then changing the form of its reply is settling it in that form. -/
theorem settle_map [LawfulMonad m] {ρ τ : Type} (publish : Publisher m) (r : Registry)
    (t : Transition ρ) (f : ρ → τ) :
    (do let (result, next) ← r.settle publish t; pure (result.map f, next)) =
      r.settle publish (t.map f) := by
  cases t with
  | answer result => simp [Registry.settle, Transition.map]
  | commit event session reply =>
      simp only [Registry.settle, Transition.map, bind_assoc]
      congr 1
      funext verdict
      cases verdict <;> simp [Except.map]

/-- To carry out an operation is to settle what it is about to do. -/
theorem perform_eq_settle [LawfulMonad m] (publish : Publisher m) (r : Registry)
    (op : Operation) : op.perform publish r = r.settle publish (op.plan r) := by
  cases op with
  | create id now playerIds =>
      simp only [perform, plan, Registry.createSession]
      cases Registry.twoPlayers playerIds with
      | error cause => exact pure_bind _ _
      | ok players =>
          simp only [pure_bind]
          exact settle_map publish r _ _
  | turn clock request => exact settle_map publish r _ _
  | read id => rfl

/-- A transition that commits in another form commits. -/
theorem eq_commit_of_map {ρ τ : Type} {t : Transition ρ} {f : ρ → τ} {event : GameEvent}
    {session : Session} {reply : τ} (h : t.map f = .commit event session reply) :
    ∃ original, t = .commit event session original ∧ f original = reply := by
  cases t with
  | answer result => cases h
  | commit event session original =>
      cases h
      exact ⟨original, rfl, rfl⟩

/-- A creation commits for two distinct players only. -/
theorem commits_of_planCreate {r : Registry} {id : SessionId} {now : Int64}
    {playerIds : List PlayerId} {players : Players} {event : GameEvent} {session : Session}
    {reply : SessionCreated} (hplayers : Registry.twoPlayers playerIds = .ok players)
    (h : Registry.planCreate id now players = .commit event session reply) :
    Commits r (.create id now playerIds) event session (.created reply) := by
  rcases Registry.twoPlayers_cases playerIds with
    ⟨first, second, hdistinct, rfl, htwo⟩ | ⟨_, _, hrefused⟩ | ⟨_, hrefused⟩
  · rw [htwo] at hplayers
    cases hplayers
    cases h
    exact .create hdistinct
  · rw [hrefused] at hplayers
    cases hplayers
  · rw [hrefused] at hplayers
    cases hplayers

/-- A turn commits if its session is held and accepts the move, and in no other case. -/
theorem commits_of_planTurn {r : Registry} {clock : Clock} {request : TurnRequest}
    {event : GameEvent} {next : Session} {reply : TurnReply}
    (h : r.planTurn clock request = .commit event next reply) :
    Commits r (.turn clock request) event next (.turn reply) := by
  unfold Registry.planTurn at h
  split at h
  · cases h
  · next session hheld =>
    split at h
    · cases h
    · split at h
      · cases h
      · next moved hmove =>
        obtain ⟨rfl, rfl, hreply⟩ := Transition.commit.inj h
        have hreply : moved.replyAfter = reply := (moved.replyAfter_eq _ _ _ _).trans hreply
        rw [← hreply]
        exact .turn hheld hmove

/-- The operations that publish something are those of `Commits`. -/
theorem commits_of_plan {r : Registry} {op : Operation} {event : GameEvent} {session : Session}
    {reply : Reply} (h : op.plan r = .commit event session reply) :
    Commits r op event session reply := by
  cases op with
  | create id now playerIds =>
      simp only [plan] at h
      split at h
      · cases h
      · next players hplayers =>
        obtain ⟨original, hplan, rfl⟩ := eq_commit_of_map h
        exact commits_of_planCreate hplayers hplan
  | turn clock request =>
      obtain ⟨original, hplan, rfl⟩ := eq_commit_of_map h
      exact commits_of_planTurn hplan
  | read id => cases h

/-- The publisher that does as another one and keeps a log of the events that were accepted. -/
def recording {σ : Type} (publish : Publisher (StateM σ)) :
    Publisher (StateM (σ × List GameEvent)) :=
  fun event (state, log) =>
    match publish event state with
    | (.ok (), next) => (.ok (), next, log ++ [event])
    | (.error cause, next) => (.error cause, next, log)

/-- An operation with a recording publisher either publishes nothing and leaves everything alone, or
it commits if the publisher accepts its event and fails, without a change to the registry and the
log, if not. -/
theorem perform_cases {σ : Type} (publish : Publisher (StateM σ)) (r : Registry)
    (op : Operation) (state : σ) (log : List GameEvent) :
    (∃ result, op.perform (recording publish) r (state, log) = ((result, r), state, log)) ∨
    ∃ event session reply, Commits r op event session reply ∧
      op.perform (recording publish) r (state, log) =
        match publish event state with
        | (.ok (), next) => ((.ok reply, r.put session), next, log ++ [event])
        | (.error cause, next) => ((.error (.publish cause), r), next, log) := by
  rw [perform_eq_settle]
  cases hplan : op.plan r with
  | answer result => exact Or.inl ⟨result, rfl⟩
  | commit event session reply =>
      refine Or.inr ⟨event, session, reply, commits_of_plan hplan, ?_⟩
      show (recording publish event >>= _) (state, log) = _
      simp only [bind, StateT.bind, recording]
      rcases publish event state with ⟨⟨cause⟩ | ⟨⟨⟩⟩, next⟩ <;> rfl

end Operation

/-- A call of a registry together with what its publisher says to the event of the call, if there
is one. -/
structure Call where
  operation : Operation
  verdict : Except PublishError Unit

/-- The publisher of a call. -/
def Call.publisher (c : Call) : Publisher (StateM Unit) := fun _ => pure c.verdict

/-- A registry and the log of the events that its publisher accepted, oldest first. -/
structure World where
  registry : Registry
  log : List GameEvent

namespace World

/-- No sessions and no events. -/
def start : World := ⟨.empty, []⟩

/-- Make a call. -/
def perform (w : World) (c : Call) : Except RegistryError Reply × World :=
  let ((reply, registry), _, log) :=
    c.operation.perform (Operation.recording c.publisher) w.registry ((), w.log)
  (reply, ⟨registry, log⟩)

/-- The world after a call. -/
def after (w : World) (c : Call) : World := (w.perform c).2

/-- The world after a list of calls from an empty registry. -/
def run (calls : List Call) : World := calls.foldl after start

/-- The world after an operation was committed: its session is stored and its event logged. -/
def commit (w : World) (event : GameEvent) (session : Session) : World :=
  ⟨w.registry.put session, w.log ++ [event]⟩

/-- A call leaves the world alone or commits. -/
theorem perform_cases (w : World) (c : Call) :
    (w.perform c).2 = w ∨
    ∃ event session reply, Commits w.registry c.operation event session reply ∧
      w.perform c = (.ok reply, w.commit event session) := by
  unfold perform
  rcases c.operation.perform_cases c.publisher w.registry () w.log with
    ⟨result, hperform⟩ | ⟨event, session, reply, hcommits, hperform⟩
  · left
    rw [hperform]
  · rw [hperform]
    simp only [Call.publisher]
    cases hverdict : c.verdict with
    | error cause => exact Or.inl rfl
    | ok => exact Or.inr ⟨event, session, reply, hcommits, rfl⟩

end World

end Noughts
