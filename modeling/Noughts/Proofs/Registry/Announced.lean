import Mathlib.Data.List.Induction
import Noughts.Proofs.Registry.Answers

/-!
# What players and spectators are told

Whoever calls the registry gets a reply, and whoever follows the events gets an event. A call that
commits makes one event, and `Announces` lists, for each form of the reply, how the event agrees
with it field by field. `GameEvent.reply?` reads the reply off the event, so the event tells no
less than the reply: `World.told_alike`.

The flat form of a result keeps everything, since it says apart from the name of the winner whether
there is one: `Outcome.outcome_record`.
-/

namespace Noughts

/-- The result that a record describes. -/
def WinnerRecord.outcome (r : WinnerRecord) : Outcome :=
  if r.isDraw then .draw else .win ⟨r.winningPlayerId⟩ r.lines

/-- A result can be read off its record. -/
theorem Outcome.outcome_record (o : Outcome) : o.record.outcome = o := by
  cases o with
  | win player lines => rfl
  | draw => rfl

/-- The winner without a name is not taken for the winner of a draw. -/
example : (Outcome.win ⟨""⟩ []).record.outcome ≠ .draw := by decide

namespace GameEvent

/-- What the caller of an operation is told, read off the event of the operation. -/
def reply? (e : GameEvent) : Option Reply :=
  match e.kind, e.outcome with
  | .sessionCreated, _ => do
      let nextPlayer ← e.nextPlayer
      let moveId ← e.moveId
      let validMoves ← e.validMoves
      pure (.created ⟨e.sessionId, nextPlayer, moveId, validMoves⟩)
  | .turnPlayed, some record => some (.turn (.finished record.outcome))
  | .turnPlayed, none => do
      let nextPlayer ← e.nextPlayer
      let moveId ← e.moveId
      let validMoves ← e.validMoves
      pure (.turn (.accepted moveId nextPlayer validMoves))

/-- The event reports the requested turn of the session that was held before. -/
structure Reports (e : GameEvent) (held : Session) (request : TurnRequest) : Prop where
  kind_eq : e.kind = .turnPlayed
  sessionId_eq : e.sessionId = request.sessionId
  players_eq : e.players = held.players.toList
  playerId_eq : e.playerId = request.playerId
  move_eq : e.move = some ⟨request.x, request.y⟩

end GameEvent

/-- `Announces r op stored reply event` says how the event of an operation that commits in the
registry `r`, and stores the session `stored`, agrees with its reply. -/
inductive Announces (r : Registry) :
    Operation → (stored : Session) → Reply → GameEvent → Prop where
  | created {id : SessionId} {now : Int64} {first second : PlayerId} {stored : Session}
      {created : SessionCreated} {event : GameEvent}
      (hkind : event.kind = .sessionCreated)
      (hplayers : event.players = [first, second])
      (hplayer : event.playerId = first)
      (hid : created.sessionId = id)
      (hsession : event.sessionId = created.sessionId)
      (hnext : event.nextPlayer = some created.nextPlayer)
      (hmoveId : event.moveId = some created.moveId)
      (hmoves : event.validMoves = some created.validMoves)
      (hbare : event.move = none ∧ event.turnStatus = none)
      (houtcome : event.outcome = none) :
      Announces r (.create id now [first, second]) stored (.created created) event
  | accepted {clock : Clock} {request : TurnRequest} {held stored : Session} {moveId : MoveId}
      {nextPlayer : PlayerId} {validMoves : List MoveRange} {event : GameEvent}
      (hheld : r.find? request.sessionId = some held)
      (hreports : event.Reports held request)
      (hstatus : event.turnStatus = some .success)
      (hmoveId : event.moveId = some moveId)
      (hnext : event.nextPlayer = some nextPlayer)
      (hmoves : event.validMoves = some validMoves)
      (houtcome : event.outcome = none) :
      Announces r (.turn clock request) stored (.turn (.accepted moveId nextPlayer validMoves))
        event
  | finished {clock : Clock} {request : TurnRequest} {held stored : Session} {outcome : Outcome}
      {moveId : MoveId} {event : GameEvent}
      (hheld : r.find? request.sessionId = some held)
      (hreports : event.Reports held request)
      (hstatus : event.turnStatus = some .finished)
      (hmoveId : event.moveId = some moveId)
      (hcount : moveId.value.toNat = stored.turnCount)
      (hnext : event.nextPlayer = none)
      (hmoves : event.validMoves = none)
      (houtcome : event.outcome = some outcome.record) :
      Announces r (.turn clock request) stored (.turn (.finished outcome)) event

namespace Announces

variable {r : Registry} {op : Operation} {stored : Session} {reply : Reply} {event : GameEvent}

/-- The reply is what the event says. -/
theorem reply?_eq (h : Announces r op stored reply event) : event.reply? = some reply := by
  cases h with
  | created hkind _ _ _ hsession hnext hmoveId hmoves _ _ =>
      simp [GameEvent.reply?, hkind, hsession, hnext, hmoveId, hmoves]
  | accepted _ hreports _ hmoveId hnext hmoves houtcome =>
      simp [GameEvent.reply?, hreports.kind_eq, houtcome, hmoveId, hnext, hmoves]
  | finished _ hreports _ _ _ _ _ houtcome =>
      simp [GameEvent.reply?, hreports.kind_eq, houtcome, Outcome.outcome_record]

/-- The event has the free cells or the result, and not both. -/
theorem isSome_validMoves (h : Announces r op stored reply event) :
    event.validMoves.isSome = event.outcome.isNone := by
  cases h with
  | created _ _ _ _ _ _ _ hmoves _ houtcome => rw [hmoves, houtcome]; rfl
  | accepted _ _ _ _ _ hmoves houtcome => rw [hmoves, houtcome]; rfl
  | finished _ _ _ _ _ _ hmoves houtcome => rw [hmoves, houtcome]; rfl

end Announces

/-- The event of an accepted move reports that move. -/
theorem GameEvent.reports_played {session next : Session} {clock : Clock} {request : TurnRequest}
    (hid : next.id = request.sessionId)
    (hmove : session.submit (request.submission clock) = .ok next) :
    (GameEvent.played next request.playerId request.x request.y clock.reportedAt).Reports session
      request := by
  obtain ⟨c, mark, _, rfl⟩ := Session.submit_eq_ok_iff.1 hmove
  exact ⟨rfl, hid, rfl, rfl, rfl⟩

/-- Every commit announces what it answers. -/
theorem Commits.announces {w : World} {op : Operation} {event : GameEvent} {session : Session}
    {reply : Reply} (h : Commits w.registry op event session reply) (hplayed : w.Played) :
    Announces w.registry op session reply event := by
  cases h with
  | create hdistinct => exact .created rfl rfl rfl rfl rfl rfl rfl rfl ⟨rfl, rfl⟩ rfl
  | @turn clock request held next hheld hmove =>
      have hreports := GameEvent.reports_played (Registry.id_of_move hheld hmove) hmove
      have hreached := (hplayed _ _ hheld).submit hmove
      unfold Session.replyAfter
      cases houtcome : session.outcome with
      | none =>
          refine .accepted hheld hreports ?_ rfl ?_ ?_ ?_
          · simp [GameEvent.played, Session.isFinished, houtcome]
          · exact Session.activePlayer?_eq_some_iff.2 ⟨houtcome, rfl⟩
          · simp [GameEvent.played, Session.isFinished, houtcome]
          · simp [GameEvent.played, houtcome]
      | some outcome =>
          refine .finished hheld hreports ?_ rfl hreached.expectedMoveId_toNat ?_ ?_ ?_
          · simp [GameEvent.played, Session.isFinished, houtcome]
          · simp [GameEvent.played, Session.activePlayer?, Session.isFinished, houtcome]
          · simp [GameEvent.played, Session.isFinished, houtcome]
          · simp [GameEvent.played, houtcome]

namespace World

/-- A call that is not idle commits. -/
theorem commits_of_not_idle {w : World} {c : Call} (h : (w.entry c).isIdle = false) :
    ∃ event session reply, Commits w.registry c.operation event session reply ∧
      w.perform c = (.ok reply, w.commit event session) := by
  obtain ⟨reply, next, hperforms, hentry, hafter⟩ := w.exists_performs c
  have hperform : w.perform c = (reply, next) := Prod.ext (congrArg Entry.reply hentry) hafter
  rw [hentry] at h
  cases hperforms with
  | created hdistinct => exact ⟨_, _, _, .create hdistinct, hperform⟩
  | made hheld hmove => exact ⟨_, _, _, .turn hheld hmove, hperform⟩
  | finished hheld hfinished =>
      simp [Entry.isIdle, Entry.wasOver, hheld, Session.isFinished, hfinished] at h
  | @refused _ _ _ _ refusal _ _ _ => cases refusal <;> cases h
  | _ => cases h

/-- What holds of the event of every commit holds of every logged event. -/
theorem forall_mem_log {P : GameEvent → Prop}
    (hcommit : ∀ {w : World} {op : Operation} {event : GameEvent} {session : Session}
      {reply : Reply}, w.Played → Commits w.registry op event session reply → P event)
    (calls : List Call) : ∀ e ∈ (run calls).log, P e := by
  induction calls using List.reverseRecOn with
  | nil => exact List.forall_mem_nil P
  | append_singleton calls c ih =>
      have hafter : run (calls ++ [c]) = (run calls).after c := List.foldl_append
      rw [hafter]
      rcases (run calls).perform_cases c with hsame | ⟨event, session, reply, hcommits, hperform⟩
      · have hafter : (run calls).after c = run calls := hsame
        rw [hafter]
        exact ih
      · have hafter : (run calls).after c = (run calls).commit event session :=
          congrArg Prod.snd hperform
        rw [hafter]
        intro e he
        rcases List.mem_append.1 he with hbefore | hlast
        · exact ih e hbefore
        · rw [List.mem_singleton.1 hlast]
          exact hcommit (played_run calls) hcommits

/-- Players and spectators are told the same. After any calls, a further call either commits nothing
and publishes nothing, or it stores a session, publishes one event, and answers by a reply which
that event announces, so that the reply can be read off the event. Every published event has the
free cells or the result and not both, and the result can be read off its record, whoever won. -/
theorem told_alike (calls : List Call) :
    (∀ c,
      ((run calls).entry c).isIdle = true ∧ (run calls).after c = run calls ∨
      ((run calls).entry c).isIdle = false ∧ ∃ event stored reply,
        (run calls).perform c = (.ok reply, (run calls).commit event stored) ∧
        Announces (run calls).registry c.operation stored reply event ∧
        event.reply? = some reply) ∧
    (∀ e ∈ (run calls).log, e.validMoves.isSome = e.outcome.isNone) ∧
    ∀ outcome : Outcome, outcome.record.outcome = outcome := by
  refine ⟨fun c => ?_, ?_, Outcome.outcome_record⟩
  · cases hidle : ((run calls).entry c).isIdle with
    | true => exact Or.inl ⟨rfl, after_of_isIdle hidle⟩
    | false =>
        obtain ⟨event, stored, reply, hcommits, hperform⟩ := commits_of_not_idle hidle
        have hannounces := hcommits.announces (played_run calls)
        exact Or.inr ⟨rfl, event, stored, reply, hperform, hannounces, hannounces.reply?_eq⟩
  · exact forall_mem_log (fun hplayed h => (h.announces hplayed).isSome_validMoves) calls

end World

end Noughts
