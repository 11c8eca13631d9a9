import Mathlib.Data.List.Basic
import Noughts.Proofs.Registry.Idle
import Noughts.Proofs.Registry.Replay
import Noughts.Proofs.Session.Marks

/-!
# What a call answers

`World.Performs` lists every way in which a call can end, with its reply and the world after it, and
`World.performs` says that there is no other. A turn ends in one of five ways: its session is
unknown, or over, or refuses the move, or the event of the move is not published, or the move is
made. `Entry.made?` tells the turns that were made by what they do to their session.

Whatever was called, every session that a registry holds is reached by submitted moves:
`World.played_run`.
-/

namespace Noughts

namespace World

/-- Carry out a transition if the publisher gives the verdict on its event. -/
def settle (w : World) (verdict : Except PublishError Unit) :
    Transition Reply → Except RegistryError Reply × World
  | .answer result => (result, w)
  | .commit event session reply =>
      match verdict with
      | .error cause => (.error (.publish cause), w)
      | .ok () => (.ok reply, w.commit event session)

/-- To make a call is to settle what its operation is about to do. -/
theorem perform_eq_settle_plan (w : World) (c : Call) :
    w.perform c = w.settle c.verdict (c.operation.plan w.registry) := by
  unfold perform
  rw [Operation.perform_eq_settle]
  cases c.operation.plan w.registry with
  | answer result => rfl
  | commit event session reply =>
      obtain ⟨operation, verdict⟩ := c
      cases verdict <;> rfl

/-- `Performs w c (reply, next)` says that in the world `w` the call `c` is answered by `reply` and
leads to the world `next`, and why. -/
inductive Performs (w : World) : Call → Except RegistryError Reply × World → Prop where
  | miscounted {id now playerIds verdict} (hcount : playerIds.length ≠ 2) :
      Performs w ⟨.create id now playerIds, verdict⟩
        (.error (.invalidPlayerCount playerIds.length), w)
  | repeated {id now player verdict} :
      Performs w ⟨.create id now [player, player], verdict⟩
        (.error (.invalidPlayerCount 1), w)
  | uncreated {id now first second cause} (hdistinct : first ≠ second) :
      Performs w ⟨.create id now [first, second], .error cause⟩ (.error (.publish cause), w)
  | created {id now first second} (hdistinct : first ≠ second) :
      Performs w ⟨.create id now [first, second], .ok ()⟩
        (.ok (.created (Session.start id ⟨first, second⟩).creation),
          w.commit (.created (.start id ⟨first, second⟩) now) (.start id ⟨first, second⟩))
  | read {id verdict} :
      Performs w ⟨.read id, verdict⟩ (.ok (.session (w.registry.find? id)), w)
  | unknown {clock request verdict} (habsent : w.registry.find? request.sessionId = none) :
      Performs w ⟨.turn clock request, verdict⟩
        (.error (.sessionNotFound request.sessionId), w)
  | finished {clock request verdict session outcome}
      (hheld : w.registry.find? request.sessionId = some session)
      (hfinished : session.outcome = some outcome) :
      Performs w ⟨.turn clock request, verdict⟩ (.ok (.turn (.finished outcome)), w)
  | refused {clock request verdict session refusal}
      (hheld : w.registry.find? request.sessionId = some session)
      (hopen : session.outcome = none)
      (hrefused : session.submit (request.submission clock) = .error refusal) :
      Performs w ⟨.turn clock request, verdict⟩ (.ok (.turn (.ofRefusal refusal)), w)
  | unpublished {clock request cause session next}
      (hheld : w.registry.find? request.sessionId = some session)
      (hmove : session.submit (request.submission clock) = .ok next) :
      Performs w ⟨.turn clock request, .error cause⟩ (.error (.publish cause), w)
  | made {clock request session next}
      (hheld : w.registry.find? request.sessionId = some session)
      (hmove : session.submit (request.submission clock) = .ok next) :
      Performs w ⟨.turn clock request, .ok ()⟩
        (.ok (.turn next.replyAfter),
          w.commit (.played next request.playerId request.x request.y clock.reportedAt) next)

/-- A creation ends in one of the listed ways. -/
theorem performs_create (w : World) (id : SessionId) (now : Int64) (playerIds : List PlayerId)
    (verdict : Except PublishError Unit) :
    w.Performs ⟨.create id now playerIds, verdict⟩
      (w.perform ⟨.create id now playerIds, verdict⟩) := by
  rw [perform_eq_settle_plan]
  simp only [Operation.plan]
  rcases Registry.twoPlayers_cases playerIds with
    ⟨first, second, hdistinct, rfl, hplayers⟩ | ⟨player, rfl, hplayers⟩ | ⟨hcount, hplayers⟩
  · rw [hplayers]
    cases verdict with
    | error cause => exact .uncreated hdistinct
    | ok => exact .created hdistinct
  · rw [hplayers]
    exact .repeated
  · rw [hplayers]
    exact .miscounted hcount

/-- A turn ends in one of the listed ways. -/
theorem performs_turn (w : World) (clock : Clock) (request : TurnRequest)
    (verdict : Except PublishError Unit) :
    w.Performs ⟨.turn clock request, verdict⟩ (w.perform ⟨.turn clock request, verdict⟩) := by
  rw [perform_eq_settle_plan]
  show w.Performs _ (w.settle verdict ((w.registry.planTurn clock request).map .turn))
  unfold Registry.planTurn
  split
  · next habsent => exact .unknown habsent
  · next session hheld =>
    split
    · next outcome hfinished => exact .finished hheld hfinished
    · next hopen =>
      split
      · next refusal hrefused => exact .refused hheld hopen hrefused
      · next next hmove =>
        cases verdict with
        | error cause => exact .unpublished hheld hmove
        | ok =>
            have hmade : w.Performs ⟨.turn clock request, .ok ()⟩ _ := .made hheld hmove
            rw [Session.replyAfter_eq] at hmade
            exact hmade

/-- A call ends in one of the listed ways. -/
theorem performs (w : World) (c : Call) : w.Performs c (w.perform c) := by
  obtain ⟨operation, verdict⟩ := c
  cases operation with
  | create id now playerIds => exact w.performs_create id now playerIds verdict
  | turn clock request => exact w.performs_turn clock request verdict
  | read id => exact .read

/-- The same for a call as it stands in a history. -/
theorem exists_performs (w : World) (c : Call) :
    ∃ reply next, w.Performs c (reply, next) ∧ w.entry c = ⟨w, c, reply⟩ ∧ w.after c = next :=
  ⟨_, _, w.performs c, rfl, rfl⟩

/-- Calls made one after another: their entries and the world in the end. -/
theorem history_append (w : World) (calls more : List Call) :
    w.history (calls ++ more) = w.history calls ++ (calls.foldl after w).history more := by
  induction calls generalizing w with
  | nil => rfl
  | cons c rest ih => exact congrArg (w.entry c :: ·) (ih (w.after c))

/-- An entry of a history is that of a call between the earlier and the later ones. -/
theorem exists_of_history_eq_append {w : World} {calls : List Call} {first rest : List Entry}
    {e : Entry} (h : w.history calls = first ++ e :: rest) :
    ∃ before c later, calls = before ++ c :: later ∧ first = w.history before ∧
      e = (before.foldl after w).entry c := by
  induction first generalizing w calls with
  | nil =>
      cases calls with
      | nil => cases h
      | cons c later =>
          obtain ⟨rfl, rfl⟩ := List.cons.inj h
          exact ⟨[], c, later, rfl, rfl, rfl⟩
  | cons f first ih =>
      cases calls with
      | nil => cases h
      | cons c later =>
          obtain ⟨rfl, hrest⟩ := List.cons.inj h
          obtain ⟨before, d, later, rfl, rfl, rfl⟩ := ih hrest
          exact ⟨c :: before, d, later, rfl, rfl, rfl⟩

/-- Every session that is held came about by submitted moves. -/
def Played (w : World) : Prop :=
  ∀ id s, w.registry.find? id = some s → s.Reached

/-- A call keeps this: what it stores is a new session, or a session after one more move. -/
theorem Played.after {w : World} (h : w.Played) (c : Call) : (w.after c).Played := by
  rcases w.perform_cases c with hsame | ⟨event, session, reply, hcommits, hperform⟩
  · have hafter : w.after c = w := hsame
    rw [hafter]
    exact h
  · have hafter : w.after c = w.commit event session := congrArg Prod.snd hperform
    have hstored : session.Reached := by
      generalize c.operation = operation at hcommits
      cases hcommits with
      | create hdistinct => exact Session.reached_start _ _
      | turn hheld hmove => exact (h _ _ hheld).submit hmove
    rw [hafter]
    intro id s hheld
    rw [commit, Registry.find?_put] at hheld
    split at hheld
    · exact Option.some.inj hheld ▸ hstored
    · exact h id s hheld

/-- After any calls every session of the registry came about by moves from a new one. -/
theorem played_run (calls : List Call) : (run calls).Played := by
  have hstart : start.Played := fun _ _ hheld => by cases hheld
  suffices hgeneral : ∀ w : World, w.Played → (calls.foldl after w).Played from
    hgeneral start hstart
  induction calls with
  | nil => exact fun _ h => h
  | cons c rest ih => exact fun w h => ih _ (h.after c)

/-- A turn whose move is accepted and whose event is published is made. -/
theorem perform_of_move {w : World} {clock : Clock} {request : TurnRequest} {session next : Session}
    (hheld : w.registry.find? request.sessionId = some session)
    (hmove : session.submit (request.submission clock) = .ok next) :
    w.perform ⟨.turn clock request, .ok ()⟩ =
      (.ok (.turn next.replyAfter),
        w.commit (.played next request.playerId request.x request.y clock.reportedAt) next) := by
  obtain ⟨_, _, hadmits, _⟩ := Session.submit_eq_ok_iff.1 hmove
  have hplace : session.place clock.movedAt request.playerId request.moveId request.x request.y =
      .ok next := hmove
  rw [perform_eq_settle_plan, Session.replyAfter_eq]
  show w.settle (.ok ()) ((w.registry.planTurn clock request).map .turn) = _
  simp only [Registry.planTurn, hheld, hadmits.in_progress, hplace]
  rfl

/-- A turn that its session refuses is answered by the refusal and changes nothing. -/
theorem perform_of_refusal {w : World} {clock : Clock} {request : TurnRequest} {session : Session}
    {refusal : PlaceError} (hheld : w.registry.find? request.sessionId = some session)
    (hopen : session.outcome = none)
    (hrefused : session.submit (request.submission clock) = .error refusal)
    (verdict : Except PublishError Unit) :
    w.perform ⟨.turn clock request, verdict⟩ = (.ok (.turn (.ofRefusal refusal)), w) := by
  have hplace : session.place clock.movedAt request.playerId request.moveId request.x request.y =
      .error refusal := hrefused
  rw [perform_eq_settle_plan]
  show w.settle verdict ((w.registry.planTurn clock request).map .turn) = _
  simp only [Registry.planTurn, hheld, hopen, hplace]
  rfl

end World

/-- The turn that a call made, if it made one: it then changed the session that it was meant for. -/
def Entry.made? (e : Entry) : Option TurnRequest :=
  match e.call.operation with
  | .turn _ request =>
      if (e.before.after e.call).registry.find? request.sessionId =
        e.before.registry.find? request.sessionId then none else some request
  | _ => none

namespace World

/-- A call that leaves the world alone makes no turn. -/
theorem made?_eq_none {w : World} {c : Call} (h : w.after c = w) : (w.entry c).made? = none := by
  unfold Entry.made?
  split
  · exact if_pos (by rw [entry, h])
  · rfl

/-- A turn is made if its session is held and accepts the move, its event is published, and in no
other case. -/
theorem made?_eq_some_iff {w : World} {c : Call} {request : TurnRequest} :
    (w.entry c).made? = some request ↔
      ∃ clock session next, c = ⟨.turn clock request, .ok ()⟩ ∧
        w.registry.find? request.sessionId = some session ∧
        session.submit (request.submission clock) = .ok next := by
  constructor
  · intro h
    obtain ⟨reply, next, hperforms, _, hafter⟩ := w.exists_performs c
    cases hperforms with
    | created _ => cases h
    | @made clock submitted session next hheld hmove =>
        have hmade : (if _ then none else some submitted) = some request := h
        split at hmade
        · cases hmade
        · cases hmade
          exact ⟨clock, session, next, rfl, hheld, hmove⟩
    | _ =>
        rw [made?_eq_none hafter] at h
        cases h
  · rintro ⟨clock, session, next, rfl, hheld, hmove⟩
    have hafter := congrArg Prod.snd (perform_of_move hheld hmove)
    have hstored : (w.after ⟨.turn clock request, .ok ()⟩).registry.find? request.sessionId =
        some next := by
      rw [after, hafter, commit, Registry.find?_put, if_pos (Registry.id_of_move hheld hmove)]
    -- The move was counted, so the session is not the one that was held before.
    have hcount := Session.turnCount_of_submit hmove
    have hchanged : some next ≠ some session := by
      intro hsame
      rw [Option.some.inj hsame] at hcount
      omega
    show (if _ = _ then none else some request) = some request
    rw [if_neg]
    rw [show (w.entry ⟨.turn clock request, .ok ()⟩).before = w from rfl, hheld]
    exact hstored ▸ hchanged

end World

end Noughts
