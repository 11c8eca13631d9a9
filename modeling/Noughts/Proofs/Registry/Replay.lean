import Noughts.Proofs.Registry.Run

/-!
# Replaying events

A reader of the event stream can rebuild a session from its events: a creation starts the session,
and each turn makes the reported move again, under the move identifier before the one that the event
announces. `GameEvent.replay` does this. It reads a clock of its own, so a rebuilt session may
differ from the original in the time of its last move, and `Session.untimed` leaves that out.

`Replays clock log r` says that the log rebuilds every session of the registry `r`. Every commit
keeps it, `Replays.commit`, also one that starts an existing session anew.
-/

namespace Noughts

namespace Players

/-- Two players in turn order, as an event lists them. -/
def ofList? : List PlayerId → Option Players
  | [first, second] => some ⟨first, second⟩
  | _ => none

end Players

namespace GameEvent

/-- The events of one session, in the order of the log. -/
def about (id : SessionId) (log : List GameEvent) : List GameEvent :=
  log.filter fun e => e.sessionId = id

/-- One event more is the last one of its session and none of another. -/
theorem about_concat (id : SessionId) (log : List GameEvent) (e : GameEvent) :
    about id (log ++ [e]) = if e.sessionId = id then about id log ++ [e] else about id log := by
  by_cases h : e.sessionId = id <;> simp [about, h]

/-- The move that an event reports, made again at the time `now`. -/
def submission? (e : GameEvent) (now : Int64) : Option Submission := do
  let announced ← e.moveId
  let cell ← e.move
  pure ⟨now, e.playerId, ⟨announced.value - 1⟩, cell.x, cell.y⟩

/-- The session after an event, from the session that is known so far. Nothing results from a
creation without two players, from a turn of an unknown session and from a turn that the session
refuses. -/
def result? (clock : Nat → Int64) (known : Option Session) (e : GameEvent) : Option Session :=
  match e.kind with
  | .sessionCreated => do
      let players ← Players.ofList? e.players
      pure (.start e.sessionId players)
  | .turnPlayed => do
      let session ← known
      let move ← e.submission? (clock session.turnCount)
      (session.submit move).toOption

/-- Replay one event, or fail with it. The clock shows `clock n` at the move with number `n`. -/
def replayOn (clock : Nat → Int64) (known : Option Session) (e : GameEvent) :
    Except GameEvent (Option Session) :=
  match e.result? clock known with
  | some session => .ok (some session)
  | none => .error e

/-- An event with a result is replayed to that result. -/
theorem replayOn_eq_ok {clock : Nat → Int64} {known : Option Session} {e : GameEvent}
    {session : Session} (h : e.result? clock known = some session) :
    e.replayOn clock known = .ok (some session) := by
  rw [replayOn, h]

/-- Replay the events of one session one after another, from no session at all. -/
def replay (clock : Nat → Int64) (events : List GameEvent) : Except GameEvent (Option Session) :=
  events.foldlM (replayOn clock) none

/-- The last event is replayed on what the others gave. -/
theorem replay_concat {clock : Nat → Int64} {events : List GameEvent} {e : GameEvent}
    {known : Option Session} (h : replay clock events = .ok known) :
    replay clock (events ++ [e]) = replayOn clock known e := by
  unfold replay at h ⊢
  rw [List.foldlM_append, h]
  show (replayOn clock known e >>= pure) = _
  exact bind_pure _

end GameEvent

/-- The event of a move reports that move. -/
theorem GameEvent.submission?_played {s next : Session} {m : Submission}
    (hm : s.submit m = .ok next) (now reportedAt : Int64) :
    (GameEvent.played next m.player m.x m.y reportedAt).submission? now =
      some { m with now := now } := by
  obtain ⟨c, mark, h, rfl⟩ := Session.submit_eq_ok_iff.1 hm
  have hprevious : (⟨UInt64.ofNat (s.turnCount + 1) - 1⟩ : MoveId) = m.moveId := by
    rw [h.expected, Session.expectedMoveId, UInt64.ofNat_add]
    simp
  show some (⟨now, m.player, ⟨UInt64.ofNat (s.turnCount + 1) - 1⟩, m.x, m.y⟩ : Submission) = _
  rw [hprevious]

/-- Replaying the event of a move makes that move again in the session that is known. -/
theorem GameEvent.result?_played {s next : Session} {m : Submission}
    (hm : s.submit m = .ok next) (clock : Nat → Int64) (known : Session) (reportedAt : Int64) :
    (GameEvent.played next m.player m.x m.y reportedAt).result? clock (some known) =
      (known.submit { m with now := clock known.turnCount }).toOption := by
  have hmoved := GameEvent.submission?_played hm (clock known.turnCount) reportedAt
  unfold GameEvent.result?
  split
  · next hkind => cases hkind
  · simp only [bind, Option.bind_some, hmoved]

namespace Registry

/-- A session that is found under an identifier has that identifier. -/
theorem id_of_find? {r : Registry} {id : SessionId} {s : Session} (h : r.find? id = some s) :
    s.id = id := by
  simpa using List.find?_some h

/-- A move in the session under an identifier leads to a session with that identifier. -/
theorem id_of_move {r : Registry} {id : SessionId} {s next : Session} {m : Submission}
    (hheld : r.find? id = some s) (hmove : s.submit m = .ok next) : next.id = id :=
  (Session.id_of_submit hmove).trans (id_of_find? hheld)

end Registry

namespace Commits

variable {r : Registry} {op : Operation} {event : GameEvent} {session : Session} {reply : Reply}

/-- The event of a commit is about the session that is stored. -/
theorem sessionId_eq (h : Commits r op event session reply) : event.sessionId = session.id := by
  cases h <;> rfl

/-- From a session that is known but for its time, replaying the event of a commit gives the session
that is stored, but for its time. -/
theorem replayOn_ok (h : Commits r op event session reply) (clock : Nat → Int64)
    {known : Option Session}
    (hknown : known.map Session.untimed = (r.find? session.id).map Session.untimed) :
    ∃ replayed, event.replayOn clock known = .ok (some replayed) ∧
      replayed.untimed = session.untimed := by
  cases h with
  | create hdistinct => exact ⟨_, rfl, rfl⟩
  | @turn time request held next hheld hmove =>
      rw [Registry.id_of_move hheld hmove, hheld, Option.map_some, Option.map_eq_some_iff] at hknown
      obtain ⟨old, rfl, hold⟩ := hknown
      -- The replay has a clock of its own, which no decision about the move depends on.
      obtain ⟨replayed, hreplayed, huntimed⟩ :=
        Session.submit_of_untimed_eq hold.symm hmove (clock old.turnCount)
      refine ⟨replayed, ?_, huntimed⟩
      have hresult := GameEvent.result?_played hmove clock old time.reportedAt
      rw [hreplayed] at hresult
      exact GameEvent.replayOn_eq_ok hresult

end Commits

/-- For every identifier the events of that session can be replayed one after another, and they give
the session that the registry holds under it, if any, but for the time of its last move. -/
def Replays (clock : Nat → Int64) (log : List GameEvent) (r : Registry) : Prop :=
  ∀ id, ∃ replayed, GameEvent.replay clock (GameEvent.about id log) = .ok replayed ∧
    replayed.map Session.untimed = (r.find? id).map Session.untimed

/-- An empty log is replayed to an empty registry. -/
theorem replays_start (clock : Nat → Int64) : Replays clock [] .empty :=
  fun _ => ⟨none, rfl, rfl⟩

/-- A commit that stores its session and logs its event keeps the log in step with the registry. -/
theorem Replays.commit {clock : Nat → Int64} {log : List GameEvent} {r : Registry}
    {op : Operation} {event : GameEvent} {session : Session} {reply : Reply}
    (h : Replays clock log r) (hcommits : Commits r op event session reply) :
    Replays clock (log ++ [event]) (r.put session) := by
  intro id
  obtain ⟨known, hreplay, hknown⟩ := h id
  rw [GameEvent.about_concat, Registry.find?_put, hcommits.sessionId_eq]
  by_cases hid : session.id = id
  · rw [if_pos hid, if_pos hid, GameEvent.replay_concat hreplay]
    rw [← hid] at hknown
    obtain ⟨replayed, hreplayed, huntimed⟩ := hcommits.replayOn_ok clock hknown
    exact ⟨some replayed, hreplayed, congrArg some huntimed⟩
  · rw [if_neg hid, if_neg hid]
    exact ⟨known, hreplay, hknown⟩

end Noughts
