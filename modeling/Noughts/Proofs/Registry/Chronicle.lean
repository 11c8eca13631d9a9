import Mathlib.Algebra.GroupWithZero.Nat
import Noughts.Proofs.Registry.Replay
import Noughts.Proofs.Session.Marks

/-!
# The event log as the record of the registry

In a run that starts from an empty registry and generates fresh identifiers, the log and the
registry tell the same story: `accounted_run`. A session is held exactly if the log has one
creation for it; its events are that creation and one turn for each of its moves, numbered from one;
replaying them gives the session; and the log holds no other events.

The induction carries three facts. `Replays` says that the log rebuilds the sessions, `Recorded`
says which events a session has, and `Counted` counts events and sessions as a whole.
-/

namespace Noughts

namespace Registry

/-- A session whose identifier is not held comes behind the others. -/
theorem put_of_not_held {r : Registry} {s : Session} (h : r.find? s.id = none) :
    r.put s = ⟨r.sessions ++ [s]⟩ := by
  rw [put, h]
  rfl

/-- A session whose identifier is held takes the place of the one that was there. -/
theorem put_of_held {r : Registry} {s old : Session} (h : r.find? s.id = some old) :
    r.put s = ⟨r.sessions.map fun o => if o.id = s.id then s else o⟩ := by
  rw [put, h]
  rfl

/-- The number of accepted moves in all sessions together. -/
def moveCount (r : Registry) : Nat := (r.sessions.map (·.turnCount)).sum

/-- Replacing sessions by one with their identifier keeps the identifiers. -/
theorem map_id_replaced (s : Session) (sessions : List Session) :
    (sessions.map fun o => if o.id = s.id then s else o).map (·.id) = sessions.map (·.id) := by
  rw [List.map_map]
  apply List.map_congr_left
  intro o _
  by_cases h : o.id = s.id
  · simp [h]
  · simp [h]

/-- Replacing a session in a list without repeated identifiers replaces its number of moves in the
sum. -/
theorem sum_replaced {s old : Session} {sessions : List Session}
    (hdistinct : (sessions.map (·.id)).Nodup)
    (hold : sessions.find? (fun o => o.id = s.id) = some old) :
    ((sessions.map fun o => if o.id = s.id then s else o).map (·.turnCount)).sum + old.turnCount =
      (sessions.map (·.turnCount)).sum + s.turnCount := by
  induction sessions with
  | nil => cases hold
  | cons o rest ih =>
      rw [List.map_cons, List.nodup_cons] at hdistinct
      by_cases ho : o.id = s.id
      · obtain rfl : o = old := by simpa [List.find?_cons, ho] using hold
        -- The identifier does not occur again, so the rest of the list stays as it is.
        have hrest : (rest.map fun p => if p.id = s.id then s else p) = rest := by
          refine (List.map_congr_left fun p hp => if_neg fun hid => hdistinct.1 ?_).trans
            rest.map_id
          exact List.mem_map.2 ⟨p, hp, hid.trans ho.symm⟩
        rw [List.map_cons, if_pos ho, hrest]
        simp only [List.map_cons, List.sum_cons]
        omega
      · have hfound : rest.find? (fun p => p.id = s.id) = some old := by
          simpa [List.find?_cons, ho] using hold
        have hsum := ih hdistinct.2 hfound
        rw [List.map_cons, if_neg ho]
        simp only [List.map_cons, List.sum_cons]
        omega

/-- A new session adds its identifier, its place and its moves to those of the others. -/
theorem nodup_ids_put_of_not_held {r : Registry} {s : Session} (hdistinct : r.ids.Nodup)
    (h : r.find? s.id = none) : (r.put s).ids.Nodup := by
  rw [put_of_not_held h, ids, List.map_append, List.map_singleton]
  refine List.nodup_append.2 ⟨hdistinct, by simp, fun a ha b hb => ?_⟩
  obtain ⟨o, ho, rfl⟩ := List.mem_map.1 ha
  have hne : ¬ o.id = s.id := by simpa using List.find?_eq_none.1 h o ho
  rw [List.mem_singleton.1 hb]
  exact hne

/-- A new session is one session more. -/
theorem size_put_of_not_held {r : Registry} {s : Session} (h : r.find? s.id = none) :
    (r.put s).size = r.size + 1 := by
  rw [put_of_not_held h, size, List.length_append]
  rfl

/-- A new session brings its own moves along. -/
theorem moveCount_put_of_not_held {r : Registry} {s : Session} (h : r.find? s.id = none) :
    (r.put s).moveCount = r.moveCount + s.turnCount := by
  rw [put_of_not_held h, moveCount, List.map_append, List.sum_append, List.map_singleton,
    List.sum_singleton]
  rfl

/-- A session in the place of another one changes no more than the number of moves. -/
theorem ids_put_of_held {r : Registry} {s old : Session} (h : r.find? s.id = some old) :
    (r.put s).ids = r.ids := by
  rw [put_of_held h]
  exact map_id_replaced s r.sessions

/-- A session that takes the place of another one leaves their number as it is. -/
theorem size_put_of_held {r : Registry} {s old : Session} (h : r.find? s.id = some old) :
    (r.put s).size = r.size := by
  rw [put_of_held h]
  exact List.length_map _

/-- A session that takes the place of another one changes the number of all moves by as much as its
own differs. No identifier is held twice. -/
theorem moveCount_put_of_held {r : Registry} {s old : Session} (hdistinct : r.ids.Nodup)
    (h : r.find? s.id = some old) :
    (r.put s).moveCount + old.turnCount = r.moveCount + s.turnCount := by
  rw [put_of_held h]
  exact sum_replaced hdistinct h

end Registry

/-- A creation comes with an identifier under which no session is held. -/
def Operation.Fresh (r : Registry) : Operation → Prop
  | create id _ _ => r.find? id = none
  | turn _ _ => True
  | read _ => True

/-- Every identifier generated in the course of the calls is fresh when it is generated. -/
def World.Fresh (w : World) : List Call → Prop
  | [] => True
  | c :: rest => c.operation.Fresh w.registry ∧ (w.after c).Fresh rest

namespace GameEvent

/-- The number of creations in a log. -/
def creations (log : List GameEvent) : Nat := log.countP fun e => e.kind = .sessionCreated

/-- One event more is one creation more if it is one. -/
theorem creations_concat (log : List GameEvent) (e : GameEvent) :
    creations (log ++ [e]) = creations log + if e.kind = .sessionCreated then 1 else 0 := by
  rw [creations, List.countP_append, List.countP_singleton]
  simp [creations]

/-- The number that the next move has to carry according to an event. -/
def number? (e : GameEvent) : Option Nat := e.moveId.map fun id => id.value.toNat

end GameEvent

/-- The events of a session: its creation, which announces the number zero, and a turn for each
accepted move, in the order of the numbers 1, 2, ... that they announce. -/
structure Chronicle (s : Session) (birth : GameEvent) (turns : List GameEvent) : Prop where
  birth_kind : birth.kind = .sessionCreated
  birth_number : birth.number? = some 0
  turns_kind : ∀ e ∈ turns, e.kind = .turnPlayed
  turns_number : turns.map GameEvent.number? = (List.range' 1 s.turnCount).map some

namespace Chronicle

variable {s next : Session} {birth : GameEvent} {turns : List GameEvent}

/-- There are as many turns as moves were made. -/
theorem turns_length (h : Chronicle s birth turns) : turns.length = s.turnCount := by
  simpa using congrArg List.length h.turns_number

/-- There is one creation among the events of a session. -/
theorem creations_eq_one (h : Chronicle s birth turns) :
    GameEvent.creations (birth :: turns) = 1 := by
  have hturns : turns.countP (fun e => e.kind = .sessionCreated) = 0 := by
    rw [List.countP_eq_zero]
    intro e he
    simp [h.turns_kind e he]
  rw [GameEvent.creations, List.countP_cons, hturns, if_pos (by simp [h.birth_kind])]

/-- A new session has its creation. -/
theorem created (id : SessionId) (players : Players) (now : Int64) :
    Chronicle (.start id players) (.created (.start id players) now) [] where
  birth_kind := rfl
  birth_number := rfl
  turns_kind _ he := by cases he
  turns_number := rfl

/-- The event of an accepted move is the next one in the chronicle of its session. -/
theorem played {m : Submission} (h : Chronicle s birth turns) (hm : s.submit m = .ok next)
    (hreached : next.Reached) (player : PlayerId) (x y : UInt64) (now : Int64) :
    Chronicle next birth (turns ++ [.played next player x y now]) := by
  have hcount := Session.turnCount_of_submit hm
  have hnumber : (GameEvent.played next player x y now).number? = some (1 + s.turnCount) := by
    show some next.expectedMoveId.value.toNat = _
    rw [hreached.expectedMoveId_toNat, hcount, Nat.add_comm]
  refine ⟨h.birth_kind, h.birth_number, fun e he => ?_, ?_⟩
  · rcases List.mem_append.1 he with he | he
    · exact h.turns_kind e he
    · rw [List.mem_singleton.1 he]
      rfl
  · rw [List.map_append, h.turns_number, List.map_singleton, hnumber, hcount,
      List.range'_1_concat, List.map_append]
    rfl

end Chronicle

/-- Whoever is held has a chronicle in the log, and nobody else has events there. -/
structure Recorded (w : World) : Prop where
  not_held : ∀ id, w.registry.find? id = none → GameEvent.about id w.log = []
  held : ∀ id s, w.registry.find? id = some s →
    ∃ birth turns, GameEvent.about id w.log = birth :: turns ∧ Chronicle s birth turns
  reached : ∀ id s, w.registry.find? id = some s → s.Reached

/-- No identifier is held twice, the sessions are as many as the creations of the log, and its other
events are as many as the moves. -/
structure Counted (w : World) : Prop where
  distinct : w.registry.ids.Nodup
  size_eq : w.registry.size = GameEvent.creations w.log
  length_eq : w.log.length = w.registry.size + w.registry.moveCount

/-- Nothing is recorded of an empty registry, and it holds nothing. -/
theorem recorded_start : Recorded .start where
  not_held _ _ := rfl
  held _ _ hheld := by cases hheld
  reached _ _ hheld := by cases hheld

/-- An empty registry and an empty log are counted rightly. -/
theorem counted_start : Counted .start where
  distinct := List.nodup_nil
  size_eq := rfl
  length_eq := rfl

/-- The events of the stored session make up its chronicle when the event of the commit is added. -/
theorem Recorded.stored {w : World} {op : Operation} {event : GameEvent} {session : Session}
    {reply : Reply} (h : Recorded w) (hfresh : op.Fresh w.registry)
    (hcommits : Commits w.registry op event session reply) :
    session.Reached ∧ ∃ birth turns,
      GameEvent.about session.id (w.log ++ [event]) = birth :: turns ∧
        Chronicle session birth turns := by
  rw [GameEvent.about_concat, if_pos hcommits.sessionId_eq]
  cases hcommits with
  | @create id now first second hdistinct =>
      have hempty : GameEvent.about (Session.start id ⟨first, second⟩).id w.log = [] :=
        h.not_held id hfresh
      rw [hempty]
      exact ⟨Session.reached_start _ _, _, [], rfl, .created _ _ _⟩
  | turn hheld hmove =>
      obtain ⟨birth, turns, habout, hchronicle⟩ := h.held _ _ hheld
      have hreached := (h.reached _ _ hheld).submit hmove
      rw [Registry.id_of_move hheld hmove, habout]
      exact ⟨hreached, birth, _, rfl, hchronicle.played hmove hreached _ _ _ _⟩

/-- A commit of a creation with a fresh identifier, or of a turn, keeps the sessions recorded. -/
theorem Recorded.commit {w : World} {op : Operation} {event : GameEvent} {session : Session}
    {reply : Reply} (h : Recorded w) (hfresh : op.Fresh w.registry)
    (hcommits : Commits w.registry op event session reply) :
    Recorded (w.commit event session) := by
  obtain ⟨hreached, hchronicle⟩ := h.stored hfresh hcommits
  have hfound : (w.commit event session).registry.find? session.id = some session :=
    (Registry.find?_put _ _ _).trans (if_pos rfl)
  -- Under every other identifier neither the session nor its events have changed.
  have hother (id : SessionId) (hid : ¬ session.id = id) :
      (w.commit event session).registry.find? id = w.registry.find? id ∧
        GameEvent.about id (w.commit event session).log = GameEvent.about id w.log := by
    refine ⟨(Registry.find?_put _ _ _).trans (if_neg hid), ?_⟩
    exact (GameEvent.about_concat _ _ _).trans (if_neg (hcommits.sessionId_eq ▸ hid))
  refine ⟨fun id hnone => ?_, fun id s hheld => ?_, fun id s hheld => ?_⟩
  · by_cases hid : session.id = id
    · subst hid
      rw [hfound] at hnone
      cases hnone
    · rw [(hother id hid).1] at hnone
      rw [(hother id hid).2]
      exact h.not_held id hnone
  · by_cases hid : session.id = id
    · subst hid
      obtain rfl := Option.some.inj (hfound.symm.trans hheld)
      exact hchronicle
    · rw [(hother id hid).1] at hheld
      rw [(hother id hid).2]
      exact h.held id s hheld
  · by_cases hid : session.id = id
    · subst hid
      obtain rfl := Option.some.inj (hfound.symm.trans hheld)
      exact hreached
    · rw [(hother id hid).1] at hheld
      exact h.reached id s hheld

/-- A commit of a creation with a fresh identifier, or of a turn, keeps the counts. -/
theorem Counted.commit {w : World} {op : Operation} {event : GameEvent} {session : Session}
    {reply : Reply} (h : Counted w) (hfresh : op.Fresh w.registry)
    (hcommits : Commits w.registry op event session reply) :
    Counted (w.commit event session) := by
  have hsize := h.size_eq
  have hlength := h.length_eq
  have hlog : (w.log ++ [event]).length = w.log.length + 1 := List.length_append
  cases hcommits with
  | @create id now first second hdistinct =>
      have hnew : w.registry.find? (Session.start id ⟨first, second⟩).id = none := hfresh
      refine ⟨Registry.nodup_ids_put_of_not_held h.distinct hnew, ?_, ?_⟩
      · show (w.registry.put _).size = GameEvent.creations (w.log ++ [_])
        rw [Registry.size_put_of_not_held hnew, GameEvent.creations_concat, hsize]
        rfl
      · show (w.log ++ [_]).length = (w.registry.put _).size + (w.registry.put _).moveCount
        rw [hlog, Registry.size_put_of_not_held hnew, Registry.moveCount_put_of_not_held hnew]
        show w.log.length + 1 = w.registry.size + 1 + (w.registry.moveCount + 0)
        omega
  | @turn clock request old next hheld hmove =>
      have hold : w.registry.find? session.id = some old :=
        Registry.id_of_move hheld hmove ▸ hheld
      refine ⟨(Registry.ids_put_of_held hold).symm ▸ h.distinct, ?_, ?_⟩
      · show (w.registry.put _).size = GameEvent.creations (w.log ++ [_])
        rw [Registry.size_put_of_held hold, GameEvent.creations_concat, hsize]
        rfl
      · show (w.log ++ [_]).length = (w.registry.put _).size + (w.registry.put _).moveCount
        have hmoves := Registry.moveCount_put_of_held h.distinct hold
        have hcount := Session.turnCount_of_submit hmove
        rw [hlog, Registry.size_put_of_held hold]
        omega

/-- The log accounts for the registry. A session is held exactly if the log has one creation for it,
and then its events are its chronicle, which replays to the session but for the time of its last
move; whoever is not held has no events. In all there are as many creations as sessions, and as many
other events as moves. -/
structure Accounted (clock : Nat → Int64) (w : World) : Prop where
  held_iff : ∀ id, (∃ s, w.registry.find? id = some s) ↔
    GameEvent.creations (GameEvent.about id w.log) = 1
  not_held : ∀ id, w.registry.find? id = none → GameEvent.about id w.log = []
  held : ∀ id s, w.registry.find? id = some s →
    ∃ birth turns, GameEvent.about id w.log = birth :: turns ∧ Chronicle s birth turns ∧
      turns.length = s.turnCount ∧
      ∃ replayed, GameEvent.replay clock (birth :: turns) = .ok (some replayed) ∧
        replayed.untimed = s.untimed
  size_eq : w.registry.size = GameEvent.creations w.log
  length_eq : w.log.length = w.registry.size + w.registry.moveCount

/-- The three facts of the induction make up the account. -/
theorem accounted_of {clock : Nat → Int64} {w : World} (hreplays : Replays clock w.log w.registry)
    (hrecorded : Recorded w) (hcounted : Counted w) : Accounted clock w := by
  refine ⟨fun id => ⟨?_, fun hone => ?_⟩, hrecorded.not_held, fun id s hheld => ?_,
    hcounted.size_eq, hcounted.length_eq⟩
  · rintro ⟨s, hheld⟩
    obtain ⟨birth, turns, habout, hchronicle⟩ := hrecorded.held id s hheld
    rw [habout]
    exact hchronicle.creations_eq_one
  · cases hfound : w.registry.find? id with
    | some s => exact ⟨s, rfl⟩
    | none =>
        rw [hrecorded.not_held id hfound] at hone
        cases hone
  · obtain ⟨birth, turns, habout, hchronicle⟩ := hrecorded.held id s hheld
    obtain ⟨known, hreplay, hknown⟩ := hreplays id
    rw [hheld, Option.map_some, Option.map_eq_some_iff] at hknown
    obtain ⟨replayed, rfl, huntimed⟩ := hknown
    exact ⟨birth, turns, habout, hchronicle, hchronicle.turns_length, replayed, habout ▸ hreplay,
      huntimed⟩

/-- Calls with fresh identifiers keep the three facts. -/
theorem facts_of_fresh {clock : Nat → Int64} {w : World} {calls : List Call}
    (hreplays : Replays clock w.log w.registry) (hrecorded : Recorded w) (hcounted : Counted w)
    (hfresh : w.Fresh calls) :
    Replays clock (calls.foldl World.after w).log (calls.foldl World.after w).registry ∧
      Recorded (calls.foldl World.after w) ∧ Counted (calls.foldl World.after w) := by
  induction calls generalizing w with
  | nil => exact ⟨hreplays, hrecorded, hcounted⟩
  | cons c rest ih =>
      obtain ⟨hc, hrest⟩ := hfresh
      rw [List.foldl_cons]
      rcases w.perform_cases c with hsame | ⟨event, session, reply, hcommits, hperform⟩
      · have hafter : w.after c = w := hsame
        rw [hafter] at hrest ⊢
        exact ih hreplays hrecorded hcounted hrest
      · have hafter : w.after c = w.commit event session := congrArg Prod.snd hperform
        rw [hafter] at hrest ⊢
        exact ih (hreplays.commit hcommits) (hrecorded.commit hc hcommits)
          (hcounted.commit hc hcommits) hrest

/-- After any calls from an empty registry, with arbitrary arguments and with publishes that fail
arbitrarily, the log of the accepted events accounts for the registry, provided that each generated
identifier is fresh. -/
theorem accounted_run (clock : Nat → Int64) (calls : List Call)
    (hfresh : World.start.Fresh calls) : Accounted clock (World.run calls) := by
  obtain ⟨hreplays, hrecorded, hcounted⟩ :=
    facts_of_fresh (replays_start clock) recorded_start counted_start hfresh
  exact accounted_of hreplays hrecorded hcounted

/-- A session whose creation had to be repeated, with a first move, a stale copy of it, and a second
move that was published at the second try. -/
def retriedCalls : List Call :=
  let created := Operation.create ⟨"g"⟩ 1 [⟨"ann"⟩, ⟨"bob"⟩]
  let first := Operation.turn ⟨2, 3⟩ ⟨⟨"g"⟩, ⟨"ann"⟩, ⟨0⟩, 1, 1⟩
  let second := Operation.turn ⟨4, 5⟩ ⟨⟨"g"⟩, ⟨"bob"⟩, ⟨1⟩, 0, 2⟩
  [⟨created, .error ⟨.stalled, ⟨"outbox", 1⟩⟩⟩, ⟨created, .ok ()⟩, ⟨first, .ok ()⟩,
    ⟨first, .ok ()⟩, ⟨second, .error ⟨.queueFull, ⟨"outbox", 2⟩⟩⟩,
    ⟨.read ⟨"g"⟩, .ok ()⟩, ⟨second, .ok ()⟩]

/-- Seven calls, of which one was refused, two failed and one only read, leave three events, which
account for the session. -/
theorem accounted_run_retried :
    World.start.Fresh retriedCalls ∧ (World.run retriedCalls).log.length = 3 ∧
      Accounted (fun _ => 0) (World.run retriedCalls) := by
  have hfresh : World.start.Fresh retriedCalls :=
    ⟨rfl, rfl, trivial, trivial, trivial, trivial, trivial, trivial⟩
  exact ⟨hfresh, by decide, accounted_run (fun _ => 0) retriedCalls hfresh⟩

end Noughts
