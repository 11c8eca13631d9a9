import Mathlib.Data.List.Induction
import Mathlib.Data.List.Nodup
import Noughts.Proofs.Registry.Answers
import Noughts.Proofs.Registry.Chronicle
import Noughts.Proofs.Session.Turns

/-!
# Turns are made once

A turn may reach the registry any number of times: it is sent again after a failure, it is
duplicated on its way, or it arrives late. The move identifier sorts this out. Each session makes
the turns with the numbers 0, 1, 2, ... in this order, `World.Ordered`, so no two calls make a turn
of one session under one number, and in particular no turn is made twice:
`World.turns_made_once`. Every other delivery of it is turned away.
-/

namespace Noughts

/-- The number that a submitted turn carries as its move identifier. -/
def TurnRequest.number (request : TurnRequest) : Nat := request.moveId.value.toNat

namespace Entry

/-- The turns of one session that were made in the course of a history, in order. -/
def turnsOn (id : SessionId) (entries : List Entry) : List TurnRequest :=
  (entries.filterMap made?).filter fun request => request.sessionId = id

/-- The turns that were made in two stretches of a history are those of the first and then those of
the second. -/
theorem turnsOn_append (id : SessionId) (entries more : List Entry) :
    turnsOn id (entries ++ more) = turnsOn id entries ++ turnsOn id more := by
  simp [turnsOn]

/-- These are the turns on the session that some call made. -/
theorem mem_turnsOn {id : SessionId} {entries : List Entry} {request : TurnRequest} :
    request ∈ turnsOn id entries ↔
      (∃ e ∈ entries, e.made? = some request) ∧ request.sessionId = id := by
  simp [turnsOn]

/-- A submitted turn was not made: the call failed, the session refused the move, or the session was
over before and the answer is its outcome. -/
inductive TurnedAway (e : Entry) : Prop where
  | failed {cause : RegistryError} (hreply : e.reply = .error cause)
  | refused {refusal : PlaceError} (hreply : e.reply = .ok (.turn (.ofRefusal refusal)))
  | finished {clock : Clock} {request : TurnRequest} {session : Session} {outcome : Outcome}
      (hturn : e.call.operation = .turn clock request)
      (hheld : e.before.registry.find? request.sessionId = some session)
      (hfinished : session.outcome = some outcome)
      (hreply : e.reply = .ok (.turn (.finished outcome)))

end Entry

/-- A reached session takes the move with the number of its next turn, from the player whose turn it
is. -/
theorem Session.Reached.turn_of_submit {s next : Session} {m : Submission} (h : s.Reached)
    (hm : s.submit m = .ok next) :
    m.moveId.value.toNat = s.turnCount ∧ m.player = s.players.onTurn s.turnCount := by
  obtain ⟨c, mark, hadmits, _⟩ := Session.submit_eq_ok_iff.1 hm
  rw [hadmits.expected, ← hadmits.is_turn]
  refine ⟨h.expectedMoveId_toNat, ?_⟩
  obtain ⟨id, players, moves, rfl⟩ := h
  have hturn := Session.inTurn_play id players moves
  rw [hturn.currentPlayer_eq, hturn.players_eq]

namespace World

/-- Calls with fresh identifiers are fresh one after another. -/
theorem fresh_append {w : World} {calls more : List Call} :
    w.Fresh (calls ++ more) ↔ w.Fresh calls ∧ (calls.foldl after w).Fresh more := by
  induction calls generalizing w with
  | nil => exact (and_iff_right trivial).symm
  | cons c rest ih =>
      show _ ∧ (w.after c).Fresh (rest ++ more) ↔ (_ ∧ _) ∧ _
      rw [ih, and_assoc]
      rfl

/-- A call leaves a session that is held alone or adds a move to it. -/
theorem find?_after_of_held {w : World} {c : Call} {id : SessionId} {s : Session}
    (hfresh : c.operation.Fresh w.registry) (hheld : w.registry.find? id = some s) :
    ∃ t, (w.after c).registry.find? id = some t ∧ (t = s ∨ s.turnCount < t.turnCount) := by
  obtain ⟨reply, next, hperforms, _, hafter⟩ := w.exists_performs c
  rw [hafter]
  cases hperforms with
  | @created new now first second hdistinct =>
      have hother : new ≠ id := by
        rintro rfl
        cases hheld.symm.trans hfresh
      exact ⟨s, (Registry.find?_put _ _ _).trans ((if_neg hother).trans hheld), Or.inl rfl⟩
  | @made clock request session next hsession hmove =>
      show ∃ t, (w.registry.put next).find? id = some t ∧ _
      rw [Registry.find?_put, Registry.id_of_move hsession hmove]
      by_cases hid : request.sessionId = id
      · rw [hid, hheld] at hsession
        obtain rfl := Option.some.inj hsession
        refine ⟨next, if_pos hid, Or.inr ?_⟩
        rw [Session.turnCount_of_submit hmove]
        exact Nat.lt_succ_self _
      · exact ⟨s, (if_neg hid).trans hheld, Or.inl rfl⟩
  | _ => exact ⟨s, hheld, Or.inl rfl⟩

/-- In the course of a run a session changes only by further moves. -/
theorem find?_foldl_of_held {w : World} {calls : List Call} {id : SessionId} {s : Session}
    (hfresh : w.Fresh calls) (hheld : w.registry.find? id = some s) :
    ∃ t, (calls.foldl after w).registry.find? id = some t ∧
      (t = s ∨ s.turnCount < t.turnCount) := by
  induction calls generalizing w s with
  | nil => exact ⟨s, hheld, Or.inl rfl⟩
  | cons c rest ih =>
      obtain ⟨hc, hrest⟩ := hfresh
      obtain ⟨t, ht, hfirst⟩ := find?_after_of_held hc hheld
      obtain ⟨u, hu, hsecond⟩ := ih hrest ht
      refine ⟨u, hu, ?_⟩
      rcases hfirst with rfl | hfirst
      · exact hsecond
      · rcases hsecond with rfl | hsecond
        · exact Or.inr hfirst
        · exact Or.inr (Nat.lt_trans hfirst hsecond)

/-- Between two times at which a session expects the same move it did not change. -/
theorem eq_of_expectedMoveId_eq {earlier between : List Call} {id : SessionId}
    {seen session : Session} (hfresh : start.Fresh (earlier ++ between))
    (hseen : (run earlier).registry.find? id = some seen)
    (hheld : (run (earlier ++ between)).registry.find? id = some session)
    (hexpected : seen.expectedMoveId = session.expectedMoveId) : seen = session := by
  have hseenCount := (played_run earlier _ _ hseen).expectedMoveId_toNat
  have hcount := (played_run (earlier ++ between) _ _ hheld).expectedMoveId_toNat
  obtain ⟨t, ht, hgrown⟩ := find?_foldl_of_held (fresh_append.1 hfresh).2 hseen
  rw [run, List.foldl_append] at hheld
  obtain rfl := Option.some.inj (hheld.symm.trans ht)
  rw [hexpected, hcount] at hseenCount
  rcases hgrown with hsame | hgrown
  · exact hsame.symm
  · exact absurd hseenCount (Nat.ne_of_gt hgrown)

/-- The turns that were made of the session under an identifier are `turns`: they carry the numbers
0, 1, 2, ... in this order, and there are as many as the session counts. -/
structure Ordered (id : SessionId) (w : World) (turns : List TurnRequest) : Prop where
  not_held : w.registry.find? id = none → turns = []
  held : ∀ s, w.registry.find? id = some s →
    turns.map TurnRequest.number = List.range s.turnCount

/-- No number occurs twice. -/
theorem Ordered.nodup {id : SessionId} {w : World} {turns : List TurnRequest}
    (h : Ordered id w turns) : (turns.map TurnRequest.number).Nodup := by
  cases hfound : w.registry.find? id with
  | none =>
      rw [h.not_held hfound]
      exact List.nodup_nil
  | some s =>
      rw [h.held s hfound]
      exact List.nodup_range

/-- Only what is held under the identifier matters. -/
theorem Ordered.congr {id : SessionId} {w next : World} {turns : List TurnRequest}
    (h : Ordered id w turns) (hsame : next.registry.find? id = w.registry.find? id) :
    Ordered id next turns :=
  ⟨fun hs => h.not_held (hsame.symm.trans hs), fun s hs => h.held s (hsame.symm.trans hs)⟩

/-- A call adds the turn that it makes, if it makes one, under the next number. -/
theorem Ordered.after {id : SessionId} {w : World} {c : Call} {turns : List TurnRequest}
    (h : Ordered id w turns) (hplayed : w.Played) (hfresh : c.operation.Fresh w.registry) :
    Ordered id (w.after c) (turns ++ Entry.turnsOn id [w.entry c]) := by
  obtain ⟨reply, next, hperforms, _, hafter⟩ := w.exists_performs c
  cases hperforms with
  | @created new now first second hdistinct =>
      have hnone : Entry.turnsOn id [w.entry ⟨.create new now [first, second], .ok ()⟩] = [] := rfl
      rw [hafter, hnone, List.append_nil]
      have hfound : (w.registry.put (Session.start new ⟨first, second⟩)).find? id =
          if new = id then some (Session.start new ⟨first, second⟩) else w.registry.find? id :=
        Registry.find?_put _ _ _
      by_cases hid : new = id
      · subst hid
        -- The identifier is fresh, so no turn was made under it before either.
        have hempty := h.not_held hfresh
        rw [if_pos rfl] at hfound
        refine ⟨fun _ => hempty, fun s hs => ?_⟩
        obtain rfl := Option.some.inj (hfound.symm.trans hs)
        rw [hempty]
        rfl
      · exact h.congr (hfound.trans (if_neg hid))
  | @made clock request session next hheld hmove =>
      have hmade : (w.entry ⟨.turn clock request, .ok ()⟩).made? = some request :=
        made?_eq_some_iff.2 ⟨clock, session, next, rfl, hheld, hmove⟩
      have hturn : Entry.turnsOn id [w.entry ⟨.turn clock request, .ok ()⟩] =
          if request.sessionId = id then [request] else [] := by
        rw [Entry.turnsOn, List.filterMap_cons_some hmade, List.filterMap_nil,
          List.filter_singleton]
        simp
      have hfound : (w.registry.put next).find? id =
          if request.sessionId = id then some next else w.registry.find? id := by
        rw [Registry.find?_put, Registry.id_of_move hheld hmove]
      rw [hafter, hturn]
      by_cases hid : request.sessionId = id
      · rw [if_pos hid] at hfound ⊢
        refine ⟨fun hs => ?_, fun s hs => ?_⟩
        · cases hfound.symm.trans hs
        · obtain rfl := Option.some.inj (hfound.symm.trans hs)
          have hnumber : request.number = session.turnCount :=
            ((hplayed _ _ hheld).turn_of_submit hmove).1
          rw [List.map_append, h.held session (hid ▸ hheld), List.map_singleton, hnumber,
            Session.turnCount_of_submit hmove, List.range_succ]
      · rw [if_neg hid, List.append_nil]
        exact h.congr (hfound.trans (if_neg hid))
  | _ =>
      rw [Entry.turnsOn, List.filterMap_cons_none (made?_eq_none hafter), hafter]
      simpa using h

/-- After any calls with fresh identifiers the turns of each session were made in order. -/
theorem ordered_run (id : SessionId) (calls : List Call) (hfresh : start.Fresh calls) :
    Ordered id (run calls) (Entry.turnsOn id (start.history calls)) := by
  induction calls using List.reverseRecOn with
  | nil => exact ⟨fun _ => rfl, fun s hs => by cases hs⟩
  | append_singleton calls c ih =>
      obtain ⟨hbefore, hc, _⟩ := fresh_append.1 hfresh
      rw [history_append, Entry.turnsOn_append, run, List.foldl_append]
      exact (ih hbefore).after (played_run calls) hc

/-- What makes the turn `request` the only one of its kind, if the call `e` made it and the entries
`first` and `rest` stand before and after it in the history. -/
structure MadeOnce (first : List Entry) (e : Entry) (rest : List Entry) (request : TurnRequest) :
    Prop where
  /-- The session had made so many turns before, and it was the turn of the player. If the session
  was seen earlier with that number of turns, it was the same session then. -/
  in_turn : ∃ session, e.before.registry.find? request.sessionId = some session ∧
    session.turnCount = request.number ∧
    request.playerId = session.players.onTurn request.number ∧
    ∀ f ∈ first, ∀ seen, f.before.registry.find? request.sessionId = some seen →
      seen.expectedMoveId = request.moveId → seen = session
  /-- No other call made a turn of that session under that move identifier. -/
  no_other : ∀ f ∈ first ++ rest, ∀ other, f.made? = some other →
    other.sessionId = request.sessionId → other.moveId ≠ request.moveId
  /-- Every other delivery of the turn was turned away. -/
  turned_away : ∀ f ∈ first ++ rest, ∀ clock, f.call.operation = .turn clock request →
    f.TurnedAway

/-- A submitted turn that is not made is turned away. -/
theorem turnedAway_of_made?_ne {w : World} {c : Call} {clock : Clock} {request : TurnRequest}
    (hturn : c.operation = .turn clock request) (hmade : (w.entry c).made? ≠ some request) :
    (w.entry c).TurnedAway := by
  obtain ⟨operation, verdict⟩ := c
  obtain rfl : operation = .turn clock request := hturn
  obtain ⟨reply, next, hperforms, hentry, _⟩ := w.exists_performs ⟨.turn clock request, verdict⟩
  have hreply : (w.entry ⟨.turn clock request, verdict⟩).reply = reply :=
    congrArg Entry.reply hentry
  cases hperforms with
  | unknown _ => exact .failed hreply
  | finished hheld hfinished => exact .finished rfl hheld hfinished hreply
  | refused _ _ _ => exact .refused hreply
  | unpublished _ _ => exact .failed hreply
  | @made _ _ session next hheld hmove =>
      exact absurd (made?_eq_some_iff.2 ⟨clock, session, next, rfl, hheld, hmove⟩) hmade

/-- An entry of a history is that of a call. -/
theorem exists_of_mem_history {w : World} {calls : List Call} {e : Entry}
    (h : e ∈ w.history calls) : ∃ (before : List Call) (c : Call),
      e = (before.foldl after w).entry c := by
  obtain ⟨first, rest, hsplit⟩ := List.append_of_mem h
  obtain ⟨before, c, _, _, _, hentry⟩ := exists_of_history_eq_append hsplit
  exact ⟨before, c, hentry⟩

/-- Two turns of one session that different calls made have different numbers. -/
theorem number_ne_of_ordered {w : World} {first rest : List Entry} {e : Entry}
    {request : TurnRequest}
    (h : Ordered request.sessionId w (Entry.turnsOn request.sessionId (first ++ e :: rest)))
    (hmade : e.made? = some request) {f : Entry} (hf : f ∈ first ++ rest) {other : TurnRequest}
    (hother : f.made? = some other) (hsession : other.sessionId = request.sessionId) :
    other.number ≠ request.number := by
  have hturns : Entry.turnsOn request.sessionId (first ++ e :: rest) =
      Entry.turnsOn request.sessionId first ++
        request :: Entry.turnsOn request.sessionId rest := by
    rw [Entry.turnsOn_append, Entry.turnsOn, Entry.turnsOn, List.filterMap_cons_some hmade,
      List.filter_cons_of_pos (by simp)]
    rfl
  have hnodup := h.nodup
  rw [hturns, List.map_append, List.map_cons, List.nodup_middle, ← List.map_append,
    ← Entry.turnsOn_append, List.nodup_cons] at hnodup
  intro hnumber
  have hmem := Entry.mem_turnsOn.2 ⟨⟨f, hf, hother⟩, hsession⟩
  exact hnodup.1 (List.mem_map.2 ⟨other, hmem, hnumber⟩)

/-- Whatever turns are submitted by whomever, in whatever order they arrive and however often, and
whichever events fail to be published: a session makes the turns 0, 1, 2, ... in this order, and a
turn that was made was made once, in the state of the session that it was meant for. Every other
delivery of it is turned away. Each generated identifier has to be fresh. -/
theorem turns_made_once (calls : List Call) (hfresh : start.Fresh calls) :
    (∀ id, Ordered id (run calls) (Entry.turnsOn id (start.history calls))) ∧
    ∀ first e rest request, start.history calls = first ++ e :: rest → e.made? = some request →
      MadeOnce first e rest request := by
  refine ⟨fun id => ordered_run id calls hfresh, fun first e rest request hsplit hmade => ?_⟩
  have hordered := ordered_run request.sessionId calls hfresh
  rw [hsplit] at hordered
  have hother : ∀ f ∈ first ++ rest, ∀ other, f.made? = some other →
      other.sessionId = request.sessionId → other.moveId ≠ request.moveId := by
    intro f hf other hmade' hsession hmoveId
    exact number_ne_of_ordered hordered hmade hf hmade' hsession
      (congrArg (fun moveId => moveId.value.toNat) hmoveId)
  refine ⟨?_, hother, fun f hf clock hturn => ?_⟩
  · obtain ⟨before, c, later, rfl, rfl, rfl⟩ := exists_of_history_eq_append hsplit
    obtain ⟨clock, session, next, rfl, hheld, hmove⟩ := made?_eq_some_iff.1 hmade
    obtain ⟨_, _, hadmits, _⟩ := Session.submit_eq_ok_iff.1 hmove
    obtain ⟨hnumber, hplayer⟩ := (played_run before _ _ hheld).turn_of_submit hmove
    have hnumber : request.number = session.turnCount := hnumber
    refine ⟨session, hheld, hnumber.symm, hnumber ▸ hplayer, fun f hf seen hseen hexpected => ?_⟩
    obtain ⟨first, rest, hinner⟩ := List.append_of_mem hf
    obtain ⟨earlier, d, between, rfl, _, rfl⟩ := exists_of_history_eq_append hinner
    exact eq_of_expectedMoveId_eq (fresh_append.1 hfresh).1 hseen hheld
      (hexpected.trans hadmits.expected)
  · -- Only `e` made the turn, and what is not made is turned away.
    have hmem : f ∈ start.history calls := by
      rw [hsplit]
      rcases List.mem_append.1 hf with hf | hf
      · exact List.mem_append_left _ hf
      · exact List.mem_append_right _ (List.mem_cons_of_mem _ hf)
    obtain ⟨before, c, rfl⟩ := exists_of_mem_history hmem
    exact turnedAway_of_made?_ne hturn fun hmade' => hother _ hf request hmade' rfl rfl

/-- A first move whose event is not published at first and which then arrives three times, and the
answer to it, which arrives once too early. -/
def redelivered : List Call :=
  let first := Operation.turn ⟨2, 3⟩ ⟨⟨"g"⟩, ⟨"ann"⟩, ⟨0⟩, 1, 1⟩
  let second := Operation.turn ⟨4, 5⟩ ⟨⟨"g"⟩, ⟨"bob"⟩, ⟨1⟩, 0, 2⟩
  [⟨.create ⟨"g"⟩ 1 [⟨"ann"⟩, ⟨"bob"⟩], .ok ()⟩, ⟨first, .error ⟨.stalled, ⟨"outbox", 1⟩⟩⟩,
    ⟨second, .ok ()⟩, ⟨first, .ok ()⟩, ⟨first, .ok ()⟩, ⟨second, .ok ()⟩, ⟨first, .ok ()⟩]

/-- Of six deliveries of two turns, two made a turn, the turns 0 and 1. -/
theorem turns_made_once_redelivered :
    start.Fresh redelivered ∧
      (Entry.turnsOn ⟨"g"⟩ (start.history redelivered)).map TurnRequest.number = [0, 1] ∧
      ∀ first e rest request, start.history redelivered = first ++ e :: rest →
        e.made? = some request → MadeOnce first e rest request := by
  have hfresh : start.Fresh redelivered :=
    ⟨rfl, trivial, trivial, trivial, trivial, trivial, trivial, trivial⟩
  exact ⟨hfresh, by decide, (turns_made_once redelivered hfresh).2⟩

end World

end Noughts
