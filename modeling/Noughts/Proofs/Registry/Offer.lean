import Mathlib.Data.List.Induction
import Noughts.Proofs.MoveRange.Exact
import Noughts.Proofs.Registry.Answers
import Noughts.Proofs.Session.Bounds
import Noughts.Proofs.Session.Turns

/-!
# The last reply tells what will be accepted

The creator of a session and whoever made a move in it are told who moves next, under which
identifier and to which cells: an `Offer`. For as long as a session is in progress the last offer
that was made of it is the one that it would make now, `World.Offered`, whatever was refused or
failed since and whatever happened to other sessions. A turn is made exactly if it is within that
offer, and there always is such a turn: `World.last_offer_decides`.
-/

namespace Noughts

/-- Who makes the next move of a session, under which identifier, and to which cells. -/
structure Offer where
  nextPlayer : PlayerId
  moveId : MoveId
  validMoves : List MoveRange
deriving DecidableEq, Repr

/-- Some range of the offer contains the coordinates. -/
def Offer.Covers (o : Offer) (x y : UInt64) : Prop :=
  ∃ r ∈ o.validMoves, r.contains (x, y) = true

namespace Session

variable {s : Session} {m : Submission}

/-- What a session tells about its next move. -/
def offer (s : Session) : Offer := ⟨s.currentPlayer, s.expectedMoveId, s.validMoves⟩

/-- The offer of a session covers the free cells and nothing else. -/
theorem offer_covers_iff {x y : UInt64} :
    s.offer.Covers x y ↔ ∃ c, Cell.on? x y = some c ∧ s.grid.get c = .empty :=
  s.grid.exists_freeRanges_contains_iff x y

/-- While a game goes on it accepts the moves within its offer and no others. -/
theorem exists_submit_eq_ok_iff (hopen : s.outcome = none) :
    (∃ next, s.submit m = .ok next) ↔
      m.player = s.offer.nextPlayer ∧ m.moveId = s.offer.moveId ∧ s.offer.Covers m.x m.y := by
  rw [exists_submit_iff, activePlayer?_eq_some_iff, offer_covers_iff]
  constructor
  · rintro ⟨⟨_, hplayer⟩, hmoveId, hcell⟩
    exact ⟨hplayer.symm, hmoveId, hcell⟩
  · rintro ⟨hplayer, hmoveId, hcell⟩
    exact ⟨⟨hopen, hplayer.symm⟩, hmoveId, hcell⟩

/-- From the right player under the right identifier only the cell can be refused. -/
theorem submit_of_not_covers (hopen : s.outcome = none) (hplayer : m.player = s.offer.nextPlayer)
    (hmoveId : m.moveId = s.offer.moveId) (hcovers : ¬ s.offer.Covers m.x m.y) :
    s.submit m = .error .invalidMove := by
  refine submit_eq_invalidMove_iff.2
    ⟨activePlayer?_eq_some_iff.2 ⟨hopen, hplayer.symm⟩, hmoveId, ?_⟩
  cases hcell : s.freeCell? m.x m.y with
  | none => rfl
  | some c => exact absurd (offer_covers_iff.2 ⟨c, freeCell?_eq_some_iff.1 hcell⟩) hcovers

/-- While a game goes on its offer covers some cell. -/
theorem Reached.exists_covers (h : s.Reached) (hopen : s.outcome = none) :
    ∃ x y, s.offer.Covers x y := by
  obtain ⟨id, players, moves, rfl⟩ := h
  have hnotFull := (judged_play id players moves).not_full hopen
  obtain ⟨c, hfree⟩ := Classical.not_forall.1 hnotFull
  have hcell : Cell.on? (UInt64.ofNat c.x.val) (UInt64.ofNat c.y.val) = some c :=
    Cell.on?_eq_some_iff.2 ⟨Cell.toNat_coordinate c.x, Cell.toNat_coordinate c.y⟩
  exact ⟨_, _, offer_covers_iff.2 ⟨c, hcell, Decidable.not_not.1 hfree⟩⟩

end Session

namespace Entry

/-- The offer that a call made of a session: that of a creation or of an accepted turn. -/
def offer? (id : SessionId) (e : Entry) : Option Offer :=
  match e.call.operation, e.reply with
  | .create _ _ _, .ok (.created c) =>
      if c.sessionId = id then some ⟨c.nextPlayer, c.moveId, c.validMoves⟩ else none
  | .turn _ request, .ok (.turn (.accepted moveId nextPlayer validMoves)) =>
      if request.sessionId = id then some ⟨nextPlayer, moveId, validMoves⟩ else none
  | _, _ => none

/-- The most recent offer of a session in the course of a history. -/
def lastOffer? (id : SessionId) (entries : List Entry) : Option Offer :=
  (entries.filterMap (offer? id)).getLast?

/-- The offer of the last call, if it made one, is the most recent one. -/
theorem lastOffer?_concat (id : SessionId) (entries : List Entry) (e : Entry) :
    lastOffer? id (entries ++ [e]) = (e.offer? id).or (lastOffer? id entries) := by
  rw [lastOffer?, List.filterMap_append, List.getLast?_append, lastOffer?]
  cases h : e.offer? id with
  | none => rw [List.filterMap_cons_none h]; rfl
  | some offer => rw [List.filterMap_cons_some h]; rfl

end Entry

namespace World

/-- If the session under an identifier is in progress, its last offer is the one it would make
now. -/
def Offered (id : SessionId) (w : World) (entries : List Entry) : Prop :=
  ∀ s, w.registry.find? id = some s → s.outcome = none →
    Entry.lastOffer? id entries = some s.offer

/-- A call either makes the offer of the session that it stores, or leaves the session and its last
offer alone. -/
theorem Offered.after {id : SessionId} {w : World} {entries : List Entry}
    (h : Offered id w entries) (c : Call) : Offered id (w.after c) (entries ++ [w.entry c]) := by
  obtain ⟨reply, next, hperforms, hentry, hafter⟩ := w.exists_performs c
  rw [hafter, hentry]
  intro s hheld hopen
  rw [Entry.lastOffer?_concat]
  cases hperforms with
  | @created new now first second hdistinct =>
      have hfound : (w.registry.put (.start new ⟨first, second⟩)).find? id = some s := hheld
      rw [Registry.find?_put] at hfound
      by_cases hid : new = id
      · have hs := Option.some.inj ((if_pos hid).symm.trans hfound)
        subst hs
        show (if new = id then some _ else none).or _ = _
        rw [if_pos hid]
        rfl
      · have hbefore := h s ((if_neg hid).symm.trans hfound) hopen
        show (if new = id then some _ else none).or _ = _
        rw [if_neg hid]
        exact hbefore
  | @made clock request session next hsession hmove =>
      have hfound : (w.registry.put next).find? id = some s := hheld
      rw [Registry.find?_put, Registry.id_of_move hsession hmove] at hfound
      by_cases hid : request.sessionId = id
      · obtain rfl := Option.some.inj ((if_pos hid).symm.trans hfound)
        simp only [Entry.offer?, Session.replyAfter, hopen, if_pos hid]
        rfl
      · have hbefore := h s ((if_neg hid).symm.trans hfound) hopen
        cases houtcome : next.outcome with
        | none =>
            simp only [Entry.offer?, Session.replyAfter, houtcome, if_neg hid]
            exact hbefore
        | some outcome =>
            simp only [Entry.offer?, Session.replyAfter, houtcome]
            exact hbefore
  | @refused clock request verdict session refusal _ _ _ =>
      -- None of the refusals makes an offer.
      have hnone : Entry.offer? id
          ⟨w, ⟨.turn clock request, verdict⟩, .ok (.turn (.ofRefusal refusal))⟩ = none := by
        cases refusal <;> rfl
      rw [hnone]
      exact h s hheld hopen
  | _ => exact h s hheld hopen

/-- After any calls the last offer of a session in progress is the one that the session would
make. -/
theorem offered_run (id : SessionId) (calls : List Call) :
    Offered id (run calls) (start.history calls) := by
  induction calls using List.reverseRecOn with
  | nil => exact fun s hheld => by cases hheld
  | append_singleton calls c ih =>
      rw [history_append, run, List.foldl_append]
      exact ih.after c

/-- An offer tells which turns of its session are made, and why one within reach is not. -/
structure Decides (w : World) (offer : Offer) (clock : Clock) (request : TurnRequest) : Prop where
  made_iff : (w.entry ⟨.turn clock request, .ok ()⟩).made? = some request ↔
    request.playerId = offer.nextPlayer ∧ request.moveId = offer.moveId ∧
      offer.Covers request.x request.y
  invalid : request.playerId = offer.nextPlayer → request.moveId = offer.moveId →
    ¬ offer.Covers request.x request.y →
    ∀ verdict, (w.perform ⟨.turn clock request, verdict⟩).1 = .ok (.turn .invalidMove)

/-- The offer that a session would make decides about the turns on it. -/
theorem decides_offer {w : World} {request : TurnRequest} {session : Session}
    (hheld : w.registry.find? request.sessionId = some session) (hopen : session.outcome = none)
    (clock : Clock) : w.Decides session.offer clock request where
  made_iff := by
    have haccepts := Session.exists_submit_eq_ok_iff (m := request.submission clock) hopen
    refine Iff.trans ?_ haccepts
    rw [made?_eq_some_iff]
    constructor
    · rintro ⟨_, held, next, hcall, hheld', hmove⟩
      cases hcall
      obtain rfl := Option.some.inj (hheld.symm.trans hheld')
      exact ⟨next, hmove⟩
    · rintro ⟨next, hmove⟩
      exact ⟨clock, session, next, rfl, hheld, hmove⟩
  invalid hplayer hmoveId hcovers verdict := by
    have hrefused := Session.submit_of_not_covers (m := request.submission clock)
      hopen hplayer hmoveId hcovers
    exact congrArg Prod.fst (perform_of_refusal hheld hopen hrefused verdict)

/-- The last reply says exactly what will be accepted. While a session is in progress the last offer
that was made of it covers some cell, and decides about every turn on the session: it is made if it
is by the next player, under the identifier of the move and within the cells of the offer, and in no
other case; if only the cell is amiss the move is refused as invalid. No coordinates are refused by
the grid itself. -/
theorem last_offer_decides (calls : List Call) {id : SessionId} {session : Session}
    (hheld : (run calls).registry.find? id = some session) (hopen : session.outcome = none) :
    ∃ offer, Entry.lastOffer? id (start.history calls) = some offer ∧
      (∃ x y, offer.Covers x y) ∧
      ∀ clock request, request.sessionId = id →
        (run calls).Decides offer clock request ∧
        session.placeAt clock.movedAt request.playerId request.moveId request.x request.y =
          .ok (session.submit (request.submission clock)) := by
  have hlast := offered_run id calls session hheld hopen
  have hreached := played_run calls id session hheld
  refine ⟨session.offer, hlast, hreached.exists_covers hopen, fun clock request hid => ?_⟩
  subst hid
  exact ⟨decides_offer hheld hopen clock, session.placeAt_eq _ _ _ _ _⟩

/-- A session after its first move, which was repeated and then answered on the wrong cell, by the
wrong player and without success. -/
def midgame : List Call :=
  [⟨.create ⟨"g"⟩ 1 [⟨"ann"⟩, ⟨"bob"⟩], .ok ()⟩,
    ⟨.turn ⟨2, 3⟩ ⟨⟨"g"⟩, ⟨"ann"⟩, ⟨0⟩, 1, 1⟩, .ok ()⟩,
    ⟨.turn ⟨4, 5⟩ ⟨⟨"g"⟩, ⟨"ann"⟩, ⟨0⟩, 1, 1⟩, .ok ()⟩,
    ⟨.turn ⟨4, 5⟩ ⟨⟨"g"⟩, ⟨"bob"⟩, ⟨1⟩, 1, 1⟩, .ok ()⟩,
    ⟨.turn ⟨4, 5⟩ ⟨⟨"g"⟩, ⟨"bob"⟩, ⟨1⟩, 0, 2⟩, .error ⟨.stalled, ⟨"outbox", 1⟩⟩⟩,
    ⟨.create ⟨"h"⟩ 6 [⟨"bob"⟩, ⟨"cid"⟩], .ok ()⟩]

/-- After the first move the last offer is to the second player, for move 1, whatever was tried
since. -/
theorem last_offer_decides_midgame :
    let session := (Session.start ⟨"g"⟩ ⟨⟨"ann"⟩, ⟨"bob"⟩⟩).play [⟨2, ⟨"ann"⟩, ⟨0⟩, 1, 1⟩]
    (run midgame).registry.find? ⟨"g"⟩ = some session ∧ session.outcome = none ∧
      ∃ offer, Entry.lastOffer? ⟨"g"⟩ (start.history midgame) = some offer ∧
        offer.nextPlayer = ⟨"bob"⟩ ∧ offer.moveId = ⟨1⟩ ∧
        (run midgame).Decides offer ⟨7, 8⟩ ⟨⟨"g"⟩, ⟨"bob"⟩, ⟨1⟩, 0, 2⟩ := by
  intro session
  have hheld : (run midgame).registry.find? ⟨"g"⟩ = some session := by decide
  have hopen : session.outcome = none := by decide
  obtain ⟨offer, hlast, _, hdecides⟩ := last_offer_decides midgame hheld hopen
  have hoffer : some session.offer = some offer := (offered_run _ _ _ hheld hopen).symm.trans hlast
  cases hoffer
  exact ⟨hheld, hopen, _, hlast, by decide, by decide, (hdecides ⟨7, 8⟩ _ rfl).1⟩

end World

end Noughts
