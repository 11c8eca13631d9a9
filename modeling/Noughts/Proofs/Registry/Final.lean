import Noughts.Proofs.Registry.Once

/-!
# A reported outcome is final

The registry tells a player the outcome of a game in two ways: the game was over before, or the
player's move ended it and was published. In both cases the session that is held afterwards has this
outcome, and a session that is over never changes: `World.finished_for_good`. So whoever asks later,
for whatever move, is told the same, and nothing is published.

A session could only be lost by a creation under its identifier, which a fresh identifier rules out:
`World.spares_of_fresh`.
-/

namespace Noughts

namespace World

variable {w : World} {id : SessionId} {session : Session} {outcome : Outcome}

/-- No call creates a session under the identifier. -/
def Spares (id : SessionId) (calls : List Call) : Prop :=
  ∀ c ∈ calls, ∀ now playerIds, c.operation ≠ .create id now playerIds

/-- Fresh identifiers are not those of the sessions that are held. -/
theorem spares_of_fresh {calls : List Call} (hheld : w.registry.find? id = some session)
    (hfresh : w.Fresh calls) : Spares id calls := by
  induction calls generalizing w session with
  | nil => exact fun _ hc => nomatch hc
  | cons c rest ih =>
      obtain ⟨hc, hrest⟩ := hfresh
      obtain ⟨t, ht, _⟩ := find?_after_of_held hc hheld
      intro d hd now playerIds hcreate
      rcases List.mem_cons.1 hd with rfl | hd
      · rw [hcreate] at hc
        cases hheld.symm.trans hc
      · exact ih ht hrest d hd now playerIds hcreate

/-- The game under an identifier is over. -/
structure Over (id : SessionId) (session : Session) (outcome : Outcome) (w : World) : Prop where
  held : w.registry.find? id = some session
  finished : session.outcome = some outcome

/-- A turn of a finished session is answered by its outcome, with any publisher, which is not
asked. -/
theorem Over.applyTurn (h : w.Over id session outcome) {m : Type → Type} [Monad m]
    (publish : Publisher m) (clock : Clock) {request : TurnRequest} (hid : request.sessionId = id) :
    w.registry.applyTurn publish clock request = pure (.ok (.finished outcome), w.registry) := by
  have hplan : w.registry.planTurn clock request = .answer (.ok (.finished outcome)) := by
    simp only [Registry.planTurn, hid, h.held, h.finished]
  rw [Registry.applyTurn, hplan]
  rfl

/-- A call that does not create the session again leaves a finished session as it is. -/
theorem Over.after (h : w.Over id session outcome) {c : Call}
    (hc : ∀ now playerIds, c.operation ≠ .create id now playerIds) :
    (w.after c).Over id session outcome := by
  refine ⟨?_, h.finished⟩
  obtain ⟨reply, next, hperforms, _, hafter⟩ := w.exists_performs c
  rw [hafter]
  cases hperforms with
  | @created new now first second hdistinct =>
      have hother : new ≠ id := fun hid => hc now [first, second] (hid ▸ rfl)
      exact (Registry.find?_put _ _ _).trans ((if_neg hother).trans h.held)
  | @made clock request held next hheld hmove =>
      have hother : request.sessionId ≠ id := by
        rintro hid
        -- The session would have to be in progress.
        obtain ⟨_, _, hadmits, _⟩ := Session.submit_eq_ok_iff.1 hmove
        rw [hid, h.held] at hheld
        cases hheld
        cases h.finished.symm.trans hadmits.in_progress
      have hstored : next.id ≠ id := Registry.id_of_move hheld hmove ▸ hother
      exact (Registry.find?_put _ _ _).trans ((if_neg hstored).trans h.held)
  | _ => exact h.held

/-- Any number of such calls leaves a finished session as it is. -/
theorem Over.foldl (h : w.Over id session outcome) {calls : List Call} (hspares : Spares id calls) :
    (calls.foldl World.after w).Over id session outcome := by
  induction calls generalizing w with
  | nil => exact h
  | cons c rest ih =>
      obtain ⟨hc, hrest⟩ := List.forall_mem_cons.1 hspares
      exact ih (h.after hc) hrest

/-- Whoever is told that a game is over is told so of the session that is held afterwards; and if
the publisher fails, it was held before. -/
theorem over_of_finished {clock : Clock} {request : TurnRequest}
    {verdict : Except PublishError Unit}
    (h : (w.perform ⟨.turn clock request, verdict⟩).1 = .ok (.turn (.finished outcome))) :
    ∃ session, (w.after ⟨.turn clock request, verdict⟩).Over request.sessionId session outcome ∧
      ∀ cause, verdict = .error cause → w.Over request.sessionId session outcome := by
  obtain ⟨reply, next, hperforms, hentry, hafter⟩ :=
    w.exists_performs ⟨.turn clock request, verdict⟩
  have hreply : reply = .ok (.turn (.finished outcome)) :=
    (congrArg Entry.reply hentry).symm.trans h
  rw [hafter]
  cases hperforms with
  | @finished _ _ _ session _ hheld hfinished =>
      cases hreply
      exact ⟨session, ⟨hheld, hfinished⟩, fun _ _ => ⟨hheld, hfinished⟩⟩
  | @made _ _ session next hheld hmove =>
      have hfinished : next.outcome = some outcome := by
        unfold Session.replyAfter at hreply
        split at hreply
        · next houtcome =>
          cases hreply
          exact houtcome
        · cases hreply
      have hstored := Registry.find?_put w.registry next request.sessionId
      rw [if_pos (Registry.id_of_move hheld hmove)] at hstored
      exact ⟨next, ⟨hstored, hfinished⟩, nofun⟩
  | @refused _ _ _ _ refusal _ _ _ => cases refusal <;> cases hreply
  | unknown _ => cases hreply
  | unpublished _ _ => cases hreply

/-- How a game that is over presents itself: every turn on it gets its outcome, whoever submits it
for whatever move and whether or not the publisher fails, which nobody asks; nothing changes by
that; and whoever reads the session finds the outcome, and nobody to move. -/
structure Final (id : SessionId) (session : Session) (outcome : Outcome) (w : World) : Prop where
  isOver : w.Over id session outcome
  turn : ∀ clock request verdict, request.sessionId = id →
    w.perform ⟨.turn clock request, verdict⟩ = (.ok (.turn (.finished outcome)), w)
  unpublished : ∀ clock request, request.sessionId = id →
    ∀ (m : Type → Type) [Monad m] (publish : Publisher m),
      w.registry.applyTurn publish clock request = pure (.ok (.finished outcome), w.registry)
  read : ∀ verdict, w.perform ⟨.read id, verdict⟩ = (.ok (.session (some session)), w)
  nobody : session.activePlayer? = none

/-- A game that is over presents itself so. -/
theorem Over.final (h : w.Over id session outcome) : w.Final id session outcome where
  isOver := h
  turn clock request verdict hid := by
    unfold perform Operation.perform
    simp only [h.applyTurn _ clock hid]
    rfl
  unpublished clock request hid m _ publish := h.applyTurn publish clock hid
  read verdict := by
    rw [perform_eq_settle_plan]
    show (Except.ok (Reply.session (w.registry.find? id)), w) = _
    rw [h.held]
  nobody := by
    rw [Session.activePlayer?, Session.isFinished, h.finished]
    rfl

/-- A reported outcome is final. If a turn on a session is answered by an outcome, in any world,
then the session that is held afterwards has this outcome, and if its publish fails it had it
before. From then on, through any calls and with any failures of the publisher, the same session is
held under its identifier and presents itself as over, provided that no other one is created under
it. -/
theorem finished_for_good {w : World} {clock : Clock} {request : TurnRequest}
    {verdict : Except PublishError Unit} {outcome : Outcome}
    (hreply : (w.perform ⟨.turn clock request, verdict⟩).1 = .ok (.turn (.finished outcome))) :
    ∃ session,
      (w.after ⟨.turn clock request, verdict⟩).Over request.sessionId session outcome ∧
      (∀ cause, verdict = .error cause → w.Over request.sessionId session outcome) ∧
      ∀ later, Spares request.sessionId later →
        (later.foldl after (w.after ⟨.turn clock request, verdict⟩)).Final
          request.sessionId session outcome := by
  obtain ⟨session, hover, hbefore⟩ := over_of_finished hreply
  exact ⟨session, hover, hbefore, fun later hspares => (hover.foldl hspares).final⟩

/-- A game before its fifth move, with which the first player wins. -/
def nearlyWon : List Call :=
  [⟨.create ⟨"g"⟩ 1 [⟨"ann"⟩, ⟨"bob"⟩], .ok ()⟩,
    ⟨.turn ⟨2, 3⟩ ⟨⟨"g"⟩, ⟨"ann"⟩, ⟨0⟩, 0, 0⟩, .ok ()⟩,
    ⟨.turn ⟨4, 5⟩ ⟨⟨"g"⟩, ⟨"bob"⟩, ⟨1⟩, 1, 1⟩, .ok ()⟩,
    ⟨.turn ⟨6, 7⟩ ⟨⟨"g"⟩, ⟨"ann"⟩, ⟨2⟩, 0, 1⟩, .ok ()⟩,
    ⟨.turn ⟨8, 9⟩ ⟨⟨"g"⟩, ⟨"bob"⟩, ⟨3⟩, 2, 2⟩, .ok ()⟩]

/-- The winning move is made, arrives once more while the publisher fails, and another game
begins. -/
theorem finished_for_good_repeated :
    let winning := Operation.turn ⟨10, 11⟩ ⟨⟨"g"⟩, ⟨"ann"⟩, ⟨4⟩, 0, 2⟩
    let later : List Call :=
      [⟨winning, .error ⟨.stalled, ⟨"outbox", 1⟩⟩⟩, ⟨.create ⟨"h"⟩ 12 [⟨"ann"⟩, ⟨"bob"⟩], .ok ()⟩]
    let outcome := Outcome.win ⟨"ann"⟩ [⟨.column, 0⟩]
    ((run nearlyWon).perform ⟨winning, .ok ()⟩).1 = .ok (.turn (.finished outcome)) ∧
      Spares ⟨"g"⟩ later ∧
      ∃ session, session.turnCount = 5 ∧
        (later.foldl after ((run nearlyWon).after ⟨winning, .ok ()⟩)).Final ⟨"g"⟩ session
          outcome := by
  intro winning later outcome
  have hreply :
      ((run nearlyWon).perform ⟨winning, .ok ()⟩).1 = .ok (.turn (.finished outcome)) := by decide
  obtain ⟨session, hover, _, hfinal⟩ := finished_for_good hreply
  have hfresh : ((run nearlyWon).after ⟨winning, .ok ()⟩).Fresh later :=
    ⟨trivial, rfl, trivial⟩
  have hspares := spares_of_fresh hover.held hfresh
  have hcount : (((run nearlyWon).after ⟨winning, .ok ()⟩).registry.find? ⟨"g"⟩).map
      Session.turnCount = some 5 := by decide
  have hheld : ((run nearlyWon).after ⟨winning, .ok ()⟩).registry.find? ⟨"g"⟩ = some session :=
    hover.held
  rw [hheld] at hcount
  exact ⟨hreply, hspares, session, Option.some.inj hcount, hfinal later hspares⟩

end World

end Noughts
