import Noughts.Proofs.Registry.Answers

/-!
# Sessions do not interfere

Every operation has a target, the one session that it is about. It reads no other session, stores no
other one, and its event carries no other identifier. So two worlds that agree on some sessions,
`World.Agree`, answer a call on these alike and agree again, and a call on any other session does
not matter to their agreement.

From these two steps it follows that calls on other sessions can be deleted from a run, or mixed
into it in any order, without anybody noticing who only looks at the sessions in question,
`World.Shows`. This is `World.sessions_apart`. No identifier has to be fresh for it.
-/

namespace Noughts

/-! ## Mixed lists -/

/-- `Interleaving xs ys zs` says that `zs` is `xs` and `ys` mixed, each in its own order. -/
inductive Interleaving {α : Type} : List α → List α → List α → Prop where
  | nil : Interleaving [] [] []
  | left {x : α} {xs ys zs : List α} (h : Interleaving xs ys zs) :
      Interleaving (x :: xs) ys (x :: zs)
  | right {y : α} {xs ys zs : List α} (h : Interleaving xs ys zs) :
      Interleaving xs (y :: ys) (y :: zs)

namespace Interleaving

variable {α : Type} {xs ys zs : List α}

/-- It does not matter which of the two lists is named first. -/
theorem symm (h : Interleaving xs ys zs) : Interleaving ys xs zs := by
  induction h with
  | nil => exact .nil
  | left _ ih => exact .right ih
  | right _ ih => exact .left ih

/-- Nothing mixed into a list leaves it as it is. -/
theorem eq_of_nil (h : Interleaving xs [] zs) : zs = xs := by
  generalize hys : ([] : List α) = ys at h
  induction h with
  | nil => rfl
  | left _ ih => rw [ih hys]
  | right _ _ => cases hys

/-- What is left of two lists is mixed in what is left of their mixture. -/
theorem filter (h : Interleaving xs ys zs) (p : α → Bool) :
    Interleaving (xs.filter p) (ys.filter p) (zs.filter p) := by
  induction h with
  | nil => exact .nil
  | @left x xs ys zs _ ih =>
      rw [List.filter_cons, List.filter_cons]
      split
      · exact .left ih
      · exact ih
  | @right y xs ys zs _ ih =>
      rw [List.filter_cons, List.filter_cons]
      split
      · exact .right ih
      · exact ih

/-- The first list can be picked out of the mixed one by a property that no entry of the second
one has. -/
theorem filter_eq_left (h : Interleaving xs ys zs) {p : α → Bool} (hxs : ∀ x ∈ xs, p x = true)
    (hys : ∀ y ∈ ys, p y = false) : zs.filter p = xs := by
  have hfiltered := h.filter p
  have hnone : ys.filter p = [] := List.filter_eq_nil_iff.2 fun y hy => by simp [hys y hy]
  rw [List.filter_eq_self.2 hxs, hnone] at hfiltered
  exact hfiltered.eq_of_nil

end Interleaving

/-! ## Targets -/

/-- The session that an operation is about; for a creation, the one to be created. -/
def Operation.target : Operation → SessionId
  | create id _ _ => id
  | turn _ request => request.sessionId
  | read id => id

/-- The session that a call is about. -/
def Call.target (c : Call) : SessionId := c.operation.target

/-- An operation plans the same whatever is held under other identifiers than its target. -/
theorem Operation.plan_congr {r other : Registry} {op : Operation}
    (h : r.find? op.target = other.find? op.target) : op.plan r = op.plan other := by
  cases op with
  | create id now playerIds => rfl
  | turn clock request =>
      have hheld : r.find? request.sessionId = other.find? request.sessionId := h
      simp only [plan, Registry.planTurn, hheld]
  | read id =>
      have hheld : r.find? id = other.find? id := h
      simp only [plan, hheld]

/-- A commit stores the target of the operation. -/
theorem Commits.id_eq_target {r : Registry} {op : Operation} {event : GameEvent}
    {session : Session} {reply : Reply} (h : Commits r op event session reply) :
    session.id = op.target := by
  cases h with
  | create hdistinct => rfl
  | turn hheld hmove => exact Registry.id_of_move hheld hmove

namespace World

/-! ## Agreement on some sessions -/

/-- Two worlds hold the same sessions under the identifiers `among`, and their logs have the same
events of these sessions in the same order. -/
structure Agree (among : SessionId → Bool) (w v : World) : Prop where
  held : ∀ id, among id = true → w.registry.find? id = v.registry.find? id
  events : w.log.filter (fun e => among e.sessionId) = v.log.filter fun e => among e.sessionId

variable {among : SessionId → Bool} {w v u : World}

/-- Every world agrees with itself. -/
theorem Agree.refl (w : World) : Agree among w w := ⟨fun _ _ => rfl, rfl⟩

/-- Worlds that agree with the same one agree with each other. -/
theorem Agree.trans (h : Agree among w v) (hnext : Agree among v u) : Agree among w u :=
  ⟨fun id hid => (h.held id hid).trans (hnext.held id hid), h.events.trans hnext.events⟩

/-- Committing the same in both worlds keeps their agreement. -/
theorem Agree.commit (h : Agree among w v) (event : GameEvent) (session : Session) :
    Agree among (w.commit event session) (v.commit event session) where
  held id hid := by
    show (w.registry.put session).find? id = (v.registry.put session).find? id
    rw [Registry.find?_put, Registry.find?_put, h.held id hid]
  events := by
    show (w.log ++ [event]).filter _ = (v.log ++ [event]).filter _
    rw [List.filter_append, List.filter_append, h.events]

/-- A commit of another session does not matter. -/
theorem agree_commit_of_other {event : GameEvent} {session : Session}
    (hevent : event.sessionId = session.id) (hother : among session.id = false) :
    Agree among (w.commit event session) w where
  held id hid := by
    have hne : session.id ≠ id := by
      rintro rfl
      rw [hother] at hid
      cases hid
    exact (Registry.find?_put _ _ _).trans (if_neg hne)
  events := by
    show (w.log ++ [event]).filter _ = _
    rw [List.filter_append, List.filter_cons_of_neg (by simp [hevent, hother]), List.filter_nil,
      List.append_nil]

/-- A call on one of the sessions is answered alike in worlds that agree on them, and they agree
afterwards. -/
theorem Agree.perform (h : Agree among w v) {c : Call} (hc : among c.target = true) :
    (w.perform c).1 = (v.perform c).1 ∧ Agree among (w.after c) (v.after c) := by
  have hplan := Operation.plan_congr (h.held c.target hc)
  rw [after, after, perform_eq_settle_plan, perform_eq_settle_plan, hplan]
  cases c.operation.plan v.registry with
  | answer result => exact ⟨rfl, h⟩
  | commit event session reply =>
      cases c.verdict with
      | error cause => exact ⟨rfl, h⟩
      | ok => exact ⟨rfl, h.commit event session⟩

/-- A call on any other session does not matter. -/
theorem agree_after_of_other {c : Call} (hc : among c.target = false) :
    Agree among (w.after c) w := by
  rcases w.perform_cases c with hsame | ⟨event, session, reply, hcommits, hperform⟩
  · have hafter : w.after c = w := hsame
    rw [hafter]
    exact .refl w
  · have hafter : w.after c = w.commit event session := congrArg Prod.snd hperform
    have htarget : session.id = c.target := hcommits.id_eq_target
    rw [hafter]
    exact agree_commit_of_other hcommits.sessionId_eq (htarget ▸ hc)

/-! ## Runs -/

/-- The calls of a run, each with its reply. -/
def answers (w : World) (calls : List Call) : List (Call × Except RegistryError Reply) :=
  (w.history calls).map fun e => (e.call, e.reply)

/-- In worlds that agree on some sessions, a run and what is left of it without the calls on other
sessions give the same answers on these, and they end in agreement. -/
theorem Agree.run (h : Agree among w v) (calls : List Call) :
    (w.answers calls).filter (fun answer => among answer.1.target) =
        v.answers (calls.filter fun c => among c.target) ∧
      Agree among (calls.foldl after w)
        ((calls.filter fun c => among c.target).foldl after v) := by
  induction calls generalizing w v with
  | nil => exact ⟨rfl, h⟩
  | cons c rest ih =>
      show ((c, (w.perform c).1) :: (w.after c).answers rest).filter _ = _ ∧ _
      rw [List.filter_cons, List.filter_cons]
      cases hc : among c.target with
      | true =>
          obtain ⟨hreply, hafter⟩ := h.perform hc
          obtain ⟨hanswers, hagree⟩ := ih hafter
          rw [if_pos rfl, if_pos rfl, hreply, hanswers]
          exact ⟨rfl, hagree⟩
      | false => exact ih ((agree_after_of_other hc).trans h)

/-- Whoever only looks at the sessions `among` sees, of all `calls`, nothing but the calls `alone`:
these with the replies that they get when they are made by themselves, the events that are published
then, and the sessions that are then held. -/
structure Shows (among : SessionId → Bool) (w : World) (calls alone : List Call) : Prop where
  answers : (w.answers calls).filter (fun answer => among answer.1.target) = w.answers alone
  events : (calls.foldl after w).log.filter (fun e => among e.sessionId) =
    (alone.foldl after w).log.filter fun e => among e.sessionId
  held : ∀ id, among id = true →
    (calls.foldl after w).registry.find? id = (alone.foldl after w).registry.find? id

/-- What a run shows of some sessions is what is left of it without the calls on others. -/
theorem shows_filter (among : SessionId → Bool) (w : World) (calls : List Call) :
    Shows among w calls (calls.filter fun c => among c.target) := by
  have hsame : Agree among w w := .refl w
  obtain ⟨hanswers, hagree⟩ := hsame.run calls
  exact ⟨hanswers, hagree.events, hagree.held⟩

/-- Calls on some sessions have nothing to do with a session that is none of these. -/
theorem filter_target_eq_nil {calls : List Call} (hcalls : ∀ c ∈ calls, among c.target = true)
    {id : SessionId} (hid : among id = false) : (calls.filter fun c => c.target = id) = [] := by
  refine List.filter_eq_nil_iff.2 fun c hc => ?_
  rw [decide_eq_true_eq]
  rintro rfl
  exact absurd (hcalls c hc) (Bool.eq_false_iff.1 hid)

/-- What two lists of calls on different sessions show of one session does not depend on how they
are mixed. -/
theorem filter_eq_of_interleavings {mine yours : SessionId → Bool}
    (hdisjoint : ∀ id, mine id = true → yours id = false) {calls others mixed again : List Call}
    (hcalls : ∀ c ∈ calls, mine c.target = true) (hothers : ∀ c ∈ others, yours c.target = true)
    (hmixed : Interleaving calls others mixed) (hagain : Interleaving calls others again)
    (id : SessionId) :
    (mixed.filter fun c => c.target = id) = again.filter fun c => c.target = id := by
  have hfirst := hmixed.filter fun c => c.target = id
  have hsecond := hagain.filter fun c => c.target = id
  cases hid : mine id with
  | true =>
      rw [filter_target_eq_nil hothers (hdisjoint id hid)] at hfirst hsecond
      rw [hfirst.eq_of_nil, hsecond.eq_of_nil]
  | false =>
      rw [filter_target_eq_nil hcalls hid] at hfirst hsecond
      rw [hfirst.symm.eq_of_nil, hsecond.symm.eq_of_nil]

/-- Sessions do not interfere. From any world, deleting the calls on other sessions from a run
leaves the reply to each other call, the published events of the sessions in question and these
sessions in the end as they were. So two lists of calls on different sessions may be mixed in any
way that keeps the order of each: each list gets the replies that it gets by itself, and leaves the
events and sessions that it leaves by itself; and every session and its events are the same after
all mixtures. -/
theorem sessions_apart (w : World) :
    (∀ among calls, Shows among w calls (calls.filter fun c => among c.target)) ∧
    ∀ (mine yours : SessionId → Bool), (∀ id, mine id = true → yours id = false) →
      ∀ calls others, (∀ c ∈ calls, mine c.target = true) →
        (∀ c ∈ others, yours c.target = true) →
        ∀ mixed, Interleaving calls others mixed →
          Shows mine w mixed calls ∧ Shows yours w mixed others ∧
          ∀ again, Interleaving calls others again → ∀ id,
            GameEvent.about id (mixed.foldl after w).log =
                GameEvent.about id (again.foldl after w).log ∧
              (mixed.foldl after w).registry.find? id =
                (again.foldl after w).registry.find? id := by
  refine ⟨fun among calls => shows_filter among w calls, ?_⟩
  intro mine yours hdisjoint calls others hcalls hothers mixed hmixed
  have hothers' : ∀ c ∈ others, mine c.target = false := fun c hc =>
    Bool.eq_false_iff.2 fun hmine => absurd (hothers c hc) (Bool.eq_false_iff.1 (hdisjoint _ hmine))
  have hcalls' : ∀ c ∈ calls, yours c.target = false := fun c hc => hdisjoint _ (hcalls c hc)
  have hmine := shows_filter mine w mixed
  have hyours := shows_filter yours w mixed
  rw [hmixed.filter_eq_left hcalls hothers'] at hmine
  rw [hmixed.symm.filter_eq_left hothers hcalls'] at hyours
  refine ⟨hmine, hyours, fun again hagain id => ?_⟩
  have hfirst := shows_filter (fun other => other = id) w mixed
  have hsecond := shows_filter (fun other => other = id) w again
  rw [filter_eq_of_interleavings hdisjoint hcalls hothers hmixed hagain id] at hfirst
  exact ⟨hfirst.events.trans hsecond.events.symm,
    (hfirst.held id (by simp)).trans (hsecond.held id (by simp)).symm⟩

/-- Two games, one of which is created at the second try, with their calls mixed. -/
theorem sessions_apart_two_games :
    let annCalls : List Call :=
      [⟨.create ⟨"g"⟩ 1 [⟨"ann"⟩, ⟨"bob"⟩], .ok ()⟩,
        ⟨.turn ⟨4, 5⟩ ⟨⟨"g"⟩, ⟨"ann"⟩, ⟨0⟩, 1, 1⟩, .ok ()⟩]
    let cidCalls : List Call :=
      [⟨.create ⟨"h"⟩ 2 [⟨"cid"⟩, ⟨"dan"⟩], .error ⟨.stalled, ⟨"outbox", 1⟩⟩⟩,
        ⟨.create ⟨"h"⟩ 3 [⟨"cid"⟩, ⟨"dan"⟩], .ok ()⟩,
        ⟨.turn ⟨6, 7⟩ ⟨⟨"h"⟩, ⟨"cid"⟩, ⟨0⟩, 0, 2⟩, .ok ()⟩]
    ∃ mixed, Interleaving annCalls cidCalls mixed ∧ (mixed.foldl after start).log.length = 4 ∧
      Shows (fun id => id = ⟨"g"⟩) start mixed annCalls ∧
      Shows (fun id => id = ⟨"h"⟩) start mixed cidCalls := by
  intro annCalls cidCalls
  have hmixed : Interleaving annCalls cidCalls _ :=
    .right (.left (.right (.left (.right .nil))))
  have hdisjoint : ∀ id : SessionId, decide (id = ⟨"g"⟩) = true → decide (id = ⟨"h"⟩) = false := by
    intro id hid
    rw [of_decide_eq_true hid]
    rfl
  obtain ⟨hann, hcid, -⟩ := (sessions_apart start).2 (fun id => id = ⟨"g"⟩) (fun id => id = ⟨"h"⟩)
    hdisjoint annCalls cidCalls (by decide) (by decide) _ hmixed
  exact ⟨_, hmixed, by decide, hann, hcid⟩

end World

end Noughts
