import Noughts.Proofs.Outbox.Feed
import Noughts.Proofs.Outbox.Stall

/-!
# A registry behind a stalled outbox

The outbox of a feed goes through what a relay goes through when the events of the commits are
published to it, `Feed.Follows`. So the rule about the flag holds of a feed as well. While the flag
is set nothing is committed: every creation and every turn that would be made fails, and whatever
publishes nothing is answered as ever, `Feed.Standstill`. This lasts until the event that is stuck
is delivered.
-/

namespace Noughts

namespace Feed

/-- The relay has the outbox of the feed, and the same happened to it. -/
structure Follows (f : Feed) (r : Relay GameEvent) : Prop where
  outbox_eq : f.outbox = r.outbox
  committed_eq : f.committed = r.taken
  delivered_eq : f.delivered = r.accepted
  isPausing_eq : f.isPausing = r.isPausing

/-- The relay can follow an operation of the registry. -/
theorem Follows.operate {f : Feed} {r : Relay GameEvent} (h : f.Follows r) (op : Operation) :
    ∃ moves, (f.operate op).Follows (r.run moves) := by
  rcases f.operate_cases op with hsame | ⟨event, session, reply, outbox, _, hoffer, hnext⟩
  · rw [hsame]
    exact ⟨[], h⟩
  · have hpublish : r.run [.publish event] =
        { r with outbox := outbox, taken := r.taken ++ [event] } := by
      show r.offered event (r.outbox.offer event) = _
      rw [← h.outbox_eq, hoffer]
      rfl
    refine ⟨[.publish event], ?_⟩
    rw [hnext, hpublish]
    exact ⟨rfl, congrArg (· ++ [event]) h.committed_eq, h.delivered_eq, h.isPausing_eq⟩

/-- The relay makes the attempt that the feed makes. -/
theorem Follows.attempt {f : Feed} {r : Relay GameEvent} (h : f.Follows r) (answer : Answer) :
    (f.attempt answer).Follows (r.attempt answer) := by
  unfold Feed.attempt Relay.attempt
  rw [h.isPausing_eq, h.outbox_eq]
  cases r.isPausing with
  | true => exact h
  | false =>
      cases r.outbox.inFlight with
      | none => exact h
      | some flight =>
          refine ⟨rfl, h.committed_eq, ?_, rfl⟩
          show (if answer = .accept then f.delivered ++ [flight.event] else f.delivered) =
            Handover.accepted (r.calls ++ [⟨flight.event, answer⟩])
          have hdelivered : f.delivered = Handover.accepted r.calls := h.delivered_eq
          rw [Handover.accepted_concat, hdelivered]
          by_cases haccept : answer = .accept <;> simp [haccept]

/-- The relay can follow every step. -/
theorem Follows.step {f : Feed} {r : Relay GameEvent} (h : f.Follows r) (s : Step) :
    ∃ moves, (f.step s).Follows (r.run moves) := by
  cases s with
  | operate op => exact h.operate op
  | receive =>
      exact ⟨[.receive], congrArg Outbox.receive h.outbox_eq, h.committed_eq, h.delivered_eq,
        h.isPausing_eq⟩
  | attempt answer => exact ⟨[.attempt answer], h.attempt answer⟩
  | resume => exact ⟨[.resume], h.outbox_eq, h.committed_eq, h.delivered_eq, rfl⟩

/-- Whatever happens to a feed, a relay can follow it. -/
theorem exists_follows (sites : Sites) (outbox : Outbox GameEvent) (steps : List Step) :
    ∃ moves, ((start sites outbox).run steps).Follows ((Relay.start outbox).run moves) := by
  induction steps using List.reverseRecOn with
  | nil => exact ⟨[], rfl, rfl, rfl, rfl⟩
  | append_singleton steps s ih =>
      obtain ⟨moves, h⟩ := ih
      obtain ⟨more, hnext⟩ := h.step s
      refine ⟨moves ++ more, ?_⟩
      rw [run_concat, Relay.run, List.foldl_append]
      exact hnext

/-- What an operation answers now, with the registry and the outbox after it. -/
def ask (f : Feed) (op : Operation) : (Except RegistryError Reply × Registry) × Outbox GameEvent :=
  op.perform (Outbox.publisher f.sites) f.registry f.outbox

/-- A stalled outbox takes no event. -/
theorem offer_of_stalled {o : Outbox GameEvent} (h : o.stalled = true) (event : GameEvent) :
    o.offer event = .error .stalled := by
  rw [Outbox.offer_eq, h]
  rfl

/-- Behind a stalled outbox an operation gives the answer that needs no publishing, or it fails. -/
theorem ask_of_stalled {f : Feed} (h : f.outbox.stalled = true) (op : Operation) :
    f.ask op = match op.plan f.registry with
      | .answer result => ((result, f.registry), f.outbox)
      | .commit _ _ _ =>
          ((.error (.publish (.noticed f.sites .stalled)), f.registry), f.outbox) := by
  rw [ask, Operation.perform_eq_settle]
  cases op.plan f.registry with
  | answer result => rfl
  | commit event session reply =>
      simp only [Registry.settle, bind, StateT.bind, Outbox.publisher, offer_of_stalled h]
      rfl

/-- Nothing is committed. -/
structure Standstill (f : Feed) : Prop where
  /-- No operation changes anything. -/
  unchanged : ∀ op, (f.ask op).1.2 = f.registry ∧ (f.ask op).2 = f.outbox ∧ f.operate op = f
  /-- A creation for two distinct players is not published. -/
  creation : ∀ id now first second, first ≠ second →
    (f.ask (.create id now [first, second])).1.1 =
      .error (.publish (.noticed f.sites .stalled))
  /-- No creation succeeds. -/
  no_creation : ∀ id now playerIds, ∃ cause, (f.ask (.create id now playerIds)).1.1 = .error cause
  /-- A turn that its session accepts is not published. -/
  turn : ∀ clock request session next, f.registry.find? request.sessionId = some session →
    session.submit (request.submission clock) = .ok next →
    (f.ask (.turn clock request)).1.1 = .error (.publish (.noticed f.sites .stalled))
  /-- What needs no publishing is answered as it is with any publisher. -/
  others : ∀ op result, op.plan f.registry = .answer result → (f.ask op).1.1 = result
  /-- This lasts as long as nothing more is delivered. -/
  lasts : ∀ later, (f.run later).delivered = f.delivered →
    (f.run later).registry = f.registry ∧ (f.run later).committed = f.committed ∧
      (f.run later).outbox.stalled = true

/-- Behind a stalled outbox no operation commits. -/
theorem operate_of_stalled {f : Feed} (h : f.outbox.stalled = true) (op : Operation) :
    f.operate op = f := by
  rcases f.operate_cases op with hsame | ⟨event, _, _, _, _, hoffer, _⟩
  · exact hsame
  · rw [offer_of_stalled h] at hoffer
    cases hoffer

/-- What is delivered stays delivered. -/
theorem delivered_step (f : Feed) (s : Step) : f.delivered <+: (f.step s).delivered := by
  cases s with
  | operate op =>
      show f.delivered <+: (f.operate op).delivered
      rcases f.operate_cases op with hsame | ⟨_, _, _, _, _, _, hnext⟩
      · exact ⟨[], (List.append_nil _).trans (congrArg delivered hsame).symm⟩
      · exact ⟨[], (List.append_nil _).trans (congrArg delivered hnext).symm⟩
  | receive => exact List.prefix_refl _
  | attempt answer =>
      show f.delivered <+: (f.attempt answer).delivered
      rcases f.attempt_cases answer with hsame | ⟨flight, _, hnext⟩
      · exact ⟨[], (List.append_nil _).trans (congrArg delivered hsame).symm⟩
      · rw [hnext]
        show f.delivered <+: if answer = .accept then f.delivered ++ [flight.event] else f.delivered
        split
        · exact List.prefix_append _ _
        · exact List.prefix_refl _
  | resume => exact List.prefix_refl _

/-- Steps take nothing back that was delivered. -/
theorem delivered_run (f : Feed) (steps : List Step) : f.delivered <+: (f.run steps).delivered := by
  induction steps generalizing f with
  | nil => exact List.prefix_refl _
  | cons s rest ih => exact (f.delivered_step s).trans (ih (f.step s))

/-- A step that delivers nothing leaves a stalled outbox stalled and the registry as it is. -/
theorem step_of_stalled {f : Feed} (h : f.outbox.stalled = true) {s : Step}
    (hsame : (f.step s).delivered = f.delivered) :
    (f.step s).registry = f.registry ∧ (f.step s).committed = f.committed ∧
      (f.step s).outbox.stalled = true := by
  cases s with
  | operate op =>
      show (f.operate op).registry = _ ∧ (f.operate op).committed = _ ∧
        (f.operate op).outbox.stalled = true
      rw [operate_of_stalled h op]
      exact ⟨rfl, rfl, h⟩
  | receive => exact ⟨rfl, rfl, (Outbox.stalled_receive _).trans h⟩
  | attempt answer =>
      change (f.attempt answer).delivered = _ at hsame
      show (f.attempt answer).registry = _ ∧ (f.attempt answer).committed = _ ∧
        (f.attempt answer).outbox.stalled = true
      rcases f.attempt_cases answer with hidle | ⟨flight, hflight, hnext⟩
      · rw [hidle]
        exact ⟨rfl, rfl, h⟩
      · rw [hnext] at hsame ⊢
        have hfail : answer ≠ .accept := by
          rintro rfl
          have hlength := congrArg List.length hsame
          simp at hlength
        refine ⟨rfl, rfl, ?_⟩
        show (f.outbox.answered answer).stalled = true
        rw [Outbox.answered_of_failure hflight hfail, h]
        rfl
  | resume => exact ⟨rfl, rfl, h⟩

/-- As long as nothing is delivered, a stalled outbox stays stalled and the registry as it is. -/
theorem run_of_stalled {f : Feed} (h : f.outbox.stalled = true) {later : List Step}
    (hsame : (f.run later).delivered = f.delivered) :
    (f.run later).registry = f.registry ∧ (f.run later).committed = f.committed ∧
      (f.run later).outbox.stalled = true := by
  induction later generalizing f with
  | nil => exact ⟨rfl, rfl, h⟩
  | cons s rest ih =>
      -- Nothing is delivered in the end, so nothing is delivered in this step either.
      have hrest := (f.step s).delivered_run rest
      have hfirst : (f.step s).delivered = f.delivered := by
        refine ((f.delivered_step s).eq_of_length_le ?_).symm
        rw [← hsame]
        exact hrest.length_le
      obtain ⟨hregistry, hcommitted, hstalled⟩ := step_of_stalled h hfirst
      obtain ⟨hregistry', hcommitted', hstalled'⟩ := ih hstalled (hsame.trans hfirst.symm)
      exact ⟨hregistry'.trans hregistry, hcommitted'.trans hcommitted, hstalled'⟩

/-- Behind a stalled outbox nothing is committed. -/
theorem standstill_of_stalled {f : Feed} (h : f.outbox.stalled = true) : f.Standstill where
  unchanged op := by
    rw [ask_of_stalled h]
    refine ⟨?_, ?_, operate_of_stalled h op⟩ <;> cases op.plan f.registry <;> rfl
  creation id now first second hdistinct := by
    rw [ask_of_stalled h]
    simp only [Operation.plan, Registry.twoPlayers, if_neg hdistinct, Registry.planCreate,
      Transition.map]
  no_creation id now playerIds := by
    rw [ask_of_stalled h]
    simp only [Operation.plan]
    cases Registry.twoPlayers playerIds with
    | error cause => exact ⟨cause, rfl⟩
    | ok players => exact ⟨_, rfl⟩
  turn clock request session next hheld hmove := by
    obtain ⟨_, _, hadmits, _⟩ := Session.submit_eq_ok_iff.1 hmove
    have hplace : session.place clock.movedAt request.playerId request.moveId request.x request.y =
        .ok next := hmove
    rw [ask_of_stalled h]
    simp only [Operation.plan, Registry.planTurn, hheld, hadmits.in_progress, hplace,
      Transition.map]
  others op result hplan := by
    rw [ask_of_stalled h, hplan]
  lasts later hsame := run_of_stalled h hsame

/-- An outbox of any capacity that a queue can have is stalled exactly while an event is stuck,
whatever its policy, whatever is published, whatever the downstream answers, and however the calls
of the publishers and the steps of the dispatcher follow each other; and it takes an event exactly
if it is not stalled and has room. For a registry behind it this means that nothing is committed
while an event is stuck. -/
theorem stalled_while_stuck (sites : Sites) (capacity : Nat) (policy : RetryPolicy)
    (hcapacity : max capacity 1 ≤ Outbox.maxCapacity) :
    ∃ outbox : Outbox GameEvent, Outbox.new capacity policy = .ok outbox ∧
      (∀ moves, ((Relay.start outbox).run moves).StallRule (max capacity 1) policy) ∧
      ∀ steps, ∃ moves,
        ((start sites outbox).run steps).Follows ((Relay.start outbox).run moves) ∧
        (((Relay.start outbox).run moves).Stuck policy →
          ((start sites outbox).run steps).Standstill) := by
  obtain ⟨outbox, hnew, _⟩ := Outbox.exists_new policy hcapacity
  have hstart := Relay.gauged_start hnew
  refine ⟨outbox, hnew, fun moves => (hstart.run moves).stallRule, fun steps => ?_⟩
  obtain ⟨moves, hfollows⟩ := exists_follows sites outbox steps
  refine ⟨moves, hfollows, fun hstuck => standstill_of_stalled ?_⟩
  rw [hfollows.outbox_eq]
  exact (hstart.run moves).stalled_iff_stuck.2 hstuck

/-- A creation that the downstream refuses twice, with a move in between. -/
def stuckSteps : List Step :=
  [.operate (.create ⟨"g"⟩ 1 [⟨"ann"⟩, ⟨"bob"⟩]), .receive, .attempt .fail,
    .operate (.turn ⟨2, 3⟩ ⟨⟨"g"⟩, ⟨"ann"⟩, ⟨0⟩, 1, 1⟩), .resume, .attempt .crash]

/-- With a limit of two the second refusal stalls the outbox, and both commits wait behind it. -/
theorem stalled_while_stuck_twice_refused :
    let policy : RetryPolicy := ⟨2, .ofMillis 200, .ofMillis 5000⟩
    let sites : Sites := fun _ => ⟨"outbox", 1⟩
    max 4 1 ≤ Outbox.maxCapacity ∧
    ∃ outbox, Outbox.new 4 policy = .ok outbox ∧
      ((start sites outbox).run stuckSteps).outbox.stalled = true ∧
      ((start sites outbox).run stuckSteps).committed.length = 2 ∧
      ((start sites outbox).run stuckSteps).Standstill := by
  intro policy sites
  have hcapacity : max 4 1 ≤ Outbox.maxCapacity := by decide
  obtain ⟨outbox, hnew, hrelay, hfeed⟩ := stalled_while_stuck sites 4 policy hcapacity
  obtain rfl := Except.ok.inj hnew
  obtain ⟨moves, hfollows, hstandstill⟩ := hfeed stuckSteps
  refine ⟨hcapacity, _, hnew, by decide, by decide, hstandstill ?_⟩
  refine (hrelay moves).stalled_iff_stuck.1 ?_
  rw [← hfollows.outbox_eq]
  decide

end Feed

end Noughts
