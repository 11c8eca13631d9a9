import Mathlib.Data.List.Induction
import Noughts.Proofs.Outbox.Pending
import Noughts.Proofs.Registry.Replay

/-!
# A registry behind an outbox

A `Feed` is a registry that publishes to an outbox, together with the dispatcher and the events that
the downstream accepted. Its steps are whole operations of the registry and the steps of the
dispatcher, in any order: it takes an event, it makes one attempt at it, or a pause after a failed
attempt ends.

What is committed is at every time what is delivered followed by what is pending, `Feed.Sound`. So
the stream is never ahead of the registry, never out of order and never more than the capacity and
one event behind: `Feed.in_step_run`.
-/

namespace Noughts

/-- A registry with its outbox, and how far the events have come. -/
structure Feed where
  /-- Where in the program the outbox notices what it reports. -/
  sites : Sites
  registry : Registry
  outbox : Outbox GameEvent
  /-- The events of the committed transitions of all sessions, in the order of the commits. -/
  committed : List GameEvent
  /-- The events that the downstream accepted, in that order. -/
  delivered : List GameEvent
  /-- Whether the dispatcher pauses after a failed attempt. -/
  isPausing : Bool

/-- What can happen next to a feed. -/
inductive Feed.Step where
  /-- An operation of the registry from beginning to end. -/
  | operate (op : Operation)
  /-- The dispatcher takes the oldest event of the queue, if it has none. -/
  | receive
  /-- The dispatcher hands its event to the downstream, unless it pauses. -/
  | attempt (answer : Answer)
  /-- The pause after a failed attempt is over. -/
  | resume

namespace Feed

/-- An empty registry with an outbox. -/
def start (sites : Sites) (outbox : Outbox GameEvent) : Feed :=
  ⟨sites, .empty, outbox, [], [], false⟩

/-- Carry out an operation with the outbox as the publisher. -/
def operate (f : Feed) (op : Operation) : Feed :=
  let ((_, registry), outbox, committed) :=
    op.perform (Operation.recording (Outbox.publisher f.sites)) f.registry (f.outbox, f.committed)
  { f with registry := registry, outbox := outbox, committed := committed }

/-- Hand the event in flight to the downstream, which answers; nothing happens during a pause. -/
def attempt (f : Feed) (answer : Answer) : Feed :=
  match f.isPausing, f.outbox.inFlight with
  | false, some flight =>
      { f with
        outbox := f.outbox.answered answer
        delivered := if answer = .accept then f.delivered ++ [flight.event] else f.delivered
        isPausing := answer ≠ .accept }
  | _, _ => f

/-- The next state of a feed. -/
def step (f : Feed) : Step → Feed
  | .operate op => f.operate op
  | .receive => { f with outbox := f.outbox.receive }
  | .attempt answer => f.attempt answer
  | .resume => { f with isPausing := false }

/-- The state of a feed after any number of steps. -/
def run (f : Feed) (steps : List Step) : Feed := steps.foldl step f

/-- The last step comes after the others. -/
theorem run_concat (f : Feed) (steps : List Step) (s : Step) :
    f.run (steps ++ [s]) = (f.run steps).step s := by
  rw [run, List.foldl_append]
  rfl

/-- An operation leaves the feed alone, or it commits and its event joins the queue. -/
theorem operate_cases (f : Feed) (op : Operation) :
    f.operate op = f ∨
    ∃ event session reply outbox, Commits f.registry op event session reply ∧
      f.outbox.offer event = .ok outbox ∧
      f.operate op = { f with
        registry := f.registry.put session
        outbox := outbox
        committed := f.committed ++ [event] } := by
  let ended :=
    op.perform (Operation.recording (Outbox.publisher f.sites)) f.registry (f.outbox, f.committed)
  have hstep : f.operate op =
      { f with registry := ended.1.2, outbox := ended.2.1, committed := ended.2.2 } := rfl
  rw [hstep]
  rcases op.perform_cases (Outbox.publisher f.sites) f.registry f.outbox f.committed with
    ⟨result, hended⟩ | ⟨event, session, reply, hcommits, hended⟩
  · change ended = _ at hended
    rw [hended]
    exact Or.inl rfl
  · change ended = _ at hended
    cases hoffer : f.outbox.offer event with
    | error cause =>
        rw [Outbox.publisher, hoffer] at hended
        rw [hended]
        exact Or.inl rfl
    | ok outbox =>
        rw [Outbox.publisher, hoffer] at hended
        rw [hended]
        exact Or.inr ⟨event, session, reply, outbox, hcommits, hoffer, rfl⟩

/-- An attempt is made at the event in flight, if there is one and the dispatcher does not pause. -/
theorem attempt_cases (f : Feed) (answer : Answer) :
    f.attempt answer = f ∨
    ∃ flight, f.outbox.inFlight = some flight ∧
      f.attempt answer = { f with
        outbox := f.outbox.answered answer
        delivered := if answer = .accept then f.delivered ++ [flight.event] else f.delivered
        isPausing := answer ≠ .accept } := by
  unfold attempt
  split
  · next flight _ hflight => exact Or.inr ⟨flight, hflight, rfl⟩
  · exact Or.inl rfl

/-- The invariant of a feed. What is committed is what is delivered and then what is pending, the
queue is within its capacity, and the committed events replay to the registry. -/
structure Sound (clock : Nat → Int64) (capacity : Nat) (f : Feed) : Prop where
  committed_eq : f.committed = f.delivered ++ f.outbox.pending
  capacity_eq : f.outbox.capacity = capacity
  length_queue_le : f.outbox.queue.length ≤ capacity
  replays : Replays clock f.committed f.registry

variable {clock : Nat → Int64} {capacity : Nat}

/-- Every step keeps the invariant. -/
theorem Sound.step {f : Feed} (h : f.Sound clock capacity) (s : Step) :
    (f.step s).Sound clock capacity := by
  cases s with
  | operate op =>
      show (f.operate op).Sound clock capacity
      rcases f.operate_cases op with
        hsame | ⟨event, session, reply, outbox, hcommits, hoffer, hnext⟩
      · rw [hsame]
        exact h
      · rw [hnext]
        have hpending := Outbox.pending_of_offer hoffer
        obtain ⟨⟨_, _, hroom⟩, rfl⟩ := Outbox.offer_eq_ok_iff.1 hoffer
        have hcapacity := h.capacity_eq
        refine ⟨?_, hcapacity, ?_, h.replays.commit hcommits⟩
        · show f.committed ++ [event] = f.delivered ++ Outbox.pending _
          rw [hpending, ← List.append_assoc, h.committed_eq]
        · show (f.outbox.queue ++ [event]).length ≤ capacity
          rw [List.length_append, List.length_singleton]
          omega
  | receive =>
      refine ⟨?_, ?_, ?_, h.replays⟩
      · show f.committed = f.delivered ++ f.outbox.receive.pending
        rw [Outbox.pending_receive]
        exact h.committed_eq
      · exact (Outbox.capacity_receive _).trans h.capacity_eq
      · exact Nat.le_trans (Outbox.length_queue_receive_le _) h.length_queue_le
  | attempt answer =>
      show (f.attempt answer).Sound clock capacity
      rcases f.attempt_cases answer with hsame | ⟨flight, hflight, hnext⟩
      · rw [hsame]
        exact h
      · rw [hnext]
        -- Only an accepting answer moves an event, from the pending ones to the delivered ones.
        refine ⟨?_, (Outbox.capacity_answered _ _).trans h.capacity_eq, ?_, h.replays⟩
        · by_cases haccept : answer = .accept
          · subst haccept
            show f.committed = (f.delivered ++ [flight.event]) ++ _
            rw [List.append_assoc, List.singleton_append, ← Outbox.pending_of_accept hflight]
            exact h.committed_eq
          · show f.committed = (if answer = .accept then _ else f.delivered) ++ _
            rw [if_neg haccept, Outbox.pending_of_failure haccept]
            exact h.committed_eq
        · show (f.outbox.answered answer).queue.length ≤ capacity
          rw [Outbox.queue_answered]
          exact h.length_queue_le
  | resume => exact ⟨h.committed_eq, h.capacity_eq, h.length_queue_le, h.replays⟩

/-- Any number of steps keep the invariant. -/
theorem Sound.run {f : Feed} (h : f.Sound clock capacity) (steps : List Step) :
    (f.run steps).Sound clock capacity := by
  induction steps generalizing f with
  | nil => exact h
  | cons s rest ih => exact ih (h.step s)

/-- A step commits at most one event. -/
theorem committed_step (f : Feed) (s : Step) :
    (f.step s).committed = f.committed ∨
      ∃ event, (f.step s).committed = f.committed ++ [event] := by
  cases s with
  | operate op =>
      rcases f.operate_cases op with hsame | ⟨event, _, _, _, _, _, hnext⟩
      · exact Or.inl (congrArg committed hsame)
      · exact Or.inr ⟨event, congrArg committed hnext⟩
  | receive => exact Or.inl rfl
  | attempt answer =>
      rcases f.attempt_cases answer with hsame | ⟨_, _, hnext⟩
      · exact Or.inl (congrArg committed hsame)
      · left
        rw [step, hnext]
  | resume => exact Or.inl rfl

/-- Whatever the first committed events are, there was a time when they were all. -/
theorem exists_past {f : Feed} (hf : f.committed = []) {steps : List Step} {first : List GameEvent}
    (h : first <+: (f.run steps).committed) :
    ∃ past, past <+: steps ∧ (f.run past).committed = first := by
  induction steps using List.reverseRecOn with
  | nil =>
      obtain rfl : first = [] := List.prefix_nil.1 (hf ▸ h)
      exact ⟨[], List.prefix_refl _, hf⟩
  | append_singleton steps s ih =>
      rw [run_concat] at h
      -- Either `first` was committed before the last step, or it is all that is committed after it.
      have hcases : first <+: (f.run steps).committed ∨
          ((f.run steps).step s).committed = first := by
        rcases (f.run steps).committed_step s with hsame | ⟨event, hnext⟩
        · exact Or.inl (hsame ▸ h)
        · rw [hnext] at h ⊢
          exact (List.prefix_concat_iff.1 h).symm.imp_right Eq.symm
      rcases hcases with hbefore | hnow
      · obtain ⟨past, hpast, hcommitted⟩ := ih hbefore
        exact ⟨past, hpast.trans (List.prefix_append _ _), hcommitted⟩
      · exact ⟨steps ++ [s], List.prefix_refl _, (congrArg committed (run_concat _ _ _)).trans hnow⟩

/-- How far the delivered events may fall behind. After the given steps of a feed they are the first
ones of the committed events, in order, and at most `lag` of those are missing. They replay to the
sessions as the registry held them at an earlier time, and once the queue and the dispatcher are
empty, to the sessions that it holds now. -/
structure InStep (clock : Nat → Int64) (lag : Nat) (f : Feed) (steps : List Step) : Prop where
  in_order : (f.run steps).delivered <+: (f.run steps).committed
  length_le : (f.run steps).committed.length ≤ (f.run steps).delivered.length + lag
  committed_replays : Replays clock (f.run steps).committed (f.run steps).registry
  delivered_replays : ∃ past, past <+: steps ∧
    Replays clock (f.run steps).delivered (f.run past).registry
  caught_up : (f.run steps).outbox.queue = [] → (f.run steps).outbox.inFlight = none →
    Replays clock (f.run steps).delivered (f.run steps).registry

/-- A feed that is sound and has committed nothing yet stays in step. -/
theorem Sound.inStep {f : Feed} (h : f.Sound clock capacity) (hf : f.committed = [])
    (steps : List Step) : InStep clock (capacity + 1) f steps := by
  have hend := h.run steps
  have hdelivered : (f.run steps).delivered <+: (f.run steps).committed :=
    ⟨_, hend.committed_eq.symm⟩
  refine ⟨hdelivered, ?_, hend.replays, ?_, fun hqueue hflight => ?_⟩
  · have hpending := (f.run steps).outbox.length_pending_le
    have hqueue := hend.length_queue_le
    rw [hend.committed_eq, List.length_append]
    omega
  · -- What is delivered now was once all that was committed, and it replayed to the registry then.
    obtain ⟨past, hpast, hcommitted⟩ := exists_past hf hdelivered
    exact ⟨past, hpast, hcommitted ▸ (h.run past).replays⟩
  · have hreplays := hend.replays
    rw [hend.committed_eq, Outbox.pending_eq_nil_iff.2 ⟨hflight, hqueue⟩,
      List.append_nil] at hreplays
    exact hreplays

/-- An outbox of any capacity that a queue can have keeps the events in step with the registry,
whatever its policy, whatever the downstream answers, and however the operations of the registry and
the steps of the dispatcher follow each other. At most the capacity and one event are missing. -/
theorem in_step_run (clock : Nat → Int64) (sites : Sites) (capacity : Nat) (policy : RetryPolicy)
    (hcapacity : max capacity 1 ≤ Outbox.maxCapacity) :
    ∃ outbox, Outbox.new capacity policy = .ok outbox ∧
      ∀ steps, InStep clock (max capacity 1 + 1) (start sites outbox) steps := by
  let outbox : Outbox GameEvent :=
    { capacity := max capacity 1, policy := policy, queue := [], inFlight := none,
      stalled := false, isAttended := true }
  refine ⟨outbox, if_neg (Nat.not_lt.2 hcapacity), fun steps => ?_⟩
  have hsound : (start sites outbox).Sound clock (max capacity 1) :=
    ⟨rfl, rfl, Nat.zero_le _, replays_start clock⟩
  exact hsound.inStep rfl steps

/-- A creation that the downstream refuses, a move, and another one that finds the queue full. -/
def fillingSteps : List Step :=
  [.operate (.create ⟨"g"⟩ 1 [⟨"ann"⟩, ⟨"bob"⟩]), .receive, .attempt .fail,
    .operate (.turn ⟨2, 3⟩ ⟨⟨"g"⟩, ⟨"ann"⟩, ⟨0⟩, 1, 1⟩),
    .operate (.turn ⟨4, 5⟩ ⟨⟨"g"⟩, ⟨"bob"⟩, ⟨1⟩, 0, 2⟩)]

/-- The creation is delivered after all, then the move, and the move that found the queue full is
made again. -/
def deliveringSteps : List Step :=
  fillingSteps ++ [.resume, .attempt .accept, .receive, .attempt .accept,
    .operate (.turn ⟨6, 7⟩ ⟨⟨"g"⟩, ⟨"bob"⟩, ⟨1⟩, 0, 2⟩)]

/-- With a capacity of zero, which counts as one, the bound is reached: the creation is in flight
and the first move in the queue. Later both are delivered, and one event is missing. -/
theorem in_step_run_filled :
    ∃ outbox, Outbox.new 0 .standard = .ok outbox ∧
      (∀ steps, InStep (fun _ => 0) 2 (start (fun _ => ⟨"outbox", 1⟩) outbox) steps) ∧
      (let filled := (start (fun _ => ⟨"outbox", 1⟩) outbox).run fillingSteps
       filled.delivered = [] ∧ filled.committed.length = 2) ∧
      let caught := (start (fun _ => ⟨"outbox", 1⟩) outbox).run deliveringSteps
      caught.delivered.length = 2 ∧ caught.committed.length = 3 := by
  obtain ⟨outbox, hnew, hsteps⟩ :=
    in_step_run (fun _ => 0) (fun _ => ⟨"outbox", 1⟩) 0 .standard (by decide)
  obtain rfl := Except.ok.inj hnew
  exact ⟨_, hnew, hsteps, by decide, by decide⟩

end Feed

end Noughts
