import Noughts.Proofs.Outbox.Pending

/-!
# An outbox at work

A `Relay` is an outbox with what its publishers and its dispatcher have done so far: the events that
were taken, and every call of the downstream with its answer. All publishers of an outbox share its
queue and its flag, so it does not matter which of them an event comes through. A publisher looks at
the flag before it reaches for the queue, and the dispatcher may work in between; `Step.enqueue` is
the second half of such a call.

What was taken is at every time what the downstream accepted, then the event in flight, then the
queue, and the calls of the downstream come in blocks, one for each event in that order:
`Relay.lossless_run`.
-/

namespace Noughts

namespace Outbox

variable {α : Type}

/-- What a publisher does with an event after it has found the outbox not stalled. -/
def enqueue (o : Outbox α) (event : α) : Except PublishFault (Outbox α) :=
  if !o.isAttended then .error .dispatcherStopped
  else if o.capacity ≤ o.queue.length then .error .queueFull
  else .ok { o with queue := o.queue ++ [event] }

/-- To offer an event is to look at the flag and then to reach for the queue. -/
theorem offer_eq (o : Outbox α) (event : α) :
    o.offer event = if o.stalled then .error .stalled else o.enqueue event := rfl

/-- An event that the queue takes joins it at the end, and nothing else changes. -/
theorem eq_of_enqueue {o next : Outbox α} {event : α} (h : o.enqueue event = .ok next) :
    next = { o with queue := o.queue ++ [event] } := by
  unfold enqueue at h
  split at h
  · cases h
  · split at h
    · cases h
    · exact (Except.ok.inj h).symm

/-- An event that is offered with success joins the queue at the end, and nothing else changes. -/
theorem eq_of_offer {o next : Outbox α} {event : α} (h : o.offer event = .ok next) :
    next = { o with queue := o.queue ++ [event] } := by
  rw [offer_eq] at h
  split at h
  · cases h
  · exact eq_of_enqueue h

/-- The dispatcher begins with an event of the queue, or it has one already, or there is none. -/
theorem inFlight_receive (o : Outbox α) :
    o.receive.inFlight = o.inFlight ∨
    o.inFlight = none ∧ ∃ event, o.receive.inFlight = some ⟨event, 0⟩ := by
  unfold receive
  split
  · next event _ hidle _ => exact Or.inr ⟨hidle, event, rfl⟩
  · exact Or.inl rfl

/-- A failed attempt leaves its event in flight. -/
theorem event_inFlight_answered {o : Outbox α} {answer : Answer} (h : answer ≠ .accept) :
    (o.answered answer).inFlight.map InFlight.event = o.inFlight.map InFlight.event := by
  unfold answered
  split
  · rfl
  · exact absurd rfl h
  · next hflight _ => rw [hflight]; rfl

/-- An outbox of a capacity that a queue can have begins without events and with a dispatcher. -/
theorem exists_new {capacity : Nat} (policy : RetryPolicy)
    (hcapacity : max capacity 1 ≤ maxCapacity) :
    ∃ o : Outbox α, new capacity policy = .ok o ∧ o.queue = [] ∧ o.inFlight = none :=
  ⟨_, if_neg (Nat.not_lt.2 hcapacity), rfl, rfl⟩

end Outbox

/-- One call of the downstream. -/
structure Handover (α : Type) where
  event : α
  answer : Answer
deriving DecidableEq, Repr

/-- The events that the downstream accepted in the course of these calls. -/
def Handover.accepted {α : Type} (calls : List (Handover α)) : List α :=
  (calls.filter fun call => call.answer = .accept).map event

/-- One call more adds its event if it is accepted. -/
theorem Handover.accepted_concat {α : Type} (calls : List (Handover α)) (call : Handover α) :
    accepted (calls ++ [call]) =
      accepted calls ++ if call.answer = .accept then [call.event] else [] := by
  by_cases h : call.answer = .accept <;> simp [accepted, h]

/-- Attempts at one event, all of which failed. -/
structure Attempts (α : Type) where
  event : α
  answers : List Answer
  failed : ∀ answer ∈ answers, answer ≠ .accept

namespace Attempts

variable {α : Type}

/-- The calls of the downstream that were made. -/
def tried (a : Attempts α) : List (Handover α) :=
  a.answers.map fun answer => ⟨a.event, answer⟩

/-- The same calls and then one that is accepted. -/
def delivered (a : Attempts α) : List (Handover α) :=
  a.tried ++ [⟨a.event, .accept⟩]

/-- No attempt so far. -/
def start (event : α) : Attempts α := ⟨event, [], nofun⟩

/-- One more attempt that failed. -/
def more (a : Attempts α) (answer : Answer) (h : answer ≠ .accept) : Attempts α where
  event := a.event
  answers := a.answers ++ [answer]
  failed other hother := by
    rcases List.mem_append.1 hother with hbefore | hlast
    · exact a.failed other hbefore
    · exact List.mem_singleton.1 hlast ▸ h

/-- One more failed attempt is one call more. -/
theorem tried_more (a : Attempts α) (answer : Answer) (h : answer ≠ .accept) :
    (a.more answer h).tried = a.tried ++ [⟨a.event, answer⟩] :=
  List.map_append

end Attempts

/-- An outbox, and what happened to it. -/
structure Relay (α : Type) where
  outbox : Outbox α
  /-- The events whose publishers were told that they are taken, in that order. -/
  taken : List α
  /-- Every call of the downstream, in order. -/
  calls : List (Handover α)
  /-- Whether the dispatcher pauses after a failed attempt. -/
  isPausing : Bool

/-- What can happen next. -/
inductive Relay.Step (α : Type) where
  /-- A publisher offers an event. -/
  | publish (event : α)
  /-- A publisher that found the outbox not stalled, now or earlier, goes on with its event. -/
  | enqueue (event : α)
  /-- The dispatcher takes the oldest event of the queue, if it has none. -/
  | receive
  /-- The dispatcher hands its event to the downstream, unless it pauses. -/
  | attempt (answer : Answer)
  /-- The pause after a failed attempt is over. -/
  | resume

namespace Relay

variable {α : Type}

/-- An outbox to which nothing has happened. -/
def start (outbox : Outbox α) : Relay α := ⟨outbox, [], [], false⟩

/-- The events that the downstream accepted, in order. -/
def accepted (r : Relay α) : List α := Handover.accepted r.calls

/-- Record how an offer of an event ended. -/
def offered (r : Relay α) (event : α) : Except PublishFault (Outbox α) → Relay α
  | .ok outbox => { r with outbox := outbox, taken := r.taken ++ [event] }
  | .error _ => r

/-- Hand the event in flight to the downstream, which answers; nothing happens during a pause. -/
def attempt (r : Relay α) (answer : Answer) : Relay α :=
  match r.isPausing, r.outbox.inFlight with
  | false, some flight =>
      { r with
        outbox := r.outbox.answered answer
        calls := r.calls ++ [⟨flight.event, answer⟩]
        isPausing := answer ≠ .accept }
  | _, _ => r

/-- The next state of a relay. -/
def step (r : Relay α) : Step α → Relay α
  | .publish event => r.offered event (r.outbox.offer event)
  | .enqueue event => r.offered event (r.outbox.enqueue event)
  | .receive => { r with outbox := r.outbox.receive }
  | .attempt answer => r.attempt answer
  | .resume => { r with isPausing := false }

/-- The state of a relay after any number of steps. -/
def run (r : Relay α) (steps : List (Step α)) : Relay α := steps.foldl step r

/-- An attempt is made at the event in flight, if there is one and the dispatcher does not pause. -/
theorem attempt_eq (r : Relay α) (answer : Answer) :
    r.attempt answer = r ∨
    ∃ flight, r.outbox.inFlight = some flight ∧
      r.attempt answer = { r with
        outbox := r.outbox.answered answer
        calls := r.calls ++ [⟨flight.event, answer⟩]
        isPausing := answer ≠ .accept } := by
  unfold attempt
  split
  · next flight _ hflight => exact Or.inr ⟨flight, hflight, rfl⟩
  · exact Or.inl rfl

/-- Nothing is lost, repeated or reordered. What was taken is what the downstream accepted, then the
event in flight, then the queue. The calls of the downstream are blocks, one for each event it
accepted and one for the event in flight, in the order of the events. A block is any number of
attempts that failed and, unless its event is still in flight, one that was accepted. -/
structure Lossless (r : Relay α) : Prop where
  taken_eq : r.taken =
    r.accepted ++ ((r.outbox.inFlight.map InFlight.event).toList ++ r.outbox.queue)
  in_blocks : ∃ (done : List (Attempts α)) (current : Option (Attempts α)),
    done.map Attempts.event = r.accepted ∧
    current.map Attempts.event = r.outbox.inFlight.map InFlight.event ∧
    r.calls = done.flatMap Attempts.delivered ++ current.toList.flatMap Attempts.tried

/-- An event that is taken is the last one to wait. -/
theorem Lossless.offered {r : Relay α} (h : r.Lossless) {event : α}
    {result : Except PublishFault (Outbox α)}
    (hresult : ∀ next, result = .ok next →
      next = { r.outbox with queue := r.outbox.queue ++ [event] }) :
    (r.offered event result).Lossless := by
  cases result with
  | error cause => exact h
  | ok next =>
      obtain rfl := hresult next rfl
      refine ⟨?_, h.in_blocks⟩
      show r.taken ++ [event] = _
      rw [h.taken_eq, List.append_assoc, List.append_assoc]
      rfl

/-- An event that the dispatcher takes out of the queue begins a block. -/
theorem Lossless.receive {r : Relay α} (h : r.Lossless) :
    Lossless { r with outbox := r.outbox.receive } := by
  obtain ⟨done, current, hdone, hcurrent, hcalls⟩ := h.in_blocks
  constructor
  · show r.taken = r.accepted ++ r.outbox.receive.pending
    rw [Outbox.pending_receive]
    exact h.taken_eq
  · rcases r.outbox.inFlight_receive with hsame | ⟨hidle, event, hbegun⟩
    · exact ⟨done, current, hdone, hcurrent.trans (congrArg _ hsame.symm), hcalls⟩
    · -- Nothing was in flight, so no block was under way.
      obtain rfl : current = none := by simpa [hidle] using hcurrent
      refine ⟨done, some (.start event), hdone, ?_, hcalls⟩
      show _ = r.outbox.receive.inFlight.map InFlight.event
      rw [hbegun]
      rfl

/-- An attempt that is accepted ends the block of its event. -/
theorem Lossless.accept {r : Relay α} (h : r.Lossless) {flight : InFlight α}
    (hflight : r.outbox.inFlight = some flight) :
    Lossless { r with
      outbox := r.outbox.answered .accept
      calls := r.calls ++ [⟨flight.event, .accept⟩]
      isPausing := false } := by
  obtain ⟨done, current, hdone, hcurrent, hcalls⟩ := h.in_blocks
  have hidle : (r.outbox.answered .accept).inFlight = none := by simp [Outbox.answered, hflight]
  rw [hflight, Option.map_some, Option.map_eq_some_iff] at hcurrent
  obtain ⟨last, rfl, hlast⟩ := hcurrent
  refine ⟨?_, done ++ [last], none, ?_, ?_, ?_⟩
  · show r.taken = Handover.accepted (r.calls ++ [_]) ++ (r.outbox.answered .accept).pending
    rw [Handover.accepted_concat, if_pos rfl, List.append_assoc, List.singleton_append,
      ← Outbox.pending_of_accept hflight]
    exact h.taken_eq
  · show _ = Handover.accepted (r.calls ++ [_])
    rw [Handover.accepted_concat, if_pos rfl, List.map_append, hdone, List.map_singleton, hlast]
    rfl
  · show none = (r.outbox.answered .accept).inFlight.map InFlight.event
    rw [hidle]
    rfl
  · show r.calls ++ _ = _
    rw [hcalls, ← hlast]
    simp [Attempts.delivered]

/-- An attempt that fails is one more in the block of its event. -/
theorem Lossless.fail {r : Relay α} (h : r.Lossless) {flight : InFlight α} {answer : Answer}
    (hflight : r.outbox.inFlight = some flight) (hfail : answer ≠ .accept) :
    Lossless { r with
      outbox := r.outbox.answered answer
      calls := r.calls ++ [⟨flight.event, answer⟩]
      isPausing := true } := by
  obtain ⟨done, current, hdone, hcurrent, hcalls⟩ := h.in_blocks
  have hsame := Outbox.event_inFlight_answered (o := r.outbox) hfail
  have haccepted : Handover.accepted (r.calls ++ [⟨flight.event, answer⟩]) = r.accepted := by
    rw [Handover.accepted_concat, if_neg hfail, List.append_nil]
    rfl
  rw [hflight, Option.map_some, Option.map_eq_some_iff] at hcurrent
  obtain ⟨last, rfl, hlast⟩ := hcurrent
  refine ⟨?_, done, some (last.more answer hfail), ?_, ?_, ?_⟩
  · show r.taken = Handover.accepted _ ++ (r.outbox.answered answer).pending
    rw [haccepted, Outbox.pending_of_failure hfail]
    exact h.taken_eq
  · exact hdone.trans haccepted.symm
  · show some last.event = (r.outbox.answered answer).inFlight.map InFlight.event
    rw [hsame, hflight, hlast]
    rfl
  · show r.calls ++ _ = _
    rw [hcalls, ← hlast]
    simp [Attempts.tried_more]

/-- Every step keeps the account. -/
theorem Lossless.step {r : Relay α} (h : r.Lossless) (s : Step α) : (r.step s).Lossless := by
  cases s with
  | publish event => exact h.offered fun _ => Outbox.eq_of_offer
  | enqueue event => exact h.offered fun _ => Outbox.eq_of_enqueue
  | receive => exact h.receive
  | attempt answer =>
      show (r.attempt answer).Lossless
      rcases r.attempt_eq answer with hsame | ⟨flight, hflight, hnext⟩
      · rw [hsame]
        exact h
      · rw [hnext]
        by_cases haccept : answer = .accept
        · subst haccept
          exact h.accept hflight
        · simpa [haccept] using h.fail hflight haccept
  | resume => exact ⟨h.taken_eq, h.in_blocks⟩

/-- Any number of steps keeps the law. -/
theorem Lossless.run {r : Relay α} (h : r.Lossless) (steps : List (Step α)) :
    (r.run steps).Lossless := by
  induction steps generalizing r with
  | nil => exact h
  | cons s rest ih => exact ih (h.step s)

/-- The law holds at the beginning, when there are no events. -/
theorem lossless_start {outbox : Outbox α} (hqueue : outbox.queue = [])
    (hidle : outbox.inFlight = none) : (start outbox).Lossless where
  taken_eq := by
    show [] = [] ++ outbox.pending
    rw [Outbox.pending_eq_nil_iff.2 ⟨hidle, hqueue⟩]
    rfl
  in_blocks := by
    refine ⟨[], none, rfl, ?_, rfl⟩
    show none = outbox.inFlight.map InFlight.event
    rw [hidle]
    rfl

/-- An outbox of any capacity that a queue can have loses, repeats and reorders nothing, whatever
its policy, whatever its publishers offer, whatever the downstream answers, and however the calls of
the publishers and the steps of the dispatcher follow each other. -/
theorem lossless_run (capacity : Nat) (policy : RetryPolicy)
    (hcapacity : max capacity 1 ≤ Outbox.maxCapacity) :
    ∃ outbox : Outbox α, Outbox.new capacity policy = .ok outbox ∧
      ∀ steps, ((start outbox).run steps).Lossless := by
  obtain ⟨outbox, hnew, hqueue, hidle⟩ := Outbox.exists_new policy hcapacity
  exact ⟨outbox, hnew, (lossless_start hqueue hidle).run⟩

/-- An event on which the downstream breaks down and then fails, while another one waits and a third
one is offered in vain; its publisher had looked at the flag in time and reaches the queue later. -/
def stallingSteps : List (Step Nat) :=
  [.publish 1, .receive, .publish 2, .attempt .crash, .publish 3, .attempt .fail, .resume,
    .attempt .fail, .resume, .attempt .accept, .receive, .enqueue 3, .attempt .fail]

/-- An outbox made for no event at all: two are tried, four times in all, and a third one waits. -/
theorem lossless_run_stalling :
    let policy : RetryPolicy := ⟨1, .ofMillis 200, .ofMillis 5000⟩
    max 0 1 ≤ Outbox.maxCapacity ∧
    ∃ outbox : Outbox Nat, Outbox.new 0 policy = .ok outbox ∧
      ((start outbox).run stallingSteps).taken = [1, 2, 3] ∧
      ((start outbox).run stallingSteps).calls =
        [⟨1, .crash⟩, ⟨1, .fail⟩, ⟨1, .accept⟩, ⟨2, .fail⟩] ∧
      ∀ steps, ((start outbox).run steps).Lossless := by
  intro policy
  have hcapacity : max 0 1 ≤ Outbox.maxCapacity := by decide
  obtain ⟨outbox, hnew, hlossless⟩ := lossless_run (α := Nat) 0 policy hcapacity
  obtain rfl := Except.ok.inj hnew
  exact ⟨hcapacity, _, hnew, by decide, by decide, hlossless⟩

end Relay

end Noughts
