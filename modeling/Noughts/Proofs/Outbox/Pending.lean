import Noughts.Outbox

/-!
# What an outbox still has to deliver

`Outbox.pending` lists the events that were taken and not yet accepted downstream: the one in
flight, if any, and then the queue. An offer that succeeds adds its event at the end, an accepting
answer takes the first one away, and nothing else changes the list.
-/

namespace Noughts.Outbox

variable {α : Type}

/-- The events that are taken and not yet accepted downstream, oldest first. -/
def pending (o : Outbox α) : List α :=
  (o.inFlight.map InFlight.event).toList ++ o.queue

/-- An offer succeeds if the outbox is not stalled, has a dispatcher and has room; the event then
joins the queue. -/
theorem offer_eq_ok_iff {o next : Outbox α} {event : α} :
    o.offer event = .ok next ↔
      (o.stalled = false ∧ o.isAttended = true ∧ o.queue.length < o.capacity) ∧
        next = { o with queue := o.queue ++ [event] } := by
  unfold offer
  cases o.stalled with
  | true => simp
  | false =>
      cases o.isAttended with
      | false => simp
      | true =>
          by_cases hfull : o.capacity ≤ o.queue.length
          · simp [hfull, Nat.not_lt.2 hfull]
          · simp [hfull, Nat.lt_of_not_le hfull, eq_comm]

/-- An event that is taken is the last one pending. -/
theorem pending_of_offer {o next : Outbox α} {event : α} (h : o.offer event = .ok next) :
    next.pending = o.pending ++ [event] := by
  obtain ⟨_, rfl⟩ := offer_eq_ok_iff.1 h
  exact (List.append_assoc _ _ _).symm

/-- Taking an event out of the queue puts it in flight. -/
theorem pending_receive (o : Outbox α) : o.receive.pending = o.pending := by
  unfold receive
  split
  · next hidle hqueue => simp [pending, hidle, hqueue]
  · rfl

/-- An accepted event was the first one pending. -/
theorem pending_of_accept {o : Outbox α} {flight : InFlight α} (h : o.inFlight = some flight) :
    o.pending = flight.event :: (o.answered .accept).pending := by
  simp [pending, answered, h]

/-- A failed attempt leaves everything pending. -/
theorem pending_of_failure {o : Outbox α} {answer : Answer} (h : answer ≠ .accept) :
    (o.answered answer).pending = o.pending := by
  unfold answered
  split
  · rfl
  · exact absurd rfl h
  · next hflight _ => simp [pending, hflight]

/-- Nothing is pending exactly when the outbox is idle. -/
theorem pending_eq_nil_iff {o : Outbox α} : o.pending = [] ↔ o.inFlight = none ∧ o.queue = [] := by
  simp [pending]

/-- No more is pending than the queue holds and one event in flight. -/
theorem length_pending_le (o : Outbox α) : o.pending.length ≤ o.queue.length + 1 := by
  unfold pending
  rw [List.length_append]
  cases o.inFlight with
  | none =>
      show 0 + o.queue.length ≤ o.queue.length + 1
      omega
  | some flight =>
      show 1 + o.queue.length ≤ o.queue.length + 1
      omega

/-- The dispatcher never makes the queue longer. -/
theorem length_queue_receive_le (o : Outbox α) : o.receive.queue.length ≤ o.queue.length := by
  unfold receive
  split
  · next hqueue => simp [hqueue]
  · exact Nat.le_refl _

/-- Taking an event out of the queue keeps the capacity. -/
@[simp] theorem capacity_receive (o : Outbox α) : o.receive.capacity = o.capacity := by
  unfold receive
  split <;> rfl

/-- An answer keeps the capacity. -/
@[simp] theorem capacity_answered (o : Outbox α) (answer : Answer) :
    (o.answered answer).capacity = o.capacity := by
  unfold answered
  split <;> rfl

/-- An answer concerns the event in flight and leaves the queue as it is. -/
@[simp] theorem queue_answered (o : Outbox α) (answer : Answer) :
    (o.answered answer).queue = o.queue := by
  unfold answered
  split <;> rfl

end Noughts.Outbox
