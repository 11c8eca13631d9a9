import Mathlib.Data.List.DropRight
import Noughts.Proofs.Outbox.Relay

/-!
# When an outbox is stalled

The dispatcher compares its count of failures with the limit at each failure, and the count stops at
the largest number of 32 bits. `Relay.streak` lists the calls of the downstream since the last one
that was accepted, however many there are. The outbox is stalled exactly while their number has
reached the limit, `Relay.Gauged`, and they are the failed attempts at the event in flight.

`Relay.StallRule` says what follows: which step sets the flag and which clears it, and which events
are taken.
-/

namespace Noughts

/-- The limit as a natural number. -/
theorem RetryPolicy.toNat_stallAfter (p : RetryPolicy) :
    p.stallAfter.toNat = max p.maxAttempts.toNat 1 := by
  show (if p.maxAttempts ≤ 1 then 1 else p.maxAttempts).toNat = _
  have hone : (1 : UInt32).toNat = 1 := rfl
  split
  · next hle =>
    have hle := UInt32.le_iff_toNat_le.1 hle
    omega
  · next hgt =>
    have hgt := mt UInt32.le_iff_toNat_le.2 hgt
    omega

namespace Outbox

variable {α : Type}

/-- The count goes up by one, as far as 32 bits reach. -/
theorem toNat_oneMore (failures : UInt32) :
    (oneMore failures).toNat = min (failures.toNat + 1) (UInt32.size - 1) := by
  have hlt := failures.toNat_lt_size
  unfold oneMore
  split
  · next hfits =>
    rw [UInt32.toNat_add, UInt32.toNat_one, Nat.mod_eq_of_lt hfits]
    omega
  · omega

/-- Taking an event out of the queue keeps the flag. -/
@[simp] theorem stalled_receive (o : Outbox α) : o.receive.stalled = o.stalled := by
  unfold receive
  split <;> rfl

/-- Taking an event out of the queue keeps the policy. -/
@[simp] theorem policy_receive (o : Outbox α) : o.receive.policy = o.policy := by
  unfold receive
  split <;> rfl

/-- Taking an event out of the queue does not end the dispatcher. -/
@[simp] theorem isAttended_receive (o : Outbox α) : o.receive.isAttended = o.isAttended := by
  unfold receive
  split <;> rfl

/-- An answer keeps the policy. -/
@[simp] theorem policy_answered (o : Outbox α) (answer : Answer) :
    (o.answered answer).policy = o.policy := by
  unfold answered
  split <;> rfl

/-- A failed attempt is counted, and the flag is set if the count is the limit. -/
theorem answered_of_failure {o : Outbox α} {flight : InFlight α} {answer : Answer}
    (hflight : o.inFlight = some flight) (hfail : answer ≠ .accept) :
    o.answered answer = { o with
      inFlight := some { flight with failures := oneMore flight.failures }
      stalled := o.stalled || oneMore flight.failures == o.policy.stallAfter } := by
  cases answer with
  | accept => exact absurd rfl hfail
  | fail => simp only [answered, hflight]
  | crash => simp only [answered, hflight]

/-- An accepted event is no longer in flight, and the flag is cleared. -/
theorem answered_of_accept {o : Outbox α} {flight : InFlight α}
    (hflight : o.inFlight = some flight) :
    o.answered .accept = { o with inFlight := none, stalled := false } := by
  simp only [answered, hflight]

end Outbox

namespace Relay

variable {α : Type} {capacity : Nat} {policy : RetryPolicy} {r : Relay α}

/-- The calls of the downstream since the last one that was accepted. -/
def streak (r : Relay α) : List (Handover α) :=
  r.calls.rtakeWhile fun call => call.answer ≠ .accept

/-- A call that fails makes the streak longer by one. -/
theorem streak_of_failure {next : Relay α} {call : Handover α} (h : next.calls = r.calls ++ [call])
    (hfail : call.answer ≠ .accept) : next.streak = r.streak ++ [call] := by
  rw [streak, h, List.rtakeWhile_concat_pos _ _ _ (by simpa using hfail)]
  rfl

/-- A call that is accepted ends the streak. -/
theorem streak_of_accept {next : Relay α} {call : Handover α} (h : next.calls = r.calls ++ [call])
    (haccept : call.answer = .accept) : next.streak = [] := by
  rw [streak, h, List.rtakeWhile_concat_neg _ _ _ (by simp [haccept])]

/-- A step calls the downstream once, with the event in flight, or not at all. -/
theorem calls_step (r : Relay α) (s : Step α) :
    (r.step s).calls = r.calls ∨
    ∃ flight answer, r.outbox.inFlight = some flight ∧
      (r.step s).calls = r.calls ++ [⟨flight.event, answer⟩] := by
  have hoffered (event : α) (result : Except PublishFault (Outbox α)) :
      (r.offered event result).calls = r.calls := by
    cases result <;> rfl
  cases s with
  | publish event => exact Or.inl (hoffered event _)
  | enqueue event => exact Or.inl (hoffered event _)
  | receive => exact Or.inl rfl
  | attempt answer =>
      rcases r.attempt_eq answer with hsame | ⟨flight, hflight, hnext⟩
      · exact Or.inl (congrArg calls hsame)
      · exact Or.inr ⟨flight, answer, hflight, congrArg calls hnext⟩
  | resume => exact Or.inl rfl

/-- The invariant of a relay whose outbox has its dispatcher. Only the event in flight has failed
since the last delivery; the dispatcher counts these failures as far as it can, and the flag tells
whether they have reached the limit. -/
structure Gauged (capacity : Nat) (policy : RetryPolicy) (r : Relay α) : Prop where
  capacity_eq : r.outbox.capacity = capacity
  policy_eq : r.outbox.policy = policy
  isAttended : r.outbox.isAttended = true
  of_streak : ∀ call ∈ r.streak, r.outbox.inFlight.map InFlight.event = some call.event
  counted : ∀ flight, r.outbox.inFlight = some flight →
    flight.failures.toNat = min r.streak.length (UInt32.size - 1)
  stalled_iff : r.outbox.stalled = true ↔ max policy.maxAttempts.toNat 1 ≤ r.streak.length

/-- With nothing in flight nothing has failed since the last delivery. -/
theorem Gauged.streak_eq_nil (h : r.Gauged capacity policy) (hidle : r.outbox.inFlight = none) :
    r.streak = [] := by
  refine List.eq_nil_iff_forall_not_mem.2 fun call hcall => ?_
  have hevent := h.of_streak call hcall
  rw [hidle] at hevent
  cases hevent

/-- Publishing an event has to do with the queue alone. -/
theorem Gauged.offered (h : r.Gauged capacity policy) {event : α}
    {result : Except PublishFault (Outbox α)}
    (hresult : ∀ next, result = .ok next →
      next = { r.outbox with queue := r.outbox.queue ++ [event] }) :
    (r.offered event result).Gauged capacity policy := by
  cases result with
  | error cause => exact h
  | ok next =>
      obtain rfl := hresult next rfl
      exact ⟨h.capacity_eq, h.policy_eq, h.isAttended, h.of_streak, h.counted, h.stalled_iff⟩

/-- An event that the dispatcher takes out of the queue has not failed yet. -/
theorem Gauged.receive (h : r.Gauged capacity policy) :
    Gauged capacity policy { r with outbox := r.outbox.receive } := by
  refine ⟨?_, ?_, ?_, fun call hcall => ?_, fun flight hflight => ?_, ?_⟩
  · exact (Outbox.capacity_receive _).trans h.capacity_eq
  · exact (Outbox.policy_receive _).trans h.policy_eq
  · exact (Outbox.isAttended_receive _).trans h.isAttended
  · have hcall : call ∈ r.streak := hcall
    rcases r.outbox.inFlight_receive with hsame | ⟨hidle, _⟩
    · exact (congrArg _ hsame).trans (h.of_streak call hcall)
    · rw [h.streak_eq_nil hidle] at hcall
      cases hcall
  · show flight.failures.toNat = min r.streak.length _
    rcases r.outbox.inFlight_receive with hsame | ⟨hidle, event, hbegun⟩
    · exact h.counted flight (hsame.symm.trans hflight)
    · obtain rfl := Option.some.inj (hbegun.symm.trans hflight)
      rw [h.streak_eq_nil hidle]
      rfl
  · show r.outbox.receive.stalled = true ↔ _ ≤ r.streak.length
    rw [Outbox.stalled_receive]
    exact h.stalled_iff

/-- A delivery ends the failures. -/
theorem Gauged.accept (h : r.Gauged capacity policy) {flight : InFlight α}
    (hflight : r.outbox.inFlight = some flight) {next : Relay α}
    (houtbox : next.outbox = r.outbox.answered .accept)
    (hcalls : next.calls = r.calls ++ [⟨flight.event, .accept⟩]) :
    next.Gauged capacity policy := by
  have hstreak : next.streak = [] := streak_of_accept hcalls rfl
  rw [Outbox.answered_of_accept hflight] at houtbox
  refine ⟨?_, ?_, ?_, fun call hcall => ?_, fun other hother => ?_, ?_⟩
  · rw [houtbox]
    exact h.capacity_eq
  · rw [houtbox]
    exact h.policy_eq
  · rw [houtbox]
    exact h.isAttended
  · rw [hstreak] at hcall
    cases hcall
  · rw [houtbox] at hother
    cases hother
  · rw [houtbox, hstreak]
    exact iff_of_false nofun (Nat.not_le.2 (Nat.le_max_right _ _))

/-- One more failure sets the flag if it is the one that reaches the limit. -/
theorem Gauged.fail (h : r.Gauged capacity policy) {flight : InFlight α} {answer : Answer}
    (hflight : r.outbox.inFlight = some flight) (hfail : answer ≠ .accept) {next : Relay α}
    (houtbox : next.outbox = r.outbox.answered answer)
    (hcalls : next.calls = r.calls ++ [⟨flight.event, answer⟩]) :
    next.Gauged capacity policy := by
  have hstreak : next.streak = r.streak ++ [⟨flight.event, answer⟩] :=
    streak_of_failure hcalls hfail
  have hlength : next.streak.length = r.streak.length + 1 := by
    rw [hstreak, List.length_append]
    rfl
  have hcount : (Outbox.oneMore flight.failures).toNat =
      min (r.streak.length + 1) (UInt32.size - 1) := by
    have hbefore := h.counted flight hflight
    rw [Outbox.toNat_oneMore]
    omega
  rw [Outbox.answered_of_failure hflight hfail] at houtbox
  refine ⟨?_, ?_, ?_, fun call hcall => ?_, fun other hother => ?_, ?_⟩
  · rw [houtbox]
    exact h.capacity_eq
  · rw [houtbox]
    exact h.policy_eq
  · rw [houtbox]
    exact h.isAttended
  · rw [houtbox]
    rw [hstreak] at hcall
    rcases List.mem_append.1 hcall with hbefore | hlast
    · have hevent := h.of_streak call hbefore
      rw [hflight] at hevent
      exact hevent
    · rw [List.mem_singleton.1 hlast]
      rfl
  · rw [houtbox] at hother
    obtain rfl := Option.some.inj hother
    rw [hlength]
    exact hcount
  · -- The limit has 32 bits, so the count has not stopped when it gets there.
    have hlimit : policy.stallAfter.toNat < UInt32.size := UInt32.toNat_lt_size _
    have hflag : next.outbox.stalled = true ↔
        r.outbox.stalled = true ∨ Outbox.oneMore flight.failures = policy.stallAfter := by
      rw [houtbox, ← h.policy_eq]
      simp
    rw [hflag, h.stalled_iff, ← UInt32.toNat_inj, hcount, hlength, ← policy.toNat_stallAfter]
    omega

/-- Every step keeps the invariant. -/
theorem Gauged.step (h : r.Gauged capacity policy) (s : Step α) :
    (r.step s).Gauged capacity policy := by
  cases s with
  | publish event => exact h.offered fun _ => Outbox.eq_of_offer
  | enqueue event => exact h.offered fun _ => Outbox.eq_of_enqueue
  | receive => exact h.receive
  | attempt answer =>
      show (r.attempt answer).Gauged capacity policy
      rcases r.attempt_eq answer with hsame | ⟨flight, hflight, hnext⟩
      · rw [hsame]
        exact h
      · by_cases haccept : answer = .accept
        · subst haccept
          exact h.accept hflight (congrArg outbox hnext) (congrArg calls hnext)
        · exact h.fail hflight haccept (congrArg outbox hnext) (congrArg calls hnext)
  | resume =>
      exact ⟨h.capacity_eq, h.policy_eq, h.isAttended, h.of_streak, h.counted, h.stalled_iff⟩

/-- Any number of steps keeps the flag in step with the failures. -/
theorem Gauged.run (h : r.Gauged capacity policy) (steps : List (Step α)) :
    (r.run steps).Gauged capacity policy := by
  induction steps generalizing r with
  | nil => exact h
  | cons s rest ih => exact ih (h.step s)

/-- A new outbox has no failures, and its flag is not set. -/
theorem gauged_start {outbox : Outbox α} (hnew : Outbox.new capacity policy = .ok outbox) :
    (start outbox).Gauged (max capacity 1) policy := by
  unfold Outbox.new at hnew
  split at hnew
  · cases hnew
  · cases hnew
    refine ⟨rfl, rfl, rfl, nofun, nofun, ?_⟩
    exact iff_of_false nofun (Nat.not_le.2 (Nat.le_max_right _ _))

/-- There is an event in flight that failed as often as the limit says, or more often. -/
def Stuck (policy : RetryPolicy) (r : Relay α) : Prop :=
  ∃ flight, r.outbox.inFlight = some flight ∧ (∀ call ∈ r.streak, call.event = flight.event) ∧
    max policy.maxAttempts.toNat 1 ≤ r.streak.length

/-- When the outbox is stalled and what that means. The flag is set exactly if an event is stuck.
So a step sets it exactly if it is the attempt that reaches the limit, and a step clears it exactly
if it is the delivery of that event. An event is taken exactly if the flag is clear and the queue
has room, and one that is not taken leaves everything as it was. -/
structure StallRule (capacity : Nat) (policy : RetryPolicy) (r : Relay α) : Prop where
  stalled_iff_stuck : r.outbox.stalled = true ↔ r.Stuck policy
  raised_iff : r.outbox.stalled = false → ∀ s, (r.step s).outbox.stalled = true ↔
    ∃ flight answer, r.outbox.inFlight = some flight ∧ answer ≠ .accept ∧
      (r.step s).calls = r.calls ++ [⟨flight.event, answer⟩] ∧
      r.streak.length + 1 = max policy.maxAttempts.toNat 1
  cleared_iff : r.outbox.stalled = true → ∀ s, (r.step s).outbox.stalled = false ↔
    ∃ flight, r.outbox.inFlight = some flight ∧
      (r.step s).calls = r.calls ++ [⟨flight.event, .accept⟩]
  taken_iff : ∀ event, (∃ next, r.outbox.offer event = .ok next) ↔
    r.outbox.stalled = false ∧ r.outbox.queue.length < capacity
  taken_last : ∀ event next, r.outbox.offer event = .ok next →
    r.step (.publish event) = { r with outbox := next, taken := r.taken ++ [event] } ∧
      next = { r.outbox with queue := r.outbox.queue ++ [event] }
  not_taken : ∀ event cause, r.outbox.offer event = .error cause → r.step (.publish event) = r

/-- After a step as many calls have failed since the last delivery as before, or the step made a
call, which is one more if it failed and leaves none if it was accepted. -/
theorem length_streak_step (r : Relay α) (s : Step α) :
    (r.step s).streak.length = r.streak.length ∧ (r.step s).calls = r.calls ∨
    ∃ flight answer, r.outbox.inFlight = some flight ∧
      (r.step s).calls = r.calls ++ [⟨flight.event, answer⟩] ∧
      (r.step s).streak.length = if answer = .accept then 0 else r.streak.length + 1 := by
  rcases r.calls_step s with hsame | ⟨flight, answer, hflight, hcalls⟩
  · left
    rw [streak, hsame]
    exact ⟨rfl, rfl⟩
  · refine Or.inr ⟨flight, answer, hflight, hcalls, ?_⟩
    by_cases haccept : answer = .accept
    · rw [streak_of_accept hcalls haccept, if_pos haccept]
      rfl
    · rw [streak_of_failure hcalls haccept, if_neg haccept, List.length_append]
      rfl

/-- A set flag names the event in flight as the one that is stuck. -/
theorem Gauged.stalled_iff_stuck (h : r.Gauged capacity policy) :
    r.outbox.stalled = true ↔ r.Stuck policy := by
  rw [h.stalled_iff]
  constructor
  · intro hlimit
    cases hflight : r.outbox.inFlight with
    | none =>
        rw [h.streak_eq_nil hflight, List.length_nil] at hlimit
        omega
    | some flight =>
        refine ⟨flight, hflight, fun call hcall => ?_, hlimit⟩
        have hevent := h.of_streak call hcall
        rw [hflight] at hevent
        exact (Option.some.inj hevent).symm
  · rintro ⟨_, _, _, hlimit⟩
    exact hlimit

/-- The rule follows from the invariant before a step and after it. -/
theorem Gauged.stallRule (h : r.Gauged capacity policy) : r.StallRule capacity policy where
  stalled_iff_stuck := h.stalled_iff_stuck
  raised_iff hclear s := by
    have hbelow : ¬ max policy.maxAttempts.toNat 1 ≤ r.streak.length := by
      rw [← h.stalled_iff, hclear]
      nofun
    rw [(h.step s).stalled_iff]
    constructor
    · intro hreached
      rcases r.length_streak_step s with ⟨hsame, _⟩ | ⟨flight, answer, hflight, hcalls, hlength⟩
      · omega
      · by_cases haccept : answer = .accept
        · rw [if_pos haccept] at hlength
          omega
        · rw [if_neg haccept] at hlength
          exact ⟨flight, answer, hflight, haccept, hcalls, by omega⟩
    · rintro ⟨flight, answer, _, hfail, hcalls, hlimit⟩
      rw [streak_of_failure hcalls hfail, List.length_append, List.length_singleton]
      omega
  cleared_iff hset s := by
    have hreached := h.stalled_iff.1 hset
    rw [← Bool.not_eq_true, (h.step s).stalled_iff]
    constructor
    · intro hbelow
      rcases r.length_streak_step s with ⟨hsame, _⟩ | ⟨flight, answer, hflight, hcalls, hlength⟩
      · omega
      · by_cases haccept : answer = .accept
        · exact ⟨flight, hflight, haccept ▸ hcalls⟩
        · rw [if_neg haccept] at hlength
          omega
    · rintro ⟨flight, _, hcalls⟩
      rw [streak_of_accept hcalls rfl, List.length_nil]
      omega
  taken_iff event := by
    constructor
    · rintro ⟨next, hoffer⟩
      obtain ⟨⟨hclear, _, hroom⟩, _⟩ := Outbox.offer_eq_ok_iff.1 hoffer
      exact ⟨hclear, h.capacity_eq ▸ hroom⟩
    · rintro ⟨hclear, hroom⟩
      exact ⟨_, Outbox.offer_eq_ok_iff.2 ⟨⟨hclear, h.isAttended, h.capacity_eq ▸ hroom⟩, rfl⟩⟩
  taken_last event next hoffer := by
    refine ⟨?_, Outbox.eq_of_offer hoffer⟩
    show r.offered event (r.outbox.offer event) = _
    rw [hoffer]
    rfl
  not_taken event cause hoffer := by
    show r.offered event (r.outbox.offer event) = r
    rw [hoffer]
    rfl

end Relay

end Noughts
