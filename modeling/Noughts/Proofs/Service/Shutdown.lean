import Noughts.Proofs.Outbox.Pending
import Noughts.Proofs.Registry.Replay
import Noughts.Proofs.Service.Recorded
import Noughts.Service.Program

/-!
# What is delivered when the service ends

Whatever the dispatcher does beside the request loop, the events that were delivered and those that
are still in the outbox are together the events that the outbox accepted, `Accounts`. When the input
ends the service waits until the outbox is empty (`Running.pending_drain`), so every event is
delivered. When the loop fails it does not wait, and what is in the outbox is lost:
`Launch.ends_delivered`.
-/

namespace Noughts

/-- There is at most one event in flight. -/
theorem Outbox.length_inFlight_le {α : Type} (o : Outbox α) : o.inFlight.toList.length ≤ 1 := by
  cases o.inFlight with
  | none => exact Nat.zero_le 1
  | some flight => exact Nat.le_refl 1

namespace Running

/-- The events that the outbox has taken: those delivered and those it still has. -/
def taken (s : Running) : List GameEvent := s.delivered ++ s.outbox.pending

/-- The dispatcher takes an event out of the queue, or tries the one it holds with the next
answer. -/
theorem step_eq (s : Running) :
    s.step =
      match s.outbox.inFlight with
      | none => { s with outbox := s.outbox.receive }
      | some flight =>
          let answer := s.schedule.answers.headD .accept
          { s with
            outbox := s.outbox.answered answer
            delivered := if answer = .accept then s.delivered ++ [flight.event] else s.delivered
            schedule := { s.schedule with answers := s.schedule.answers.tail } } := by
  simp only [step, Dispatcher.step, dispatcher, bind, StateT.bind, id]
  cases s.outbox.inFlight <;> rfl

/-- A step of the dispatcher loses nothing. -/
theorem taken_step (s : Running) : s.step.taken = s.taken := by
  rw [step_eq]
  split
  · exact congrArg (s.delivered ++ ·) s.outbox.pending_receive
  · next flight hflight =>
    by_cases haccept : s.schedule.answers.headD .accept = .accept
    · rw [haccept]
      show (s.delivered ++ [flight.event]) ++ (s.outbox.answered .accept).pending = _
      rw [List.append_assoc, List.singleton_append, ← Outbox.pending_of_accept hflight]
      rfl
    · show (if s.schedule.answers.headD .accept = .accept then _ else s.delivered) ++ _ = _
      rw [if_neg haccept, Outbox.pending_of_failure haccept]
      rfl

/-- Steps of the dispatcher lose nothing. -/
theorem taken_steps (count : Nat) (s : Running) : (steps count s).taken = s.taken := by
  induction count generalizing s with
  | zero => rfl
  | succ count ih =>
      rw [steps, ih]
      exact s.taken_step

/-- Whatever the schedule says, nothing is lost. -/
theorem taken_proceed (s : Running) : s.proceed.taken = s.taken := by
  unfold proceed
  split
  · exact taken_steps _ s
  · exact taken_steps _ _

/-! ## Draining -/

/-- A bound on the steps that the dispatcher can still make: an event takes a step to leave the
queue and one to be accepted, and each failed attempt uses up an answer. -/
def work (s : Running) : Nat :=
  s.schedule.answers.length + 2 * s.outbox.queue.length + s.outbox.inFlight.toList.length

/-- A step with something to do leaves less to do. -/
theorem work_step {s : Running} (h : s.outbox.pending ≠ []) : s.step.work < s.work := by
  rw [step_eq]
  cases hflight : s.outbox.inFlight with
  | none =>
      cases hqueue : s.outbox.queue with
      | nil => exact absurd (Outbox.pending_eq_nil_iff.2 ⟨hflight, hqueue⟩) h
      | cons event rest =>
          have hreceive : s.outbox.receive =
              { s.outbox with queue := rest, inFlight := some ⟨event, 0⟩ } := by
            simp only [Outbox.receive, hflight, hqueue]
          rw [work, work, hreceive, hflight, hqueue]
          show s.schedule.answers.length + 2 * rest.length + 1 <
            s.schedule.answers.length + 2 * (rest.length + 1) + 0
          omega
  | some flight =>
      cases hanswers : s.schedule.answers with
      | nil =>
          -- The target accepts everything by now, so the event in flight is gone.
          have hnone : (s.outbox.answered .accept).inFlight = none := by
            simp only [Outbox.answered, hflight]
          show 0 + 2 * (s.outbox.answered .accept).queue.length +
            (s.outbox.answered .accept).inFlight.toList.length < s.work
          rw [work, hanswers, hflight, hnone, Outbox.queue_answered]
          show 0 + 2 * s.outbox.queue.length + 0 < 0 + 2 * s.outbox.queue.length + 1
          omega
      | cons answer rest =>
          have hflights := (s.outbox.answered answer).length_inFlight_le
          show rest.length + 2 * (s.outbox.answered answer).queue.length +
            (s.outbox.answered answer).inFlight.toList.length < s.work
          rw [work, hanswers, hflight, Outbox.queue_answered, List.length_cons]
          show _ < rest.length + 1 + 2 * s.outbox.queue.length + 1
          omega

/-- With nothing pending the dispatcher has nothing to do. -/
theorem step_of_idle {s : Running} (h : s.outbox.pending = []) : s.step = s := by
  obtain ⟨hflight, hqueue⟩ := Outbox.pending_eq_nil_iff.1 h
  have hreceive : s.outbox.receive = s.outbox := by
    simp only [Outbox.receive, hflight, hqueue]
  rw [step_eq, hflight]
  show { s with outbox := s.outbox.receive } = s
  rw [hreceive]

/-- With nothing pending it never has anything to do. -/
theorem steps_of_idle {s : Running} (h : s.outbox.pending = []) (count : Nat) :
    steps count s = s := by
  induction count with
  | zero => rfl
  | succ count ih => rw [steps, step_of_idle h, ih]

/-- As many steps as there is work empty the outbox. -/
theorem pending_steps {count : Nat} {s : Running} (h : s.work ≤ count) :
    (steps count s).outbox.pending = [] := by
  induction count generalizing s with
  | zero =>
      show s.outbox.pending = []
      refine Classical.byContradiction fun hbusy => ?_
      have hless := work_step hbusy
      omega
  | succ count ih =>
      rw [steps]
      by_cases hidle : s.outbox.pending = []
      · rw [step_of_idle hidle, steps_of_idle hidle]
        exact hidle
      · exact ih (by have hless := work_step hidle; omega)

/-- Draining empties the outbox. -/
theorem pending_drain (s : Running) : s.drain.outbox.pending = [] := by
  refine pending_steps ?_
  have hflights := s.outbox.length_inFlight_le
  rw [work]
  omega

end Running

/-! ## The request loop -/

/-- An event is offered to the outbox once the dispatcher has worked as far as the schedule says. -/
theorem Running.publish_eq (sites : Sites) (event : GameEvent) (s : Running) :
    publish sites event s =
      match s.proceed.outbox.offer event with
      | .ok outbox => (.ok (), { s.proceed with outbox := outbox })
      | .error fault => (.error (.noticed sites fault), s.proceed) := by
  simp only [publish, Outbox.publisher]
  cases s.proceed.outbox.offer event <;> rfl

/-- The events that were accepted are those that the outbox has taken, and they rebuild the sessions
of the registry. -/
structure Accounts (clock : Nat → Int64) (r : Registry) (s : Running) (log : List GameEvent) :
    Prop where
  taken_eq : s.taken = log
  replays : Replays clock log r

namespace Accounts

variable {clock : Nat → Int64} {r : Registry} {s : Running} {log : List GameEvent}

/-- The dispatcher keeps the account. -/
theorem proceed (h : Accounts clock r s log) : Accounts clock r s.proceed log :=
  ⟨s.taken_proceed.trans h.taken_eq, h.replays⟩

/-- Each thing that the request loop does outside keeps the account. -/
theorem keeps (clock : Nat → Int64) (l : Launch) :
    Keeps (Running.surroundings l) Running.write (Accounts clock) where
  clock h := ⟨h.taken_eq, h.replays⟩
  freshId h := ⟨h.taken_eq, h.replays⟩
  accepted {r s next log op event session reply} h hcommits hpublish := by
    have hs := h.proceed
    simp only [Running.surroundings, Running.publish_eq] at hpublish
    cases hoffer : s.proceed.outbox.offer event with
    | error fault =>
        rw [hoffer] at hpublish
        cases hpublish
    | ok outbox =>
        rw [hoffer] at hpublish
        obtain rfl := (Prod.mk.inj hpublish).2
        refine ⟨?_, hs.replays.commit hcommits⟩
        show s.proceed.delivered ++ outbox.pending = log ++ [event]
        rw [Outbox.pending_of_offer hoffer, ← List.append_assoc]
        exact congrArg (· ++ [event]) hs.taken_eq
  refused {r s next log event cause} h hpublish := by
    simp only [Running.surroundings, Running.publish_eq] at hpublish
    cases hoffer : s.proceed.outbox.offer event with
    | error fault =>
        rw [hoffer] at hpublish
        obtain rfl := (Prod.mk.inj hpublish).2
        exact h.proceed
    | ok outbox =>
        rw [hoffer] at hpublish
        cases hpublish
  write {r s log} h line := by
    have hs := h.proceed
    simp only [Running.write]
    split
    · exact hs
    · exact ⟨hs.taken_eq, hs.replays⟩

end Accounts

namespace Launch

/-- The events that the outbox accepts in a run, in order. -/
def accepted (l : Launch) (outbox : Outbox GameEvent) : List GameEvent :=
  (Registry.empty.serve (Running.surroundings l).recording
    (fun line => onFirst (Running.write line)) l.input (l.initial outbox, [])).2.2

/-- The registry at the end of a run. -/
def finalRegistry (l : Launch) (outbox : Outbox GameEvent) : Registry :=
  (Registry.empty.serve (Running.surroundings l) Running.write l.input (l.initial outbox)).1.2

/-- At the end of the request loop the accepted events are accounted for. -/
theorem accounts_handle (l : Launch) (clock : Nat → Int64) {capacity : Nat} {policy : RetryPolicy}
    {outbox : Outbox GameEvent} (hnew : Outbox.new capacity policy = .ok outbox) :
    Accounts clock (l.finalRegistry outbox)
      (Registry.empty.serve (Running.surroundings l) Running.write l.input (l.initial outbox)).2
      (l.accepted outbox) := by
  have hstart : Accounts clock .empty (l.initial outbox) [] := by
    refine ⟨?_, replays_start clock⟩
    unfold Outbox.new at hnew
    split at hnew
    · cases hnew
    · cases hnew
      rfl
  have hend := (Accounts.keeps clock l).serve hstart l.input
  obtain ⟨more, hsame⟩ := Registry.logging_serve (Running.surroundings l) Running.write .empty
    l.input (l.initial outbox) []
  rw [HoldsAfter] at hend
  rw [accepted, finalRegistry]
  rw [hsame] at hend ⊢
  exact hend

/-- When the input ends, the dispatcher works until it is done. -/
theorem handle_of_ok (l : Launch) {outbox : Outbox GameEvent} {handled : Nat} {r : Registry}
    {s : Running}
    (h : Registry.empty.serve (Running.surroundings l) Running.write l.input (l.initial outbox) =
      ((.ok handled, r), s)) : l.handle outbox = (.ok handled, s.drain) := by
  simp only [handle, Desk.handle, desk, bind, StateT.bind, h]
  rfl

/-- When the loop fails, the dispatcher gets no further than the schedule says. -/
theorem handle_of_error (l : Launch) {outbox : Outbox GameEvent} {e : ServeError} {r : Registry}
    {s : Running}
    (h : Registry.empty.serve (Running.surroundings l) Running.write l.input (l.initial outbox) =
      ((.error e, r), s)) : l.handle outbox = (.error e, s.proceed) := by
  simp only [handle, Desk.handle, desk, bind, StateT.bind, h]
  rfl

/-- How the service ends, whatever the input, the dispatcher, the target and standard output do. The
accepted events rebuild the registry, and none of them is delivered twice or out of order. If the
input came to its end they are all delivered; if the request loop failed, all but those that are
then in the outbox. -/
theorem ends_delivered (l : Launch) (clock : Nat → Int64) {capacity : Nat} {policy : RetryPolicy}
    {outbox : Outbox GameEvent} (hnew : Outbox.new capacity policy = .ok outbox) :
    Replays clock (l.accepted outbox) (l.finalRegistry outbox) ∧
      (l.handle outbox).2.delivered ++ (l.handle outbox).2.outbox.pending = l.accepted outbox ∧
      ∀ handled, (l.handle outbox).1 = .ok handled →
        (l.handle outbox).2.delivered = l.accepted outbox := by
  have hend := l.accounts_handle clock hnew
  rcases hserved : Registry.empty.serve (Running.surroundings l) Running.write l.input
    (l.initial outbox) with ⟨⟨result, r⟩, s⟩
  rw [hserved] at hend
  cases result with
  | ok handled =>
      rw [l.handle_of_ok hserved]
      have htaken : s.drain.taken = l.accepted outbox :=
        (Running.taken_steps _ s).trans hend.taken_eq
      refine ⟨hend.replays, htaken, fun _ _ => ?_⟩
      rw [Running.taken, s.pending_drain, List.append_nil] at htaken
      exact htaken
  | error e =>
      rw [l.handle_of_error hserved]
      exact ⟨hend.replays, s.taken_proceed.trans hend.taken_eq, nofun⟩

/-- A run without arguments and files, in which every event is in the outbox until the service ends
by itself, and which has this input. -/
def idle (input : List UInt8) : Launch where
  arguments := []
  environment := []
  disk := ⟨[], []⟩
  input := input
  clock := fun looks => ⟨Int64.ofNat looks, Int64.ofNat (looks + 1)⟩
  freshId := fun count => ⟨Nat.repr count⟩
  schedule := ⟨[0, 0, 0], [], fun _ => .ok ()⟩
  sites := fun _ => ⟨"outbox", 1⟩
  describe := fun line _ => s!"{line} is no request"
  report := ⟨fun _ => ⟨"configuration", 1⟩, fun text => s!"{text} is no configuration"⟩

/-- The input of a request for a session, in a line of its own. -/
def creationInput : List UInt8 :=
  utf8Bytes (wireText (Request.createSession [⟨"ann"⟩, ⟨"bob"⟩])) ++ [0x0a]

/-- An empty outbox for four events. -/
def smallOutbox : Outbox GameEvent where
  capacity := 4
  policy := .standard
  queue := []
  inFlight := none
  stalled := false
  isAttended := true

/-- The input ends after a creation, whose event is then delivered. -/
theorem ends_delivered_creation :
    Outbox.new 4 .standard = .ok smallOutbox ∧
      ((idle creationInput).handle smallOutbox).1.toOption = some 1 ∧
      ((idle creationInput).handle smallOutbox).2.delivered =
        (idle creationInput).accepted smallOutbox := by
  have hnew : Outbox.new 4 .standard = .ok smallOutbox := rfl
  have hresult : ((idle creationInput).handle smallOutbox).1.toOption = some 1 := by decide +kernel
  obtain ⟨-, -, hdelivered⟩ := ends_delivered (idle creationInput) (fun _ => 0) hnew
  refine ⟨hnew, hresult, ?_⟩
  cases hhandle : ((idle creationInput).handle smallOutbox).1 with
  | error e =>
      rw [hhandle] at hresult
      cases hresult
  | ok handled => exact hdelivered handled hhandle

/-- A line that is not UTF-8 comes after a creation. The client is told that the session is created,
and the event of the creation is lost. -/
theorem event_lost_at_failure :
    let l := idle (creationInput ++ [0xff, 0x0a])
    (l.handle smallOutbox).1.toOption = none ∧ (l.handle smallOutbox).2.output.length = 1 ∧
      (l.accepted smallOutbox).length = 1 ∧ (l.handle smallOutbox).2.delivered = [] := by
  decide +kernel

end Launch

end Noughts
