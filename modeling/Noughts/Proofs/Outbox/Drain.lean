import Noughts.Outbox.Timeline
import Noughts.Proofs.Outbox.Stall

/-!
# How an outbox is drained

When nobody publishes any more, the dispatcher works until nothing is left. A downstream that
refuses only finitely often lets it come to an end: each attempt uses up a refusal of the script or
delivers an event. `Timeline.Account` is kept by any number of attempts and says what became of the
events and of the script. `Forwarding.ofScript` deals the script out to the events: each event
takes the answers up to the first one that accepts, and its waits are those of the policy for so
many failures, counted for each event anew.

`Relay.drained_run` puts this together for an outbox that has been at work in any way before.
-/

namespace Noughts

namespace Outbox

variable {α : Type}

/-- The count of so many failures, which stops at the largest number of 32 bits. -/
def counted (failures : Nat) : UInt32 := UInt32.ofNat (min failures (UInt32.size - 1))

/-- One failure more, as a count. -/
theorem oneMore_eq (failures : UInt32) : oneMore failures = counted (failures.toNat + 1) := by
  have hfits : min (failures.toNat + 1) (UInt32.size - 1) < UInt32.size := by
    have hsize : UInt32.size = 4294967296 := rfl
    omega
  rw [← UInt32.toNat_inj, toNat_oneMore, counted, UInt32.toNat_ofNat', Nat.mod_eq_of_lt hfits]

/-- It makes no difference to later counts whether one failure is counted before them. -/
theorem counted_oneMore_add (failures : UInt32) (more : Nat) :
    counted ((oneMore failures).toNat + more) = counted (failures.toNat + (more + 1)) := by
  have hsame : min ((oneMore failures).toNat + more) (UInt32.size - 1) =
      min (failures.toNat + (more + 1)) (UInt32.size - 1) := by
    rw [toNat_oneMore]
    omega
  rw [counted, counted, hsame]

/-- The events that are not accepted yet, oldest first, each with the count of its failures. -/
def flights (o : Outbox α) : List (InFlight α) :=
  o.inFlight.toList ++ o.queue.map fun event => ⟨event, 0⟩

/-- Without their counts these are the events that are still pending. -/
theorem map_event_flights (o : Outbox α) : o.flights.map InFlight.event = o.pending := by
  cases hflight : o.inFlight <;> simp [flights, pending, Function.comp_def, hflight]

/-- There are as many as events that are still pending. -/
theorem length_flights (o : Outbox α) : o.flights.length = o.pending.length := by
  rw [← map_event_flights, List.length_map]

/-- The event that the dispatcher works on is the oldest one. -/
theorem flights_of_inFlight {o : Outbox α} {flight : InFlight α}
    (h : o.receive.inFlight = some flight) :
    o.flights = flight :: (o.receive.answered .accept).flights := by
  rw [answered_of_accept h]
  unfold receive at h ⊢
  split at h
  · next event rest hidle hqueue =>
    obtain rfl := Option.some.inj h
    simp [flights, hidle, hqueue]
  · next hbusy => simp [flights, h]

/-- The dispatcher finds nothing to do exactly if nothing is left. -/
theorem flights_eq_nil_iff {o : Outbox α} : o.flights = [] ↔ o.receive.inFlight = none := by
  constructor
  · intro hnil
    cases hflight : o.receive.inFlight with
    | none => rfl
    | some flight =>
        rw [flights_of_inFlight hflight] at hnil
        cases hnil
  · intro hidle
    unfold receive at hidle
    split at hidle
    · cases hidle
    · next hbusy =>
      cases hqueue : o.queue with
      | nil => simp [flights, hidle, hqueue]
      | cons event rest => exact absurd hqueue (hbusy event rest hidle)

/-- A failure is counted, and the event stays the oldest one. -/
theorem flights_of_failure {o : Outbox α} {flight : InFlight α} {answer : Answer}
    (h : o.inFlight = some flight) (hfail : answer ≠ .accept) :
    (o.answered answer).flights =
      ⟨flight.event, oneMore flight.failures⟩ :: (o.answered .accept).flights := by
  rw [answered_of_failure h hfail, answered_of_accept h]
  rfl

end Outbox

/-- The wait after the given failure of one event, in milliseconds of the clock. -/
def RetryPolicy.wait (p : RetryPolicy) (failures : UInt32) : Nat :=
  ((p.delay failures).least Outbox.longestPause).millisUp

/-- The call without its time. -/
def Attempt.handover {α : Type} (a : Attempt α) : Handover α := ⟨a.event, a.answer⟩

/-- The attempts at one event up to its delivery: how often it failed earlier, then the attempts
that fail, then one that is accepted. -/
structure Forwarding (α : Type) extends Attempts α where
  earlier : UInt32

namespace Forwarding

variable {α : Type}

/-- The counts of the failures. -/
def counts (b : Forwarding α) : List UInt32 :=
  (List.range b.answers.length).map fun k => Outbox.counted (b.earlier.toNat + (k + 1))

/-- The waits, one for each failure. -/
def sleeps (policy : RetryPolicy) (b : Forwarding α) : List Duration :=
  b.counts.map policy.delay

/-- The calls of the downstream, the first one at a given time. Between two of them is a wait. -/
def calls (policy : RetryPolicy) (start : Nat) (b : Forwarding α) : List (Attempt α) :=
  ((b.counts.map policy.wait).scanl (· + ·) start).zipWith
    (fun time answer => ⟨time, b.event, answer⟩) (b.answers ++ [.accept])

/-- The time of the delivery. -/
def finish (policy : RetryPolicy) (start : Nat) (b : Forwarding α) : Nat :=
  (b.counts.map policy.wait).foldl (· + ·) start

/-- An event that begins with the answers of a script takes them up to the first one that
accepts. -/
def share (flight : InFlight α) (script : List Answer) : Forwarding α where
  event := flight.event
  answers := script.takeWhile (· ≠ .accept)
  failed _ h := by simpa using List.mem_takeWhile_imp h
  earlier := flight.failures

/-- What is left of the script for the events behind it. -/
def unshared (script : List Answer) : List Answer :=
  (script.dropWhile (· ≠ .accept)).tail

/-- The script dealt out to the events. -/
def ofScript : List (InFlight α) → List Answer → List (Forwarding α)
  | [], _ => []
  | flight :: rest, script => share flight script :: ofScript rest (unshared script)

/-- The calls for one event after the other, the first one at a given time. -/
def timetable (policy : RetryPolicy) : (start : Nat) → List (Forwarding α) → List (Attempt α)
  | _, [] => []
  | start, b :: rest => b.calls policy start ++ timetable policy (b.finish policy start) rest

/-- An event that is accepted at once fails at no attempt. -/
theorem answers_share_of_accept (flight : InFlight α) {script : List Answer}
    (h : script.headD .accept = .accept) : (share flight script).answers = [] := by
  cases script with
  | nil => rfl
  | cons answer script =>
      obtain rfl : answer = .accept := h
      rfl

/-- An event that is accepted at once counts no failure. -/
theorem counts_share_of_accept (flight : InFlight α) {script : List Answer}
    (h : script.headD .accept = .accept) : (share flight script).counts = [] := by
  rw [counts, answers_share_of_accept flight h]
  rfl

/-- An event that is accepted at once takes one answer from the script. -/
theorem unshared_of_accept {script : List Answer} (h : script.headD .accept = .accept) :
    unshared script = script.tail := by
  cases script with
  | nil => rfl
  | cons answer script =>
      obtain rfl : answer = .accept := h
      rfl

/-- A refusal goes to the oldest event, and the answers after it are those for the same event with a
failure more. -/
theorem answers_share_of_refusal (flight : InFlight α) {answer : Answer} (script : List Answer)
    (h : answer ≠ .accept) :
    (share flight (answer :: script)).answers =
      answer :: (share ⟨flight.event, Outbox.oneMore flight.failures⟩ script).answers := by
  simp only [share]
  exact List.takeWhile_cons_of_pos (by simpa using h)

/-- A refusal for the oldest event leaves the events behind it what they had. -/
theorem unshared_of_refusal {answer : Answer} (script : List Answer) (h : answer ≠ .accept) :
    unshared (answer :: script) = unshared script := by
  rw [unshared, List.dropWhile_cons_of_pos (by simpa using h)]
  rfl

/-- The first of several failures is one more than the earlier ones, and the others go on from
there. -/
theorem counts_share_of_refusal (flight : InFlight α) {answer : Answer} (script : List Answer)
    (h : answer ≠ .accept) :
    (share flight (answer :: script)).counts =
      Outbox.oneMore flight.failures ::
        (share ⟨flight.event, Outbox.oneMore flight.failures⟩ script).counts := by
  rw [counts, answers_share_of_refusal flight script h, List.length_cons, List.range_succ_eq_map,
    List.map_cons, List.map_map, counts]
  congr 1
  · exact (Outbox.oneMore_eq flight.failures).symm
  · refine List.map_congr_left fun k _ => ?_
    exact (Outbox.counted_oneMore_add flight.failures (k + 1)).symm

/-- An answer that accepts delivers the oldest event. -/
theorem timetable_of_accept (policy : RetryPolicy) (start : Nat) (flight : InFlight α)
    (rest : List (InFlight α)) {script : List Answer} (h : script.headD .accept = .accept) :
    timetable policy start (ofScript (flight :: rest) script) =
      ⟨start, flight.event, .accept⟩ :: timetable policy start (ofScript rest script.tail) := by
  have hcounts := counts_share_of_accept flight h
  have hcalls : (share flight script).calls policy start = [⟨start, flight.event, .accept⟩] := by
    rw [calls, hcounts, answers_share_of_accept flight h]
    rfl
  have hfinish : (share flight script).finish policy start = start := by
    rw [finish, hcounts]
    rfl
  rw [ofScript, timetable, hcalls, hfinish, unshared_of_accept h]
  rfl

/-- A refusal is followed by a wait, and the event stays the oldest one. -/
theorem timetable_of_refusal (policy : RetryPolicy) (start : Nat) (flight : InFlight α)
    (rest : List (InFlight α)) {answer : Answer} (script : List Answer) (h : answer ≠ .accept) :
    timetable policy start (ofScript (flight :: rest) (answer :: script)) =
      ⟨start, flight.event, answer⟩ ::
        timetable policy (start + policy.wait (Outbox.oneMore flight.failures))
          (ofScript (⟨flight.event, Outbox.oneMore flight.failures⟩ :: rest) script) := by
  have hcounts := counts_share_of_refusal flight script h
  rw [ofScript, ofScript, timetable, timetable, unshared_of_refusal script h, calls, calls, finish,
    finish, hcounts, answers_share_of_refusal flight script h, List.map_cons, List.scanl_cons,
    List.foldl_cons]
  rfl

/-- An acceptance asks for no wait. -/
theorem sleeps_of_accept (policy : RetryPolicy) (flight : InFlight α) (rest : List (InFlight α))
    {script : List Answer} (h : script.headD .accept = .accept) :
    (ofScript (flight :: rest) script).flatMap (sleeps policy) =
      (ofScript rest script.tail).flatMap (sleeps policy) := by
  have hsleeps : (share flight script).sleeps policy = [] := by
    rw [sleeps, counts_share_of_accept flight h]
    rfl
  rw [ofScript, List.flatMap_cons, hsleeps, unshared_of_accept h]
  rfl

/-- A refusal asks for the wait that the policy has for the new count, and the event stays the
oldest one. -/
theorem sleeps_of_refusal (policy : RetryPolicy) (flight : InFlight α) (rest : List (InFlight α))
    {answer : Answer} (script : List Answer) (h : answer ≠ .accept) :
    (ofScript (flight :: rest) (answer :: script)).flatMap (sleeps policy) =
      policy.delay (Outbox.oneMore flight.failures) ::
        (ofScript (⟨flight.event, Outbox.oneMore flight.failures⟩ :: rest) script).flatMap
          (sleeps policy) := by
  rw [ofScript, ofScript, List.flatMap_cons, List.flatMap_cons, unshared_of_refusal script h,
    sleeps, counts_share_of_refusal flight script h]
  rfl

end Forwarding

namespace Timeline

variable {α : Type}

/-- When the dispatcher may make its next attempt. -/
def due (t : Timeline α) : Nat :=
  max t.now (if t.outbox.inFlight.isSome then t.resumesAt else t.now)

/-- The wait that the dispatcher asks for before it tries again, if it has failed. -/
def request? (t : Timeline α) : Option Duration :=
  t.outbox.inFlight.map fun flight => t.outbox.policy.delay flight.failures

/-- The waits that the dispatcher asks for in the course of its attempts. -/
def requests (limit : Option Nat) : (fuel : Nat) → Timeline α → List Duration
  | 0, _ => []
  | fuel + 1, t =>
    match t.next? limit with
    | none => []
    | some (_, next) => next.request?.toList ++ requests limit fuel next

/-- The next attempt, at an event that the dispatcher has or takes out of the queue. -/
def served (t : Timeline α) (flight : InFlight α) : Attempt α × Timeline α :=
  { t with outbox := t.outbox.receive }.attempt t.due flight.event

/-- The outbox after an attempt has got the next answer of the script, or the one for later. -/
theorem outbox_served (t : Timeline α) (flight : InFlight α) :
    (t.served flight).2.outbox = t.outbox.receive.answered (t.script.headD t.thereafter) := rfl

/-- An attempt is made when the dispatcher is due. -/
theorem now_served (t : Timeline α) (flight : InFlight α) : (t.served flight).2.now = t.due := rfl

/-- After an attempt the dispatcher pauses for as long as the outbox then says. -/
theorem resumesAt_served (t : Timeline α) (flight : InFlight α) :
    (t.served flight).2.resumesAt = t.due + (t.served flight).2.outbox.pause.millisUp := rfl

/-- Without a limit of time the dispatcher makes an attempt whenever there is an event for it. -/
theorem next?_of_inFlight {t : Timeline α} {flight : InFlight α}
    (h : t.outbox.receive.inFlight = some flight) : t.next? none = some (t.served flight) := by
  simp only [next?, h]
  rfl

/-- Without an event the dispatcher makes no attempt, whatever the limit. -/
theorem next?_of_idle {t : Timeline α} (h : t.outbox.receive.inFlight = none)
    (limit : Option Nat) : t.next? limit = none := by
  simp only [next?, h]

/-- Every attempt is made at an event in flight. -/
theorem exists_served_of_next? {t : Timeline α} {limit : Option Nat}
    {step : Attempt α × Timeline α} (h : t.next? limit = some step) :
    ∃ flight, t.outbox.receive.inFlight = some flight ∧ step = t.served flight := by
  cases hflight : t.outbox.receive.inFlight with
  | none =>
      rw [next?_of_idle hflight] at h
      cases h
  | some flight =>
      simp only [next?, hflight, Option.ite_none_right_eq_some] at h
      exact ⟨flight, rfl, (Option.some.inj h.2).symm⟩

/-- An account of what any number of attempts did. The events that were accepted are gone, oldest
first, and counted; the answers of the downstream are used up one by one, and those that are
missing are the one for later. A set flag belongs to an event in flight. -/
structure Account (t : Timeline α) (made : List (Attempt α)) (last : Timeline α) : Prop where
  pending_eq : t.outbox.pending =
    Handover.accepted (made.map Attempt.handover) ++ last.outbox.pending
  delivered_eq : last.delivered =
    t.delivered + (Handover.accepted (made.map Attempt.handover)).length
  script_eq : last.script = t.script.drop made.length
  answers_eq : made.map Attempt.answer = t.script.takeD made.length t.thereafter
  thereafter_eq : last.thereafter = t.thereafter
  isSome_of_stalled : (t.outbox.stalled = true → t.outbox.inFlight.isSome) →
    last.outbox.stalled = true → last.outbox.inFlight.isSome

/-- An attempt keeps the account. -/
theorem account_served {t : Timeline α} {flight : InFlight α}
    (h : t.outbox.receive.inFlight = some flight) :
    t.Account [(t.served flight).1] (t.served flight).2 := by
  have hanswers : [(t.served flight).1].map Attempt.answer = t.script.takeD 1 t.thereafter := by
    simp [served, attempt]
  have hscript : (t.served flight).2.script = t.script.drop 1 := (List.drop_one).symm
  have hcalls := Handover.accepted_concat [] (t.served flight).1.handover
  have hdelivered : (t.served flight).2.delivered =
      if t.script.headD t.thereafter = .accept then t.delivered + 1 else t.delivered := rfl
  have houtbox := t.outbox_served flight
  by_cases haccept : t.script.headD t.thereafter = .accept
  · have hone : Handover.accepted ([(t.served flight).1].map Attempt.handover) = [flight.event] :=
      hcalls.trans (if_pos haccept)
    rw [haccept] at houtbox
    refine ⟨?_, ?_, hscript, hanswers, rfl, fun _ hstalled => ?_⟩
    · rw [hone, houtbox, ← Outbox.pending_receive t.outbox, Outbox.pending_of_accept h]
      rfl
    · rw [hone, hdelivered, if_pos haccept]
      rfl
    · rw [houtbox, Outbox.answered_of_accept h] at hstalled
      cases hstalled
  · have hnone : Handover.accepted ([(t.served flight).1].map Attempt.handover) = [] :=
      hcalls.trans (if_neg haccept)
    refine ⟨?_, ?_, hscript, hanswers, rfl, fun _ _ => ?_⟩
    · rw [hnone, houtbox, Outbox.pending_of_failure haccept, Outbox.pending_receive]
      rfl
    · rw [hnone, hdelivered, if_neg haccept]
      rfl
    · rw [houtbox, Outbox.answered_of_failure h haccept]
      rfl

/-- No attempt at all changes nothing. -/
theorem Account.refl (t : Timeline α) : t.Account [] t :=
  ⟨rfl, rfl, rfl, rfl, rfl, id⟩

/-- The accounts of one attempt and of those behind it make one. -/
theorem Account.cons {t next last : Timeline α} {call : Attempt α} {made : List (Attempt α)}
    (hfirst : t.Account [call] next) (hrest : next.Account made last) :
    t.Account (call :: made) last := by
  have hcalls : Handover.accepted ((call :: made).map Attempt.handover) =
      Handover.accepted ([call].map Attempt.handover) ++
        Handover.accepted (made.map Attempt.handover) := by
    rw [← List.singleton_append, List.map_append, Handover.accepted, List.filter_append,
      List.map_append]
    rfl
  refine ⟨?_, ?_, ?_, ?_, ?_, ?_⟩
  · rw [hfirst.pending_eq, hrest.pending_eq, hcalls, List.append_assoc]
  · rw [hrest.delivered_eq, hfirst.delivered_eq, hcalls, List.length_append, Nat.add_assoc]
  · rw [hrest.script_eq, hfirst.script_eq, List.drop_drop, List.length_singleton, List.length_cons,
      Nat.add_comm]
  · have hanswer := hfirst.answers_eq
    rw [List.map_singleton, List.length_singleton, List.takeD_succ, List.takeD_zero,
      List.singleton_inj] at hanswer
    rw [List.map_cons, List.length_cons, List.takeD_succ, hanswer, hrest.answers_eq,
      hfirst.script_eq, hfirst.thereafter_eq, List.length_singleton, List.drop_one]
  · exact hrest.thereafter_eq.trans hfirst.thereafter_eq
  · exact fun h => hrest.isSome_of_stalled (hfirst.isSome_of_stalled h)

/-- Attempts keep the account, however many there are and up to whatever time. -/
theorem account_attempts (limit : Option Nat) (fuel : Nat) (t : Timeline α) :
    t.Account (attempts limit fuel t).1 (attempts limit fuel t).2 := by
  induction fuel generalizing t with
  | zero => exact .refl t
  | succ fuel ih =>
      unfold attempts
      cases hnext : t.next? limit with
      | none => exact .refl t
      | some step =>
          obtain ⟨flight, hflight, rfl⟩ := exists_served_of_next? hnext
          exact (account_served hflight).cons (ih _)

/-- How many attempts there can still be if the downstream accepts everything in the end. -/
def work (t : Timeline α) : Nat := t.script.length + t.outbox.flights.length

/-- What an accepting answer does to the clock and to the events. -/
theorem served_of_accept {t : Timeline α} {flight : InFlight α}
    (h : t.outbox.receive.inFlight = some flight)
    (haccept : t.script.headD t.thereafter = .accept) :
    (t.served flight).1 = ⟨t.due, flight.event, .accept⟩ ∧ (t.served flight).2.due = t.due ∧
      (t.served flight).2.request? = none ∧
      t.outbox.flights = flight :: (t.served flight).2.outbox.flights := by
  have houtbox : (t.served flight).2.outbox = t.outbox.receive.answered .accept := by
    rw [outbox_served, haccept]
  have hidle : (t.served flight).2.outbox.inFlight = none := by
    rw [houtbox, Outbox.answered_of_accept h]
  refine ⟨congrArg _ haccept, ?_, ?_, houtbox ▸ Outbox.flights_of_inFlight h⟩
  · rw [due, hidle]
    exact Nat.max_self _
  · rw [request?, hidle]
    rfl

/-- What a refusal does to them. -/
theorem served_of_refusal {t : Timeline α} {flight : InFlight α}
    (h : t.outbox.receive.inFlight = some flight) (hfail : t.script.headD t.thereafter ≠ .accept) :
    ∃ rest, t.outbox.flights = flight :: rest ∧
      (t.served flight).2.outbox.flights =
        ⟨flight.event, Outbox.oneMore flight.failures⟩ :: rest ∧
      (t.served flight).2.due = t.due + t.outbox.policy.wait (Outbox.oneMore flight.failures) ∧
      (t.served flight).2.request? =
        some (t.outbox.policy.delay (Outbox.oneMore flight.failures)) := by
  have houtbox := (t.outbox_served flight).trans (Outbox.answered_of_failure h hfail)
  have hwait : (t.served flight).2.outbox.pause.millisUp =
      t.outbox.policy.wait (Outbox.oneMore flight.failures) := by
    rw [houtbox, Outbox.pause, Outbox.policy_receive, RetryPolicy.wait]
  refine ⟨_, Outbox.flights_of_inFlight h, Outbox.flights_of_failure h hfail, ?_, ?_⟩
  · rw [due, now_served, resumesAt_served, hwait, houtbox]
    exact Nat.max_eq_right (Nat.le_add_right _ _)
  · rw [request?, houtbox, Outbox.policy_receive]
    rfl

/-- An attempt keeps the policy. -/
theorem policy_served (t : Timeline α) (flight : InFlight α) :
    (t.served flight).2.outbox.policy = t.outbox.policy := by
  rw [outbox_served, Outbox.policy_answered, Outbox.policy_receive]

/-- Where there is no next attempt, none is made. -/
theorem attempts_of_stop {t : Timeline α} {limit : Option Nat} (h : t.next? limit = none)
    (fuel : Nat) : attempts limit fuel t = ([], t) := by
  cases fuel with
  | zero => rfl
  | succ fuel => simp only [attempts, h]

/-- Where there is no next attempt, no wait is asked for. -/
theorem requests_of_stop {t : Timeline α} {limit : Option Nat} (h : t.next? limit = none)
    (fuel : Nat) : requests limit fuel t = [] := by
  cases fuel with
  | zero => rfl
  | succ fuel => simp only [requests, h]

/-- So many attempts leave nothing to do. The downstream is called as the timetable says, and the
dispatcher asks for the waits of the policy. -/
structure Scheduled (fuel : Nat) (t : Timeline α) : Prop where
  stops : (attempts none fuel t).2.next? none = none
  made_eq : (attempts none fuel t).1 = Forwarding.timetable t.outbox.policy t.due
    (Forwarding.ofScript t.outbox.flights t.script)
  requests_eq : requests none fuel t =
    (Forwarding.ofScript t.outbox.flights t.script).flatMap (Forwarding.sleeps t.outbox.policy)

/-- An outbox without events is on schedule from the start. -/
theorem scheduled_of_idle {t : Timeline α} (hidle : t.outbox.receive.inFlight = none) (fuel : Nat) :
    t.Scheduled fuel := by
  have hstop := next?_of_idle hidle none
  have hflights := Outbox.flights_eq_nil_iff.2 hidle
  constructor
  · rw [attempts_of_stop hstop]
    exact hstop
  · rw [attempts_of_stop hstop, hflights]
    rfl
  · rw [requests_of_stop hstop, hflights]
    rfl

/-- A delivery, and then the schedule of the other events. -/
theorem Scheduled.accept {t : Timeline α} {flight : InFlight α} {fuel : Nat}
    (hflight : t.outbox.receive.inFlight = some flight) (hlater : t.thereafter = .accept)
    (haccept : t.script.headD t.thereafter = .accept) (h : (t.served flight).2.Scheduled fuel) :
    t.Scheduled (fuel + 1) := by
  have hpolicy := t.policy_served flight
  have hnext := next?_of_inFlight hflight
  obtain ⟨hcall, hdue, hrequest, hflights⟩ := served_of_accept hflight haccept
  rw [hlater] at haccept
  constructor
  · simp only [attempts, hnext]
    exact h.stops
  · simp only [attempts, hnext]
    rw [h.made_eq, hpolicy, hdue, hcall, hflights, Forwarding.timetable_of_accept _ _ _ _ haccept]
    rfl
  · simp only [requests, hnext]
    rw [h.requests_eq, hpolicy, hrequest, hflights, Forwarding.sleeps_of_accept _ _ _ haccept]
    rfl

/-- A refusal with its wait, and then the schedule of the same events. -/
theorem Scheduled.refuse {t : Timeline α} {flight : InFlight α} {answer : Answer}
    {script : List Answer} {fuel : Nat} (hflight : t.outbox.receive.inFlight = some flight)
    (hscript : t.script = answer :: script) (hfail : answer ≠ .accept)
    (h : (t.served flight).2.Scheduled fuel) : t.Scheduled (fuel + 1) := by
  have hpolicy := t.policy_served flight
  have hnext := next?_of_inFlight hflight
  have hcall : (t.served flight).1 = ⟨t.due, flight.event, answer⟩ := by
    show Attempt.mk t.due flight.event (t.script.headD t.thereafter) = _
    rw [hscript]
    rfl
  have hrest : (t.served flight).2.script = script := congrArg List.tail hscript
  obtain ⟨rest, hflights, hafter, hdue, hrequest⟩ :=
    served_of_refusal hflight (by rw [hscript]; exact hfail)
  constructor
  · simp only [attempts, hnext]
    exact h.stops
  · simp only [attempts, hnext]
    rw [h.made_eq, hpolicy, hdue, hcall, hafter, hrest, hflights, hscript,
      Forwarding.timetable_of_refusal _ _ _ _ _ hfail]
  · simp only [requests, hnext]
    rw [h.requests_eq, hpolicy, hrequest, hafter, hrest, hflights, hscript,
      Forwarding.sleeps_of_refusal _ _ _ _ hfail]
    rfl

/-- The dispatcher comes to an end: each attempt uses up a refusal of the script or delivers an
event. -/
theorem scheduled_of_work_le {t : Timeline α} {fuel : Nat} (hlater : t.thereafter = .accept)
    (hfuel : t.work ≤ fuel) : t.Scheduled fuel := by
  induction fuel generalizing t with
  | zero =>
      have hflights : t.outbox.flights = [] := by
        unfold work at hfuel
        exact List.length_eq_zero_iff.1 (by omega)
      exact scheduled_of_idle (Outbox.flights_eq_nil_iff.1 hflights) 0
  | succ fuel ih =>
      unfold work at hfuel ih
      cases hflight : t.outbox.receive.inFlight with
      | none => exact scheduled_of_idle hflight (fuel + 1)
      | some flight =>
          have hscript : (t.served flight).2.script = t.script.tail := rfl
          -- A delivery takes an event away, and a refusal an answer of the script.
          by_cases haccept : t.script.headD t.thereafter = .accept
          · obtain ⟨-, -, -, hflights⟩ := served_of_accept hflight haccept
            refine .accept hflight hlater haccept (ih hlater ?_)
            rw [hflights, List.length_cons] at hfuel
            rw [hscript, List.length_tail]
            omega
          · obtain ⟨rest, hflights, hafter, -, -⟩ := served_of_refusal hflight haccept
            cases hanswers : t.script with
            | nil =>
                rw [hanswers] at haccept
                exact absurd hlater haccept
            | cons answer script =>
                rw [hanswers] at haccept hscript hfuel
                refine .refuse hflight hanswers haccept (ih hlater ?_)
                rw [hflights] at hfuel
                rw [hscript, hafter]
                simp only [List.length_cons, List.tail_cons] at hfuel ⊢
                omega

/-- Where a run has stopped by itself, it would not have gone on. -/
theorem attempts_add_of_stop {t : Timeline α} {limit : Option Nat} {fuel : Nat}
    (h : (attempts limit fuel t).2.next? limit = none) (more : Nat) :
    attempts limit (fuel + more) t = attempts limit fuel t := by
  induction fuel generalizing t with
  | zero => exact attempts_of_stop h (0 + more)
  | succ fuel ih =>
      rw [Nat.add_right_comm]
      cases hnext : t.next? limit with
      | none => rw [attempts_of_stop hnext, attempts_of_stop hnext]
      | some step =>
          simp only [attempts, hnext] at h ⊢
          rw [ih h]

/-- What draining an outbox comes to. It ends by itself, and not for want of attempts. The calls of
the downstream and the waits are those of the timetable. The events that were pending are accepted
in their order, nothing is pending after that, and the flag is clear. The deliveries are added to
the earlier ones. There is a call for each event and one for each refusal, and the calls use the
script up. -/
structure Drained (t : Timeline α) : Prop where
  stops : t.drain.2.next? none = none
  settled : ∀ more,
    attempts none (t.script.length + t.outbox.queue.length + 1 + more) t = t.drain
  made_eq : t.drain.1 = Forwarding.timetable t.outbox.policy t.due
    (Forwarding.ofScript t.outbox.flights t.script)
  requests_eq : requests none (t.script.length + t.outbox.queue.length + 1) t =
    (Forwarding.ofScript t.outbox.flights t.script).flatMap (Forwarding.sleeps t.outbox.policy)
  accepted_eq : Handover.accepted (t.drain.1.map Attempt.handover) = t.outbox.pending
  pending_eq : t.drain.2.outbox.pending = []
  stalled_eq : t.drain.2.outbox.stalled = false
  delivered_eq : t.drain.2.delivered = t.delivered + t.outbox.pending.length
  length_eq : t.drain.1.length =
    t.outbox.pending.length + (t.script.take t.drain.1.length).countP (· ≠ .accept)
  script_eq : t.drain.2.script = t.script.drop t.drain.1.length

/-- The answers behind the end of a script are no refusals if they accept. -/
theorem countP_refusals_takeD (calls : Nat) (script : List Answer) :
    (script.takeD calls .accept).countP (· ≠ .accept) =
      (script.take calls).countP (· ≠ .accept) := by
  induction calls generalizing script with
  | zero => rfl
  | succ calls ih =>
      rw [List.takeD_succ, List.countP_cons, ih]
      cases script with
      | nil => simp
      | cons answer script => rw [List.take_succ_cons, List.countP_cons]; rfl

/-- Each call was accepted or refused. -/
theorem Account.length_eq {t last : Timeline α} {made : List (Attempt α)} (h : t.Account made last)
    (hlater : t.thereafter = .accept) :
    made.length = (Handover.accepted (made.map Attempt.handover)).length +
      (t.script.take made.length).countP (· ≠ .accept) := by
  have haccepted : (Handover.accepted (made.map Attempt.handover)).length =
      (made.map Attempt.answer).countP (· = .accept) := by
    rw [Handover.accepted, List.length_map, ← List.countP_eq_length_filter, List.countP_map,
      List.countP_map]
    rfl
  have hanswers := h.answers_eq
  rw [hlater] at hanswers
  rw [haccepted, ← countP_refusals_takeD, ← hanswers]
  have hsplit := List.length_eq_countP_add_countP (fun answer => decide (answer = Answer.accept))
    (l := made.map Attempt.answer)
  rw [List.length_map] at hsplit
  simpa only [decide_eq_true_eq, ne_eq] using hsplit

/-- A downstream that accepts everything in the end lets an outbox be drained, if only an event in
flight holds its publishers back. -/
theorem drained {t : Timeline α} (hlater : t.thereafter = .accept)
    (hstalled : t.outbox.stalled = true → t.outbox.inFlight.isSome) : t.Drained := by
  have hwork : t.work ≤ t.script.length + t.outbox.queue.length + 1 := by
    have hpending := t.outbox.length_pending_le
    rw [work, Outbox.length_flights]
    omega
  have hscheduled := scheduled_of_work_le hlater hwork
  have haccount : t.Account t.drain.1 t.drain.2 := account_attempts none _ t
  have hidle : t.drain.2.outbox.receive.inFlight = none := by
    cases hflight : t.drain.2.outbox.receive.inFlight with
    | none => rfl
    | some flight => cases (next?_of_inFlight hflight).symm.trans hscheduled.stops
  have hpending : t.drain.2.outbox.pending = [] := by
    rw [← Outbox.map_event_flights, Outbox.flights_eq_nil_iff.2 hidle]
    rfl
  have haccepted : Handover.accepted (t.drain.1.map Attempt.handover) = t.outbox.pending := by
    rw [haccount.pending_eq, hpending, List.append_nil]
  refine ⟨hscheduled.stops, attempts_add_of_stop hscheduled.stops, hscheduled.made_eq,
    hscheduled.requests_eq, haccepted, hpending, ?_, ?_, ?_, haccount.script_eq⟩
  · -- The flag is set only while an event is in flight.
    have hnone := (Outbox.pending_eq_nil_iff.1 hpending).1
    have hsome := haccount.isSome_of_stalled hstalled
    rw [hnone] at hsome
    exact Bool.eq_false_iff.2 fun hset => nomatch hsome hset
  · rw [← haccepted]
    exact haccount.delivered_eq
  · rw [← haccepted]
    exact haccount.length_eq hlater

end Timeline

namespace Relay

variable {α : Type}

/-- The outbox of a relay with which nobody publishes any more, at some time and with what the
downstream is going to answer before it accepts everything. -/
def closed (r : Relay α) (now resumesAt : Nat) (script : List Answer) : Timeline α where
  outbox := r.outbox
  now := now
  resumesAt := resumesAt
  isRunning := true
  delivered := r.accepted.length
  script := script
  thereafter := .accept

/-- An outbox that has been at work in any way is drained when nobody publishes any more, whatever
the downstream refuses before it accepts everything. Then the downstream has accepted what was ever
taken, in that order, and the dispatcher has counted it. -/
theorem drained_run (capacity : Nat) (policy : RetryPolicy)
    (hcapacity : max capacity 1 ≤ Outbox.maxCapacity) :
    ∃ outbox : Outbox α, Outbox.new capacity policy = .ok outbox ∧
      ∀ steps now resumesAt script,
        let r := (start outbox).run steps
        let t := r.closed now resumesAt script
        t.Drained ∧ t.outbox.policy = policy ∧
          r.accepted ++ Handover.accepted (t.drain.1.map Attempt.handover) = r.taken ∧
          t.drain.2.delivered = r.taken.length := by
  obtain ⟨outbox, hnew, hqueue, hidle⟩ := Outbox.exists_new (α := α) policy hcapacity
  refine ⟨outbox, hnew, fun steps now resumesAt script => ?_⟩
  have hgauged := (gauged_start hnew).run steps
  have hlossless := (lossless_start hqueue hidle).run steps
  have hdrained : (((start outbox).run steps).closed now resumesAt script).Drained := by
    refine Timeline.drained rfl fun hstalled => ?_
    obtain ⟨flight, hflight, -⟩ := hgauged.stalled_iff_stuck.1 hstalled
    exact Option.isSome_iff_exists.2 ⟨flight, hflight⟩
  have htaken : ((start outbox).run steps).taken =
      ((start outbox).run steps).accepted ++ ((start outbox).run steps).outbox.pending :=
    hlossless.taken_eq
  refine ⟨hdrained, hgauged.policy_eq, ?_, ?_⟩
  · rw [hdrained.accepted_eq, htaken]
    rfl
  · rw [hdrained.delivered_eq, htaken, List.length_append]
    rfl

/-- Two events, the first of which broke down once and stalled the outbox. -/
def brokenSteps : List (Step Nat) := [.publish 1, .publish 2, .receive, .attempt .crash]

/-- A stalled outbox is drained by six calls at the times of its policy, and both events are
delivered. -/
theorem drained_run_broken :
    let policy : RetryPolicy := ⟨1, .ofMillis 200, .ofMillis 500⟩
    max 2 1 ≤ Outbox.maxCapacity ∧
    ∃ outbox : Outbox Nat, Outbox.new 2 policy = .ok outbox ∧
      let r := (start outbox).run brokenSteps
      let t := r.closed 0 200 [.fail, .accept, .crash, .fail, .fail]
      r.outbox.stalled = true ∧
      t.drain.1 = [⟨200, 1, .fail⟩, ⟨600, 1, .accept⟩, ⟨600, 2, .crash⟩, ⟨800, 2, .fail⟩,
        ⟨1200, 2, .fail⟩, ⟨1700, 2, .accept⟩] ∧
      t.Drained ∧ t.drain.2.delivered = 2 := by
  intro policy
  have hcapacity : max 2 1 ≤ Outbox.maxCapacity := by decide
  obtain ⟨outbox, hnew, hdrained⟩ := drained_run (α := Nat) 2 policy hcapacity
  obtain rfl := Except.ok.inj hnew
  obtain ⟨h, -, -, hdelivered⟩ :=
    hdrained brokenSteps 0 200 [.fail, .accept, .crash, .fail, .fail]
  exact ⟨hcapacity, _, hnew, by decide, by decide, h, hdelivered⟩

end Relay

end Noughts
