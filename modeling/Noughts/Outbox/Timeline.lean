import Noughts.Outbox

/-!
# The dispatcher in time

A timeline runs the dispatcher of an outbox under a clock that moves only when it is told to, with
a downstream whose answers are given in advance. Handing an event on takes no time; between two
attempts at the same event the dispatcher waits as the policy says, in whole milliseconds.
-/

namespace Noughts

/-- One call of the downstream: when, for which event, and what it answered. -/
structure Attempt (α : Type) where
  time : Nat
  event : α
  answer : Answer
deriving DecidableEq, Repr

/-- An outbox under a clock. -/
structure Timeline (α : Type) where
  outbox : Outbox α
  /-- The time in milliseconds. -/
  now : Nat
  /-- When the dispatcher may try the event it holds again. -/
  resumesAt : Nat
  /-- Whether the dispatcher was started. -/
  isRunning : Bool
  /-- How many events were accepted so far. -/
  delivered : Nat
  /-- The coming answers of the downstream. -/
  script : List Answer
  /-- Its answer when the script is used up. -/
  thereafter : Answer

namespace Timeline

variable {α : Type}

/-- The clock at zero, before the dispatcher is started. -/
def start (outbox : Outbox α) (script : List Answer) (thereafter : Answer) : Timeline α where
  outbox := outbox
  now := 0
  resumesAt := 0
  isRunning := false
  delivered := 0
  script := script
  thereafter := thereafter

/-- Hand the event in flight to the downstream at a given time. -/
def attempt (t : Timeline α) (time : Nat) (event : α) : Attempt α × Timeline α :=
  let answer := t.script.headD t.thereafter
  let outbox := t.outbox.answered answer
  (⟨time, event, answer⟩, { t with
    outbox := outbox
    now := time
    resumesAt := time + outbox.pause.millisUp
    delivered := if answer = .accept then t.delivered + 1 else t.delivered
    script := t.script.tail })

/-- The next attempt, if there is one no later than the limit. -/
def next? (t : Timeline α) (limit : Option Nat) : Option (Attempt α × Timeline α) :=
  let outbox := t.outbox.receive
  match outbox.inFlight with
  | none => none
  | some f =>
    let due := max t.now (if t.outbox.inFlight.isSome then t.resumesAt else t.now)
    if limit.all (due ≤ ·) then some ({ t with outbox := outbox }.attempt due f.event) else none

/-- At most so many further attempts that are no later than the limit. -/
def attempts (limit : Option Nat) : (fuel : Nat) → Timeline α → List (Attempt α) × Timeline α
  | 0, t => ([], t)
  | fuel + 1, t =>
    match t.next? limit with
    | none => ([], t)
    | some (attempt, t) =>
      let (more, t) := attempts limit fuel t
      (attempt :: more, t)

/-- Let the clock run for so many milliseconds. Each attempt uses up an answer of the script, or
ends with an accepted event, or is followed by a wait, which bounds their number unless the
downstream refuses for ever and the policy never waits. -/
def advance (t : Timeline α) (ms : Nat) : List (Attempt α) × Timeline α :=
  let limit := t.now + ms
  let (made, t) :=
    if t.isRunning then
      attempts (some limit) (t.script.length + t.outbox.queue.length + ms + 2) t
    else
      ([], t)
  (made, { t with now := limit })

/-- Let the dispatcher work until the queue is empty. Where the downstream accepts everything once
the script is used up, the queue is empty after no more attempts than answers and events. -/
def drain (t : Timeline α) : List (Attempt α) × Timeline α :=
  attempts none (t.script.length + t.outbox.queue.length + 1) t

/-- Start the dispatcher. -/
def run (t : Timeline α) : Timeline α := { t with isRunning := t.outbox.isAttended }

/-- Do away with the dispatcher. -/
def stop (t : Timeline α) : Timeline α :=
  { t with outbox := t.outbox.abandon, isRunning := false }

end Timeline

end Noughts
