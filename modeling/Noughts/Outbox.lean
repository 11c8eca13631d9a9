import Noughts.Event
import Noughts.Outbox.RetryPolicy

/-!
# The outbox between the game and the stream

The outbox is a bounded queue with one dispatcher behind it. Whoever plays only offers events to
the queue. The dispatcher takes the oldest event out, hands it to the downstream until it is
accepted, and only then takes the next one, so nothing is lost, repeated or reordered. After a
number of failures of one event the outbox is stalled: it takes nothing in until that event is
accepted.

The dispatcher's life is a sequence of two kinds of step, `Outbox.receive` and `Outbox.answered`.
`Dispatcher.step` makes the next one, wherever the outbox is kept and whatever the downstream is.
-/

namespace Noughts

/-- The queue cannot be made that large. -/
structure OversizedQueue where
  capacity : Nat
deriving DecidableEq, Repr

namespace Outbox

/-- The largest capacity of a queue. -/
def maxCapacity : Nat := Nat.pow 2 61 - 1

/-- The capacity of a queue unless another one is chosen. -/
def standardCapacity : UInt64 := 1024

end Outbox

/-- The wording of the refusal. -/
def OversizedQueue.message (_ : OversizedQueue) : String :=
  s!"a semaphore may not have more than MAX_PERMITS permits ({Outbox.maxCapacity})"

/-- What the downstream does with an event. -/
inductive Answer where
  | accept
  | fail
  /-- It breaks down; this counts as a failure. -/
  | crash
deriving DecidableEq, Repr

/-- The event that the dispatcher is handing on, and how often it failed so far. -/
structure InFlight (α : Type) where
  event : α
  failures : UInt32
deriving DecidableEq, Repr

/-- The queue, the event that left it last, and the state of the dispatcher. -/
structure Outbox (α : Type) where
  /-- How many events the queue may hold. -/
  capacity : Nat
  policy : RetryPolicy
  /-- The waiting events, oldest first. -/
  queue : List α
  inFlight : Option (InFlight α)
  stalled : Bool
  /-- Whether there is still a dispatcher. -/
  isAttended : Bool
deriving DecidableEq, Repr

namespace Outbox

variable {α : Type}

/-- An empty outbox. A capacity of zero counts as one. -/
def new (capacity : Nat) (policy : RetryPolicy) : Except OversizedQueue (Outbox α) :=
  if maxCapacity < max capacity 1 then .error ⟨capacity⟩
  else .ok {
    capacity := max capacity 1
    policy := policy
    queue := []
    inFlight := none
    stalled := false
    isAttended := true }

/-- Offer an event to the queue. -/
def offer (o : Outbox α) (event : α) : Except PublishFault (Outbox α) :=
  if o.stalled then .error .stalled
  else if !o.isAttended then .error .dispatcherStopped
  else if o.capacity ≤ o.queue.length then .error .queueFull
  else .ok { o with queue := o.queue ++ [event] }

/-- The publisher that offers events to the outbox. -/
def publisher (sites : Sites) :
    GameEvent → StateM (Outbox GameEvent) (Except PublishError Unit) := fun event o =>
  match o.offer event with
  | .ok next => (.ok (), next)
  | .error fault => (.error (.noticed sites fault), o)

/-- Whether the dispatcher has nothing to do. -/
def isIdle (o : Outbox α) : Bool := o.inFlight.isNone && o.queue.isEmpty

/-- The dispatcher takes the oldest event, unless it is busy with one. The event frees its place in
the queue at once. -/
def receive (o : Outbox α) : Outbox α :=
  match o.inFlight, o.queue with
  | none, event :: rest => { o with queue := rest, inFlight := some ⟨event, 0⟩ }
  | _, _ => o

/-- One more failure; the count stops at the largest number of 32 bits. -/
def oneMore (failures : UInt32) : UInt32 :=
  if failures.toNat + 1 < UInt32.size then failures + 1 else failures

/-- The downstream answers for the event that is being handed on. -/
def answered (o : Outbox α) (answer : Answer) : Outbox α :=
  match o.inFlight, answer with
  | none, _ => o
  | some _, .accept => { o with inFlight := none, stalled := false }
  | some f, _ =>
    let failures := oneMore f.failures
    { o with
      inFlight := some { f with failures := failures }
      stalled := o.stalled || failures == o.policy.stallAfter }

/-- The longest time that the dispatcher waits: thirty years of 365 days. -/
def longestPause : Duration := { Duration.zero with seconds := 946080000 }

/-- How long the dispatcher waits before it tries again. -/
def pause (o : Outbox α) : Duration :=
  match o.inFlight with
  | none => .zero
  | some f => (o.policy.delay f.failures).least longestPause

/-- The dispatcher is gone, and with it every event that was not delivered. -/
def abandon (o : Outbox α) : Outbox α :=
  { o with queue := [], inFlight := none, isAttended := false }

end Outbox

/-- How a dispatcher gets at its outbox, which others change as well, and at its downstream. -/
structure Dispatcher (m : Type → Type) (α : Type) where
  /-- Change the outbox, and see it as it is then. -/
  update : (Outbox α → Outbox α) → m (Outbox α)
  deliver : α → m Answer

/-- One step of the dispatcher: it takes an event out of the queue, or tries the one it holds. -/
def Dispatcher.step {m : Type → Type} [Monad m] {α : Type} (d : Dispatcher m α) :
    m (Outbox α) := do
  let outbox ← d.update id
  match outbox.inFlight with
  | none => d.update Outbox.receive
  | some flight =>
    let answer ← d.deliver flight.event
    d.update (Outbox.answered · answer)

end Noughts
