import Noughts.Duration

/-!
# How long to wait between attempts

The wait after a failed attempt doubles with each further failure of the same event and never
exceeds a bound. Doubling stops at the largest factor of 32 bits, and a product that no duration
can hold counts as the bound.
-/

namespace Noughts

/-- How often and how long a refused event is tried again before others are held back. -/
structure RetryPolicy where
  /-- So many failures of one event, but at least one, stall the outbox. -/
  maxAttempts : UInt32
  /-- The wait after the first failure. -/
  backoff : Duration
  /-- The bound on every wait. -/
  maxBackoff : Duration
deriving DecidableEq, Repr

namespace RetryPolicy

/-- Five failures stall; the wait starts at 200 milliseconds and ends at five seconds. -/
def standard : RetryPolicy := ⟨5, .ofMillis 200, .ofMillis 5000⟩

/-- The number of failures that stalls the outbox. -/
def stallAfter (p : RetryPolicy) : UInt32 := max p.maxAttempts 1

/-- The factor of the wait after the given failure, counted from one; zero counts as one. -/
def factor (attempt : UInt32) : UInt32 :=
  let doublings := attempt.toNat - 1
  if doublings < 32 then UInt32.ofNat (Nat.pow 2 doublings)
  else UInt32.ofNat (UInt32.size - 1)

/-- The wait after the given failure of one event, counted from one. -/
def delay (p : RetryPolicy) (attempt : UInt32) : Duration :=
  ((p.backoff.times? (factor attempt)).getD p.maxBackoff).least p.maxBackoff

end RetryPolicy

end Noughts
