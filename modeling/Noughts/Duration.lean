/-!
# Durations

A duration is a 64-bit count of whole seconds and a part of a second in nanoseconds. Its value is
`nanoseconds`, a natural number without bound; `times?_eq_some_iff` ties multiplication to it.
-/

namespace Noughts

/-- How many nanoseconds make a second. -/
def nanosPerSecond : Nat := 1000000000

/-- A span of time. -/
structure Duration where
  seconds : UInt64
  nanos : Fin nanosPerSecond
deriving DecidableEq, Repr

namespace Duration

/-- The length of a duration. -/
def nanoseconds (d : Duration) : Nat := d.seconds.toNat * nanosPerSecond + d.nanos.val

/-- The duration of a length, if its seconds fit into 64 bits. -/
def ofNanoseconds? (n : Nat) : Option Duration :=
  if n / nanosPerSecond < UInt64.size then
    some ⟨UInt64.ofNat (n / nanosPerSecond), ⟨n % nanosPerSecond, Nat.mod_lt _ (by decide)⟩⟩
  else
    none

/-- No time at all. -/
def zero : Duration := ⟨0, ⟨0, by decide⟩⟩

/-- The duration of so many milliseconds. -/
def ofMillis (ms : UInt64) : Duration where
  seconds := ms / 1000
  nanos := ⟨ms.toNat % 1000 * 1000000, by
    have : ms.toNat % 1000 < 1000 := Nat.mod_lt _ (by decide)
    show ms.toNat % 1000 * 1000000 < 1000000000
    omega⟩

/-- The length in milliseconds, rounded up. -/
def millisUp (d : Duration) : Nat := (d.nanoseconds + 999999) / 1000000

/-- A multiple of a duration, if its seconds fit into 64 bits. The parts are multiplied apart, and
whole seconds are carried over. -/
def times? (d : Duration) (factor : UInt32) : Option Duration :=
  let nanos := d.nanos.val * factor.toNat
  let seconds := d.seconds.toNat * factor.toNat + nanos / nanosPerSecond
  if seconds < UInt64.size then
    some ⟨UInt64.ofNat seconds, ⟨nanos % nanosPerSecond, Nat.mod_lt _ (by decide)⟩⟩
  else
    none

/-- The shorter of two durations. -/
def least (a b : Duration) : Duration := if a.nanoseconds ≤ b.nanoseconds then a else b

/-- A duration from its length is of that length. -/
theorem nanoseconds_of_ofNanoseconds? {n : Nat} {d : Duration} (h : ofNanoseconds? n = some d) :
    d.nanoseconds = n := by
  unfold ofNanoseconds? at h
  by_cases fits : n / nanosPerSecond < UInt64.size
  · rw [if_pos fits] at h
    rw [← Option.some.inj h]
    simp only [nanoseconds, UInt64.toNat_ofNat', Nat.mod_eq_of_lt fits]
    exact Nat.div_add_mod' n nanosPerSecond
  · rw [if_neg fits] at h
    exact absurd h (by simp)

/-- The multiple exists exactly if it is below 2^64 seconds, and then it is exact. -/
theorem times?_eq_some_iff {d e : Duration} {factor : UInt32} :
    d.times? factor = some e ↔ e.nanoseconds = d.nanoseconds * factor.toNat := by
  have hsplit : d.nanoseconds * factor.toNat
      = (d.seconds.toNat * factor.toNat + d.nanos.val * factor.toNat / nanosPerSecond)
          * nanosPerSecond + d.nanos.val * factor.toNat % nanosPerSecond := by
    have := Nat.div_add_mod' (d.nanos.val * factor.toNat) nanosPerSecond
    simp only [nanoseconds, Nat.add_mul]
    rw [Nat.mul_right_comm]
    omega
  have hparts : ∀ (a b c : Nat) (_ : b < nanosPerSecond) (_ : c < nanosPerSecond) (a' : Nat),
      a * nanosPerSecond + b = a' * nanosPerSecond + c → a = a' ∧ b = c := by
    intro a b c hb hc a' h
    simp only [nanosPerSecond] at hb hc h
    omega
  have hrest : d.nanos.val * factor.toNat % nanosPerSecond < nanosPerSecond :=
    Nat.mod_lt _ (by decide)
  unfold times?
  simp only
  constructor
  · intro h
    split at h
    · rename_i fits
      rw [← Option.some.inj h, hsplit]
      simp only [nanoseconds, UInt64.toNat_ofNat', Nat.mod_eq_of_lt fits]
    · cases h
  · intro h
    rw [hsplit] at h
    obtain ⟨hs, hn⟩ := hparts _ _ _ e.nanos.isLt hrest _ h
    have fits : e.seconds.toNat < UInt64.size := e.seconds.toNat_lt
    rw [← hs, if_pos fits]
    congr 1
    obtain ⟨seconds, nanos⟩ := e
    simp only [Duration.mk.injEq]
    exact ⟨by simp, Fin.ext hn.symm⟩

end Duration

end Noughts
