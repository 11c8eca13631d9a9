import Mathlib.Algebra.Group.Nat.Defs
import Noughts.Outbox.RetryPolicy
import Noughts.Proofs.Word

/-!
# The wait between attempts in exact arithmetic

The factor of the wait saturates at 32 bits, the product of a duration and a factor is abandoned
when its seconds do not fit into 64 bits, and the bound takes over from there. Nothing of this can
be seen from outside: `RetryPolicy.capped_exponential` says that the wait is the power of two, cut
off at the largest factor, times the first wait, cut off at the bound, all in natural numbers.

`RetryPolicy.delayInWords` goes through the same computation word by word, and fails where a result
that nothing checks does not fit into its word. That never happens: `RetryPolicy.delayInWords_eq`.
-/

namespace Noughts

/-- A result that does not fit into 64 bits, where nothing provides for that. -/
structure Overflow where
deriving DecidableEq, Repr

namespace Duration

/-- The seconds of a duration fit into 64 bits, and its nanoseconds are less than a second. -/
theorem nanoseconds_lt (d : Duration) : d.nanoseconds < UInt64.size * nanosPerSecond := by
  have hseconds := d.seconds.toNat_lt_size
  have hnanos := d.nanos.isLt
  simp only [nanoseconds, UInt64.size, nanosPerSecond] at *
  omega

/-- A multiple is given up exactly if it is longer than every duration. -/
theorem times?_eq_none_iff {d : Duration} {factor : UInt32} :
    d.times? factor = none ↔ UInt64.size * nanosPerSecond ≤ d.nanoseconds * factor.toNat := by
  constructor
  · intro hnone
    apply Nat.le_of_not_lt
    intro hlt
    have hfits : d.nanoseconds * factor.toNat / nanosPerSecond < UInt64.size :=
      Nat.div_lt_of_lt_mul (Nat.mul_comm _ _ ▸ hlt)
    have hlength := nanoseconds_of_ofNanoseconds? (if_pos hfits)
    cases hnone.symm.trans (times?_eq_some_iff.2 hlength)
  · intro hlong
    cases hsome : d.times? factor with
    | none => rfl
    | some e =>
        have hlt := e.nanoseconds_lt
        rw [times?_eq_some_iff.1 hsome] at hlt
        omega

/-- The shorter of two durations has the smaller number of nanoseconds. -/
theorem nanoseconds_least (a b : Duration) :
    (a.least b).nanoseconds = min a.nanoseconds b.nanoseconds := by
  unfold least
  split
  · omega
  · omega

/-- A multiple of a duration by way of 64-bit words: the nanoseconds are multiplied without a check,
the seconds with one, and the seconds that the nanoseconds fill are added with one. -/
def timesInWords (d : Duration) (factor : UInt32) : Except Overflow (Option Duration) :=
  match Word.mul? (UInt64.ofNat d.nanos.val) factor.toUInt64 with
  | none => .error ⟨⟩
  | some nanos => .ok do
      let whole ← Word.mul? d.seconds factor.toUInt64
      let seconds ← Word.add? whole (nanos / 1000000000)
      some ⟨seconds, ⟨nanos.toNat % nanosPerSecond, Nat.mod_lt _ (by decide)⟩⟩

/-- The product of the nanoseconds always fits, and the checks give a multiple up exactly if it is
too long for a duration. -/
theorem timesInWords_eq (d : Duration) (factor : UInt32) :
    d.timesInWords factor = .ok (d.times? factor) := by
  have hnanos := d.nanos.isLt
  have hfactor := factor.toNat_lt_size
  have hbillion : (1000000000 : UInt64).toNat = nanosPerSecond := rfl
  have hpart : (UInt64.ofNat d.nanos.val).toNat = d.nanos.val := by
    rw [UInt64.toNat_ofNat']
    simp only [nanosPerSecond] at hnanos
    omega
  -- A part of a second times 32 bits is far below 64 bits.
  have hproduct : d.nanos.val * factor.toNat < UInt64.size := by
    have hle : d.nanos.val * factor.toNat ≤ nanosPerSecond * UInt32.size :=
      Nat.mul_le_mul (Nat.le_of_lt hnanos) (Nat.le_of_lt hfactor)
    have hsmall : nanosPerSecond * UInt32.size < UInt64.size := by decide
    omega
  have htotal : (UInt64.ofNat (d.nanos.val * factor.toNat)).toNat = d.nanos.val * factor.toNat := by
    rw [UInt64.toNat_ofNat', Nat.mod_eq_of_lt hproduct]
  rw [timesInWords, Word.mul?_eq, hpart, UInt32.toNat_toUInt64, if_pos hproduct, times?]
  simp only [Word.mul?_eq, Word.add?_eq, UInt32.toNat_toUInt64, UInt64.toNat_div, htotal, hbillion]
  congr 1
  by_cases hwhole : d.seconds.toNat * factor.toNat < UInt64.size
  · rw [if_pos hwhole]
    simp only [Option.bind_eq_bind, Option.bind_some, UInt64.toNat_ofNat',
      Nat.mod_eq_of_lt hwhole]
    split <;> rfl
  · rw [if_neg hwhole, if_neg fun hsum => hwhole (Nat.lt_of_le_of_lt (Nat.le_add_right _ _) hsum)]
    rfl

/-- The shorter of two durations, found by comparing the seconds and then the nanoseconds. -/
def leastInWords (a b : Duration) : Duration :=
  if a.seconds < b.seconds ∨ a.seconds = b.seconds ∧ a.nanos ≤ b.nanos then a else b

/-- Comparing the seconds first is comparing the nanoseconds in all, as less than a second of them
stands apart. -/
theorem leastInWords_eq (a b : Duration) : a.leastInWords b = a.least b := by
  have ha := a.nanos.isLt
  have hb := b.nanos.isLt
  have horder : (a.seconds < b.seconds ∨ a.seconds = b.seconds ∧ a.nanos ≤ b.nanos) ↔
      a.nanoseconds ≤ b.nanoseconds := by
    simp only [UInt64.lt_iff_toNat_lt, ← UInt64.toNat_inj, nanoseconds, nanosPerSecond]
      at *
    omega
  simp only [leastInWords, least, horder]

end Duration

namespace RetryPolicy

/-- The factor is the power of two for the failures after the first one, as far as 32 bits reach. -/
theorem toNat_factor (attempt : UInt32) :
    (factor attempt).toNat = min (2 ^ (max attempt.toNat 1 - 1)) (2 ^ 32 - 1) := by
  have hdoublings : max attempt.toNat 1 - 1 = attempt.toNat - 1 := by omega
  rw [hdoublings, factor]
  split
  · next hfew =>
    have hle : 2 ^ (attempt.toNat - 1) ≤ 2 ^ 31 :=
      Nat.pow_le_pow_right Nat.two_pos (by omega)
    show (UInt32.ofNat (2 ^ (attempt.toNat - 1))).toNat = _
    rw [UInt32.toNat_ofNat', Nat.mod_eq_of_lt (by omega), Nat.min_eq_left (by omega)]
  · next hmany =>
    have hle : 2 ^ 32 ≤ 2 ^ (attempt.toNat - 1) :=
      Nat.pow_le_pow_right Nat.two_pos (by omega)
    rw [Nat.min_eq_right (by omega)]
    rfl

/-- The wait is the product of the first wait and the factor, cut off at the bound. -/
theorem nanoseconds_delay (p : RetryPolicy) (attempt : UInt32) :
    (p.delay attempt).nanoseconds =
      min (p.backoff.nanoseconds * (factor attempt).toNat) p.maxBackoff.nanoseconds := by
  rw [delay, Duration.nanoseconds_least]
  cases hproduct : p.backoff.times? (factor attempt) with
  | some product => rw [Option.getD_some, Duration.times?_eq_some_iff.1 hproduct]
  | none =>
      have hlong := Duration.times?_eq_none_iff.1 hproduct
      have hbound := p.maxBackoff.nanoseconds_lt
      rw [Option.getD_none]
      omega

/-- The factor by way of 32-bit words: the count less one, but not below zero, shifts a single
bit. -/
def factorInWords (attempt : UInt32) : UInt32 :=
  let doublings := if attempt = 0 then 0 else attempt - 1
  if doublings < 32 then 1 <<< doublings else 4294967295

/-- The shift saturates where the power of two leaves 32 bits, as the factor does. -/
theorem factorInWords_eq (attempt : UInt32) : factorInWords attempt = factor attempt := by
  have hdoublings : (if attempt = 0 then 0 else attempt - 1).toNat = attempt.toNat - 1 := by
    split
    · next hzero =>
      rw [hzero]
      rfl
    · next hsome =>
      have hone : 1 ≤ attempt.toNat := by
        rw [← UInt32.toNat_inj] at hsome
        exact Nat.pos_of_ne_zero hsome
      exact UInt32.toNat_sub_of_le _ _ (UInt32.le_iff_toNat_le.2 hone)
  rw [factorInWords, factor, ← hdoublings]
  generalize (if attempt = 0 then 0 else attempt - 1) = places
  have hthirtytwo : places < 32 ↔ places.toNat < 32 := UInt32.lt_iff_toNat_lt
  simp only [hthirtytwo]
  split
  · next hfew =>
    rw [← UInt32.toNat_inj, UInt32.toNat_shiftLeft, UInt32.toNat_ofNat', Nat.mod_eq_of_lt hfew,
      Nat.shiftLeft_eq, UInt32.toNat_one, Nat.one_mul]
    rfl
  · rfl

/-- The wait by way of machine words. -/
def delayInWords (p : RetryPolicy) (attempt : UInt32) : Except Overflow Duration := do
  let product ← p.backoff.timesInWords (factorInWords attempt)
  pure ((product.getD p.maxBackoff).leastInWords p.maxBackoff)

/-- No step of the computation overflows. -/
theorem delayInWords_eq (p : RetryPolicy) (attempt : UInt32) :
    p.delayInWords attempt = .ok (p.delay attempt) := by
  rw [delayInWords, factorInWords_eq, Duration.timesInWords_eq]
  exact congrArg Except.ok (Duration.leastInWords_eq _ _)

/-- Later waits are no shorter. -/
theorem nanoseconds_delay_mono (p : RetryPolicy) {earlier later : UInt32} (h : earlier ≤ later) :
    (p.delay earlier).nanoseconds ≤ (p.delay later).nanoseconds := by
  have hcount : max earlier.toNat 1 - 1 ≤ max later.toNat 1 - 1 := by
    have hle := UInt32.le_iff_toNat_le.1 h
    omega
  have hpower : 2 ^ (max earlier.toNat 1 - 1) ≤ 2 ^ (max later.toNat 1 - 1) :=
    Nat.pow_le_pow_right Nat.two_pos hcount
  have hfactor : (factor earlier).toNat ≤ (factor later).toNat := by
    rw [toNat_factor, toNat_factor]
    omega
  have hproduct := Nat.mul_le_mul_left p.backoff.nanoseconds hfactor
  rw [nanoseconds_delay, nanoseconds_delay]
  omega

/-- If the largest factor takes the wait to the bound, nothing is lost by cutting the factor off. -/
theorem nanoseconds_delay_of_reach {p : RetryPolicy}
    (hreach : p.maxBackoff.nanoseconds ≤ p.backoff.nanoseconds * (2 ^ 32 - 1)) {attempt : UInt32}
    (hone : 1 ≤ attempt) :
    (p.delay attempt).nanoseconds =
      min (p.backoff.nanoseconds * 2 ^ (attempt.toNat - 1)) p.maxBackoff.nanoseconds := by
  have hcount : max attempt.toNat 1 = attempt.toNat :=
    Nat.max_eq_left (UInt32.le_iff_toNat_le.1 hone)
  rw [nanoseconds_delay, toNat_factor, hcount]
  rcases Nat.le_total (2 ^ (attempt.toNat - 1)) (2 ^ 32 - 1) with hfits | hlarge
  · rw [Nat.min_eq_left hfits]
  · -- Both products are past the bound.
    have hpast := Nat.mul_le_mul_left p.backoff.nanoseconds hlarge
    rw [Nat.min_eq_right hlarge, Nat.min_eq_right hreach,
      Nat.min_eq_right (Nat.le_trans hreach hpast)]

/-- The wait of every policy after every failure is computed without an overflow, and it is the
first wait times the power of two, the power cut off at the largest number of 32 bits and the
product at the bound. So it stays within the bound, does not fall from one failure to a later one,
and doubles up to the bound whenever the largest factor gets that far. -/
theorem capped_exponential (p : RetryPolicy) :
    (∀ attempt, p.delayInWords attempt = .ok (p.delay attempt)) ∧
    (∀ attempt, (p.delay attempt).nanoseconds =
      min (p.backoff.nanoseconds * min (2 ^ (max attempt.toNat 1 - 1)) (2 ^ 32 - 1))
        p.maxBackoff.nanoseconds) ∧
    (∀ attempt, (p.delay attempt).nanoseconds ≤ p.maxBackoff.nanoseconds) ∧
    (∀ earlier later, earlier ≤ later →
      (p.delay earlier).nanoseconds ≤ (p.delay later).nanoseconds) ∧
    (p.maxBackoff.nanoseconds ≤ p.backoff.nanoseconds * (2 ^ 32 - 1) →
      ∀ attempt, 1 ≤ attempt → (p.delay attempt).nanoseconds =
        min (p.backoff.nanoseconds * 2 ^ (attempt.toNat - 1)) p.maxBackoff.nanoseconds) := by
  refine ⟨p.delayInWords_eq, fun attempt => ?_, fun attempt => ?_,
    fun _ _ => p.nanoseconds_delay_mono,
    fun hreach _ => nanoseconds_delay_of_reach hreach⟩
  · rw [nanoseconds_delay, toNat_factor]
  · rw [nanoseconds_delay]
    exact Nat.min_le_right _ _

/-- The wait reaches a bound of five seconds with the sixth failure; the largest factor would take
it far beyond. -/
theorem capped_exponential_standard :
    standard.maxBackoff.nanoseconds ≤ standard.backoff.nanoseconds * (2 ^ 32 - 1) ∧
    (1 : UInt32) ≤ 5 ∧ (5 : UInt32) ≤ 40 ∧
    (standard.delay 5).nanoseconds ≤ (standard.delay 40).nanoseconds ∧
    (standard.delay 5).nanoseconds = 3200000000 ∧ (standard.delay 40).nanoseconds = 5000000000 := by
  obtain ⟨-, hexact, -, hmono, hreached⟩ := capped_exponential standard
  have hreach : standard.maxBackoff.nanoseconds ≤ standard.backoff.nanoseconds * (2 ^ 32 - 1) := by
    decide
  refine ⟨hreach, by decide, by decide, hmono 5 40 (by decide), ?_, ?_⟩
  · exact (hreached hreach 5 (by decide)).trans (by decide)
  · exact (hexact 40).trans (by decide)

end RetryPolicy

end Noughts
