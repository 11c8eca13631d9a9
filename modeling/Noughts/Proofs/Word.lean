/-!
# Arithmetic within 64 bits

Sums, differences and products of 64-bit numbers that fail where the exact result does not fit. Each
of them gives a word exactly if that word stands for the result of the same operation on natural
numbers, as in `Word.mul?_eq_some_iff`.
-/

namespace Noughts.Word

/-- The product of two 64-bit numbers, if it fits into 64 bits. -/
def mul? (a b : UInt64) : Option UInt64 :=
  if a.toNat * b.toNat < UInt64.size then some (a * b) else none

/-- The sum of two 64-bit numbers, if it fits into 64 bits. -/
def add? (a b : UInt64) : Option UInt64 :=
  if a.toNat + b.toNat < UInt64.size then some (a + b) else none

/-- The difference of two 64-bit numbers, unless it is negative. -/
def sub? (a b : UInt64) : Option UInt64 :=
  if b ≤ a then some (a - b) else none

/-- The product, computed as a natural number and kept if it fits. -/
theorem mul?_eq (a b : UInt64) :
    mul? a b = if a.toNat * b.toNat < UInt64.size then some (UInt64.ofNat (a.toNat * b.toNat))
      else none := by
  rw [mul?, UInt64.ofNat_mul, UInt64.ofNat_toNat, UInt64.ofNat_toNat]

/-- The sum, computed as a natural number and kept if it fits. -/
theorem add?_eq (a b : UInt64) :
    add? a b = if a.toNat + b.toNat < UInt64.size then some (UInt64.ofNat (a.toNat + b.toNat))
      else none := by
  rw [add?, UInt64.ofNat_add, UInt64.ofNat_toNat, UInt64.ofNat_toNat]

variable {a b w : UInt64}

/-- A number that is kept if it fits into 64 bits is the value of the word that keeps it. -/
theorem keep_eq_some_iff {n : Nat} :
    (if n < UInt64.size then some (UInt64.ofNat n) else none) = some w ↔ w.toNat = n := by
  rw [Option.ite_none_right_eq_some, Option.some.injEq]
  constructor
  · rintro ⟨hfits, rfl⟩
    exact UInt64.toNat_ofNat_of_lt' hfits
  · rintro rfl
    exact ⟨w.toNat_lt_size, UInt64.ofNat_toNat⟩

/-- A checked product is the exact one. -/
theorem mul?_eq_some_iff : mul? a b = some w ↔ w.toNat = a.toNat * b.toNat := by
  rw [mul?_eq, keep_eq_some_iff]

/-- A checked sum is the exact one. -/
theorem add?_eq_some_iff : add? a b = some w ↔ w.toNat = a.toNat + b.toNat := by
  rw [add?_eq, keep_eq_some_iff]

/-- A checked difference is the exact one. -/
theorem sub?_eq_some_iff : sub? a b = some w ↔ w.toNat + b.toNat = a.toNat := by
  rw [sub?, Option.ite_none_right_eq_some, Option.some.injEq, ← UInt64.toNat_inj,
    UInt64.le_iff_toNat_le]
  constructor
  · rintro ⟨hle, hdiff⟩
    rw [UInt64.toNat_sub_of_le _ _ (UInt64.le_iff_toNat_le.2 hle)] at hdiff
    omega
  · intro hsum
    have hle : b.toNat ≤ a.toNat := by omega
    refine ⟨hle, ?_⟩
    rw [UInt64.toNat_sub_of_le _ _ (UInt64.le_iff_toNat_le.2 hle)]
    omega

end Noughts.Word
