import Mathlib.Data.Nat.Bitwise

namespace Foundation

/-!
# Masks and blocks

Or-ing the mask of the low `k` bits forgets them: two numbers agree afterwards
exactly when they lie in the same block of size `2 ^ k`.
-/

/-- Numbers agree outside the low `k` bits when their quotients agree. -/
theorem or_mask_eq_iff
    (k first second : Nat) :
    first ||| (2 ^ k - 1) = second ||| (2 ^ k - 1) ↔
      first / 2 ^ k = second / 2 ^ k := by
  constructor
  · intro same
    apply Nat.eq_of_testBit_eq
    intro bit
    have sameBit := congrArg (Nat.testBit · (bit + k)) same
    have high : ¬ bit + k < k := by omega
    simpa [Nat.testBit_or, Nat.testBit_div_two_pow, high] using sameBit
  · intro same
    apply Nat.eq_of_testBit_eq
    intro bit
    by_cases low : bit < k
    · simp [Nat.testBit_or, low]
    · have sameBit := congrArg (Nat.testBit · (bit - k)) same
      have restored : bit - k + k = bit := by omega
      simp only [Nat.testBit_div_two_pow, restored] at sameBit
      simp [Nat.testBit_or, sameBit]

/-- 32-bit numbers agree outside the low `k` bits when their quotients agree. -/
theorem UInt32.or_mask_eq_iff
    {k : Nat}
    (mask : UInt32)
    (isMask : mask.toNat = 2 ^ k - 1)
    (first second : UInt32) :
    first ||| mask = second ||| mask ↔
      first.toNat / 2 ^ k = second.toNat / 2 ^ k := by
  rw [← Foundation.or_mask_eq_iff, ← UInt32.toNat_inj]
  simp [UInt32.toNat_or, isMask]

/-- The low bits of a 32-bit number are its remainder. -/
theorem UInt32.toNat_and_mask
    {k : Nat}
    (mask : UInt32)
    (isMask : mask.toNat = 2 ^ k - 1)
    (number : UInt32) :
    (number &&& mask).toNat = number.toNat % 2 ^ k := by
  rw [UInt32.toNat_and, isMask, Nat.and_two_pow_sub_one_eq_mod]

/-- Shifting a 32-bit number right divides it. -/
theorem UInt32.toNat_shiftRight_of_lt
    {shift : UInt32}
    {k : Nat}
    (isShift : shift.toNat = k)
    (small : k < 32)
    (number : UInt32) :
    (number >>> shift).toNat = number.toNat / 2 ^ k := by
  rw [UInt32.toNat_shiftRight, isShift, Nat.mod_eq_of_lt small,
    Nat.shiftRight_eq_div_pow]

/-- A natural number as a 32-bit one does not go through its sign. -/
theorem UInt32.ofInt_natCast
    (number : Nat) :
    UInt32.ofInt number = UInt32.ofNat number := by
  have remainder :
      ((number : Int) % 2 ^ 32).toNat = number % 2 ^ 32 := by
    omega
  rw [UInt32.ofInt, remainder]
  exact UInt32.ofNat_mod_size

end Foundation
