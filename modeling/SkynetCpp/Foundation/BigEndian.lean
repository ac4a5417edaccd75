import Mathlib.Data.Nat.Bitwise
import Mathlib.Tactic.Ring

namespace Foundation

/-!
# Big-endian numbers

A number in a fixed count of bytes, the most significant one first, and the
shifts and ors by which programs put such a number together.
-/

/-- The number in a list of bytes. -/
def ofBytes : List UInt8 → Nat
  | [] => 0
  | byte :: rest => byte.toNat * 256 ^ rest.length + ofBytes rest

/-- The lowest bytes of a number. -/
def toBytes : Nat → Nat → List UInt8
  | 0, _ => []
  | count + 1, number => UInt8.ofNat (number / 256 ^ count) :: toBytes count number

@[simp] theorem length_toBytes
    (count number : Nat) :
    (toBytes count number).length = count := by
  induction count with
  | zero =>
      rfl
  | succ count inductionHypothesis =>
      simp [toBytes, inductionHypothesis]

/-- Bytes hold less than the next power. -/
theorem ofBytes_lt
    (bytes : List UInt8) :
    ofBytes bytes < 256 ^ bytes.length := by
  induction bytes with
  | nil =>
      simp [ofBytes]
  | cons byte rest inductionHypothesis =>
      have isByte : byte.toNat + 1 ≤ 256 := byte.toNat_lt
      have scaled := Nat.mul_le_mul_right (256 ^ rest.length) isByte
      rw [Nat.add_mul, Nat.one_mul] at scaled
      simp only [ofBytes, List.length_cons, Nat.pow_succ]
      omega

/-- Reading the written bytes gives the number back. -/
theorem ofBytes_toBytes
    (count number : Nat) :
    ofBytes (toBytes count number) = number % 256 ^ count := by
  induction count with
  | zero =>
      simp [toBytes, ofBytes, Nat.mod_one]
  | succ count inductionHypothesis =>
      simp only [toBytes, ofBytes, length_toBytes, inductionHypothesis,
        UInt8.toNat_ofNat', Nat.reducePow]
      rw [Nat.pow_succ, Nat.mod_mul]
      ring

/-- Writing the read number gives the bytes back. -/
theorem toBytes_ofBytes
    (bytes : List UInt8) :
    toBytes bytes.length (ofBytes bytes) = bytes := by
  have low :
      ∀ (count above below : Nat),
        toBytes count (above * 256 ^ count + below) = toBytes count below := by
    intro count
    induction count with
    | zero =>
        intro above below
        rfl
    | succ count inductionHypothesis =>
        intro above below
        have shifted :
            above * 256 ^ (count + 1) + below =
              above * 256 * 256 ^ count + below := by
          ring
        have sameByte :
            UInt8.ofNat ((above * 256 * 256 ^ count + below) / 256 ^ count) =
              UInt8.ofNat (below / 256 ^ count) := by
          apply UInt8.toNat_inj.mp
          rw [Nat.add_comm, Nat.add_mul_div_right _ _ (Nat.pow_pos (by decide))]
          rw [UInt8.toNat_ofNat', UInt8.toNat_ofNat', Nat.add_mul_mod_self_right]
        rw [shifted, toBytes, toBytes, sameByte, inductionHypothesis]
  induction bytes with
  | nil =>
      rfl
  | cons byte rest inductionHypothesis =>
      have isByte :
          UInt8.ofNat ((byte.toNat * 256 ^ rest.length + ofBytes rest) /
            256 ^ rest.length) = byte := by
        rw [Nat.add_comm, Nat.add_mul_div_right _ _ (Nat.pow_pos (by decide)),
          Nat.div_eq_of_lt (ofBytes_lt rest), Nat.zero_add]
        simp
      rw [List.length_cons, ofBytes, toBytes, isByte, low,
        inductionHypothesis]

/-- Two bytes joined by shift and or. -/
theorem ofBytes_pair
    (first second : UInt8) :
    first.toNat <<< 8 ||| second.toNat = ofBytes [first, second] := by
  rw [← Nat.shiftLeft_add_eq_or_of_lt second.toNat_lt, Nat.shiftLeft_eq]
  simp [ofBytes]

/-- Three bytes joined by shifts and ors. -/
theorem ofBytes_triple
    (first second third : UInt8) :
    first.toNat <<< 16 ||| second.toNat <<< 8 ||| third.toNat =
      ofBytes [first, second, third] := by
  have joined :
      first.toNat <<< 16 ||| second.toNat <<< 8 =
        (first.toNat <<< 8 ||| second.toNat) <<< 8 := by
    rw [Nat.shiftLeft_or_distrib, ← Nat.shiftLeft_add]
  rw [joined, ofBytes_pair, ← Nat.shiftLeft_add_eq_or_of_lt third.toNat_lt,
    Nat.shiftLeft_eq]
  simp [ofBytes]
  ring

/-- Four bytes joined by shifts and ors. -/
theorem ofBytes_quadruple
    (first second third fourth : UInt8) :
    first.toNat <<< 24 ||| second.toNat <<< 16 ||| third.toNat <<< 8 |||
        fourth.toNat =
      ofBytes [first, second, third, fourth] := by
  have joined :
      first.toNat <<< 24 ||| second.toNat <<< 16 ||| third.toNat <<< 8 =
        (first.toNat <<< 16 ||| second.toNat <<< 8 ||| third.toNat) <<< 8 := by
    rw [Nat.shiftLeft_or_distrib, Nat.shiftLeft_or_distrib,
      ← Nat.shiftLeft_add, ← Nat.shiftLeft_add]
  rw [joined, ofBytes_triple, ← Nat.shiftLeft_add_eq_or_of_lt fourth.toNat_lt,
    Nat.shiftLeft_eq]
  simp [ofBytes]
  ring

end Foundation
