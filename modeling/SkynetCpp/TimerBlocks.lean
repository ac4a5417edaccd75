import Mathlib.Tactic.SplitIfs
import SkynetCpp.Foundation.Bits
import SkynetCpp.Timer

namespace SkynetCpp

open Foundation

/-!
# Blocks of the timing wheel

The masks of `AddNode` and `TimerShift` compare numbers by the blocks they lie
in.  In terms of quotients, a tick changes the list of a pending expiry only
when it enters the expiry's block, and then `TimerShift` moves that list.
-/

namespace Timer

/-- `AddNode`'s choice of a list, in terms of quotients by the block sizes. -/
def slotOf (current expire : Nat) : TimerSlot :=
  if expire / 2 ^ 8 = current / 2 ^ 8 then .near (expire % 2 ^ 8)
  else if expire / 2 ^ 14 = current / 2 ^ 14 then
    .level 0 (expire / 2 ^ 8 % 2 ^ 6)
  else if expire / 2 ^ 20 = current / 2 ^ 20 then
    .level 1 (expire / 2 ^ 14 % 2 ^ 6)
  else if expire / 2 ^ 26 = current / 2 ^ 26 then
    .level 2 (expire / 2 ^ 20 % 2 ^ 6)
  else .level 3 (expire / 2 ^ 26 % 2 ^ 6)

/-- The list that `TimerShift` moves on reaching a time, if any. -/
def cascade (ct : Nat) : Option (Nat × Nat) :=
  if ct = 0 then some (3, 0)
  else if ct % 2 ^ 8 ≠ 0 then none
  else if ct / 2 ^ 8 % 2 ^ 6 ≠ 0 then some (0, ct / 2 ^ 8 % 2 ^ 6)
  else if ct / 2 ^ 14 % 2 ^ 6 ≠ 0 then some (1, ct / 2 ^ 14 % 2 ^ 6)
  else if ct / 2 ^ 20 % 2 ^ 6 ≠ 0 then some (2, ct / 2 ^ 20 % 2 ^ 6)
  else some (3, ct / 2 ^ 26 % 2 ^ 6)

/-- `AddNode` chooses the list by quotients. -/
theorem addSlot_eq
    (expire current : UInt32) :
    addSlot expire current = slotOf current.toNat expire.toNat := by
  have near :=
    UInt32.or_mask_eq_iff (k := 8) TIME_NEAR_MASK rfl
      expire current
  have first :=
    UInt32.or_mask_eq_iff (k := 14)
      (TIME_NEAR <<< TIME_LEVEL_SHIFT - 1) (by decide)
      expire current
  have second :=
    UInt32.or_mask_eq_iff (k := 20)
      (TIME_NEAR <<< TIME_LEVEL_SHIFT <<< TIME_LEVEL_SHIFT - 1)
      (by decide) expire current
  have third :=
    UInt32.or_mask_eq_iff (k := 26)
      (TIME_NEAR <<< TIME_LEVEL_SHIFT <<< TIME_LEVEL_SHIFT <<<
        TIME_LEVEL_SHIFT - 1)
      (by decide) expire current
  have index (shift : UInt32) {k : Nat} (isShift : shift.toNat = k)
      (small : k < 32) :
      ((expire >>> shift) &&& TIME_LEVEL_MASK).toNat =
        expire.toNat / 2 ^ k % 2 ^ 6 := by
    rw [UInt32.toNat_and_mask (k := 6) TIME_LEVEL_MASK rfl,
      UInt32.toNat_shiftRight_of_lt isShift small]
  have level0 := index (TIME_NEAR_SHIFT + UInt32.ofNat 0 * TIME_LEVEL_SHIFT)
    (k := 8) (by decide) (by omega)
  have level1 := index (TIME_NEAR_SHIFT + UInt32.ofNat 1 * TIME_LEVEL_SHIFT)
    (k := 14) (by decide) (by omega)
  have level2 := index (TIME_NEAR_SHIFT + UInt32.ofNat 2 * TIME_LEVEL_SHIFT)
    (k := 20) (by decide) (by omega)
  have level3 := index (TIME_NEAR_SHIFT + UInt32.ofNat 3 * TIME_LEVEL_SHIFT)
    (k := 26) (by decide) (by omega)
  unfold addSlot slotOf
  simp only [near, findLevel, first, second, third, Nat.zero_add,
    Nat.reduceAdd, UInt32.toNat_and_mask (k := 8) TIME_NEAR_MASK rfl]
  split_ifs
  · rfl
  · rw [level0]
  · rw [level1]
  · rw [level2]
  · rw [level3]

/-- A turn of the loop looks at six bits of the clock, if those below are 0. -/
theorem shiftLoop_turn
    {ct mask time : UInt32}
    {k : Nat}
    (isMask : (mask - 1).toNat = 2 ^ k - 1)
    (isTime : time.toNat = ct.toNat / 2 ^ k)
    (turns i : Nat) :
    shiftLoop ct (turns + 1) i mask time =
      if ct.toNat % 2 ^ k = 0 then
        if ct.toNat / 2 ^ k % 2 ^ 6 ≠ 0 then
          some (i, ct.toNat / 2 ^ k % 2 ^ 6)
        else
          shiftLoop ct turns (i + 1)
            (mask <<< TIME_LEVEL_SHIFT) (time >>> TIME_LEVEL_SHIFT)
      else
        none := by
  have aligned : ct &&& (mask - 1) = 0 ↔ ct.toNat % 2 ^ k = 0 := by
    rw [← UInt32.toNat_inj, UInt32.toNat_and_mask _ isMask]
    rfl
  have index :
      (time &&& TIME_LEVEL_MASK).toNat = ct.toNat / 2 ^ k % 2 ^ 6 := by
    rw [UInt32.toNat_and_mask (k := 6) _ rfl, isTime]
  have indexNe :
      time &&& TIME_LEVEL_MASK ≠ 0 ↔ ct.toNat / 2 ^ k % 2 ^ 6 ≠ 0 := by
    rw [ne_eq, ← UInt32.toNat_inj, index]
    rfl
  simp only [shiftLoop, aligned, indexNe, index]

/-- The loop of `TimerShift` finds the list to move by quotients. -/
theorem shiftLoop_eq
    {ct : UInt32}
    (nonzero : ct ≠ 0) :
    shiftLoop ct 4 0 TIME_NEAR (ct >>> TIME_NEAR_SHIFT) =
      cascade ct.toNat := by
  have nonzeroNat : ct.toNat ≠ 0 := by
    intro isZero
    exact nonzero (UInt32.toNat_inj.mp isZero)
  have small : ct.toNat < 2 ^ 32 := ct.toNat_lt
  have shifted
      {time : UInt32}
      {k : Nat}
      (isTime : time.toNat = ct.toNat / 2 ^ k) :
      (time >>> TIME_LEVEL_SHIFT).toNat = ct.toNat / 2 ^ (k + 6) := by
    rw [UInt32.toNat_shiftRight_of_lt (k := 6) rfl (by omega) time, isTime,
      Nat.div_div_eq_div_mul, ← Nat.pow_add]
  have time0 : (ct >>> TIME_NEAR_SHIFT).toNat = ct.toNat / 2 ^ 8 :=
    UInt32.toNat_shiftRight_of_lt (k := 8) rfl (by omega) ct
  have time1 := shifted time0
  have time2 := shifted time1
  have time3 := shifted time2
  rw [cascade, if_neg nonzeroNat, shiftLoop_turn (by decide) time0]
  by_cases aligned : ct.toNat % 2 ^ 8 = 0
  · rw [if_pos aligned, if_neg (not_not.mpr aligned)]
    by_cases index0 : ct.toNat / 2 ^ 8 % 2 ^ 6 ≠ 0
    · rw [if_pos index0, if_pos index0]
    have aligned1 : ct.toNat % 2 ^ 14 = 0 := by omega
    rw [if_neg index0, if_neg index0, shiftLoop_turn (by decide) time1,
      if_pos aligned1]
    by_cases index1 : ct.toNat / 2 ^ 14 % 2 ^ 6 ≠ 0
    · rw [if_pos index1, if_pos index1]
    have aligned2 : ct.toNat % 2 ^ 20 = 0 := by omega
    rw [if_neg index1, if_neg index1, shiftLoop_turn (by decide) time2,
      if_pos aligned2]
    by_cases index2 : ct.toNat / 2 ^ 20 % 2 ^ 6 ≠ 0
    · rw [if_pos index2, if_pos index2]
    have aligned3 : ct.toNat % 2 ^ 26 = 0 := by omega
    have index3 : ct.toNat / 2 ^ 26 % 2 ^ 6 ≠ 0 := by omega
    rw [if_neg index2, if_neg index2, shiftLoop_turn (by decide) time3,
      if_pos aligned3, if_pos index3]
  · rw [if_neg aligned, if_pos aligned]

/-- An expiry less than half the range ahead of the clock. -/
def Ahead (current expire : Nat) : Prop :=
  ∃ t, 0 < t ∧ t < 2 ^ 31 ∧ expire = (current + t) % 2 ^ 32

/--
A tick changes the list of a pending expiry only when `TimerShift` moves the
list that holds it.
-/
theorem slotOf_succ
    {current expire ct : Nat}
    (bounded : current < 2 ^ 32)
    (ticked : ct = (current + 1) % 2 ^ 32)
    (ahead : Ahead current expire) :
    slotOf ct expire = slotOf current expire ∨
      ∃ level idx,
        cascade ct = some (level, idx) ∧
          slotOf current expire = .level level idx := by
  obtain ⟨t, positive, short, isExpire⟩ := ahead
  by_cases block8 : expire / 2 ^ 8 = current / 2 ^ 8
  · have stays : expire / 2 ^ 8 = ct / 2 ^ 8 := by omega
    left
    rw [slotOf, slotOf, if_pos stays, if_pos block8]
  by_cases block14 : expire / 2 ^ 14 = current / 2 ^ 14
  · have stays : expire / 2 ^ 14 = ct / 2 ^ 14 := by omega
    by_cases enters : expire / 2 ^ 8 = ct / 2 ^ 8
    · have nonzero : ct ≠ 0 := by omega
      have aligned : ct % 2 ^ 8 = 0 := by omega
      have index : ct / 2 ^ 8 % 2 ^ 6 ≠ 0 := by omega
      right
      refine ⟨0, ct / 2 ^ 8 % 2 ^ 6, ?_, ?_⟩
      · rw [cascade, if_neg nonzero, if_neg (not_not.mpr aligned),
          if_pos index]
      · rw [slotOf, if_neg block8, if_pos block14, enters]
    · left
      rw [slotOf, slotOf, if_neg enters, if_pos stays,
        if_neg block8, if_pos block14]
  by_cases block20 : expire / 2 ^ 20 = current / 2 ^ 20
  · have stays : expire / 2 ^ 20 = ct / 2 ^ 20 := by omega
    by_cases enters : expire / 2 ^ 14 = ct / 2 ^ 14
    · have nonzero : ct ≠ 0 := by omega
      have aligned : ct % 2 ^ 8 = 0 := by omega
      have lower : ct / 2 ^ 8 % 2 ^ 6 = 0 := by omega
      have index : ct / 2 ^ 14 % 2 ^ 6 ≠ 0 := by omega
      right
      refine ⟨1, ct / 2 ^ 14 % 2 ^ 6, ?_, ?_⟩
      · rw [cascade, if_neg nonzero, if_neg (not_not.mpr aligned),
          if_neg (not_not.mpr lower), if_pos index]
      · rw [slotOf, if_neg block8, if_neg block14, if_pos block20, enters]
    · have outside : expire / 2 ^ 8 ≠ ct / 2 ^ 8 := by omega
      left
      rw [slotOf, slotOf, if_neg outside, if_neg enters, if_pos stays,
        if_neg block8, if_neg block14, if_pos block20]
  by_cases block26 : expire / 2 ^ 26 = current / 2 ^ 26
  · have stays : expire / 2 ^ 26 = ct / 2 ^ 26 := by omega
    by_cases enters : expire / 2 ^ 20 = ct / 2 ^ 20
    · have nonzero : ct ≠ 0 := by omega
      have aligned : ct % 2 ^ 8 = 0 := by omega
      have lower : ct / 2 ^ 8 % 2 ^ 6 = 0 ∧ ct / 2 ^ 14 % 2 ^ 6 = 0 := by
        omega
      have index : ct / 2 ^ 20 % 2 ^ 6 ≠ 0 := by omega
      right
      refine ⟨2, ct / 2 ^ 20 % 2 ^ 6, ?_, ?_⟩
      · rw [cascade, if_neg nonzero, if_neg (not_not.mpr aligned),
          if_neg (not_not.mpr lower.1), if_neg (not_not.mpr lower.2),
          if_pos index]
      · rw [slotOf, if_neg block8, if_neg block14, if_neg block20,
          if_pos block26, enters]
    · have outside :
          expire / 2 ^ 8 ≠ ct / 2 ^ 8 ∧ expire / 2 ^ 14 ≠ ct / 2 ^ 14 := by
        omega
      left
      rw [slotOf, slotOf, if_neg outside.1, if_neg outside.2, if_neg enters,
        if_pos stays, if_neg block8, if_neg block14, if_neg block20,
        if_pos block26]
  by_cases enters : expire / 2 ^ 26 = ct / 2 ^ 26
  · have aligned : ct % 2 ^ 8 = 0 := by omega
    have lower :
        ct / 2 ^ 8 % 2 ^ 6 = 0 ∧ ct / 2 ^ 14 % 2 ^ 6 = 0 ∧
          ct / 2 ^ 20 % 2 ^ 6 = 0 := by
      omega
    right
    refine ⟨3, ct / 2 ^ 26 % 2 ^ 6, ?_, ?_⟩
    · -- The clock wraps to 0 through a branch of its own.
      by_cases wraps : ct = 0
      · subst wraps
        rfl
      · rw [cascade, if_neg wraps, if_neg (not_not.mpr aligned),
          if_neg (not_not.mpr lower.1), if_neg (not_not.mpr lower.2.1),
          if_neg (not_not.mpr lower.2.2)]
    · rw [slotOf, if_neg block8, if_neg block14, if_neg block20,
        if_neg block26, enters]
  · have outside :
        expire / 2 ^ 8 ≠ ct / 2 ^ 8 ∧ expire / 2 ^ 14 ≠ ct / 2 ^ 14 ∧
          expire / 2 ^ 20 ≠ ct / 2 ^ 20 := by
      omega
    left
    rw [slotOf, slotOf, if_neg outside.1, if_neg outside.2.1,
      if_neg outside.2.2, if_neg enters, if_neg block8, if_neg block14,
      if_neg block20, if_neg block26]

/-- The current near list is the list of the expiry that is due now. -/
theorem slotOf_eq_current_iff
    {current expire : Nat} :
    slotOf current expire = .near (current % 2 ^ 8) ↔ expire = current := by
  constructor
  · unfold slotOf
    split_ifs with block8
    · intro same
      injection same with same
      omega
    all_goals
      intro impossible
      cases impossible
  · intro isCurrent
    subst isCurrent
    simp only [slotOf, ↓reduceIte]

end Timer

end SkynetCpp
