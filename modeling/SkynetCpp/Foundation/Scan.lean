import Mathlib.Tactic.ByContra

namespace Foundation

/-!
# Scans that start over

A scan tries the numbers from some start on, one after the other, and goes on
from 1 behind the last number.  Each number names a slot of a table by its
remainder.  As 0 is left out, a scan of as many turns as there are slots may
miss slot 0, and no other.
-/

/-- The number that a scan tries after so many turns. -/
def scanned (last start turn : Nat) : Nat :=
  if start + turn ≤ last then start + turn else start + turn - last

section Bounds

variable {last start turn : Nat}

theorem scanned_of_le
    (before : start + turn ≤ last) :
    scanned last start turn = start + turn := by
  rw [scanned, if_pos before]

theorem scanned_of_lt
    (behind : last < start + turn) :
    scanned last start turn = start + turn - last := by
  rw [scanned, if_neg (Nat.not_le.mpr behind)]

theorem scanned_le
    (inRange : start ≤ last + 1)
    (short : turn < last) :
    scanned last start turn ≤ last := by
  unfold scanned
  split <;> omega

end Bounds

section Slots

variable {last start size slot : Nat}

/-- Before it starts over, a scan tries the slots that follow its start. -/
theorem scanned_mod_of_le
    {turn : Nat}
    (behind : Nat)
    (divides : size ∣ last + 1)
    (before : start + turn + behind = last + 1)
    (positive : 0 < behind)
    (small : behind ≤ size) :
    scanned last start turn % size = (size - behind) % size := by
  obtain ⟨blocks, isRange⟩ := divides
  cases blocks with
  | zero =>
      omega
  | succ blocks =>
      rw [scanned_of_le (by omega)]
      have place : start + turn = (size - behind) + size * blocks := by
        rw [Nat.mul_succ] at isRange
        omega
      rw [place, Nat.add_mul_mod_self_left]

/-- A scan that starts within the last slots finds every slot but slot 0. -/
theorem exists_scanned_of_late
    (divides : size ∣ last + 1)
    (inRange : start ≤ last + 1)
    (late : last + 1 < start + size)
    (inTable : slot < size)
    (isFound : slot ≠ 0 ∨ start = last + 1) :
    ∃ turn < size, scanned last start turn % size = slot := by
  by_cases again : slot ≠ 0 ∧ slot ≤ start + size - (last + 1)
  · -- found behind the last number
    refine ⟨last + 1 - start + slot - 1, by omega, ?_⟩
    rw [scanned_of_lt (by omega)]
    have place : start + (last + 1 - start + slot - 1) - last = slot := by omega
    rw [place, Nat.mod_eq_of_lt inTable]
  · by_cases isZero : slot = 0
    · have isLast : start = last + 1 := isFound.resolve_left (absurd isZero)
      refine ⟨size - 1, by omega, ?_⟩
      rw [scanned_of_lt (by omega)]
      have place : start + (size - 1) - last = size := by omega
      rw [place, Nat.mod_self, isZero]
    · -- found before
      refine ⟨slot + (last + 1 - start) - size, by omega, ?_⟩
      rw [scanned_mod_of_le (size - slot) divides (by omega) (by omega)
        (by omega)]
      have place : size - (size - slot) = slot := by omega
      rw [place, Nat.mod_eq_of_lt inTable]

/-- A scan that starts early enough finds every slot. -/
theorem exists_scanned_of_early
    (positive : 0 < size)
    (early : start + size ≤ last + 1)
    (inTable : slot < size) :
    ∃ turn < size, scanned last start turn % size = slot := by
  have remainder : start % size < size := Nat.mod_lt _ positive
  refine ⟨(slot + (size - start % size)) % size, Nat.mod_lt _ positive, ?_⟩
  have short : (slot + (size - start % size)) % size < size :=
    Nat.mod_lt _ positive
  rw [scanned_of_le (by omega), Nat.add_mod_mod]
  have place :
      start + (slot + (size - start % size)) =
        slot + size * (start / size + 1) := by
    have whole := Nat.div_add_mod start size
    rw [Nat.mul_succ]
    omega
  rw [place, Nat.add_mul_mod_self_left, Nat.mod_eq_of_lt inTable]

/--
Which slots a scan of as many turns as there are slots finds: all of them,
unless it starts over on its way; then it misses slot 0.
-/
theorem exists_scanned_iff
    (divides : size ∣ last + 1)
    (positive : 0 < size)
    (inRange : start ≤ last + 1)
    (inTable : slot < size) :
    (∃ turn < size, scanned last start turn % size = slot) ↔
      slot ≠ 0 ∨ start + size ≤ last + 1 ∨ start = last + 1 := by
  constructor
  · rintro ⟨turn, short, here⟩
    by_contra missed
    simp only [not_or, not_not, Nat.not_le] at missed
    obtain ⟨isZero, late, notLast⟩ := missed
    rw [isZero] at here
    by_cases before : start + turn ≤ last
    · rw [scanned_mod_of_le (last + 1 - (start + turn)) divides (by omega)
        (by omega) (by omega), Nat.mod_eq_of_lt (by omega)] at here
      omega
    · rw [scanned_of_lt (by omega), Nat.mod_eq_of_lt (by omega)] at here
      omega
  · intro isFound
    by_cases early : start + size ≤ last + 1
    · exact exists_scanned_of_early positive early inTable
    · refine exists_scanned_of_late divides inRange (by omega) inTable ?_
      rcases isFound with nonzero | isEarly | isLast
      · exact Or.inl nonzero
      · exact absurd isEarly early
      · exact Or.inr isLast

end Slots

end Foundation
