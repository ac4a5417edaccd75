import SkynetCpp.TimerLock
import SkynetCpp.TimerWheel

namespace SkynetCpp

open Foundation

/-!
# When a tick moves a node

`TimerShift` moves a node when the clock enters a block of its expiry.  The
blocks divide the range of the clock, so that the times of an agenda, which do
not wrap, tell on which ticks the lock is acquired twice.
-/

namespace Timer

section Blocks

variable {current expire ct : Nat}

/-- A time is the first tick of a block of the wheel in which an expiry lies. -/
def BeginsBlock (tick expire : Nat) : Prop :=
  ∃ k ∈ [8, 14, 20, 26], tick = expire / 2 ^ k * 2 ^ k

theorem beginsBlock_iff :
    BeginsBlock ct expire ↔
      ct = expire / 2 ^ 8 * 2 ^ 8 ∨ ct = expire / 2 ^ 14 * 2 ^ 14 ∨
        ct = expire / 2 ^ 20 * 2 ^ 20 ∨ ct = expire / 2 ^ 26 * 2 ^ 26 := by
  simp only [BeginsBlock, List.mem_cons, List.not_mem_nil, or_false,
    exists_eq_or_imp, exists_eq_left]

/-- A list that `TimerShift` moves holds expiries whose blocks begin. -/
theorem beginsBlock_of_cascade
    (bounded : current < 2 ^ 32)
    (small : expire < 2 ^ 32)
    (ticked : ct = (current + 1) % 2 ^ 32)
    {level idx : Nat}
    (moved : cascade ct = some (level, idx))
    (here : slotOf current expire = .level level idx) :
    BeginsBlock ct expire := by
  rw [beginsBlock_iff]
  unfold cascade at moved
  unfold slotOf at here
  split_ifs at here <;> split_ifs at moved <;>
    simp only [Option.some.injEq, Prod.mk.injEq, TimerSlot.level.injEq] at moved here <;>
    omega

/-- The level of a list, counted from the near lists. -/
def rank : TimerSlot → Nat
  | .near _ => 0
  | .level i _ => i + 1

/-- A list lies on the lowest level whose block holds both times. -/
theorem rank_slotOf_le_iff
    (j : Nat)
    (small : j < 4) :
    rank (slotOf current expire) ≤ j ↔
      expire / 2 ^ (8 + 6 * j) = current / 2 ^ (8 + 6 * j) := by
  unfold slotOf
  match j with
  | 0 => 
    simp only [Nat.mul_zero, Nat.add_zero]
    split_ifs <;> simp only [rank] <;> omega
  | 1 =>
    simp only [Nat.mul_one, Nat.reduceAdd]
    split_ifs <;> simp only [rank] <;> omega
  | 2 =>
    simp only [Nat.reduceMul, Nat.reduceAdd]
    split_ifs <;> simp only [rank] <;> omega
  | 3 =>
    simp only [Nat.reduceMul, Nat.reduceAdd]
    split_ifs <;> simp only [rank] <;> omega

/-- On the first tick of a block of a pending expiry, `TimerShift` moves its list. -/
theorem cascade_of_beginsBlock
    (bounded : current < 2 ^ 32)
    (ticked : ct = (current + 1) % 2 ^ 32)
    (ahead : Ahead current expire)
    (begins : BeginsBlock ct expire) :
    ∃ level idx,
      cascade ct = some (level, idx) ∧
        slotOf current expire = .level level idx := by
  refine (slotOf_succ bounded ticked ahead).resolve_left ?_
  intro same
  have sameRank
      (j : Nat)
      (small : j < 4) :
      expire / 2 ^ (8 + 6 * j) = ct / 2 ^ (8 + 6 * j) ↔
        expire / 2 ^ (8 + 6 * j) = current / 2 ^ (8 + 6 * j) := by
    rw [← rank_slotOf_le_iff j small, ← rank_slotOf_le_iff j small, same]
  obtain ⟨t, positive, short, isExpire⟩ := ahead
  rcases beginsBlock_iff.mp begins with first | first | first | first
  · have block := sameRank 0 (by omega)
    simp only [Nat.mul_zero, Nat.add_zero] at block
    omega
  · have block := sameRank 1 (by omega)
    simp only [Nat.mul_one, Nat.reduceAdd] at block
    omega
  · have block := sameRank 2 (by omega)
    simp only [Nat.reduceMul, Nat.reduceAdd] at block
    omega
  · have block := sameRank 3 (by omega)
    simp only [Nat.reduceMul, Nat.reduceAdd] at block
    omega

/-- The list that `TimerShift` moves, by quotients. -/
theorem shiftTarget_eq
    (ct : UInt32) :
    LockedTimer.shiftTarget ct = cascade ct.toNat := by
  unfold LockedTimer.shiftTarget
  split
  · next wraps =>
      rw [wraps]
      rfl
  · next nonzero =>
      exact shiftLoop_eq nonzero

variable
    {timer : Timer}
    {agenda : Agenda TimerNode}
    {entry : Nat × TimerNode}

theorem toNat_time_succ
    (timer : Timer) :
    (timer.time + 1).toNat = (timer.time.toNat + 1) % 2 ^ 32 := by
  simp

/-- `TimerShift` moves the nodes of the list that it chooses. -/
theorem Tracks.mem_movedList
    (tracks : Tracks timer agenda)
    (member : entry ∈ agenda.pending)
    {level idx : Nat}
    (target : cascade (timer.time + 1).toNat = some (level, idx))
    (here :
      slotOf timer.time.toNat entry.2.expire.toNat = .level level idx) :
    entry.2 ∈ LockedTimer.movedList timer := by
  have kept :
      entry.2 ∈ (agenda.pending.map Prod.snd).filter
        (·.expire = entry.2.expire) :=
    List.mem_filter.mpr ⟨List.mem_map_of_mem member, by simp⟩
  rw [← tracks.sorted.kept, addSlot_eq, here] at kept
  rw [LockedTimer.movedList, shiftTarget_eq, target]
  exact (List.mem_filter.mp kept).1

/-- A tick on which no node is moved changes no list of a pending expiry. -/
theorem Tracks.addSlot_succ
    (tracks : Tracks timer agenda)
    (idle : LockedTimer.movedList timer = [])
    (member : entry ∈ agenda.pending) :
    addSlot entry.2.expire (timer.time + 1) =
      addSlot entry.2.expire timer.time := by
  have ahead := tracks.ahead entry.2 (List.mem_map_of_mem member)
  rw [addSlot_eq, addSlot_eq]
  rcases slotOf_succ timer.time.toNat_lt (toNat_time_succ timer) ahead with
    same | ⟨level, idx, target, here⟩
  · exact same
  · have moved := tracks.mem_movedList member target here
    rw [idle] at moved
    cases moved

/-- `TimerShift` has a node to move exactly when a block of a pending expiry begins. -/
theorem Tracks.movedList_ne_nil_iff
    (tracks : Tracks timer agenda) :
    LockedTimer.movedList timer ≠ [] ↔
      ∃ entry ∈ agenda.pending, BeginsBlock (agenda.now + 1) entry.1 := by
  -- the blocks of the wheel divide its range
  have begins_iff (entry : Nat × TimerNode) (member : entry ∈ agenda.pending) :
      BeginsBlock (timer.time + 1).toNat entry.2.expire.toNat ↔
        BeginsBlock (agenda.now + 1) entry.1 := by
    obtain ⟨later, soon, isExpire⟩ := tracks.within entry member
    rw [beginsBlock_iff, beginsBlock_iff, isExpire, toNat_time_succ,
      tracks.clock]
    omega
  constructor
  · intro moves
    obtain ⟨node, listed⟩ := List.exists_mem_of_ne_nil _ moves
    rw [LockedTimer.movedList, shiftTarget_eq] at listed
    cases target : cascade (timer.time + 1).toNat with
    | none =>
        rw [target] at listed
        cases listed
    | some place =>
        obtain ⟨level, idx⟩ := place
        rw [target] at listed
        obtain ⟨entry, member, rfl⟩ :=
          List.mem_map.mp (tracks.sorted.mem listed)
        have here := tracks.sorted.placed _ _ listed
        rw [addSlot_eq] at here
        exact
          ⟨entry, member,
            (begins_iff entry member).mp
              (beginsBlock_of_cascade timer.time.toNat_lt
                entry.2.expire.toNat_lt (toNat_time_succ timer) target here)⟩
  · rintro ⟨entry, member, begins⟩
    obtain ⟨level, idx, target, here⟩ :=
      cascade_of_beginsBlock timer.time.toNat_lt (toNat_time_succ timer)
        (tracks.ahead entry.2 (List.mem_map_of_mem member))
        ((begins_iff entry member).mpr begins)
    exact List.ne_nil_of_mem (tracks.mem_movedList member target here)

end Blocks

end Timer

end SkynetCpp
