import SkynetCpp.Foundation.Run
import SkynetCpp.Foundation.Threads

namespace SkynetCpp.RwLock

open Foundation

/-!
# The reader-writer lock

`rwlock.h` as a step relation: every atomic operation of every thread is one
step.  A failed `compare_exchange_weak` stores the observed value into `val`,
which the retry loop of `rwlock_wlock` uses as the next expected value.  The
reader counter is an `int`, kept as its 32-bit pattern.
-/

/-- The two atomics of `struct rwlock`. -/
structure Lock where
  write : Int
  read : UInt32
  deriving Repr, DecidableEq

/-- `rwlockInit`. -/
def rwlockInit : Lock where
  write := 0
  read := 0

/-- The next atomic operation of a thread. -/
inductive Pc where
  /-- Outside the lock's functions and sections. -/
  | idle
  /-- `rwlock_rlock`: waiting until `write` is 0. -/
  | rlockLoad
  /-- `rwlock_rlock`: about to add 1 to `read`. -/
  | rlockAdd
  /-- `rwlock_rlock`: about to look at `write` again. -/
  | rlockCheck
  /-- `rwlock_rlock`: about to take 1 from `read` and start over. -/
  | rlockBack
  /-- Between `rwlock_rlock` and the store of `rwlock_runlock`. -/
  | reading
  /-- `rwlock_wlock`: about to compare `write` with `val` and exchange. -/
  | wlockExchange (val : Int)
  /-- `rwlock_wlock`: waiting until `read` is 0. -/
  | wlockLoad
  /-- Between `rwlock_wlock` and the store of `rwlock_wunlock`. -/
  | writing
  deriving Repr, DecidableEq

/-- What a thread does next; a weak exchange may fail spuriously. -/
inductive Action where
  | rlock
  | wlock
  | advance
  | failSpuriously
  deriving Repr, DecidableEq

/-- One atomic operation of one thread. -/
def operation (lock : Lock) : Pc → Action → Option (Lock × Pc)
  | .idle, .rlock => some (lock, .rlockLoad)
  | .idle, .wlock => some (lock, .wlockExchange 0)
  | .rlockLoad, .advance =>
      some (lock, if lock.write ≠ 0 then .rlockLoad else .rlockAdd)
  | .rlockAdd, .advance =>
      some ({ lock with read := lock.read + 1 }, .rlockCheck)
  | .rlockCheck, .advance =>
      some (lock, if lock.write ≠ 0 then .rlockBack else .reading)
  | .rlockBack, .advance =>
      some ({ lock with read := lock.read - 1 }, .rlockLoad)
  | .reading, .advance =>
      some ({ lock with read := lock.read - 1 }, .idle)
  | .wlockExchange val, .advance =>
      if lock.write = val then
        some ({ lock with write := 1 }, .wlockLoad)
      else
        some (lock, .wlockExchange lock.write)
  | .wlockExchange _, .failSpuriously =>
      some (lock, .wlockExchange lock.write)
  | .wlockLoad, .advance =>
      some (lock, if lock.read ≠ 0 then .wlockLoad else .writing)
  | .writing, .advance =>
      some ({ lock with write := 0 }, .idle)
  | _, _ => none

variable {Thread : Type}

/-- The lock and the place of every thread. -/
structure State (Thread : Type) where
  lock : Lock
  pc : Thread → Pc

/-- A fresh lock and threads that do not use it yet. -/
def initial : State Thread where
  lock := rwlockInit
  pc := fun _ => .idle

/-- One step of the threads that share the lock. -/
def next?
    [DecidableEq Thread]
    (s : State Thread)
    (label : Thread × Action) : Option (State Thread) :=
  (operation s.lock (s.pc label.1) label.2).map fun result =>
    { lock := result.1
      pc := Function.update s.pc label.1 result.2 }

/-- A writer is alone: no second writer and no reader. -/
structure MutualExclusion (s : State Thread) : Prop where
  oneWriter :
    ∀ first second,
      s.pc first = .writing → s.pc second = .writing → first = second
  noReader :
    ∀ writer reader,
      s.pc writer = .writing → s.pc reader ≠ .reading

/--
The condition on a step: no exchange succeeds on an expected value that an
earlier failure left in `val`, and the 32-bit reader counter does not wrap.
-/
structure Sound
    (s : State Thread)
    (label : Thread × Action) : Prop where
  fresh :
    ∀ val,
      s.pc label.1 = .wlockExchange val →
      label.2 = .advance →
      s.lock.write = val →
      val = 0
  noWrap :
    s.pc label.1 = .rlockAdd → s.lock.read ≠ 0xffffffff

/-- Whether a thread is counted in `read`. -/
def Pc.counted : Pc → Nat
  | .rlockCheck | .rlockBack | .reading => 1
  | _ => 0

/-- Whether a thread has set `write`. -/
def Pc.owns : Pc → Nat
  | .wlockLoad | .writing => 1
  | _ => 0

/-- A step is one operation of one thread. -/
theorem next?_eq_some
    [DecidableEq Thread]
    {s next : State Thread}
    {label : Thread × Action}
    (taken : next? s label = some next) :
    ∃ lock pc,
      operation s.lock (s.pc label.1) label.2 = some (lock, pc) ∧
        next = ⟨lock, Function.update s.pc label.1 pc⟩ := by
  obtain ⟨⟨lock, pc⟩, performed, moved⟩ := Option.map_eq_some_iff.mp taken
  exact ⟨lock, pc, performed, moved.symm⟩

variable [Fintype Thread]

/-- What guarded steps preserve. -/
structure Invariant (s : State Thread) : Prop where
  read : s.lock.read.toNat = total Pc.counted s.pc
  write : s.lock.write = total Pc.owns s.pc
  oneOwner : total Pc.owns s.pc ≤ 1
  noReader :
    ∀ writer reader,
      s.pc writer = .writing → s.pc reader ≠ .reading

theorem invariant_initial :
    Invariant (initial : State Thread) where
  read := by
    have none : total Pc.counted (fun _ : Thread => Pc.idle) = 0 := by
      rw [total_eq_zero_iff]
      intro _
      rfl
    simp [initial, rwlockInit, none]
  write := by
    have none : total Pc.owns (fun _ : Thread => Pc.idle) = 0 := by
      rw [total_eq_zero_iff]
      intro _
      rfl
    simp [initial, rwlockInit, none]
  oneOwner := by
    have none : total Pc.owns (fun _ : Thread => Pc.idle) = 0 := by
      rw [total_eq_zero_iff]
      intro _
      rfl
    simp [initial, none]
  noReader := by
    intro writer reader impossible
    simp [initial] at impossible

/-- While `write` is 0, nobody is between lock and unlock of the writer. -/
theorem Invariant.none_writing
    {s : State Thread}
    (invariant : Invariant s)
    (free : s.lock.write = 0)
    (thread : Thread) :
    s.pc thread ≠ .writing := by
  intro isWriting
  have contributes := weight_le_total Pc.owns s.pc thread
  have isWrite := invariant.write
  simp only [isWriting, Pc.owns] at contributes
  omega

/-- While `read` is 0, nobody is between lock and unlock of a reader. -/
theorem Invariant.none_reading
    {s : State Thread}
    (invariant : Invariant s)
    (free : s.lock.read = 0)
    (thread : Thread) :
    s.pc thread ≠ .reading := by
  intro isReading
  have contributes := weight_le_total Pc.counted s.pc thread
  have isRead := invariant.read
  simp only [isReading, Pc.counted] at contributes
  simp only [free, UInt32.toNat_zero] at isRead
  omega

/-- A counted thread keeps `read` positive, so taking 1 does not wrap. -/
theorem Invariant.read_sub
    {s : State Thread}
    (invariant : Invariant s)
    {thread : Thread}
    (counted : (s.pc thread).counted = 1) :
    (s.lock.read - 1).toNat + 1 = s.lock.read.toNat := by
  have contributes := weight_le_total Pc.counted s.pc thread
  have isRead := invariant.read
  rw [counted] at contributes
  have positive : (1 : UInt32) ≤ s.lock.read := by
    rw [UInt32.le_iff_toNat_le]
    simp only [UInt32.toNat_one]
    omega
  rw [UInt32.toNat_sub_of_le _ _ positive]
  simp only [UInt32.toNat_one]
  omega

/-- Adding 1 below the maximum does not wrap. -/
theorem read_add
    {read : UInt32}
    (noWrap : read ≠ 0xffffffff) :
    (read + 1).toNat = read.toNat + 1 := by
  have bound := read.toNat_lt
  have notLast : read.toNat ≠ 0xffffffff := by
    intro isLast
    exact noWrap (UInt32.toNat_inj.mp isLast)
  simp only [UInt32.toNat_add, UInt32.toNat_one]
  omega

variable [DecidableEq Thread]

/--
Moving one thread keeps the invariant when the two words follow what the
thread contributes, and a section is entered only past the other side.
-/
theorem Invariant.move
    {s : State Thread}
    (invariant : Invariant s)
    (thread : Thread)
    {lock : Lock}
    {pc : Pc}
    (read :
      lock.read.toNat + (s.pc thread).counted =
        s.lock.read.toNat + pc.counted)
    (write :
      lock.write + (s.pc thread).owns = s.lock.write + pc.owns)
    (alone :
      (s.pc thread).owns < pc.owns → s.lock.write = 0)
    (enterWrite : pc = .writing → ∀ reader, s.pc reader ≠ .reading)
    (enterRead : pc = .reading → ∀ writer, s.pc writer ≠ .writing) :
    Invariant ⟨lock, Function.update s.pc thread pc⟩ := by
  have counted := total_update Pc.counted s.pc thread pc
  have owns := total_update Pc.owns s.pc thread pc
  have isRead := invariant.read
  have isWrite := invariant.write
  have oneOwner := invariant.oneOwner
  have single : pc.owns ≤ 1 := by
    cases pc <;> simp [Pc.owns]
  refine ⟨?_, ?_, ?_, ?_⟩
  · show lock.read.toNat = total Pc.counted (Function.update s.pc thread pc)
    omega
  · show lock.write = total Pc.owns (Function.update s.pc thread pc)
    omega
  · show total Pc.owns (Function.update s.pc thread pc) ≤ 1
    by_cases grows : (s.pc thread).owns < pc.owns
    · have free := alone grows
      omega
    · omega
  · intro writer reader isWriter isReader
    simp only [Function.update_apply] at isWriter isReader
    by_cases writerMoved : writer = thread
    · by_cases readerMoved : reader = thread
      · simp only [writerMoved, readerMoved, ↓reduceIte] at isWriter isReader
        rw [isWriter] at isReader
        cases isReader
      · simp only [writerMoved, readerMoved, ↓reduceIte] at isWriter isReader
        exact enterWrite isWriter reader isReader
    · by_cases readerMoved : reader = thread
      · simp only [writerMoved, readerMoved, ↓reduceIte] at isWriter isReader
        exact enterRead isReader writer isWriter
      · simp only [writerMoved, readerMoved, ↓reduceIte] at isWriter isReader
        exact invariant.noReader writer reader isWriter isReader

/-- Steps that meet the condition keep the invariant. -/
theorem Invariant.step
    {s next : State Thread}
    {label : Thread × Action}
    (invariant : Invariant s)
    (sound : Sound s label)
    (taken : next? s label = some next) :
    Invariant next := by
  obtain ⟨thread, action⟩ := label
  obtain ⟨lock, pc, performed, rfl⟩ := next?_eq_some taken
  simp only at performed
  cases place : s.pc thread with
  | idle =>
      cases action <;> simp only [place, operation, reduceCtorEq,
        Option.some.injEq, Prod.mk.injEq] at performed
      all_goals
        obtain ⟨rfl, rfl⟩ := performed
        apply invariant.move <;> simp [place, Pc.counted, Pc.owns]
  | rlockLoad =>
      cases action <;> simp only [place, operation, reduceCtorEq,
        Option.some.injEq, Prod.mk.injEq] at performed
      obtain ⟨rfl, rfl⟩ := performed
      by_cases free : s.lock.write = 0
      · apply invariant.move <;> simp [place, free, Pc.counted, Pc.owns]
      · apply invariant.move <;> simp [place, free, Pc.counted, Pc.owns]
  | rlockAdd =>
      cases action <;> simp only [place, operation, reduceCtorEq,
        Option.some.injEq, Prod.mk.injEq] at performed
      obtain ⟨rfl, rfl⟩ := performed
      have added := read_add (sound.noWrap place)
      apply invariant.move <;> simp [place, added, Pc.counted, Pc.owns]
  | rlockCheck =>
      cases action <;> simp only [place, operation, reduceCtorEq,
        Option.some.injEq, Prod.mk.injEq] at performed
      obtain ⟨rfl, rfl⟩ := performed
      by_cases free : s.lock.write = 0
      · -- Nobody owns `write`, so the reader enters past every writer.
        have noWriter := invariant.none_writing free
        apply invariant.move <;>
          simp [place, free, noWriter, Pc.counted, Pc.owns]
      · apply invariant.move <;> simp [place, free, Pc.counted, Pc.owns]
  | rlockBack =>
      cases action <;> simp only [place, operation, reduceCtorEq,
        Option.some.injEq, Prod.mk.injEq] at performed
      obtain ⟨rfl, rfl⟩ := performed
      have counted : (s.pc thread).counted = 1 := by
        rw [place]
        rfl
      have taken := invariant.read_sub counted
      apply invariant.move <;> simp [place, taken, Pc.counted, Pc.owns]
  | reading =>
      cases action <;> simp only [place, operation, reduceCtorEq,
        Option.some.injEq, Prod.mk.injEq] at performed
      obtain ⟨rfl, rfl⟩ := performed
      have counted : (s.pc thread).counted = 1 := by
        rw [place]
        rfl
      have taken := invariant.read_sub counted
      apply invariant.move <;> simp [place, taken, Pc.counted, Pc.owns]
  | wlockExchange val =>
      cases action <;> simp only [place, operation, reduceCtorEq] at performed
      · by_cases observed : s.lock.write = val
        · -- The exchange succeeds, on an expected 0: nobody owned `write`.
          have free : val = 0 := sound.fresh val place rfl observed
          rw [if_pos observed] at performed
          simp only [Option.some.injEq, Prod.mk.injEq] at performed
          obtain ⟨rfl, rfl⟩ := performed
          apply invariant.move <;>
            simp [place, observed, free, Pc.counted, Pc.owns]
        · rw [if_neg observed] at performed
          simp only [Option.some.injEq, Prod.mk.injEq] at performed
          obtain ⟨rfl, rfl⟩ := performed
          apply invariant.move <;> simp [place, Pc.counted, Pc.owns]
      · simp only [Option.some.injEq, Prod.mk.injEq] at performed
        obtain ⟨rfl, rfl⟩ := performed
        apply invariant.move <;> simp [place, Pc.counted, Pc.owns]
  | wlockLoad =>
      cases action <;> simp only [place, operation, reduceCtorEq,
        Option.some.injEq, Prod.mk.injEq] at performed
      obtain ⟨rfl, rfl⟩ := performed
      by_cases free : s.lock.read = 0
      · -- No thread is counted, so the writer enters past every reader.
        have noReader := invariant.none_reading free
        apply invariant.move <;>
          simp [place, free, noReader, Pc.counted, Pc.owns]
      · apply invariant.move <;> simp [place, free, Pc.counted, Pc.owns]
  | writing =>
      cases action <;> simp only [place, operation, reduceCtorEq,
        Option.some.injEq, Prod.mk.injEq] at performed
      obtain ⟨rfl, rfl⟩ := performed
      have contributes := weight_le_total Pc.owns s.pc thread
      have isWrite := invariant.write
      have oneOwner := invariant.oneOwner
      simp only [place, Pc.owns] at contributes
      have isSet : s.lock.write = 1 := by omega
      apply invariant.move <;> simp [place, isSet, Pc.counted, Pc.owns]

/-- Two owners of `write` would be counted twice. -/
theorem Invariant.mutualExclusion
    {s : State Thread}
    (invariant : Invariant s) :
    MutualExclusion s where
  oneWriter := by
    intro first second isFirst isSecond
    by_contra different
    have moved := total_update Pc.owns s.pc first .idle
    have remains :=
      weight_le_total Pc.owns (Function.update s.pc first .idle) second
    have oneOwner := invariant.oneOwner
    rw [Function.update_of_ne (Ne.symm different), isSecond] at remains
    simp only [isFirst, Pc.owns] at moved remains
    omega
  noReader := invariant.noReader

/--
Mutual exclusion holds in every state of every run, for any number of threads,
whose exchanges succeed only on a fresh expected value and whose reader
counter does not wrap.
-/
theorem rwlock_mutualExclusion
    {past : List (State Thread × (Thread × Action))}
    {final : State Thread}
    (run : Run (Run.Steps next?) initial past final)
    (sound : ∀ {s label}, (s, label) ∈ past → Sound s label) :
    ∀ s ∈ Run.visited past final, MutualExclusion s := by
  intro s visited
  have invariant :=
    Run.invariant_visited run invariant_initial
      (fun holds isSound taken => Invariant.step holds isSound taken)
      sound s visited
  exact invariant.mutualExclusion

instance
    (s : State Thread)
    (label : Thread × Action) : Decidable (Sound s label) :=
  decidable_of_iff
    ((∀ val ∈ (match s.pc label.1 with
        | .wlockExchange val => [val]
        | _ => []),
        label.2 = .advance → s.lock.write = val → val = 0) ∧
      (s.pc label.1 = .rlockAdd → s.lock.read ≠ 0xffffffff)) <| by
    constructor
    · rintro ⟨fresh, noWrap⟩
      refine ⟨fun val isVal => fresh val ?_, noWrap⟩
      simp [isVal]
    · rintro ⟨fresh, noWrap⟩
      refine ⟨fun val member => fresh val ?_, noWrap⟩
      split at member <;> simp_all

/--
A writer enters and leaves, two readers enter together, and the writer comes
back and waits until the last of them has left.
-/
theorem rwlock_mutualExclusion_handover :
    ∃ past, ∃ final : State (Fin 3),
      Run (Run.Steps next?) initial past final ∧
        (∃ s ∈ Run.visited past final, s.pc 0 = .writing) ∧
        (∃ s ∈ Run.visited past final,
          s.pc 1 = .reading ∧ s.pc 2 = .reading) ∧
        final.pc 0 = .writing ∧
        ∀ s ∈ Run.visited past final, MutualExclusion s := by
  obtain ⟨past, final, run, facts⟩ :=
    Run.exists_of_recorded (initial : State (Fin 3)) next?
      [(0, .wlock), (0, .advance), (0, .advance), (1, .rlock), (1, .advance),
        (0, .advance), (1, .advance), (1, .advance), (2, .rlock),
        (1, .advance), (2, .advance), (2, .advance), (2, .advance),
        (0, .wlock), (0, .advance), (0, .advance), (1, .advance),
        (0, .advance), (2, .advance), (0, .advance)]
      (fun past final =>
        past.all (fun step => decide (Sound step.1 step.2)) &&
          (past.any (fun step => step.1.pc 0 = .writing) &&
            (past.any
                (fun step => step.1.pc 1 = .reading && step.1.pc 2 = .reading)
              && decide (final.pc 0 = .writing))))
      (by decide)
  simp only [Bool.and_eq_true, List.all_eq_true, List.any_eq_true,
    decide_eq_true_eq] at facts
  obtain ⟨sound, ⟨writing, wrote, isWriting⟩, ⟨reading, read, areReading⟩,
    entered⟩ := facts
  refine
    ⟨past, final, run, ⟨writing.1, ?_, isWriting⟩,
      ⟨reading.1, ?_, areReading⟩, entered,
      rwlock_mutualExclusion run (fun member => sound _ member)⟩
  · exact Run.mem_visited.mpr (.inr ⟨writing.2, wrote⟩)
  · exact Run.mem_visited.mpr (.inr ⟨reading.2, read⟩)

/--
Two writers in the section: the first attempt of the second writer fails and
leaves 1 in `val`, and its second attempt succeeds on that.
-/
theorem not_mutualExclusion_two_writers :
    ¬ ∀ past final,
        Run (Run.Steps next?) (initial : State (Fin 2)) past final →
          MutualExclusion final := by
  intro holds
  obtain ⟨past, final, run, both⟩ :=
    Run.exists_of_replay (initial : State (Fin 2)) next?
      [(0, .wlock), (0, .advance), (0, .advance),
        (1, .wlock), (1, .advance), (1, .advance), (1, .advance)]
      (fun s => s.pc 0 = .writing && s.pc 1 = .writing)
      (by decide)
  simp only [Bool.and_eq_true, decide_eq_true_eq] at both
  have same := (holds past final run).oneWriter 0 1 both.1 both.2
  cases same

end SkynetCpp.RwLock
