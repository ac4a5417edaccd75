import SkynetCpp.TimerRace
import SkynetCpp.TimerStall

namespace SkynetCpp

open Foundation

/-!
# The timer thread

`Updatetime` reads the clock and calls `Update` once for every centisecond that
has passed since its last reading.  The steps below are a reading, one turn of
its loop, and a `Timeout` of another thread between two turns; the timer is the
one with its lock, so that a turn may spin.
-/

/-- The timer with the fields that `Updatetime` keeps. -/
structure TimerClock where
  locked : LockedTimer
  starttime : UInt32
  current : UInt64
  currentPoint : UInt64

namespace TimerClock

/-- `TimerInit`, with the seconds of the real-time clock and `GetTime`. -/
def timerInit
    (seconds : UInt32)
    (point : UInt64) : TimerClock where
  locked := { timer := Timer.empty 0, lock := false }
  starttime := seconds
  current := 0
  currentPoint := point

/--
`Updatetime` up to its loop, with the reading of `GetTime`: the clock, and the
turns that the loop makes.  When the clock was set back, `SkynetError` drops
the report of handle -1.
-/
def updatetime
    (clock : TimerClock)
    (cp : UInt64) : TimerClock × Nat :=
  if cp < clock.currentPoint then
    ({ clock with currentPoint := cp }, 0)
  else if cp ≠ clock.currentPoint then
    let diff := (cp - clock.currentPoint).toUInt32
    ({ clock with
        currentPoint := cp
        current := clock.current + diff.toUInt64 },
      diff.toNat)
  else
    (clock, 0)

end TimerClock

/-- The tick of a timeout's expiry. -/
def LinkedTimeout.due (request : LinkedTimeout) : Nat :=
  request.tick + request.time

/-- The timer thread, with the timeouts requested of it. -/
structure TimerThread where
  clock : TimerClock
  /-- The turns that are left of the loop in `Updatetime`. -/
  turns : Nat
  /-- The address of the next node. -/
  nextNode : Nat
  /-- How often `Update` has returned. -/
  ticks : Nat
  requested : List LinkedTimeout
  /-- The nodes handed to `DispatchList`. -/
  handed : List TimerNode

namespace TimerThread

/-- The steps of the threads. -/
inductive Action where
  /-- `Updatetime` reads the clock. -/
  | updatetime (cp : UInt64)
  /-- A turn of its loop. -/
  | update
  /-- `Timeout` with a positive time. -/
  | timeout (handle : UInt32) (time : Nat) (session : Int)
  deriving Repr, DecidableEq

/--
The node that `Timeout` links.  It is a local variable of the call; here its
value stays as it is until it is dispatched.
-/
def timeoutNode
    (s : TimerThread)
    (handle : UInt32)
    (time : Nat)
    (session : Int) : TimerNode where
  address := s.nextNode
  expire := UInt32.ofNat time + s.clock.locked.timer.time
  handle := handle
  session := session

/-- One step; a thread that spins takes none, and an `int` is below `2 ^ 31`. -/
def next? (s : TimerThread) : Action → Option TimerThread
  | .updatetime cp =>
      if s.turns = 0 then
        let (clock, turns) := s.clock.updatetime cp
        some { s with clock := clock, turns := turns }
      else
        none
  | .update =>
      if s.turns = 0 then
        none
      else
        s.clock.locked.update.map fun (handed, locked) =>
          { s with
            clock := { s.clock with locked := locked }
            turns := s.turns - 1
            ticks := s.ticks + 1
            handed := s.handed ++ handed }
  | .timeout handle time session =>
      if 0 < time ∧ time < 2 ^ 31 then
        let node := s.timeoutNode handle time session
        (s.clock.locked.addNode node).map fun locked =>
          { s with
            clock := { s.clock with locked := locked }
            nextNode := s.nextNode + 1
            requested :=
              s.requested ++ [{ node := node, time := time, tick := s.ticks }] }
      else
        none

/-- The timer thread after `TimerInit`. -/
def start
    (seconds : UInt32)
    (point : UInt64) : TimerThread where
  clock := TimerClock.timerInit seconds point
  turns := 0
  nextNode := 0
  ticks := 0
  requested := []
  handed := []

/-- The nodes of the timeouts that are due by a tick, in the order of the ticks. -/
def dueBy
    (requested : List LinkedTimeout)
    (ticks : Nat) : List TimerNode :=
  (List.range (ticks + 1)).flatMap fun tick =>
    (requested.filter (·.due = tick)).map LinkedTimeout.node

/-- The agenda of the timeouts that are due later. -/
def agenda (s : TimerThread) : Agenda TimerNode where
  now := s.ticks
  pending :=
    (s.requested.filter (s.ticks < ·.due)).map fun request =>
      (request.due, request.node)

section Requests

variable
    {requested : List LinkedTimeout}
    {ticks : Nat}

/-- Nothing is due before the first tick. -/
@[simp] theorem dueBy_nil
    (ticks : Nat) :
    dueBy [] ticks = [] := by
  simp [dueBy]

/-- A tick adds the timeouts that are due at it. -/
theorem dueBy_succ
    (requested : List LinkedTimeout)
    (ticks : Nat) :
    dueBy requested (ticks + 1) =
      dueBy requested ticks ++
        (requested.filter (·.due = ticks + 1)).map LinkedTimeout.node := by
  simp [dueBy, List.range_succ (n := ticks + 1)]

/-- A timeout that is due later is not among those due so far. -/
theorem dueBy_append
    {request : LinkedTimeout}
    (later : ticks < request.due) :
    dueBy (requested ++ [request]) ticks = dueBy requested ticks := by
  unfold dueBy
  refine List.flatMap_congr fun tick member => ?_
  have early : tick < ticks + 1 := List.mem_range.mp member
  have notNow : request.due ≠ tick := by omega
  simp [List.filter_append, notNow]

end Requests

/--
The wheel holds the timeouts that are due later and the others were handed
over; no list of a timeout has changed since it was linked.
-/
structure Keeps (s : TimerThread) : Prop where
  unlocked : s.clock.locked.lock = false
  tracks : Timer.Tracks s.clock.locked.timer s.agenda
  handed : s.handed = dueBy s.requested s.ticks
  timed :
    ∀ request ∈ s.requested,
      request.node.expire = UInt32.ofNat request.due ∧
        request.tick < request.due ∧ request.due < request.tick + 2 ^ 31
  unmoved :
    ∀ request ∈ s.requested,
      s.ticks < request.due →
        Timer.addSlot request.node.expire s.clock.locked.timer.time =
          Timer.addSlot request.node.expire (UInt32.ofNat request.tick)
  inBlock :
    ∀ request ∈ s.requested,
      request.due ≤ s.ticks → request.tick / 2 ^ 8 = request.due / 2 ^ 8

variable {s next : TimerThread}

/-- The clock of the wheel is the number of ticks. -/
theorem Keeps.time_eq
    (keeps : s.Keeps) :
    s.clock.locked.timer.time = UInt32.ofNat s.ticks := by
  rw [← UInt32.toNat_inj, keeps.tracks.clock, UInt32.toNat_ofNat']
  rfl

theorem keeps_start
    (seconds : UInt32)
    (point : UInt64) :
    (start seconds point).Keeps where
  unlocked := rfl
  tracks := Timer.tracks_empty 0
  handed := (dueBy_nil 0).symm
  timed := by simp [start]
  unmoved := by simp [start]
  inBlock := by simp [start]

/-- `TimerShift` has a node to move exactly when a block of a pending expiry begins. -/
theorem Keeps.movedList_ne_nil_iff
    (keeps : s.Keeps) :
    LockedTimer.movedList s.clock.locked.timer ≠ [] ↔
      ∃ request ∈ s.requested,
        s.ticks < request.due ∧
          Timer.BeginsBlock (s.ticks + 1) request.due := by
  rw [keeps.tracks.movedList_ne_nil_iff]
  constructor
  · rintro ⟨entry, member, begins⟩
    obtain ⟨request, pending, rfl⟩ := List.mem_map.mp member
    obtain ⟨requested, later⟩ := List.mem_filter.mp pending
    exact ⟨request, requested, by simpa using later, begins⟩
  · rintro ⟨request, requested, later, begins⟩
    have pending : request ∈ s.requested.filter (s.ticks < ·.due) :=
      List.mem_filter.mpr ⟨requested, by simpa using later⟩
    exact ⟨(request.due, request.node), List.mem_map_of_mem pending, begins⟩

/-- A turn spins, or hands over the batch of the agenda. -/
theorem Keeps.update_eq
    (keeps : s.Keeps) :
    s.clock.locked.update =
      if LockedTimer.movedList s.clock.locked.timer = [] then
        some
          (s.agenda.batch,
            { timer := s.clock.locked.timer.update.2, lock := false })
      else
        none := by
  have isFree :
      s.clock.locked = { timer := s.clock.locked.timer, lock := false } := by
    rw [← keeps.unlocked]
  rw [isFree, LockedTimer.update_of_free, keeps.tracks.update.1]

/-- The state after a turn that returns. -/
def updated (s : TimerThread) : TimerThread :=
  { s with
    clock :=
      { s.clock with
        locked := { timer := s.clock.locked.timer.update.2, lock := false } }
    turns := s.turns - 1
    ticks := s.ticks + 1
    handed := s.handed ++ s.agenda.batch }

/-- A turn ticks the agenda. -/
theorem agenda_updated
    (s : TimerThread) :
    s.updated.agenda = s.agenda.tick := by
  simp only [agenda, updated, Agenda.tick, List.filter_map,
    List.filter_filter, Agenda.mk.injEq, true_and]
  congr 1
  apply List.filter_congr
  intro request _
  have same :
      s.ticks + 1 < request.due ↔
        request.due ≠ s.ticks + 1 ∧ s.ticks < request.due := by
    omega
  exact (decide_eq_decide.mpr same).trans (Bool.decide_and _ _)

/-- A timeout that is due later is pending. -/
theorem mem_agenda
    {request : LinkedTimeout}
    (requested : request ∈ s.requested)
    (later : s.ticks < request.due) :
    (request.due, request.node) ∈ s.agenda.pending :=
  List.mem_map.mpr
    ⟨request, List.mem_filter.mpr ⟨requested, by simpa using later⟩, rfl⟩

/-- The batch of a turn holds the timeouts that are due at its tick. -/
theorem batch_agenda
    (s : TimerThread) :
    s.agenda.batch =
      (s.requested.filter (·.due = s.ticks + 1)).map LinkedTimeout.node := by
  simp only [Agenda.batch, agenda, List.filter_map, List.filter_filter,
    List.map_map]
  congr 1
  apply List.filter_congr
  intro request _
  have same :
      request.due = s.ticks + 1 ∧ s.ticks < request.due ↔
        request.due = s.ticks + 1 := by
    omega
  exact (Bool.decide_and _ _).symm.trans (decide_eq_decide.mpr same)

/-- A turn that returns finds every pending node where it was linked. -/
theorem Keeps.addSlot_succ
    (keeps : s.Keeps)
    (idle : LockedTimer.movedList s.clock.locked.timer = [])
    {request : LinkedTimeout}
    (requested : request ∈ s.requested)
    (later : s.ticks < request.due) :
    Timer.addSlot request.node.expire (s.clock.locked.timer.time + 1) =
      Timer.addSlot request.node.expire (UInt32.ofNat request.tick) :=
  (keeps.tracks.addSlot_succ idle (mem_agenda requested later)).trans
    (keeps.unmoved request requested later)

/-- A near list holds a node from its request on only in the block of its expiry. -/
theorem Keeps.inBlock_succ
    (keeps : s.Keeps)
    (idle : LockedTimer.movedList s.clock.locked.timer = [])
    {request : LinkedTimeout}
    (requested : request ∈ s.requested)
    (due : request.due = s.ticks + 1) :
    request.tick / 2 ^ 8 = request.due / 2 ^ 8 := by
  obtain ⟨isExpire, later, soon⟩ := keeps.timed request requested
  have linked := keeps.addSlot_succ idle requested (by omega)
  have isNow :
      request.node.expire = s.clock.locked.timer.time + 1 := by
    rw [isExpire, due, keeps.time_eq, UInt32.ofNat_add]
    rfl
  rw [← isNow, Timer.addSlot_eq, Timer.addSlot_eq,
    Timer.slotOf_eq_current_iff.mpr rfl, isExpire] at linked
  have near := (Timer.rank_slotOf_le_iff 0 (by omega)).mp
    (Nat.le_of_eq (congrArg Timer.rank linked.symm))
  simp only [Nat.mul_zero, Nat.add_zero, UInt32.toNat_ofNat'] at near
  omega

/-- A turn that returns keeps the timeouts. -/
theorem Keeps.updated
    (keeps : s.Keeps)
    (idle : LockedTimer.movedList s.clock.locked.timer = []) :
    s.updated.Keeps where
  unlocked := rfl
  tracks := by
    rw [agenda_updated]
    exact keeps.tracks.update.2
  handed := by
    simp only [TimerThread.updated, dueBy_succ, keeps.handed, batch_agenda]
  timed := keeps.timed
  unmoved := by
    intro request requested later
    have earlier : s.ticks < request.due := Nat.lt_of_succ_lt later
    simp only [TimerThread.updated, Timer.time_update]
    exact keeps.addSlot_succ idle requested earlier
  inBlock := by
    intro request requested due
    rcases Nat.lt_or_eq_of_le due with earlier | isNow
    · exact keeps.inBlock request requested (Nat.le_of_lt_succ earlier)
    · exact keeps.inBlock_succ idle requested isNow

/-- The state after a `Timeout` has linked its node. -/
def linked
    (s : TimerThread)
    (handle : UInt32)
    (time : Nat)
    (session : Int) : TimerThread :=
  let node := s.timeoutNode handle time session
  { s with
    clock :=
      { s.clock with
        locked :=
          { timer := s.clock.locked.timer.addNode node, lock := false } }
    nextNode := s.nextNode + 1
    requested :=
      s.requested ++ [{ node := node, time := time, tick := s.ticks }] }

/-- A `Timeout` schedules its node. -/
theorem agenda_linked
    (s : TimerThread)
    (handle : UInt32)
    {time : Nat}
    (positive : 0 < time)
    (session : Int) :
    (s.linked handle time session).agenda =
      s.agenda.schedule time (s.timeoutNode handle time session) := by
  have later : s.ticks < s.ticks + time := Nat.lt_add_of_pos_right positive
  simp only [agenda, linked, Agenda.schedule, List.filter_append,
    List.map_append, Agenda.mk.injEq, true_and]
  rw [List.filter_cons_of_pos (by simpa [LinkedTimeout.due] using later)]
  rfl

/-- A `Timeout` keeps the timeouts. -/
theorem Keeps.linked
    (keeps : s.Keeps)
    (handle : UInt32)
    {time : Nat}
    (positive : 0 < time)
    (short : time < 2 ^ 31)
    (session : Int) :
    (s.linked handle time session).Keeps where
  unlocked := rfl
  tracks := by
    rw [agenda_linked s handle positive]
    exact keeps.tracks.addNode positive short (UInt32.add_comm _ _)
  handed := by
    have later :
        s.ticks <
          ({ node := s.timeoutNode handle time session, time := time,
             tick := s.ticks } : LinkedTimeout).due :=
      Nat.lt_add_of_pos_right positive
    rw [TimerThread.linked, dueBy_append later]
    exact keeps.handed
  timed := by
    intro request member
    rcases List.mem_append.mp member with old | isNew
    · exact keeps.timed request old
    · rw [List.mem_singleton.mp isNew]
      refine ⟨?_, Nat.lt_add_of_pos_right positive,
        Nat.add_lt_add_left short s.ticks⟩
      simp only [timeoutNode, LinkedTimeout.due, keeps.time_eq]
      rw [UInt32.ofNat_add, UInt32.add_comm]
  unmoved := by
    intro request member later
    rcases List.mem_append.mp member with old | isNew
    · exact keeps.unmoved request old later
    · rw [List.mem_singleton.mp isNew]
      simp only [TimerThread.linked, Timer.time_addNode, keeps.time_eq]
  inBlock := by
    intro request member due
    rcases List.mem_append.mp member with old | isNew
    · exact keeps.inBlock request old due
    · rw [List.mem_singleton.mp isNew] at due
      have later : s.ticks + time ≤ s.ticks := due
      omega

/-- What a step does when it returns. -/
theorem Keeps.next_cases
    (keeps : s.Keeps)
    {action : Action}
    (taken : Run.Steps next? s action next) :
    (∃ cp,
        action = .updatetime cp ∧ s.turns = 0 ∧
          next =
            { s with
              clock := (s.clock.updatetime cp).1
              turns := (s.clock.updatetime cp).2 }) ∨
      (action = .update ∧ s.turns ≠ 0 ∧
        LockedTimer.movedList s.clock.locked.timer = [] ∧
          next = s.updated) ∨
      ∃ handle time session,
        action = .timeout handle time session ∧
          (0 < time ∧ time < 2 ^ 31) ∧
            next = s.linked handle time session := by
  unfold Run.Steps next? at taken
  cases action with
  | updatetime cp =>
      simp only [Option.ite_none_right_eq_some, Option.some.injEq] at taken
      exact Or.inl ⟨cp, rfl, taken.1, taken.2.symm⟩
  | update =>
      simp only [Option.ite_none_left_eq_some, keeps.update_eq,
        Option.map_eq_some_iff, Option.ite_none_right_eq_some,
        Option.some.injEq, Prod.exists, Prod.mk.injEq] at taken
      obtain ⟨running, handed, locked, ⟨idle, rfl, rfl⟩, isNext⟩ := taken
      exact Or.inr (Or.inl ⟨rfl, running, idle, isNext.symm⟩)
  | timeout handle time session =>
      simp only [Option.ite_none_right_eq_some, Option.map_eq_some_iff] at taken
      obtain ⟨valid, locked, returned, isNext⟩ := taken
      have isFree :
          s.clock.locked =
            { timer := s.clock.locked.timer, lock := false } := by
        rw [← keeps.unlocked]
      rw [isFree, LockedTimer.addNode_of_free] at returned
      cases returned
      exact Or.inr (Or.inr ⟨handle, time, session, rfl, valid, isNext.symm⟩)

/-- A reading of the clock leaves the wheel alone. -/
@[simp] theorem locked_updatetime
    (clock : TimerClock)
    (cp : UInt64) :
    (clock.updatetime cp).1.locked = clock.locked := by
  unfold TimerClock.updatetime
  split
  · rfl
  · split <;> rfl

/-- Every step keeps the timeouts. -/
theorem Keeps.step
    (keeps : s.Keeps)
    {action : Action}
    (taken : Run.Steps next? s action next) :
    next.Keeps := by
  rcases keeps.next_cases taken with
    ⟨cp, _, _, rfl⟩ | ⟨_, _, idle, rfl⟩ |
      ⟨handle, time, session, _, valid, rfl⟩
  · constructor
    · simpa using keeps.unlocked
    · simpa [agenda] using keeps.tracks
    · exact keeps.handed
    · exact keeps.timed
    · simpa using keeps.unmoved
    · exact keeps.inBlock
  · exact keeps.updated idle
  · exact keeps.linked handle valid.1 valid.2 session

section Readings

/-- The readings of the clock, the last one first. -/
def readings : List (TimerThread × Action) → List UInt64
  | [] => []
  | (_, .updatetime cp) :: past => cp :: readings past
  | (_, .update) :: past => readings past
  | (_, .timeout ..) :: past => readings past

/--
The centiseconds that the clock went forward from reading to reading, counted
from a first one; of a jump the low 32 bits count.
-/
def elapsed (point : UInt64) : List UInt64 → Nat
  | [] => 0
  | cp :: earlier =>
      (cp.toNat - (earlier.head?.getD point).toNat) % 2 ^ 32 +
        elapsed point earlier

/-- The turns of a reading are the centiseconds since the one before. -/
theorem updatetime_turns
    (clock : TimerClock)
    (cp : UInt64) :
    (clock.updatetime cp).2 =
      (cp.toNat - clock.currentPoint.toNat) % 2 ^ 32 := by
  unfold TimerClock.updatetime
  split
  · next back =>
      have less : cp.toNat < clock.currentPoint.toNat :=
        UInt64.lt_iff_toNat_lt.mp back
      simp [Nat.sub_eq_zero_of_le (Nat.le_of_lt less)]
  · next notBack =>
      have notLess : clock.currentPoint ≤ cp := UInt64.not_lt.mp notBack
      split
      · show (cp - clock.currentPoint).toUInt32.toNat = _
        rw [UInt64.toNat_toUInt32, UInt64.toNat_sub_of_le _ _ notLess]
      · next same =>
          simp only [ne_eq, Decidable.not_not] at same
          simp [same]

/-- A reading adds its turns to the time since the start. -/
theorem updatetime_current
    (clock : TimerClock)
    (cp : UInt64) :
    (clock.updatetime cp).1.current =
      clock.current + UInt64.ofNat (clock.updatetime cp).2 := by
  unfold TimerClock.updatetime
  split
  · simp
  · split
    · simp
    · simp

@[simp] theorem updatetime_starttime
    (clock : TimerClock)
    (cp : UInt64) :
    (clock.updatetime cp).1.starttime = clock.starttime := by
  unfold TimerClock.updatetime
  split
  · rfl
  · split <;> rfl

/-- The clock keeps its last reading. -/
theorem updatetime_currentPoint
    (clock : TimerClock)
    (cp : UInt64) :
    (clock.updatetime cp).1.currentPoint = cp := by
  unfold TimerClock.updatetime
  split
  · rfl
  · split
    · rfl
    · next same =>
        simp only [ne_eq, Decidable.not_not] at same
        exact same.symm

end Readings

variable
    {seconds : UInt32}
    {point : UInt64}
    {past : List (TimerThread × Action)}
    {final : TimerThread}

/-- The timeouts are kept along every run. -/
theorem keeps_visited
    (run : Run (Run.Steps next?) (start seconds point) past final) :
    final.Keeps := by
  refine Run.invariant_of_step run (keeps_start seconds point) ?_ final (by simp)
  intro state action next keeps taken
  exact keeps.step taken

section Example

/-- A timeout of one tick, requested at the start. -/
def requesting : TimerThread :=
  (start 7 100).linked 1 1 5

/-- The clock went forward by two centiseconds. -/
def reading : TimerThread :=
  { requesting with
    clock := (requesting.clock.updatetime 102).1
    turns := 2 }

theorem run_reading :
    Run (Run.Steps next?) (start 7 100)
      [(requesting, .updatetime 102), (start 7 100, .timeout 1 1 5)]
      reading :=
  (Run.nil.snoc rfl).snoc rfl

/-- The first turn returns. -/
theorem run_updated_reading :
    Run (Run.Steps next?) (start 7 100)
      [(reading, .update), (requesting, .updatetime 102),
        (start 7 100, .timeout 1 1 5)]
      reading.updated := by
  have idle : LockedTimer.movedList reading.clock.locked.timer = [] := by
    decide
  refine run_reading.snoc ?_
  unfold Run.Steps next?
  rw [if_neg (by decide), (keeps_visited run_reading).update_eq, if_pos idle]
  rfl

/-- Before tick 256 no block begins, and the turns that are left return. -/
theorem exists_turns
    {s : TimerThread}
    (run : Run (Run.Steps next?) (start seconds point) past s)
    (count : Nat)
    (enough : count ≤ s.turns)
    (early : s.ticks + count < 2 ^ 8) :
    ∃ past final,
      Run (Run.Steps next?) (start seconds point) past final ∧
        final.ticks = s.ticks + count ∧
          final.turns = s.turns - count ∧
            final.requested = s.requested := by
  induction count with
  | zero =>
      exact ⟨past, s, run, rfl, rfl, rfl⟩
  | succ count inductionHypothesis =>
      obtain ⟨past, final, run, ticks, turns, requested⟩ :=
        inductionHypothesis (Nat.le_of_succ_le enough) (by omega)
      have keeps := keeps_visited run
      have idle : LockedTimer.movedList final.clock.locked.timer = [] := by
        by_contra moves
        obtain ⟨request, _, _, begins⟩ := keeps.movedList_ne_nil_iff.mp moves
        rw [Timer.beginsBlock_iff] at begins
        omega
      have taken : Run.Steps next? final .update final.updated := by
        unfold Run.Steps next?
        rw [if_neg (by omega), keeps.update_eq, if_pos idle]
        rfl
      refine ⟨_, _, run.snoc taken, ?_, ?_, requested⟩
      · simp only [updated, ticks, Nat.add_assoc]
      · simp only [updated, turns, Nat.sub_sub]

/-- Timeouts of 1, 3, 2 and 300 ticks, and the clock goes forward by three seconds. -/
def waiting : TimerThread :=
  let requesting :=
    ((((start 7 100).linked 1 1 5).linked 1 3 6).linked 2 2 7).linked 2 300 8
  { requesting with
    clock := (requesting.clock.updatetime 400).1
    turns := 300 }

theorem exists_run_waiting :
    ∃ past, Run (Run.Steps next?) (start 7 100) past waiting :=
  Run.extend_of_replay .nil
    (show
      Run.replay next? (start 7 100)
        [.timeout 1 1 5, .timeout 1 3 6, .timeout 2 2 7, .timeout 2 300 8,
          .updatetime 400] = some waiting
      from rfl)

end Example

/--
Between any two steps, `Update` has been called once for every centisecond that
the clock went forward, less the turns that the running `Updatetime` still owes,
and `Now` is the sum of those centiseconds.  What a clock that is set back loses
is counted neither then nor later.
-/
theorem updatetime_counts_centiseconds
    (run : Run (Run.Steps next?) (start seconds point) past final) :
    final.ticks + final.turns = elapsed point (readings past) ∧
      final.clock.current = UInt64.ofNat (elapsed point (readings past)) ∧
        final.clock.locked.timer.time = UInt32.ofNat final.ticks ∧
          final.clock.starttime = seconds := by
  have timed := (keeps_visited run).time_eq
  suffices counted :
      final.ticks + final.turns = elapsed point (readings past) ∧
        final.clock.current = UInt64.ofNat (elapsed point (readings past)) ∧
          final.clock.starttime = seconds ∧
            final.clock.currentPoint = (readings past).head?.getD point from
    ⟨counted.1, counted.2.1, timed, counted.2.2.1⟩
  clear timed
  induction run with
  | nil =>
      exact ⟨rfl, rfl, rfl, rfl⟩
  | @snoc past last next action earlier taken inductionHypothesis =>
      obtain ⟨ticks, current, starttime, currentPoint⟩ := inductionHypothesis
      rcases (keeps_visited earlier).next_cases taken with
        ⟨cp, rfl, idle, rfl⟩ | ⟨rfl, running, _, rfl⟩ |
          ⟨handle, time, session, rfl, _, rfl⟩
      · have turns := updatetime_turns last.clock cp
        rw [currentPoint] at turns
        refine ⟨?_, ?_, ?_, ?_⟩
        · simp only [readings, elapsed, turns]
          omega
        · simp only [readings, elapsed, updatetime_current, turns, current]
          rw [← UInt64.ofNat_add, Nat.add_comm]
        · simpa using starttime
        · simp [readings, updatetime_currentPoint]
      · refine ⟨?_, current, starttime, currentPoint⟩
        simp only [updated, readings]
        omega
      · exact ⟨ticks, current, starttime, currentPoint⟩

/-- One of two centiseconds is counted, and `Now` is ahead of the wheel. -/
theorem updatetime_counts_centiseconds_reading :
    reading.updated.ticks + reading.updated.turns = 2 ∧
      reading.updated.clock.current = 2 :=
  have counted := updatetime_counts_centiseconds run_updated_reading
  ⟨counted.1, counted.2.1⟩

/--
However the readings, turns and requests follow one another, what has been
handed over are the timeouts due so far, tick by tick and in the order of the
requests; and each of them was requested in the block of 256 ticks in which it
expires.
-/
theorem updatetime_hands_over_due
    (run : Run (Run.Steps next?) (start seconds point) past final) :
    final.handed = dueBy final.requested final.ticks ∧
      ∀ request ∈ final.requested,
        request.due ≤ final.ticks →
          request.tick / 2 ^ 8 = request.due / 2 ^ 8 :=
  have keeps := keeps_visited run
  ⟨keeps.handed, keeps.inBlock⟩

/-- Three turns hand over three of the four timeouts, by their ticks. -/
theorem updatetime_hands_over_due_waiting :
    ∃ past final,
      Run (Run.Steps next?) (start 7 100) past final ∧
        final.requested.map (·.node.session) = [5, 6, 7, 8] ∧
          final.handed.map TimerNode.session = [5, 7, 6] := by
  obtain ⟨past, run⟩ := exists_run_waiting
  obtain ⟨past, final, run, ticks, _, requested⟩ :=
    exists_turns run 3 (by decide) (by decide)
  refine ⟨past, final, run, by rw [requested]; rfl, ?_⟩
  rw [(updatetime_hands_over_due run).1, requested, ticks]
  decide

/--
A turn that is left spins on the lock of its own thread exactly when its tick
begins a block of 2^8, 2^14, 2^20 or 2^26 ticks in which a pending timeout
expires.
-/
theorem update_spins_iff
    (run : Run (Run.Steps next?) (start seconds point) past final)
    (running : final.turns ≠ 0) :
    final.next? .update = none ↔
      ∃ request ∈ final.requested,
        final.ticks < request.due ∧
          Timer.BeginsBlock (final.ticks + 1) request.due := by
  have keeps := keeps_visited run
  rw [← keeps.movedList_ne_nil_iff, next?, if_neg running,
    Option.map_eq_none_iff, keeps.update_eq]
  by_cases idle : LockedTimer.movedList final.clock.locked.timer = []
  · simp [idle]
  · simp [idle]

/-- Turn 255 returns, and turn 256 spins: the timeout of 300 ticks is to move. -/
theorem update_spins_iff_waiting :
    (∃ past final,
        Run (Run.Steps next?) (start 7 100) past final ∧
          final.ticks = 254 ∧ final.next? .update ≠ none) ∧
      ∃ past final,
        Run (Run.Steps next?) (start 7 100) past final ∧
          final.ticks = 255 ∧ final.next? .update = none := by
  obtain ⟨past, run⟩ := exists_run_waiting
  refine ⟨?_, ?_⟩
  · obtain ⟨past, final, run, ticks, turns, _⟩ :=
      exists_turns run 254 (by decide) (by decide)
    have running : final.turns ≠ 0 := by
      rw [turns]
      decide
    refine ⟨past, final, run, ticks, ?_⟩
    rw [ne_eq, update_spins_iff run running]
    rintro ⟨request, _, _, begins⟩
    have now : final.ticks + 1 = 255 := by
      rw [ticks]
      rfl
    rw [now, Timer.beginsBlock_iff] at begins
    omega
  · obtain ⟨past, final, run, ticks, turns, requested⟩ :=
      exists_turns run 255 (by decide) (by decide)
    have running : final.turns ≠ 0 := by
      rw [turns]
      decide
    refine ⟨past, final, run, ticks, (update_spins_iff run running).mpr ?_⟩
    rw [ticks, requested]
    have last :
        waiting.requested.getLast? =
          some
            { node := { address := 3, expire := 300, handle := 2, session := 8 }
              time := 300
              tick := 0 } :=
      rfl
    exact
      ⟨_, List.mem_of_getLast? last, by decide, 8, List.mem_cons_self,
        by decide⟩

end TimerThread

end SkynetCpp
