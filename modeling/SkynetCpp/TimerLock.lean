import SkynetCpp.Timer

namespace SkynetCpp

/-!
# The lock of the timer

The timer with its spinlock, which is not reentrant: a thread that acquires it
while it holds it spins forever.  `Update` holds the lock while `TimerShift`
moves a list, and `AddNode` acquires it for every node of the list.
-/

/-- The timer with its spinlock. -/
structure LockedTimer where
  timer : Timer
  lock : Bool

namespace LockedTimer

/-- `spinlock_lock` of the only thread; nothing is left to open a lock it holds. -/
def spinlockLock (s : LockedTimer) : Option LockedTimer :=
  if s.lock then none else some { s with lock := true }

/-- `spinlock_unlock`. -/
def spinlockUnlock (s : LockedTimer) : LockedTimer :=
  { s with lock := false }

/-- `Timer::AddNode`. -/
def addNode
    (s : LockedTimer)
    (node : TimerNode) : Option LockedTimer := do
  let s ← s.spinlockLock
  some { s with timer := s.timer.addNode node }.spinlockUnlock

/-- `Timer::MoveList`. -/
def moveList
    (s : LockedTimer)
    (level idx : Nat) : Option LockedTimer :=
  (s.timer.lists (.level level idx)).foldlM addNode
    { s with timer := s.timer.linkClear (.level level idx) }

/-- The list that `TimerShift` moves when the clock becomes `ct`. -/
def shiftTarget (ct : UInt32) : Option (Nat × Nat) :=
  if ct = 0 then some (3, 0)
  else Timer.shiftLoop ct 4 0 TIME_NEAR (ct >>> TIME_NEAR_SHIFT)

/-- `Timer::TimerShift`. -/
def timerShift (s : LockedTimer) : Option LockedTimer :=
  let ct := s.timer.time + 1
  let ticked := { s with timer := { s.timer with time := ct } }
  match shiftTarget ct with
  | some (level, idx) => ticked.moveList level idx
  | none => some ticked

/-- Unlocking and locking again leaves the timer alone. -/
theorem timer_relock
    {s relocked : LockedTimer}
    (locked : s.spinlockUnlock.spinlockLock = some relocked) :
    relocked.timer = s.timer := by
  cases locked
  rfl

/--
`Timer::Execute`: the nodes handed to `DispatchList`, which runs without the
lock, and the timer afterwards.
-/
def execute (s : LockedTimer) : Option (List TimerNode × LockedTimer) :=
  match _listed : s.timer.lists s.timer.currentSlot with
  | [] => some ([], s)
  | node :: rest =>
      let cleared :=
        { s with timer := s.timer.linkClear s.timer.currentSlot }
      match _relocked : cleared.spinlockUnlock.spinlockLock with
      | none => none
      | some relocked =>
          (execute relocked).map fun later =>
            (node :: rest ++ later.1, later.2)
  termination_by (s.timer.lists s.timer.currentSlot).length
  decreasing_by
    rw [timer_relock _relocked, Timer.linkClear_currentSlot, _listed]
    exact Nat.succ_pos _

/-- `Timer::Update`: the nodes handed to `DispatchList`, and the timer. -/
def update (s : LockedTimer) : Option (List TimerNode × LockedTimer) := do
  let s ← s.spinlockLock
  let (early, s) ← s.execute
  let s ← s.timerShift
  let (due, s) ← s.execute
  some (early ++ due, s.spinlockUnlock)

/-- `AddNode` takes a free lock and gives it back. -/
theorem addNode_of_free
    (timer : Timer)
    (node : TimerNode) :
    addNode { timer := timer, lock := false } node =
      some { timer := timer.addNode node, lock := false } :=
  rfl

/-- `AddNode` spins when its thread holds the lock. -/
theorem addNode_of_held
    (timer : Timer)
    (node : TimerNode) :
    addNode { timer := timer, lock := true } node = none :=
  rfl

/-- Under the lock, `MoveList` returns only from an empty list. -/
theorem moveList_of_held
    (timer : Timer)
    (level idx : Nat) :
    moveList { timer := timer, lock := true } level idx =
      if timer.lists (.level level idx) = [] then
        some { timer := timer.moveList level idx, lock := true }
      else
        none := by
  unfold moveList Timer.moveList
  dsimp only
  cases timer.lists (.level level idx) with
  | nil =>
      rfl
  | cons node rest =>
      rw [if_neg (by simp), List.foldlM_cons, addNode_of_held]
      rfl

/-- Under the lock, `Execute` does what it does without one. -/
theorem execute_of_held
    (timer : Timer) :
    execute { timer := timer, lock := true } =
      some (timer.execute.1, { timer := timer.execute.2, lock := true }) := by
  have idle (timer : Timer) (isEmpty : timer.lists timer.currentSlot = []) :
      execute { timer := timer, lock := true } =
        some ([], { timer := timer, lock := true }) := by
    unfold execute
    split
    · rfl
    · next listed =>
        rw [isEmpty] at listed
        cases listed
  have cleared := idle _ timer.linkClear_currentSlot
  cases listed : timer.lists timer.currentSlot with
  | nil =>
      rw [idle timer listed, Timer.execute_of_nil listed]
  | cons node rest =>
      rw [Timer.execute_eq]
      unfold execute
      split
      · next isEmpty =>
          rw [listed] at isEmpty
          cases isEmpty
      · next first others isList =>
          dsimp only
          split
          · next locked =>
              cases locked
          · next relocked locked =>
              cases locked
              have isCons : timer.lists timer.currentSlot = first :: others :=
                isList
              simp only [spinlockUnlock, cleared, Option.map_some,
                List.append_nil, isCons]

/-- The nodes that the next `TimerShift` moves. -/
def movedList (timer : Timer) : List TimerNode :=
  match shiftTarget (timer.time + 1) with
  | some (level, idx) => timer.lists (.level level idx)
  | none => []

/-- `Execute` leaves the lists of the levels and the clock alone. -/
theorem movedList_execute
    (timer : Timer) :
    movedList timer.execute.2 = movedList timer := by
  rw [Timer.execute_eq]
  unfold movedList
  dsimp only [Timer.linkClear]
  cases shiftTarget (timer.time + 1) with
  | none =>
      rfl
  | some target =>
      simp [Timer.currentSlot]

/-- `TimerShift` moves the list of its target. -/
theorem timerShift_target
    (timer : Timer) :
    timer.timerShift =
      match shiftTarget (timer.time + 1) with
      | some (level, idx) =>
          ({ timer with time := timer.time + 1 } : Timer).moveList level idx
      | none => { timer with time := timer.time + 1 } := by
  unfold Timer.timerShift shiftTarget
  by_cases wraps : timer.time + 1 = 0
  · simp only [wraps, ↓reduceIte]
  · cases shifted :
        Timer.shiftLoop (timer.time + 1) 4 0 TIME_NEAR
          ((timer.time + 1) >>> TIME_NEAR_SHIFT) with
    | none =>
        simp only [wraps, ↓reduceIte, shifted]
    | some target =>
        simp only [wraps, ↓reduceIte, shifted]

/-- Under the lock, `TimerShift` returns only when it has no node to move. -/
theorem timerShift_of_held
    (timer : Timer) :
    timerShift { timer := timer, lock := true } =
      if movedList timer = [] then
        some { timer := timer.timerShift, lock := true }
      else
        none := by
  unfold timerShift movedList
  rw [timerShift_target]
  dsimp only
  cases shiftTarget (timer.time + 1) with
  | none =>
      rfl
  | some target =>
      exact moveList_of_held _ target.1 target.2

/-- `Update` from a free lock returns only when it has no node to move. -/
theorem update_of_free
    (timer : Timer) :
    update { timer := timer, lock := false } =
      if movedList timer = [] then
        some (timer.update.1, { timer := timer.update.2, lock := false })
      else
        none := by
  have locks :
      spinlockLock { timer := timer, lock := false } =
        some { timer := timer, lock := true } :=
    rfl
  unfold update
  rw [locks]
  simp only [Option.bind_eq_bind, Option.bind_some, execute_of_held,
    timerShift_of_held, movedList_execute]
  by_cases nothing : movedList timer = []
  · rw [if_pos nothing, if_pos nothing, Option.bind_some, execute_of_held]
    rfl
  · rw [if_neg nothing, if_neg nothing]
    rfl

/--
`AddNode` and `Update` never acquire the lock while they hold it, and return
with the lock free, exactly when the next `TimerShift` has no node to move.
-/
theorem returnsUnlocked_iff
    (timer : Timer) :
    (∀ node, ∃ s,
        addNode { timer := timer, lock := false } node = some s ∧
          s.lock = false) ∧
        (∃ handed s,
          update { timer := timer, lock := false } = some (handed, s) ∧
            s.lock = false) ↔
      movedList timer = [] := by
  rw [update_of_free]
  constructor
  · rintro ⟨_, handed, s, returned, _⟩
    by_cases nothing : movedList timer = []
    · exact nothing
    · rw [if_neg nothing] at returned
      cases returned
  · intro nothing
    refine ⟨fun node => ⟨_, addNode_of_free timer node, rfl⟩, ?_⟩
    rw [if_pos nothing]
    exact ⟨_, _, rfl, rfl⟩

/-- A timeout of one tick, requested when the clock stands at 255. -/
def soon : TimerNode where
  address := 1
  expire := 256
  handle := 1
  session := 1

/-- The `Update` that should dispatch it spins on its own lock. -/
theorem soon_spins :
    ¬ ∃ handed s,
      update { timer := (Timer.empty 255).addNode soon, lock := false } =
          some (handed, s) ∧
        s.lock = false := by
  rintro ⟨handed, s, returned, _⟩
  rw [update_of_free, if_neg (by decide)] at returned
  cases returned

end LockedTimer

end SkynetCpp
