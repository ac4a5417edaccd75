import SkynetCpp.Start

namespace SkynetCpp.Start

open Foundation

/-!
# Waiting workers and the end of the socket server

The predicate of `cond_var.wait` is `thread_unlock`, which nobody sets.  A
worker that begins to wait waits for good, whoever notifies it, and a
`notify_all` strands exactly the workers that wait when it happens.

`SocketExit` destroys the socket server and sends no request, so that the
socket thread never leaves its loop because of one.
-/

namespace WorkerAt

/-- The worker holds the mutex. -/
def holds : WorkerAt → Bool
  | .asleep | .test | .predicate | .awake | .unlock => true
  | _ => false

end WorkerAt

namespace TimerAt

/-- The timer thread holds the mutex. -/
def holds : TimerAt → Bool
  | .quit | .notifyAll | .unlock => true
  | _ => false

/-- The timer thread has set `quit`. -/
def hasQuit : TimerAt → Bool
  | .notifyAll | .unlock | .returned => true
  | _ => false

end TimerAt

variable {thread : Nat}

namespace State

/-- A worker is in `cond_var.wait`. -/
def InWait
    (s : State thread)
    (id : Fin thread) : Prop :=
  s.worker id = .predicate ∨ s.worker id = .waiting

/-- Some continuation takes a worker out of `cond_var.wait`. -/
def Leaves
    (s : State thread)
    (id : Fin thread) : Prop :=
  ∃ past final, Run (Run.Steps next?) s past final ∧ ¬ final.InWait id

/-- Some continuation makes the predicate of `cond_var.wait` true. -/
def CanUnlock (s : State thread) : Prop :=
  ∃ past final,
    Run (Run.Steps next?) s past final ∧ final.thread_unlock = true

/-- `quit` is 1, and the last `notify_all` has run. -/
def ShutDown (s : State thread) : Prop :=
  s.quit = 1 ∧ (s.timer = .unlock ∨ s.timer = .returned)

/--
No worker was notified since it began to wait and is stuck in its wait, and
after the last `notify_all` no worker waits for a predicate that stays false.
-/
structure NoneStranded (s : State thread) : Prop where
  noticed : ∀ id, s.InWait id → s.noticed id = true → s.Leaves id
  shutDown : s.ShutDown → ∀ id, s.InWait id → s.CanUnlock

/-- The next step of a thread is a `notify_all`. -/
def notifies (s : State thread) : ThreadName thread → Bool
  | .timer => s.timer = .notify || s.timer = .notifyAll
  | .socket => s.socket = .notify
  | .worker _ => false

/-- The step is not a `notify_all` while a worker waits. -/
def Undisturbed
    (s : State thread) : Move thread → Prop
  | .step name _ =>
      s.notifies name = true → ∀ id, s.worker id ≠ .waiting
  | .services _ => True

instance (s : State thread) : DecidablePred s.Undisturbed
  | .step name _ =>
      inferInstanceAs
        (Decidable (s.notifies name = true → ∀ id, s.worker id ≠ .waiting))
  | .services _ => inferInstanceAs (Decidable True)

/--
Who holds the mutex is where its holder stands.  Nobody sets
`thread_unlock`, and nobody that waits was notified.
-/
structure Quiet (s : State thread) : Prop where
  locked : s.thread_unlock = false
  workerHolds :
    ∀ id, (s.worker id).holds = true → s.mutex = some (.worker id)
  timerHolds : s.timer.holds = true → s.mutex = some .timer
  hasQuit : s.timer.hasQuit = true → s.quit = 1
  unnoticed : ∀ id, s.InWait id → s.noticed id = false
  left : s.ShutDown → ∀ id, ¬ s.InWait id

end State

open State

variable
    {s next : State thread}
    {id : Fin thread}
    {answer : Answer}
    {move : Move thread}

@[simp] theorem workerTo_worker
    (s : State thread)
    (id other : Fin thread)
    (place : WorkerAt) :
    (s.workerTo id place).worker other =
      if other = id then place else s.worker other := by
  simp [workerTo, Function.update_apply]

section Forever

/-- The timer thread moves no worker and sets no `thread_unlock`. -/
theorem threadTimer_frame
    (taken : threadTimer s = some next) :
    next.worker = s.worker ∧ next.thread_unlock = s.thread_unlock := by
  unfold threadTimer at taken
  split at taken <;>
    grind [State.lock, unlock, callSocket, notifyAll, socketExit]

/-- The socket thread moves no worker and sets no `thread_unlock`. -/
theorem threadSocket_frame
    (taken : threadSocket s answer = some next) :
    next.worker = s.worker ∧ next.thread_unlock = s.thread_unlock := by
  unfold threadSocket at taken
  split at taken <;> grind [callSocket, notifyAll]

/-- A worker moves only itself and sets no `thread_unlock`. -/
theorem threadWorker_frame
    (taken : threadWorker s id answer = some next) :
    (∃ place, next.worker = Function.update s.worker id place) ∧
      next.thread_unlock = s.thread_unlock := by
  unfold threadWorker at taken
  split at taken <;> grind [State.lock, unlock, callSocket, workerTo]

/-- While the predicate is false, a worker does not leave its wait. -/
theorem threadWorker_inWait
    (locked : s.thread_unlock = false)
    (waits : s.InWait id)
    (taken : threadWorker s id answer = some next) :
    next.InWait id := by
  unfold threadWorker at taken
  rcases waits with evaluates | sleeps
  · simp only [evaluates, locked, Bool.false_eq_true, ↓reduceIte,
      Option.some.injEq] at taken
    subst taken
    exact Or.inr (by simp)
  · simp only [sleeps, Option.ite_none_right_eq_some,
      Option.map_eq_some_iff] at taken
    obtain ⟨_, taken, _, rfl⟩ := taken
    exact Or.inl (by simp)

/-- Nobody sets `thread_unlock`. -/
theorem thread_unlock_next
    (taken : Run.Steps next? s move next) :
    next.thread_unlock = s.thread_unlock := by
  unfold Run.Steps next? at taken
  cases move with
  | services contextTotal =>
      cases taken
      rfl
  | step name answer =>
      cases name with
      | timer =>
          exact (threadTimer_frame taken).2
      | socket =>
          exact (threadSocket_frame taken).2
      | worker other =>
          exact (threadWorker_frame taken).2

/-- While the predicate is false, a worker that waits keeps waiting. -/
theorem inWait_next
    (locked : s.thread_unlock = false)
    (waits : s.InWait id)
    (taken : Run.Steps next? s move next) :
    next.InWait id := by
  unfold Run.Steps next? at taken
  cases move with
  | services contextTotal =>
      cases taken
      exact waits
  | step name answer =>
      cases name with
      | timer =>
          simpa [InWait, (threadTimer_frame taken).1] using waits
      | socket =>
          simpa [InWait, (threadSocket_frame taken).1] using waits
      | worker other =>
          by_cases same : id = other
          · subst same
            exact threadWorker_inWait locked waits taken
          · obtain ⟨⟨place, moved⟩, _⟩ := threadWorker_frame taken
            simpa [InWait, moved, same] using waits

/-- A worker that waits never leaves its wait. -/
theorem not_leaves
    (locked : s.thread_unlock = false)
    (waits : s.InWait id) :
    ¬ s.Leaves id := by
  rintro ⟨past, final, run, left⟩
  have preserved {s next : State thread} {move : Move thread}
      (holds : s.thread_unlock = false ∧ s.InWait id)
      (taken : Run.Steps next? s move next) :
      next.thread_unlock = false ∧ next.InWait id :=
    ⟨(thread_unlock_next taken).trans holds.1,
      inWait_next holds.1 holds.2 taken⟩
  have waitsOn :
      ∀ s ∈ Run.visited past final, s.thread_unlock = false ∧ s.InWait id :=
    Run.invariant_of_step run ⟨locked, waits⟩ preserved
  exact left (waitsOn final (by simp)).2

end Forever

section Quiet

/-- The timer thread and the workers stand where nobody waits. -/
theorem quiet_initial
    (thread contextTotal : Nat) :
    (initial thread contextTotal).Quiet where
  locked := rfl
  workerHolds id := by simp [initial, WorkerAt.holds]
  timerHolds := by simp [initial, TimerAt.holds]
  hasQuit := by simp [initial, TimerAt.hasQuit]
  unnoticed _ _ := rfl
  left _ id := by simp [InWait, initial]

/-- What `Quiet` says of does not change. -/
theorem State.Quiet.congr
    (quiet : s.Quiet)
    (sameWorkers : next.worker = s.worker)
    (sameTimer : next.timer = s.timer)
    (sameMutex : next.mutex = s.mutex)
    (sameLock : next.thread_unlock = s.thread_unlock)
    (sameQuit : next.quit = s.quit)
    (unnoticed : ∀ id, s.InWait id → next.noticed id = s.noticed id) :
    next.Quiet where
  locked := sameLock.trans quiet.locked
  workerHolds id := by
    rw [sameWorkers, sameMutex]
    exact quiet.workerHolds id
  timerHolds := by
    rw [sameTimer, sameMutex]
    exact quiet.timerHolds
  hasQuit := by
    rw [sameTimer, sameQuit]
    exact quiet.hasQuit
  unnoticed id waits := by
    rw [InWait, sameWorkers] at waits
    exact (unnoticed id waits).trans (quiet.unnoticed id waits)
  left ended id waits := by
    rw [ShutDown, sameTimer, sameQuit] at ended
    rw [InWait, sameWorkers] at waits
    exact quiet.left ended id waits

/-- A worker moves, and takes or gives back the mutex. -/
theorem State.Quiet.workerTo
    (quiet : s.Quiet)
    {place : WorkerAt}
    (sameWorkers : next.worker = s.worker)
    (sameTimer : next.timer = s.timer)
    (sameLock : next.thread_unlock = s.thread_unlock)
    (sameQuit : next.quit = s.quit)
    (sameNoticed : ∀ other, other ≠ id → next.noticed other = s.noticed other)
    (otherHolds :
      ∀ name, name ≠ .worker id → s.mutex = some name → next.mutex = some name)
    (holds : place.holds = true → next.mutex = some (.worker id))
    (waits :
      place = .predicate ∨ place = .waiting →
        next.noticed id = false ∧ ¬ s.ShutDown) :
    (next.workerTo id place).Quiet where
  locked := sameLock.trans quiet.locked
  workerHolds other := by
    rw [workerTo_worker]
    split
    · next same =>
        subst same
        exact holds
    · next different =>
        intro otherPlace
        rw [sameWorkers] at otherPlace
        exact
          otherHolds _ (by simpa using different)
            (quiet.workerHolds other otherPlace)
  timerHolds timerPlace := by
    have timerPlace : s.timer.holds = true := sameTimer ▸ timerPlace
    exact otherHolds _ (by simp) (quiet.timerHolds timerPlace)
  hasQuit timerPlace := by
    have timerPlace : s.timer.hasQuit = true := sameTimer ▸ timerPlace
    exact sameQuit.trans (quiet.hasQuit timerPlace)
  unnoticed other otherWaits := by
    rw [InWait, workerTo_worker] at otherWaits
    by_cases same : other = id
    · subst same
      simp only [↓reduceIte] at otherWaits
      exact (waits otherWaits).1
    · simp only [same, ↓reduceIte, sameWorkers] at otherWaits
      exact (sameNoticed other same).trans (quiet.unnoticed other otherWaits)
  left ended other otherWaits := by
    have endedBefore : s.ShutDown := by
      rw [ShutDown, ← sameTimer, ← sameQuit]
      exact ended
    rw [InWait, workerTo_worker] at otherWaits
    by_cases same : other = id
    · subst same
      simp only [↓reduceIte] at otherWaits
      exact (waits otherWaits).2 endedBefore
    · simp only [same, ↓reduceIte, sameWorkers] at otherWaits
      exact quiet.left endedBefore other otherWaits

/-- A step of a worker. -/
theorem State.Quiet.threadWorker
    (quiet : s.Quiet)
    (taken : threadWorker s id answer = some next) :
    next.Quiet := by
  have owned (place : WorkerAt)
      (isPlace : s.worker id = place)
      (holds : place.holds = true) :
      s.mutex = some (.worker id) :=
    quiet.workerHolds id (by rwa [isPlace])
  have locks {t : State thread}
      (locked : s.lock (.worker id) = some t) :
      s.mutex = none ∧ t = { s with mutex := some (.worker id) } := by
    simpa [State.lock, eq_comm] using locked
  have keeps (name : ThreadName thread)
      (_ : name ≠ .worker id)
      (same : s.mutex = some name) :
      s.mutex = some name :=
    same
  unfold Start.threadWorker at taken
  cases isPlace : s.worker id with
  | loop message_queue =>
      simp only [isPlace, Option.some.injEq] at taken
      subst taken
      apply quiet.workerTo rfl rfl rfl rfl (fun _ _ => rfl) keeps <;>
        split <;> simp [WorkerAt.holds]
  | dispatch message_queue =>
      simp only [isPlace, Option.some.injEq] at taken
      subst taken
      have called :
          (if answer.callsSocket = true then s.callSocket else s).Quiet := by
        split
        · exact quiet.congr rfl rfl rfl rfl rfl (fun _ _ => rfl)
        · exact quiet
      apply called.workerTo rfl rfl rfl rfl (fun _ _ => rfl)
        (fun _ _ same => same) <;>
        split <;> simp [WorkerAt.holds]
  | lock =>
      simp only [isPlace, Option.map_eq_some_iff] at taken
      obtain ⟨t, locked, rfl⟩ := taken
      obtain ⟨free, rfl⟩ := locks locked
      exact
        quiet.workerTo rfl rfl rfl rfl (fun _ _ => rfl)
          (fun _ _ same => by simp [free] at same) (fun _ => rfl) (by simp)
  | asleep =>
      simp only [isPlace, Option.some.injEq] at taken
      subst taken
      exact
        quiet.workerTo rfl rfl rfl rfl (fun _ _ => rfl) keeps
          (fun _ => owned _ isPlace rfl) (by simp)
  | test =>
      have held := owned _ isPlace rfl
      simp only [isPlace] at taken
      split at taken
      · next runs =>
          cases taken
          refine
            quiet.workerTo rfl rfl rfl rfl
              (fun other different => by simp [different]) keeps
              (fun _ => held) (fun _ => ⟨by simp, fun ended => ?_⟩)
          rw [ShutDown, runs] at ended
          exact absurd ended.1 (by decide)
      · cases taken
        exact
          quiet.workerTo rfl rfl rfl rfl (fun _ _ => rfl) keeps
            (fun _ => held) (by simp)
  | predicate =>
      have held := owned _ isPlace rfl
      have waits : s.InWait id := Or.inl isPlace
      simp only [isPlace] at taken
      rw [if_neg (by simp [quiet.locked])] at taken
      cases taken
      refine
        quiet.workerTo rfl rfl rfl rfl (fun _ _ => rfl)
          (fun name different same => ?_) (by simp [WorkerAt.holds])
          (fun _ =>
            ⟨quiet.unnoticed id waits, fun ended => quiet.left ended id waits⟩)
      rw [held, Option.some.injEq] at same
      exact absurd same.symm different
  | waiting =>
      have waits : s.InWait id := Or.inr isPlace
      simp only [isPlace, Option.ite_none_right_eq_some,
        Option.map_eq_some_iff] at taken
      obtain ⟨_, t, locked, rfl⟩ := taken
      obtain ⟨free, rfl⟩ := locks locked
      exact
        quiet.workerTo rfl rfl rfl rfl (fun _ _ => rfl)
          (fun _ _ same => by simp [free] at same) (fun _ => rfl)
          (fun _ =>
            ⟨quiet.unnoticed id waits, fun ended => quiet.left ended id waits⟩)
  | awake =>
      simp only [isPlace, Option.some.injEq] at taken
      subst taken
      exact
        quiet.workerTo rfl rfl rfl rfl (fun _ _ => rfl) keeps
          (fun _ => owned _ isPlace rfl) (by simp)
  | unlock =>
      have held := owned _ isPlace rfl
      simp only [isPlace, Option.some.injEq] at taken
      subst taken
      refine
        quiet.workerTo rfl rfl rfl rfl (fun _ _ => rfl)
          (fun name different same => ?_) (by simp [WorkerAt.holds]) (by simp)
      rw [held, Option.some.injEq] at same
      exact absurd same.symm different
  | returned =>
      simp [isPlace] at taken

/-- The timer thread moves, and takes or gives back the mutex. -/
theorem State.Quiet.timerTo
    (quiet : s.Quiet)
    (sameWorkers : next.worker = s.worker)
    (sameLock : next.thread_unlock = s.thread_unlock)
    (otherHolds :
      ∀ name, name ≠ .timer → s.mutex = some name → next.mutex = some name)
    (holds : next.timer.holds = true → next.mutex = some .timer)
    (hasQuit : next.timer.hasQuit = true → next.quit = 1)
    (unnoticed : ∀ id, s.InWait id → next.noticed id = false)
    (left : next.ShutDown → ∀ id, ¬ s.InWait id) :
    next.Quiet where
  locked := sameLock.trans quiet.locked
  workerHolds id place := by
    rw [sameWorkers] at place
    exact otherHolds _ (by simp) (quiet.workerHolds id place)
  timerHolds := holds
  hasQuit := hasQuit
  unnoticed id waits := by
    rw [InWait, sameWorkers] at waits
    exact unnoticed id waits
  left ended id waits := by
    rw [InWait, sameWorkers] at waits
    exact left ended id waits

/-- The timer thread moves before it locks the mutex. -/
theorem State.Quiet.timerEarly
    (quiet : s.Quiet)
    (sameWorkers : next.worker = s.worker)
    (sameLock : next.thread_unlock = s.thread_unlock)
    (sameMutex : next.mutex = s.mutex)
    (holdsNot : next.timer.holds = false)
    (running : next.timer.hasQuit = false)
    (unnoticed : ∀ id, s.InWait id → next.noticed id = false) :
    next.Quiet := by
  apply quiet.timerTo sameWorkers sameLock _ (by simp [holdsNot])
    (by simp [running]) unnoticed
  · rintro ⟨_, unlocks | returned⟩
    · simp [unlocks, TimerAt.hasQuit] at running
    · simp [returned, TimerAt.hasQuit] at running
  · intro name _ same
    exact sameMutex.trans same

/-- Nobody that waits hears of a `notify_all` that disturbs nobody. -/
theorem State.Quiet.unnoticed_notifyAll
    (quiet : s.Quiet)
    (nobody : ∀ id, s.worker id ≠ .waiting)
    (waits : s.InWait id) :
    s.notifyAll.noticed id = false := by
  simp [notifyAll, quiet.unnoticed id waits, nobody id]

/-- A step of the timer thread that disturbs nobody. -/
theorem State.Quiet.threadTimer
    (quiet : s.Quiet)
    (undisturbed : s.Undisturbed (.step .timer answer))
    (taken : threadTimer s = some next) :
    next.Quiet := by
  unfold Start.threadTimer at taken
  cases isPlace : s.timer with
  | update =>
      simp only [isPlace, Option.some.injEq] at taken
      subst taken
      exact quiet.timerEarly rfl rfl rfl rfl rfl quiet.unnoticed
  | total =>
      simp only [isPlace, Option.some.injEq] at taken
      subst taken
      refine quiet.timerEarly rfl rfl rfl ?_ ?_ quiet.unnoticed
      · dsimp only
        split <;> rfl
      · dsimp only
        split <;> rfl
  | wakeUp =>
      simp only [isPlace, Option.some.injEq] at taken
      subst taken
      refine quiet.timerEarly rfl rfl rfl ?_ ?_ quiet.unnoticed
      · dsimp only
        split <;> rfl
      · dsimp only
        split <;> rfl
  | notify =>
      have nobody := undisturbed (by simp [notifies, isPlace])
      simp only [isPlace, Option.some.injEq] at taken
      subst taken
      exact
        quiet.timerEarly rfl rfl rfl rfl rfl
          (fun _ waits => quiet.unnoticed_notifyAll nobody waits)
  | exit =>
      simp only [isPlace, Option.some.injEq] at taken
      subst taken
      exact quiet.timerEarly rfl rfl rfl rfl rfl quiet.unnoticed
  | lock =>
      simp only [isPlace, State.lock, Option.map_eq_some_iff,
        Option.ite_none_right_eq_some, Option.some.injEq] at taken
      obtain ⟨t, ⟨free, rfl⟩, rfl⟩ := taken
      exact
        quiet.timerTo rfl rfl (fun _ _ same => by simp [free] at same)
          (fun _ => rfl) (by simp [TimerAt.hasQuit]) quiet.unnoticed
          (by simp [ShutDown])
  | quit =>
      have held := quiet.timerHolds (by rw [isPlace]; rfl)
      simp only [isPlace, Option.some.injEq] at taken
      subst taken
      exact
        quiet.timerTo rfl rfl (fun _ _ same => same) (fun _ => held)
          (fun _ => rfl) quiet.unnoticed (by simp [ShutDown])
  | notifyAll =>
      have held := quiet.timerHolds (by rw [isPlace]; rfl)
      have hasQuit := quiet.hasQuit (by rw [isPlace]; rfl)
      have nobody := undisturbed (by simp [notifies, isPlace])
      simp only [isPlace, Option.some.injEq] at taken
      subst taken
      refine
        quiet.timerTo rfl rfl (fun _ _ same => same) (fun _ => held)
          (fun _ => hasQuit)
          (fun _ waits => quiet.unnoticed_notifyAll nobody waits)
          (fun _ id waits => ?_)
      -- The timer thread holds the mutex, so that nobody evaluates.
      rcases waits with evaluates | sleeps
      · have workerHeld := quiet.workerHolds id (by rw [evaluates]; rfl)
        simp [held] at workerHeld
      · exact nobody id sleeps
  | unlock =>
      have held := quiet.timerHolds (by rw [isPlace]; rfl)
      have hasQuit := quiet.hasQuit (by rw [isPlace]; rfl)
      have left := quiet.left ⟨hasQuit, Or.inl isPlace⟩
      simp only [isPlace, Option.some.injEq] at taken
      subst taken
      refine
        quiet.timerTo rfl rfl (fun name different same => ?_)
          (by simp [TimerAt.holds]) (fun _ => hasQuit) quiet.unnoticed
          (fun _ => left)
      rw [held, Option.some.injEq] at same
      exact absurd same.symm different
  | returned =>
      simp [isPlace] at taken

/-- A step of the socket thread that disturbs nobody. -/
theorem State.Quiet.threadSocket
    (quiet : s.Quiet)
    (undisturbed : s.Undisturbed (.step .socket answer))
    (taken : threadSocket s answer = some next) :
    next.Quiet := by
  unfold Start.threadSocket at taken
  cases isPlace : s.socket with
  | poll =>
      simp only [isPlace, Option.ite_none_left_eq_some,
        Option.some.injEq] at taken
      obtain ⟨_, rfl⟩ := taken
      exact quiet.congr rfl rfl rfl rfl rfl (fun _ _ => rfl)
  | total =>
      simp only [isPlace, Option.some.injEq] at taken
      subst taken
      exact quiet.congr rfl rfl rfl rfl rfl (fun _ _ => rfl)
  | wakeUp =>
      simp only [isPlace, Option.some.injEq] at taken
      subst taken
      exact quiet.congr rfl rfl rfl rfl rfl (fun _ _ => rfl)
  | notify =>
      have nobody := undisturbed (by simp [notifies, isPlace])
      simp only [isPlace, Option.some.injEq] at taken
      subst taken
      exact
        quiet.congr rfl rfl rfl rfl rfl
          (fun id waits =>
            (quiet.unnoticed_notifyAll nobody waits).trans
              (quiet.unnoticed id waits).symm)
  | returned exited =>
      simp [isPlace] at taken

/-- A step that is not a `notify_all` while a worker waits. -/
theorem quiet_next
    (quiet : s.Quiet)
    (undisturbed : s.Undisturbed move)
    (taken : Run.Steps next? s move next) :
    next.Quiet := by
  unfold Run.Steps next? at taken
  cases move with
  | services contextTotal =>
      cases taken
      exact quiet.congr rfl rfl rfl rfl rfl (fun _ _ => rfl)
  | step name answer =>
      cases name with
      | timer =>
          exact quiet.threadTimer undisturbed taken
      | socket =>
          exact quiet.threadSocket undisturbed taken
      | worker id =>
          exact quiet.threadWorker taken

/-- Where nobody that waits was notified, nobody is stranded. -/
theorem State.Quiet.noneStranded
    (quiet : s.Quiet) :
    s.NoneStranded where
  noticed id waits noticed := by
    simp [quiet.unnoticed id waits] at noticed
  shutDown ended id waits := absurd waits (quiet.left ended id)

end Quiet

/-- A `notify_all` reaches the workers that wait. -/
theorem noticed_notify
    {name : ThreadName thread}
    (notifies : s.notifies name = true)
    (waits : s.worker id = .waiting)
    (taken : stepOf s name answer = some next) :
    next.noticed id = true := by
  cases name with
  | timer =>
      simp only [State.notifies, Bool.or_eq_true, decide_eq_true_eq] at notifies
      rcases notifies with isPlace | isPlace
      · simp only [stepOf, threadTimer, isPlace, Option.some.injEq] at taken
        subst taken
        simp [notifyAll, waits]
      · simp only [stepOf, threadTimer, isPlace, Option.some.injEq] at taken
        subst taken
        simp [notifyAll, waits]
  | socket =>
      have isPlace : s.socket = .notify := by
        simpa [State.notifies] using notifies
      simp only [stepOf, threadSocket, isPlace, Option.some.injEq] at taken
      subst taken
      simp [notifyAll, waits]
  | worker other =>
      simp [State.notifies] at notifies

/-- Only a step that disturbs nobody strands nobody. -/
theorem undisturbed_of_noneStranded
    (locked : s.thread_unlock = false)
    (taken : Run.Steps next? s move next)
    (safe : next.NoneStranded) :
    s.Undisturbed move := by
  cases move with
  | services contextTotal =>
      trivial
  | step name answer =>
      intro notifies id waits
      have waitsOn : next.InWait id :=
        inWait_next locked (Or.inr waits) taken
      have lockedOn := (thread_unlock_next taken).trans locked
      exact
        not_leaves lockedOn waitsOn
          (safe.noticed id waitsOn (noticed_notify notifies waits taken))

section Runs

variable
    {contextTotal : Nat}
    {final : State thread}
    {past : List (State thread × Move thread)}

/-- No worker is stranded as long as nobody notifies workers that wait. -/
theorem noneStranded_visited
    (run :
      Run (Run.Steps next?) (initial thread contextTotal) past final) :
    (∀ s ∈ Run.visited past final, s.NoneStranded) ↔
      ∀ s move, (s, move) ∈ past → s.Undisturbed move :=
  Run.property_visited_iff
    run (quiet_initial thread contextTotal) quiet_next
    State.Quiet.noneStranded
    (fun quiet => undisturbed_of_noneStranded quiet.locked)

end Runs

section Workers

/-- What the other modules answer when nothing happens. -/
def quietAnswer : Answer where
  message_queue := none
  callsSocket := false
  report := .kSocketOpen
  more := true

/-- What they answer when `Poll` returns `kSocketExit`. -/
def exitAnswer : Answer :=
  { quietAnswer with report := .kSocketExit }

/-- Steps of one thread. -/
def stepsOf
    {thread : Nat}
    (count : Nat)
    (name : ThreadName thread) : List (Move thread) :=
  List.replicate count (.step name quietAnswer)

/-- The steps of the timer thread once no service is left. -/
def timerSteps : List (Move 1) :=
  .services 0 :: stepsOf 7 .timer

/--
The timer thread calls `notify_all` when a worker has counted itself asleep and
does not wait yet; then the worker waits, and another one goes on.
-/
theorem earlyNotify_noneStranded :
    ∃ past, ∃ final : State 2,
      Run (Run.Steps next?) (initial 2 1) past final ∧
        (∃ s answer, (s, Move.step .timer answer) ∈ past ∧ s.timer = .notify) ∧
        (final.worker 0 = .waiting ∧ final.worker 1 = .lock) ∧
        ∀ s ∈ Run.visited past final, s.NoneStranded := by
  obtain ⟨past, final, run, facts⟩ :=
    Run.exists_of_recorded (initial 2 1) next?
      (stepsOf 4 (.worker 0) ++ stepsOf 4 .timer ++ stepsOf 2 (.worker 0) ++
        stepsOf 2 .socket ++ stepsOf 2 (.worker 1))
      (fun past final =>
        past.all (fun step => decide (step.1.Undisturbed step.2)) &&
          (past.any
              (fun step =>
                step.2 = .step .timer quietAnswer && step.1.timer = .notify) &&
            (final.worker 0 = .waiting && final.worker 1 = .lock)))
      (by decide)
  simp only [Bool.and_eq_true, List.all_eq_true, List.any_eq_true,
    decide_eq_true_eq] at facts
  obtain ⟨undisturbed, ⟨⟨s, move⟩, member, isMove, notifies⟩, waits⟩ := facts
  refine
    ⟨past, final, run, ⟨s, quietAnswer, ?_, notifies⟩, waits,
      (noneStranded_visited run).mpr
        fun s move member => undisturbed (s, move) member⟩
  exact isMove ▸ member

/--
The only worker waits, `WakeUp` calls `notify_all`, the worker evaluates its
predicate, and it waits again.
-/
theorem waitingWorker_stranded :
    ∃ past final,
      Run (Run.Steps next?) (initial 1 1) past final ∧
        (final.worker 0 = .waiting ∧ final.noticed 0 = true) ∧
        (∀ answer, stepOf final (.worker 0) answer = none) ∧
        ¬ ∀ s ∈ Run.visited past final, s.NoneStranded := by
  obtain ⟨past, final, run, stuck⟩ :=
    Run.exists_of_replay (initial 1 1) next?
      (stepsOf 6 (.worker 0) ++ stepsOf 4 .timer ++ stepsOf 2 (.worker 0))
      (fun s =>
        (s.worker 0 = .waiting && s.noticed 0) &&
          (!s.notified 0 && !s.thread_unlock))
      (by decide)
  simp only [Bool.and_eq_true, decide_eq_true_eq, Bool.not_eq_true'] at stuck
  obtain ⟨⟨waits, noticed⟩, notNotified, locked⟩ := stuck
  refine ⟨past, final, run, ⟨waits, noticed⟩, ?_, fun holds => ?_⟩
  · intro answer
    simp [stepOf, threadWorker, waits, notNotified]
  · have safe := holds final (by simp)
    exact
      not_leaves locked (Or.inr waits) (safe.noticed 0 (Or.inr waits) noticed)

end Workers

section Socket

namespace State

/--
Nobody used the socket server after its destruction, and the socket thread
left its loop for the exit request.
-/
structure EndsAsMeant (s : State thread) : Prop where
  unused : s.usedAfterDestruction = false
  left : s.socket = .returned true
  requested : s.exitRequest = true

/--
Nobody sent an exit request, and the socket thread was told to leave by a
server that was destroyed.
-/
structure Unrequested (s : State thread) : Prop where
  noRequest : s.exitRequest = false
  used : s.socket = .returned true → s.usedAfterDestruction = true

end State

/-- `SocketPoll` returns 0 only for `kSocketExit`. -/
theorem socketPoll_eq_zero
    {report : Report}
    {more : Bool}
    (isZero : socketPoll report more = 0) :
    report = .kSocketExit := by
  cases report <;> cases more <;> simp [socketPoll] at isZero ⊢

/-- The other threads leave the socket thread where it is. -/
theorem State.Unrequested.congr
    (unrequested : s.Unrequested)
    (sameRequest : next.exitRequest = s.exitRequest)
    (sameSocket : next.socket = s.socket)
    (stillUsed :
      s.usedAfterDestruction = true → next.usedAfterDestruction = true) :
    next.Unrequested where
  noRequest := sameRequest.trans unrequested.noRequest
  used left := stillUsed (unrequested.used (sameSocket ▸ left))

/-- A worker sends no exit request. -/
theorem State.Unrequested.threadWorker
    (unrequested : s.Unrequested)
    (taken : threadWorker s id answer = some next) :
    next.Unrequested := by
  have frame :
      next.exitRequest = s.exitRequest ∧ next.socket = s.socket ∧
        (s.usedAfterDestruction = true → next.usedAfterDestruction = true) := by
    unfold Start.threadWorker at taken
    split at taken <;>
      grind [State.lock, unlock, callSocket, State.workerTo]
  exact unrequested.congr frame.1 frame.2.1 frame.2.2

/-- `SocketExit` and the rest of the timer thread send no exit request. -/
theorem State.Unrequested.threadTimer
    (unrequested : s.Unrequested)
    (taken : threadTimer s = some next) :
    next.Unrequested := by
  have frame :
      next.exitRequest = s.exitRequest ∧ next.socket = s.socket ∧
        (s.usedAfterDestruction = true → next.usedAfterDestruction = true) := by
    unfold Start.threadTimer at taken
    split at taken <;>
      grind [State.lock, unlock, callSocket, notifyAll, socketExit]
  exact unrequested.congr frame.1 frame.2.1 frame.2.2

/-- Without an exit request, only a destroyed server tells to leave. -/
theorem State.Unrequested.threadSocket
    (unrequested : s.Unrequested)
    (taken : threadSocket s answer = some next) :
    next.Unrequested := by
  unfold Start.threadSocket at taken
  cases isPlace : s.socket with
  | poll =>
      simp only [isPlace, Option.ite_none_left_eq_some,
        Option.some.injEq] at taken
      obtain ⟨possible, rfl⟩ := taken
      refine ⟨unrequested.noRequest, fun left => ?_⟩
      have isExit : answer.report = .kSocketExit := by
        dsimp only at left
        split at left
        · next isZero =>
            exact socketPoll_eq_zero isZero
        · split at left <;> cases left
      have destroyed : s.destroyed = true := by
        simpa [isExit, unrequested.noRequest] using possible
      simp [callSocket, destroyed]
  | total =>
      simp only [isPlace, Option.some.injEq] at taken
      subst taken
      refine ⟨unrequested.noRequest, fun left => ?_⟩
      dsimp only at left
      split at left <;> cases left
  | wakeUp =>
      simp only [isPlace, Option.some.injEq] at taken
      subst taken
      refine ⟨unrequested.noRequest, fun left => ?_⟩
      dsimp only at left
      split at left <;> cases left
  | notify =>
      simp only [isPlace, Option.some.injEq] at taken
      subst taken
      exact ⟨unrequested.noRequest, fun left => by cases left⟩
  | returned exited =>
      simp [isPlace] at taken

/-- No step sends an exit request. -/
theorem unrequested_next
    (unrequested : s.Unrequested)
    (taken : Run.Steps next? s move next) :
    next.Unrequested := by
  unfold Run.Steps next? at taken
  cases move with
  | services contextTotal =>
      cases taken
      exact unrequested.congr rfl rfl (fun used => used)
  | step name answer =>
      cases name with
      | timer =>
          exact unrequested.threadTimer taken
      | socket =>
          exact unrequested.threadSocket taken
      | worker id =>
          exact unrequested.threadWorker taken

/--
The socket thread never leaves its loop for an exit request, and when it
leaves because `SocketPoll` returned 0 it has used a destroyed server.
-/
theorem not_endsAsMeant
    {contextTotal : Nat}
    {final : State thread}
    {past : List (State thread × Move thread)}
    (run :
      Run (Run.Steps next?) (initial thread contextTotal) past final) :
    ¬ final.EndsAsMeant ∧
      (final.socket = .returned true → final.usedAfterDestruction = true) := by
  have initially : (initial thread contextTotal).Unrequested :=
    ⟨rfl, fun left => by cases left⟩
  have unrequested : final.Unrequested :=
    Run.invariant_of_step run initially unrequested_next final (by simp)
  refine ⟨fun ends => ?_, unrequested.used⟩
  exact absurd ends.requested (by simp [unrequested.noRequest])

/-- The socket thread finds that no service is left, before `SocketExit`. -/
theorem socketLeaves_notMeant :
    ∃ past final,
      Run (Run.Steps next?) (initial 1 1) past final ∧
        final.socket = .returned false ∧
        (¬ final.EndsAsMeant ∧
          (final.socket = .returned true →
            final.usedAfterDestruction = true)) := by
  obtain ⟨past, final, run, left⟩ :=
    Run.exists_of_replay (initial 1 1) next?
      [.services 0, .step .socket quietAnswer, .step .socket quietAnswer]
      (fun s => s.socket = .returned false)
      (by decide)
  exact
    ⟨past, final, run, of_decide_eq_true left, not_endsAsMeant run⟩

/--
The timer thread destroys the socket server, and the socket thread polls it
once more.
-/
theorem lastPoll_used :
    ∃ past final,
      Run (Run.Steps next?) (initial 1 1) past final ∧
        (final.socket = .returned true ∧ final.exitRequest = false) ∧
        final.usedAfterDestruction = true ∧ ¬ final.EndsAsMeant := by
  obtain ⟨past, final, run, used⟩ :=
    Run.exists_of_replay (initial 1 1) next?
      (timerSteps ++ [.step .socket exitAnswer])
      (fun s =>
        (s.socket = .returned true && !s.exitRequest) &&
          s.usedAfterDestruction)
      (by decide)
  simp only [Bool.and_eq_true, decide_eq_true_eq, Bool.not_eq_true'] at used
  refine ⟨past, final, run, used.1, used.2, fun ends => ?_⟩
  simp [ends.unused] at used

end Socket

end SkynetCpp.Start
