import SkynetCpp.SocketLockSteps
import SkynetCpp.SocketParameters

namespace SkynetCpp

open Foundation
open Foundation.Routine (perform Meets)

/-!
# How lock objects are left

Every operation with a lock object that comes to its end leaves the lock as it
found it: it enters the lock at most once, and leaves it as often.  The exception
is a datagram that `Send` would write to an address that the socket does not
have.
-/

variable {Worker α β : Type}

namespace SocketLock

/-- The lock of the socket is acquired once, and released with the count. -/
structure WellNested (events : List LockEvent) : Prop where
  /-- The count is never negative. -/
  nonneg : ∀ count ∈ events.filterMap LockEvent.count?, 0 ≤ count
  /-- The lock is acquired at most once. -/
  once : events.count .acquired ≤ 1
  /-- The lock is released exactly when the count returns to 0. -/
  released :
    ∀ i < events.length,
      (events[i + 1]? = some .released ↔ events[i]? = some (.left 0))
  /-- The lock is released only behind its acquisition. -/
  owned :
    ∀ i < events.length,
      events[i]? = some .released → .acquired ∈ events.take i

/--
An operation did with its lock object what it should.  Where the process ends,
the operation does not come to its end.
-/
structure Balanced
    (ending : LockEnding α)
    (lock : SocketLock) : Prop where
  /-- At the end of the operation the count is 0. -/
  zero : ending ≠ .error .aborted → lock.count = 0
  nested : WellNested lock.events

/-- Where an address was fetched from `p`, `p` held one. -/
def AddressHeld (lock : SocketLock) : Prop :=
  ∀ p ∈ lock.fetched, ∃ address, p = .udpAddress address

section Entering

/-- What `SocketLock` makes of a lock object. -/
def enter (lock : SocketLock) : SocketLock :=
  if lock.count = 0 then (lock.note .acquired).increment else lock.increment

/-- What `SocketUnlock` makes of a lock object. -/
def leave (lock : SocketLock) : SocketLock :=
  if lock.count = 1 then lock.decrement.note .released else lock.decrement

variable {lock : SocketLock}

theorem socketLock_meets
    (caller : Caller Worker) :
    Meets (socketLock caller) lock fun ending lock' =>
      ending = .ok () ∧ lock' = lock.enter := by
  unfold enter
  refine .get_bind ?_
  split
  · exact .perform_bind fun _ => .modify_bind (.modify ⟨rfl, rfl⟩)
  · exact .modify ⟨rfl, rfl⟩

/-- The lock was tried for: it was entered, or the lock object is as before. -/
inductive Tried (lock : SocketLock) : LockEnding Bool → SocketLock → Prop where
  | entered : Tried lock (.ok true) lock.enter
  | refused : Tried lock (.ok false) lock

theorem socketTrylock_meets
    (caller : Caller Worker) :
    Meets (socketTrylock caller) lock (Tried lock) := by
  refine .get_bind (.ite ?_ ?_)
  · intro isFree
    have isEntered : (lock.note .acquired).increment = lock.enter := by
      rw [enter, if_pos isFree]
    refine .perform_bind fun locked => ?_
    cases locked with
    | true =>
        refine .modify_bind (.modify_bind (.pure ?_))
        rw [isEntered]
        exact .entered
    | false =>
        exact .pure .refused
  · intro isHeld
    have isEntered : lock.increment = lock.enter := by
      rw [enter, if_neg isHeld]
    refine .modify_bind (.pure ?_)
    rw [isEntered]
    exact .entered

/-- What is done under a lock that was tried for, and what without it. -/
theorem tried_bind
    {action : LockAction Worker Bool}
    {after : Bool → LockAction Worker α}
    {post : LockEnding α → SocketLock → Prop}
    (tries : Meets action lock (Tried lock))
    (onEntered : Meets (after true) lock.enter post)
    (onRefused : Meets (after false) lock post) :
    Meets (action >>= after) lock post := by
  apply Meets.bind tries
  · intro locked lock' tried
    cases tried with
    | entered =>
        exact onEntered
    | refused =>
        exact onRefused
  · intro stop lock' tried
    cases tried

theorem socketUnlock_meets
    (entered : 0 < lock.count) :
    Meets (socketUnlock : LockAction Worker Unit) lock fun ending lock' =>
      ending = .ok () ∧ lock' = lock.leave := by
  have counted : lock.decrement.count = lock.count - 1 := rfl
  unfold leave
  refine .modify_bind (.get_bind (.ite ?_ ?_))
  · intro last
    have isLast : lock.count = 1 := by omega
    rw [if_pos isLast]
    refine .get_bind (.ite ?_ ?_)
    · intro negative
      omega
    · intro _
      exact .perform_bind fun _ => .modify ⟨rfl, rfl⟩
  · intro held
    rw [if_neg (by omega)]
    exact .pure ⟨rfl, rfl⟩

end Entering

section Sending

/-- A function leaves the lock object alone, and throws nothing. -/
structure Passes
    (lock : SocketLock)
    (ending : LockEnding α)
    (lock' : SocketLock) : Prop where
  same : lock' = lock
  notThrown : ending ≠ .error .thrown

variable
    {lock lock' : SocketLock}
    {result : α}

theorem Passes.returned : Passes lock (.ok result) lock where
  same := rfl
  notThrown := by
    intro impossible
    cases impossible

theorem Passes.aborted :
    Passes lock (.error .aborted : LockEnding α) lock where
  same := rfl
  notThrown := by
    intro impossible
    cases impossible

/-- Code behind a function that leaves the lock object alone. -/
theorem passes_bind
    {action : LockAction Worker α}
    {after : α → LockAction Worker β}
    (passes : Meets action lock (Passes lock))
    (goesOn : ∀ result, Meets (after result) lock (Passes lock)) :
    Meets (action >>= after) lock (Passes lock) := by
  apply Meets.bind passes
  · rintro result lock' ⟨rfl, -⟩
    exact goesOn result
  · rintro stop lock' ⟨rfl, notThrown⟩
    cases stop with
    | thrown =>
        exact absurd rfl notThrown
    | aborted =>
        exact .aborted

theorem assert_bind
    {condition : Prop}
    [Decidable condition]
    {after : Unit → LockAction Worker α}
    {post : LockEnding α → SocketLock → Prop}
    (goesOn : condition → Meets (after ()) lock post)
    (aborts : post (.error .aborted) lock) :
    Meets (assert condition >>= after) lock post := by
  unfold assert
  split
  · exact .perform_bind fun _ => goesOn ‹_›
  · exact aborts

/-- The process ends at `data = nullptr`. -/
theorem nullData_meets
    {after : MessageData → LockAction Worker α}
    {post : LockEnding α → SocketLock → Prop}
    (aborts : post (.error .aborted) lock) :
    Meets (nullData >>= after) lock post :=
  .throw aborts

/-- The process ends in `ForceClose`. -/
theorem forceClose_meets
    {after : SocketMessage → LockAction Worker α}
    {post : LockEnding α → SocketLock → Prop}
    (aborts : post (.error .aborted) lock) :
    Meets (forceClose >>= after) lock post :=
  .throw aborts

theorem closeRead_meets
    {after : SocketMessage → LockAction Worker α}
    {post : LockEnding α → SocketLock → Prop}
    (aborts : post (.error .aborted) lock) :
    Meets (closeRead >>= after) lock post := by
  have crashes :
      Meets (closeRead : LockAction Worker SocketMessage) lock
        fun ending lock' => ending = .error .aborted ∧ lock' = lock :=
    .perform_bind fun _ => .perform_bind fun _ => nullData_meets ⟨rfl, rfl⟩
  apply Meets.bind crashes
  · rintro message lock' ⟨impossible, -⟩
    cases impossible
  · rintro stop lock' ⟨isAborted, rfl⟩
    cases isAborted
    exact aborts

theorem closeWrite_passes :
    Meets (closeWrite : LockAction Worker Outcome) lock (Passes lock) := by
  refine .perform_bind fun closing =>
    .ite (fun _ => forceClose_meets .aborted) fun _ => ?_
  refine .perform_bind fun t =>
    .ite (fun _ => forceClose_meets .aborted) fun _ => .ite (fun _ => ?_) fun _ => ?_
  · exact .perform_bind fun message => .pure .returned
  · refine .perform_bind fun _ => .perform_bind fun _ => ?_
    exact .perform fun outcome => .returned

theorem sendListTCPLoop_passes
    (priority : Priority)
    (nodes : Nat) :
    Meets (sendListTCPLoop priority nodes : LockAction Worker Outcome) lock
      (Passes lock) := by
  induction nodes with
  | zero =>
      exact .pure .returned
  | succ nodes inductionHypothesis =>
      refine .perform_bind fun written => ?_
      cases written with
      | empty =>
          exact .pure .returned
      | all =>
          exact inductionHypothesis
      | part =>
          exact .pure .returned
      | failed =>
          exact closeWrite_passes

theorem sendList_passes
    (priority : Priority) :
    Meets (sendList priority : LockAction Worker Outcome) lock
      (Passes lock) := by
  refine .perform_bind fun protocol => .ite (fun _ => ?_) fun _ => ?_
  · exact .perform_bind fun nodes => sendListTCPLoop_passes priority nodes
  · exact .perform fun outcome => .returned

/-- What `SendBuffer_` does behind `SendList`. -/
theorem afterList_passes
    {priority : Priority}
    {rest : LockAction Worker Outcome}
    (restPasses : Meets rest lock (Passes lock)) :
    Meets (do afterList (← sendList priority) rest) lock (Passes lock) := by
  refine passes_bind (sendList_passes priority) fun outcome => ?_
  unfold afterList
  split
  · exact .pure .returned
  · exact .pure .returned
  · exact restPasses

theorem sentBuffer_passes :
    Meets (sentBuffer : LockAction Worker Outcome) lock (Passes lock) := by
  refine .perform_bind fun empty => assert_bind (fun _ => ?_) .aborted
  refine .perform_bind fun closing => .ite (fun _ => ?_) fun _ => ?_
  · exact forceClose_meets .aborted
  refine .perform_bind fun failed => .ite (fun _ => ?_) fun _ => ?_
  · exact .perform fun outcome => .returned
  refine .perform_bind fun warn_size => .ite (fun _ => ?_) fun _ => ?_
  · exact .perform_bind fun _ => nullData_meets .aborted
  · exact .pure .returned

theorem sentLow_passes :
    Meets (sentLow : LockAction Worker Outcome) lock (Passes lock) := by
  refine .perform_bind fun uncomplete => .ite (fun _ => ?_) fun _ => ?_
  · have raised :
        Meets (raiseUncomplete : LockAction Worker Unit) lock (Passes lock) := by
      refine .perform_bind fun empty => assert_bind (fun _ => ?_) .aborted
      exact .perform fun _ => .returned
    exact passes_bind raised fun _ => .pure .returned
  refine .perform_bind fun empty => .ite (fun _ => ?_) fun _ => ?_
  · exact sentBuffer_passes
  · exact .pure .returned

theorem sentHigh_passes :
    Meets (sentHigh : LockAction Worker Outcome) lock (Passes lock) := by
  refine .perform_bind fun empty => .ite (fun _ => ?_) fun _ => ?_
  · refine .perform_bind fun emptyLow => .ite (fun _ => ?_) fun _ => ?_
    · exact sentBuffer_passes
    · exact afterList_passes sentLow_passes
  · exact .pure .returned

theorem sendBuffer_passes :
    Meets (sendBuffer_ : LockAction Worker Outcome) lock (Passes lock) := by
  refine .perform_bind fun uncomplete => assert_bind (fun _ => ?_) .aborted
  exact afterList_passes sentHigh_passes

end Sending

section Settling

/--
The lock object is left right exactly if every address was one, which is so
when the code returns.
-/
structure Settled
    (ending : LockEnding α)
    (lock : SocketLock) : Prop where
  balanced_iff : Balanced ending lock ↔ AddressHeld lock
  returned : ∀ result, ending = .ok result → Balanced ending lock

variable
    {lock lock' : SocketLock}
    {ending : LockEnding α}

theorem Settled.of_balanced
    (balanced : Balanced ending lock)
    (held : AddressHeld lock) :
    Settled ending lock where
  balanced_iff := ⟨fun _ => held, fun _ => balanced⟩
  returned := fun _ _ => balanced

/-- Of the ending only matters whether the process ended. -/
theorem Balanced.congr
    {other : LockEnding β}
    (same : ending = .error .aborted ↔ other = .error .aborted)
    (balanced : Balanced ending lock) :
    Balanced other lock where
  zero := fun comesToEnd =>
    balanced.zero fun aborted => comesToEnd (same.mp aborted)
  nested := balanced.nested

theorem Settled.ok
    {result : α}
    {other : β}
    (settled : Settled (.ok result) lock) :
    Settled (.ok other) lock := by
  have balanced : Balanced (.ok other : LockEnding β) lock :=
    (settled.returned result rfl).congr (by simp)
  exact .of_balanced balanced
    (settled.balanced_iff.mp (settled.returned result rfl))

theorem Settled.stopped
    {stop : SocketStop}
    (settled : Settled (.error stop : LockEnding α) lock) :
    Settled (.error stop : LockEnding β) lock where
  balanced_iff := by
    constructor
    · intro balanced
      exact settled.balanced_iff.mp (balanced.congr (by simp))
    · intro held
      exact (settled.balanced_iff.mpr held).congr (by simp)
  returned := by
    intro result impossible
    cases impossible

theorem wellNested_nil : WellNested [] where
  nonneg := by decide
  once := by decide
  released := by decide
  owned := by decide

theorem wellNested_once :
    WellNested [.acquired, .entered 1, .left 0, .released] where
  nonneg := by decide
  once := by decide
  released := by decide
  owned := by decide

/-- A lock object that no address was fetched with. -/
theorem Settled.of_unfetched
    (balanced : Balanced ending lock)
    (unfetched : lock.fetched = []) :
    Settled ending lock := by
  apply Settled.of_balanced balanced
  intro p member
  rw [unfetched] at member
  cases member

theorem settled_init : Settled ending init :=
  .of_unfetched ⟨fun _ => rfl, wellNested_nil⟩ rfl

theorem settled_left : Settled ending init.enter.leave :=
  .of_unfetched ⟨fun _ => rfl, wellNested_once⟩ rfl

/-- The process ends while the lock is held. -/
theorem settled_aborted :
    Settled (.error .aborted : LockEnding α) init.enter := by
  have aborts : WellNested [.acquired, .entered 1] := by
    constructor <;> decide
  exact .of_unfetched ⟨fun comesToEnd => absurd rfl comesToEnd, aborts⟩ rfl

/-- The owner of the lock leaves it. -/
theorem unlock_settled
    {result : α} :
    Meets (do socketUnlock; return result : LockAction Worker α) init.enter
      Settled :=
  .returned_bind (socketUnlock_meets (by decide)) (.pure settled_left)

end Settling

section Operations

theorem sendBuffer_meets :
    Meets (sendBuffer : LockAction Worker Outcome) init Settled := by
  refine tried_bind (socketTrylock_meets .socketThread) ?_ (.pure settled_init)
  refine .perform_bind fun _ => ?_
  apply Meets.bind sendBuffer_passes
  · rintro r lock' ⟨rfl, -⟩
    exact unlock_settled
  · rintro stop lock' ⟨rfl, notThrown⟩
    cases stop with
    | thrown =>
        exact absurd rfl notThrown
    | aborted =>
        exact settled_aborted

theorem closeSocket_meets
    (id shutdown : Int32) :
    Meets (closeSocket id shutdown : LockAction Worker Outcome) init
      Settled := by
  refine .perform_bind fun gone => .ite (fun _ => .pure settled_init) fun _ => ?_
  refine .perform_bind fun shutdown_read => .perform_bind fun nothing => ?_
  refine .ite (fun _ => forceClose_meets settled_init)
    fun _ => .perform_bind fun _ => ?_
  exact .ite (fun _ => .pure settled_init) fun _ => closeRead_meets settled_init

theorem forwardEnd_meets :
    Meets (forwardEnd : LockAction Worker Outcome) init Settled := by
  refine .perform_bind fun _ => ?_
  refine .perform_bind fun closing => .ite (fun _ => ?_) fun _ => ?_
  · refine .perform_bind fun nothing => .ite (fun _ => ?_) fun _ => ?_
    · exact forceClose_meets settled_init
    · exact .pure settled_init
  refine .perform_bind fun t => .ite (fun _ => .pure settled_init) fun _ => ?_
  exact .ite (fun _ => forceClose_meets settled_init)
    fun _ => closeRead_meets settled_init

theorem forwardMessageTCP_meets :
    Meets (forwardMessageTCP : LockAction Worker Outcome) init Settled := by
  have fetched :
      Meets (getReadSize : LockAction Worker Int32) init
        fun _ lock' => lock' = init := by
    refine .perform_bind fun p => ?_
    cases p with
    | size sz =>
        exact .pure rfl
    | udpAddress address =>
        exact .throw rfl
  apply Meets.bind fetched
  · rintro sz lock' rfl
    refine .perform_bind fun read => .ite (fun _ => ?_) fun _ => ?_
    · refine .ite (fun _ => .pure settled_init) fun _ => ?_
      exact .perform fun _ => settled_init
    · exact .ite (fun _ => forwardEnd_meets) fun _ =>
        .perform fun _ => settled_init
  · rintro stop lock' rfl
    exact settled_init

theorem closeOnError_meets
    (text : String) :
    Meets (closeOnError text : LockAction Worker Outcome) init Settled :=
  forceClose_meets settled_init

theorem forwardMessageUDP_meets :
    Meets (forwardMessageUDP : LockAction Worker Outcome) init Settled := by
  refine .perform_bind fun read => .ite (fun _ => ?_) fun _ => ?_
  · refine .ite (fun _ => .pure settled_init) fun _ => ?_
    exact .perform_bind closeOnError_meets
  refine .perform_bind fun protocol => ?_
  refine .ite (fun _ => .pure settled_init) fun _ => ?_
  exact .perform_bind fun message => .pure settled_init

theorem reportConnect_meets :
    Meets (reportConnect : LockAction Worker Outcome) init Settled := by
  refine .perform_bind fun status => .ite (fun _ => ?_) fun _ => ?_
  · exact .perform_bind closeOnError_meets
  refine .perform_bind fun _ => .perform_bind fun message => ?_
  refine .perform_bind fun failed => .ite (fun _ => ?_) fun _ => ?_
  · exact closeOnError_meets _
  refine .perform_bind fun text => ?_
  cases text with
  | some text =>
      exact .pure settled_init
  | none =>
      exact nullData_meets settled_init

theorem pollEof_meets :
    Meets (pollEof : LockAction Worker Outcome) init Settled :=
  .perform_bind fun _ => forceClose_meets settled_init

end Operations

section Calls

/-- Code that may fetch an address, and throws if there is none. -/
inductive Fetches
    (lock : SocketLock) : LockEnding α → SocketLock → Prop where
  | nothing
      (result : α) :
      Fetches lock (.ok result) lock
  | address
      (result : α)
      (address : List UInt8) :
      Fetches lock (.ok result) (lock.fetch (.udpAddress address))
  | size
      (size : Int32) :
      Fetches lock (.error .thrown) (lock.fetch (.size size))

theorem writeDirectly_meets
    {lock : SocketLock}
    (buffer : SocketSendbuffer) :
    Meets (writeDirectly buffer : LockAction Worker (Option Bool)) lock
      (Fetches lock) := by
  refine .perform_bind fun protocol => .ite (fun _ => ?_) fun _ => ?_
  · exact .perform_bind fun left => .pure (.nothing _)
  have fetched :
      Meets (getUdpAddress : LockAction Worker (List UInt8)) lock
        (Fetches lock) := by
    refine .perform_bind fun p => .modify_bind ?_
    cases p with
    | size size =>
        exact .throw (.size size)
    | udpAddress address =>
        exact .pure (.address address address)
  apply Meets.bind fetched
  · intro address lock' fetches
    cases fetches with
    | nothing =>
        exact .perform .nothing
    | address =>
        exact .perform fun result => .address result _
  · intro stop lock' fetches
    cases fetches
    exact .size _

/-- The lock is left with an address that was fetched. -/
theorem settled_address
    {result : α}
    (address : List UInt8) :
    Settled (.ok result) (init.enter.fetch (.udpAddress address)).leave := by
  apply Settled.of_balanced ⟨fun _ => rfl, wellNested_once⟩
  intro p member
  exact ⟨address, List.mem_singleton.mp member⟩

/-- What `p` holds is no address: the exception leaves the lock held. -/
theorem settled_thrown
    (size : Int32) :
    Settled (.error .thrown : LockEnding α) (init.enter.fetch (.size size)) := by
  refine ⟨⟨?_, ?_⟩, ?_⟩
  · intro balanced
    have isZero : (1 : Int) = 0 := balanced.zero (by simp)
    exact absurd isZero (by decide)
  · intro held
    obtain ⟨address, impossible⟩ := held (.size size) List.mem_cons_self
    cases impossible
  · intro result impossible
    cases impossible

theorem tryDirect_meets
    {lock : SocketLock}
    (caller : Caller Worker)
    (id : Int32) :
    Meets (tryDirect caller id) lock (Tried lock) := by
  refine .perform_bind fun able => .ite (fun _ => ?_) fun _ => ?_
  · exact socketTrylock_meets caller
  · exact .pure .refused

theorem sendDirect_meets
    (caller : Caller Worker)
    (buffer : SocketSendbuffer) :
    Meets (sendDirect caller buffer) init Settled := by
  refine tried_bind (tryDirect_meets caller buffer.id) ?_ (.pure settled_init)
  refine .perform_bind fun able => .ite (fun _ => ?_) fun _ => ?_
  · apply Meets.bind (writeDirectly_meets buffer)
    · intro left lock' fetches
      cases fetches with
      | nothing =>
          refine .returned_bind (socketUnlock_meets (by decide)) ?_
          cases left with
          | none =>
              exact .pure settled_left
          | some left =>
              exact .pure settled_left
      | address result address =>
          refine .returned_bind (socketUnlock_meets Int.one_pos) ?_
          cases left with
          | none =>
              exact .pure (settled_address address)
          | some left =>
              exact .pure (settled_address address)
    · intro stop lock' fetches
      cases fetches
      exact settled_thrown _
  · exact unlock_settled

theorem udpSendDirect_meets
    (caller : Caller Worker)
    (addr : List UInt8)
    (id : Int32) :
    Meets (udpSendDirect caller addr id) init Settled :=
  tried_bind (tryDirect_meets caller id)
    (.perform_bind fun _ => unlock_settled) (.pure settled_init)

theorem countConnect_meets
    (caller : Caller Worker)
    (id : Int32) :
    Meets (countConnect caller id) init Settled := by
  refine .perform_bind fun gone => .ite (fun _ => .pure settled_init) fun _ => ?_
  refine .returned_bind (socketLock_meets caller) ?_
  refine .perform_bind fun goneNow => .ite (fun _ => ?_) fun _ => ?_
  · exact unlock_settled
  · exact .perform_bind fun _ => unlock_settled

/-- The lock object is left alone by what comes after it was settled. -/
theorem settled_bind
    {action : LockServerAction Worker α}
    {after : α → LockServerAction Worker β}
    {lock : SocketLock}
    (settles : Meets action lock Settled)
    (keeps :
      ∀ result lock',
        Meets (after result) lock' fun ending lock'' =>
          lock'' = lock' ∧ ∃ value, ending = .ok value) :
    Meets (action >>= after) lock Settled := by
  apply Meets.bind settles
  · intro result lock' settled
    apply (keeps result lock').mono
    rintro ending lock'' ⟨rfl, value, rfl⟩
    exact settled.ok
  · intro stop lock' settled
    exact settled.stopped

theorem Send_meets
    (caller : Caller Worker)
    (buffer : SocketSendbuffer) :
    Meets (Send caller buffer) init Settled := by
  refine .perform_bind fun refused => ?_
  refine .ite (fun _ => .pure settled_init) fun _ => ?_
  refine settled_bind ((sendDirect_meets caller buffer).zoom _ _) ?_
  intro direct lock'
  cases direct with
  | no =>
      exact .perform fun result => ⟨rfl, result, rfl⟩
  | nowhere =>
      exact .pure ⟨rfl, -1, rfl⟩
  | written left =>
      cases left with
      | false =>
          exact .pure ⟨rfl, 0, rfl⟩
      | true =>
          exact .perform_bind fun _ => .pure ⟨rfl, 0, rfl⟩

theorem UDPSend_meets
    (caller : Caller Worker)
    (addr : List UInt8)
    (buffer : SocketSendbuffer) :
    Meets (UDPSend caller addr buffer) init Settled := by
  refine .perform_bind fun gone => .ite (fun _ => .pure settled_init) fun _ => ?_
  refine .ite (fun _ => .pure settled_init) fun _ => ?_
  refine settled_bind ((udpSendDirect_meets caller addr _).zoom _ _) ?_
  intro result lock'
  cases result with
  | some result =>
      exact .pure ⟨rfl, result, rfl⟩
  | none =>
      exact .perform_bind fun _ => .pure ⟨rfl, 0, rfl⟩

theorem UDPConnect_meets
    (caller : Caller Worker)
    (id : Int32) :
    Meets (UDPConnect caller id) init Settled := by
  refine settled_bind ((countConnect_meets caller id).zoom _ _) ?_
  intro found lock'
  refine .ite (fun _ => ?_) fun _ => .pure ⟨rfl, -1, rfl⟩
  refine .perform_bind fun resolved => ?_
  refine .ite (fun _ => .pure ⟨rfl, -1, rfl⟩) fun _ => ?_
  refine .ite (fun _ => .pure ⟨rfl, -1, rfl⟩) fun _ => ?_
  exact .perform_bind fun _ => .pure ⟨rfl, 0, rfl⟩

end Calls

section Balance

theorem discard_meets
    {action : LockServerAction Worker α}
    {lock : SocketLock}
    (settles : Meets action lock Settled) :
    Meets (do let _ ← action : LockServerAction Worker Unit) lock Settled :=
  settled_bind settles fun _ _ => .pure ⟨rfl, (), rfl⟩

theorem onSlot_meets
    {action : LockAction Worker α}
    {lock : SocketLock}
    (k : Nat)
    (settles : Meets action lock Settled) :
    Meets (onSlot k action) lock Settled :=
  discard_meets (settles.zoom _ _)

theorem operate_meets
    (caller : Caller Worker)
    (k : Nat)
    (operation : Operation) :
    Meets (operate caller k operation) init Settled := by
  cases operation with
  | sendBuffer =>
      exact onSlot_meets k sendBuffer_meets
  | closeSocket id shutdown =>
      exact onSlot_meets (hashId id) (closeSocket_meets id shutdown)
  | forwardMessageTCP =>
      exact onSlot_meets k forwardMessageTCP_meets
  | forwardMessageUDP =>
      exact onSlot_meets k forwardMessageUDP_meets
  | reportConnect =>
      exact onSlot_meets k reportConnect_meets
  | pollEof =>
      exact onSlot_meets k pollEof_meets
  | send buffer =>
      exact discard_meets (Send_meets caller buffer)
  | udpSend addr buffer =>
      exact discard_meets (UDPSend_meets caller addr buffer)
  | udpConnect id =>
      exact discard_meets (UDPConnect_meets caller id)

/-- Where the server's function returns, the lock object is left right. -/
theorem serve_balanced
    {caller : Caller Worker}
    {k : Nat}
    {operation : Operation}
    (way : (serve caller k operation).Ends ()) :
    ∃ lock : SocketLock,
      ((operate caller k operation).start init).Ends (.ok (), lock) ∧
        Balanced (.ok () : LockEnding Unit) lock := by
  obtain ⟨lock, ends⟩ := serve_ends_iff.mp way
  have settled := (operate_meets caller k operation).of_ends ends
  exact ⟨lock, ends, settled.returned () rfl⟩

/--
However an operation ends, it did with its lock object what it should exactly
if `p` held an address whenever one was fetched under the lock.
-/
theorem balanced_iff
    {caller : Caller Worker}
    {k : Nat}
    {operation : Operation}
    {ending : LockEnding Unit}
    {lock : SocketLock}
    (way : ((operate caller k operation).start init).Ends (ending, lock)) :
    Balanced ending lock ↔ AddressHeld lock :=
  ((operate_meets caller k operation).of_ends way).balanced_iff

section Alone

/-- How an operation on slot 1 ends if its thread runs alone, with one answer. -/
def endAlone
    (input : OsAnswer)
    (steps : Nat)
    (operation : Operation)
    (s : SocketServer Unit) : Option (LockEnding Unit × SocketLock) :=
  match
    Machine.solo input steps ((operate (.worker ()) 1 operation).start init, s)
  with
  | some (.done last, _) => some last
  | _ => none

theorem ends_of_endAlone
    {input : OsAnswer}
    {steps : Nat}
    {operation : Operation}
    {s : SocketServer Unit}
    {last : LockEnding Unit × SocketLock}
    (alone : endAlone input steps operation s = some last) :
    ((operate (.worker ()) 1 operation).start init).Ends last := by
  unfold endAlone at alone
  split at alone
  · rename_i other s' isDone
    cases alone
    exact Program.Ends.of_solo isDone
  · cases alone

end Alone

/-- A server whose connected sockets have a byte to send. -/
def sendingServer : SocketServer Unit :=
  { (blankServer : SocketServer Unit) with
    slot := fun _ =>
      { (blankSocket : Socket Unit) with
        type := .kSocketTypeConnected
        wb_size := 1
        high := [⟨some 0, ⟨some 0, 0⟩, 1⟩] } }

/-- A call that fails. -/
def refused : OsAnswer :=
  { (default : OsAnswer) with result := -1 }

/-- A write fails in `SendBuffer`, which closes one direction under the lock. -/
theorem sendingServer_balanced :
    ∃ lock,
      endAlone refused 14 .sendBuffer sendingServer = some (.ok (), lock) ∧
        lock.events = [.acquired, .entered 1, .left 0, .released] ∧
          Balanced (.ok () : LockEnding Unit) lock := by
  have alone :
      endAlone refused 14 .sendBuffer sendingServer =
        some (.ok (), init.enter.leave) :=
    rfl
  refine ⟨_, alone, rfl, (balanced_iff (ends_of_endAlone alone)).mpr ?_⟩
  intro p member
  cases member

/-- One byte for the socket in slot 1. -/
def datagram : SocketSendbuffer where
  id := 1
  type := .memory
  buffer := some 0
  sz := 1

/--
A socket for datagrams was opened and has a size where its address belongs:
`Send` throws with the lock held.
-/
theorem openUDP_unbalanced :
    ∃ past final,
      SocketRun (blankServer : SocketServer Unit) past final ∧
        ∃ lock,
          endAlone default 20 (.send datagram) final.shared =
              some (.error .thrown, lock) ∧
            lock.count = 1 ∧
              ¬ Balanced (.error .thrown : LockEnding Unit) lock := by
  obtain ⟨past, final, run, throws⟩ :=
    Run.exists_of_replay (Machine.idle blankServer)
      (Machine.next? socketThreads) openUDP
      (fun machine =>
        decide
          (endAlone default 20 (.send datagram) machine.shared =
            some (.error .thrown, init.enter.fetch (.size MIN_READ_BUFFER))))
      rfl
  refine ⟨past, final, run, _, of_decide_eq_true throws, rfl, ?_⟩
  intro balanced
  have isZero : (1 : Int) = 0 := balanced.zero (by simp)
  exact absurd isZero (by decide)

end Balance

end SocketLock

end SkynetCpp
