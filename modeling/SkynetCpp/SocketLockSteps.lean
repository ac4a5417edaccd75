import SkynetCpp.SocketLock

namespace SkynetCpp

open Foundation
open Foundation.Routine (perform Mirrors)

/-!
# The steps of code with a lock object

The functions of the server that are given a count take the steps of those that
are given the lock object.  Where the process ends or an exception is thrown, the
former wait for ever.
-/

variable {Worker α β : Type}

namespace SocketLock

/-- The results are the same, and the count of the object is the one given. -/
def SameCount
    (count : Nat)
    (result : α)
    (lock : SocketLock)
    (other : α) : Prop :=
  result = other ∧ lock.count = count

section Operations

variable
    {lock : SocketLock}
    {count : Nat}

theorem assert_mirrors
    {condition : Prop}
    [Decidable condition]
    {related : α → SocketLock → β → Prop}
    {after : Unit → LockAction Worker α}
    {after' : Unit → SocketAction Worker β}
    (goesOn : Mirrors related (after ()) lock (after' ())) :
    Mirrors related (assert condition >>= after) lock
      (Program.check condition >>= after') := by
  unfold assert
  split
  · exact .perform_bind fun _ => goesOn
  · refine .throw fun _ _ => ?_
    exact if_neg ‹_›

/-- Nothing is run behind `data = nullptr`. -/
theorem nullData_mirrors
    {related : α → SocketLock → β → Prop}
    {after : MessageData → LockAction Worker α}
    {after' : MessageData → SocketAction Worker β} :
    Mirrors related (nullData >>= after) lock
      (SkynetCpp.nullData >>= after') :=
  .throw_crash

/-- Entering the lock, which the server's function counts itself. -/
theorem socketLock_mirrors
    (caller : Caller Worker)
    (counted : lock.count = count) :
    Mirrors
      (fun _ (lock' : SocketLock) count' =>
        count' = count + 1 ∧ lock'.count = count + 1)
      (socketLock caller) lock (SkynetCpp.socketLock caller count) := by
  have isZero : lock.count = 0 ↔ count = 0 := by omega
  have incremented : lock.count + 1 = count + 1 := by rw [counted]
  refine .get_bind ?_
  refine .ite isZero (fun _ => ?_) fun _ => ?_
  · exact .perform_bind fun _ => .modify_bind ⟨_, rfl, rfl, incremented⟩
  · exact ⟨_, rfl, rfl, incremented⟩

/-- Trying to enter the lock, with the count 0. -/
theorem socketTrylock_mirrors
    (caller : Caller Worker)
    (counted : lock.count = 0) :
    Mirrors
      (fun result (lock' : SocketLock) locked =>
        result = locked ∧ lock'.count = if locked then 1 else 0)
      (socketTrylock caller) lock (SkynetCpp.socketTrylock caller) := by
  have incremented : lock.count + 1 = 1 := by rw [counted]; rfl
  refine .get_bind ?_
  rw [if_pos counted]
  refine .perform_end fun locked => ?_
  cases locked with
  | true =>
      exact ⟨_, rfl, rfl, incremented⟩
  | false =>
      exact ⟨_, rfl, rfl, counted⟩

/-- Leaving the lock. -/
theorem socketUnlock_mirrors
    (counted : lock.count = count)
    (entered : 0 < count) :
    Mirrors (fun _ (lock' : SocketLock) _ => lock'.count = count - 1)
      (socketUnlock : LockAction Worker Unit) lock
      (SkynetCpp.socketUnlock count) := by
  have decremented : lock.decrement.count = count - 1 := by
    rw [← counted]
    rfl
  have isLast : lock.decrement.count ≤ 0 ↔ count ≤ 1 := by omega
  refine .modify_bind (.get_bind ?_)
  refine .ite isLast (fun last => ?_) fun _ => ?_
  · refine .get_bind ?_
    have notNegative : ¬ lock.decrement.count ≠ 0 := by omega
    rw [if_neg notNegative]
    exact .perform_end fun _ => ⟨_, rfl, decremented⟩
  · exact ⟨_, rfl, decremented⟩

end Operations

section Functions

variable
    {lock : SocketLock}
    {count : Nat}

/-- Nothing is run behind `ForceClose`. -/
theorem forceClose_mirrors
    {related : α → SocketLock → β → Prop}
    {after : SocketMessage → LockAction Worker α}
    {after' : SocketMessage → SocketAction Worker β} :
    Mirrors related (forceClose >>= after) lock
      (SkynetCpp.forceClose count >>= after') :=
  .throw_crash

/-- Code that does not touch the lock object. -/
theorem perform_mirrors
    (program : SocketAction Worker α)
    (counted : lock.count = count) :
    Mirrors (SameCount count) (perform program : LockAction Worker α) lock
      program := by
  apply (Mirrors.perform program).mono
  rintro result lock' other ⟨rfl, rfl⟩
  exact ⟨rfl, counted⟩

/-- The owner of the lock leaves it, and is done. -/
theorem unlock_mirrors
    {result : α}
    (counted : lock.count = 1) :
    Mirrors (SameCount 0)
      (do socketUnlock; return result : LockAction Worker α) lock
      (do SkynetCpp.socketUnlock 1; return result) := by
  apply Mirrors.bind (socketUnlock_mirrors counted Nat.one_pos)
  intro _ left _ isLeft
  exact .pure ⟨rfl, isLeft⟩

/-- What is done under a lock that was tried for, and what without it. -/
theorem tried_mirrors
    {action : LockAction Worker Bool}
    {program : SocketAction Worker Bool}
    {entered refused : LockAction Worker α}
    {entered' refused' : SocketAction Worker α}
    (tries :
      Mirrors
        (fun result (lock' : SocketLock) locked =>
          result = locked ∧ lock'.count = if locked then 1 else 0)
        action lock program)
    (onEntered :
      ∀ {lock' : SocketLock}, lock'.count = 1 →
        Mirrors (SameCount 0) entered lock' entered')
    (onRefused :
      ∀ {lock' : SocketLock}, lock'.count = 0 →
        Mirrors (SameCount 0) refused lock' refused') :
    Mirrors (SameCount 0)
      (do if ← action then entered else refused) lock
      (do if ← program then entered' else refused') := by
  apply Mirrors.bind tries
  rintro locked lock' _ ⟨rfl, counted⟩
  cases locked with
  | true =>
      exact onEntered counted
  | false =>
      exact onRefused counted

theorem closeWrite_mirrors
    (counted : lock.count = count) :
    Mirrors (SameCount count)
      (closeWrite : LockAction Worker Outcome) lock
      (SkynetCpp.closeWrite count) := by
  refine .perform_bind fun closing => ?_
  refine .ite .rfl (fun _ => forceClose_mirrors) fun _ => ?_
  refine .perform_bind fun t => ?_
  refine .ite .rfl (fun _ => forceClose_mirrors) fun _ => ?_
  refine .ite .rfl (fun _ => ?_) fun _ => ?_
  · exact .perform_bind fun message => .pure ⟨rfl, counted⟩
  · refine .perform_bind fun _ => .perform_bind fun _ => ?_
    exact perform_mirrors _ counted

theorem sendListTCPLoop_mirrors
    (priority : Priority)
    (counted : lock.count = count)
    (nodes : Nat) :
    Mirrors (SameCount count)
      (sendListTCPLoop priority nodes : LockAction Worker Outcome) lock
      (SkynetCpp.sendListTCPLoop priority count nodes) := by
  induction nodes with
  | zero =>
      exact .pure ⟨rfl, counted⟩
  | succ nodes inductionHypothesis =>
      refine .perform_bind fun written => ?_
      cases written with
      | empty =>
          exact .pure ⟨rfl, counted⟩
      | all =>
          exact inductionHypothesis
      | part =>
          exact .pure ⟨rfl, counted⟩
      | failed =>
          exact closeWrite_mirrors counted

theorem sendList_mirrors
    (priority : Priority)
    (counted : lock.count = count) :
    Mirrors (SameCount count)
      (sendList priority : LockAction Worker Outcome) lock
      (SkynetCpp.sendList priority count) := by
  refine .perform_bind fun protocol => .ite .rfl (fun _ => ?_) fun _ => ?_
  · exact .perform_bind (sendListTCPLoop_mirrors priority counted)
  · exact perform_mirrors _ counted

theorem sentBuffer_mirrors
    (counted : lock.count = count) :
    Mirrors (SameCount count)
      (sentBuffer : LockAction Worker Outcome) lock
      (SkynetCpp.sentBuffer count) := by
  refine .perform_bind fun empty => assert_mirrors (.perform_bind fun closing => ?_)
  refine .ite .rfl (fun _ => forceClose_mirrors) fun _ => ?_
  refine .perform_bind fun failed => .ite .rfl (fun _ => ?_) fun _ => ?_
  · exact perform_mirrors _ counted
  refine .perform_bind fun warn_size => .ite .rfl (fun _ => ?_) fun _ => ?_
  · exact .perform_bind fun _ => nullData_mirrors
  · exact .pure ⟨rfl, counted⟩

theorem afterList_mirrors
    {rest : LockAction Worker Outcome}
    {rest' : SocketAction Worker Outcome}
    (priority : Priority)
    (counted : lock.count = count)
    (restMirrors :
      ∀ {lock' : SocketLock}, lock'.count = count →
        Mirrors (SameCount count) rest lock' rest') :
    Mirrors (SameCount count)
      (do afterList (← sendList priority) rest : LockAction Worker Outcome)
      lock
      (do SkynetCpp.afterList (← SkynetCpp.sendList priority count) rest') := by
  apply Mirrors.bind (sendList_mirrors priority counted)
  rintro outcome lock' _ ⟨rfl, counted'⟩
  cases outcome with
  | none =>
      exact restMirrors counted'
  | some reported =>
      obtain ⟨report, message⟩ := reported
      cases report <;> exact .pure ⟨rfl, counted'⟩

theorem sentLow_mirrors
    (counted : lock.count = count) :
    Mirrors (SameCount count)
      (sentLow : LockAction Worker Outcome) lock
      (SkynetCpp.sentLow count) := by
  refine .perform_bind fun uncomplete => .ite .rfl (fun _ => ?_) fun _ => ?_
  · have raised :
        Mirrors (SameCount count)
          (raiseUncomplete : LockAction Worker Unit) lock
          SkynetCpp.raiseUncomplete :=
      .perform_bind fun empty => assert_mirrors (perform_mirrors _ counted)
    apply Mirrors.bind raised
    rintro _ lock' _ ⟨-, counted'⟩
    exact .pure ⟨rfl, counted'⟩
  refine .perform_bind fun empty => .ite .rfl (fun _ => ?_) fun _ => ?_
  · exact sentBuffer_mirrors counted
  · exact .pure ⟨rfl, counted⟩

theorem sentHigh_mirrors
    (counted : lock.count = count) :
    Mirrors (SameCount count)
      (sentHigh : LockAction Worker Outcome) lock
      (SkynetCpp.sentHigh count) := by
  refine .perform_bind fun empty => .ite .rfl (fun _ => ?_) fun _ => ?_
  · refine .perform_bind fun emptyLow => .ite .rfl (fun _ => ?_) fun _ => ?_
    · exact sentBuffer_mirrors counted
    · exact afterList_mirrors .low counted sentLow_mirrors
  · exact .pure ⟨rfl, counted⟩

theorem sendBuffer_steps
    (counted : lock.count = count) :
    Mirrors (SameCount count)
      (sendBuffer_ : LockAction Worker Outcome) lock
      (SkynetCpp.sendBuffer_ count) := by
  refine .perform_bind fun uncomplete => assert_mirrors ?_
  exact afterList_mirrors .high counted sentHigh_mirrors

theorem sendBuffer_mirrors
    (counted : lock.count = 0) :
    Mirrors (SameCount 0)
      (sendBuffer : LockAction Worker Outcome) lock SkynetCpp.sendBuffer := by
  refine tried_mirrors (socketTrylock_mirrors .socketThread counted) ?_
    fun refused => .pure ⟨rfl, refused⟩
  intro lock' entered
  refine .perform_bind fun _ => ?_
  apply Mirrors.bind (sendBuffer_steps entered)
  rintro r held _ ⟨rfl, isHeld⟩
  exact unlock_mirrors isHeld

end Functions

section Events

variable {lock : SocketLock}

/-- Nothing is run behind `CloseRead`. -/
theorem closeRead_mirrors
    {related : α → SocketLock → β → Prop}
    {after : SocketMessage → LockAction Worker α}
    {after' : SocketMessage → SocketAction Worker β} :
    Mirrors related (closeRead >>= after) lock
      (SkynetCpp.closeRead >>= after') := by
  have crashes :
      Mirrors (fun _ _ _ => False) (closeRead : LockAction Worker _) lock
        SkynetCpp.closeRead :=
    .perform_bind fun _ => .perform_bind fun _ => nullData_mirrors
  exact Mirrors.bind crashes fun _ _ _ => False.elim

theorem closeFound_mirrors
    (shutdown : Int32)
    (counted : lock.count = 0) :
    Mirrors (SameCount 0)
      (closeFound shutdown : LockAction Worker Outcome) lock
      (SkynetCpp.closeFound shutdown) := by
  refine .perform_bind fun shutdown_read => .perform_bind fun nothing => ?_
  refine .ite .rfl (fun _ => forceClose_mirrors) fun _ => ?_
  refine .perform_bind fun _ => .ite .rfl (fun _ => ?_) fun _ => ?_
  · exact .pure ⟨rfl, counted⟩
  · exact closeRead_mirrors

theorem closeSocket_mirrors
    (id shutdown : Int32)
    (counted : lock.count = 0) :
    Mirrors (SameCount 0)
      (closeSocket id shutdown : LockAction Worker Outcome) lock
      (SkynetCpp.closeSocket id shutdown) := by
  refine .perform_bind fun gone => ?_
  exact .ite .rfl (fun _ => .pure ⟨rfl, counted⟩) fun _ =>
    closeFound_mirrors shutdown counted

theorem getReadSize_mirrors
    (counted : lock.count = 0) :
    Mirrors (SameCount 0)
      (getReadSize : LockAction Worker Int32) lock SkynetCpp.getReadSize := by
  refine .perform_bind fun p => ?_
  cases p with
  | size sz =>
      exact .pure ⟨rfl, counted⟩
  | udpAddress address =>
      exact .throw fun _ _ => if_neg id

theorem forwardEnd_mirrors
    (counted : lock.count = 0) :
    Mirrors (SameCount 0)
      (forwardEnd : LockAction Worker Outcome) lock
      (SkynetCpp.forwardEnd 0) := by
  refine .perform_bind fun _ => .perform_bind fun closing => ?_
  refine .ite .rfl (fun _ => ?_) fun _ => ?_
  · refine .perform_bind fun nothing => .ite .rfl (fun _ => ?_) fun _ => ?_
    · exact forceClose_mirrors
    · exact .pure ⟨rfl, counted⟩
  refine .perform_bind fun t => ?_
  refine .ite .rfl (fun _ => .pure ⟨rfl, counted⟩) fun _ => ?_
  exact .ite .rfl (fun _ => forceClose_mirrors) fun _ => closeRead_mirrors

theorem forwardMessageTCP_mirrors
    (counted : lock.count = 0) :
    Mirrors (SameCount 0)
      (forwardMessageTCP : LockAction Worker Outcome) lock
      (SkynetCpp.forwardMessageTCP 0) := by
  apply Mirrors.bind (getReadSize_mirrors counted)
  rintro sz lock' _ ⟨rfl, counted'⟩
  refine .perform_bind fun read => .ite .rfl (fun _ => ?_) fun _ => ?_
  · refine .ite .rfl (fun _ => .pure ⟨rfl, counted'⟩) fun _ => ?_
    exact perform_mirrors _ counted'
  · exact .ite .rfl (fun _ => forwardEnd_mirrors counted') fun _ =>
      perform_mirrors _ counted'

theorem closeOnError_mirrors
    (text : String) :
    Mirrors (SameCount 0)
      (closeOnError text : LockAction Worker Outcome) lock
      (SkynetCpp.closeOnError 0 text) :=
  forceClose_mirrors

theorem forwardMessageUDP_mirrors
    (counted : lock.count = 0) :
    Mirrors (SameCount 0)
      (forwardMessageUDP : LockAction Worker Outcome) lock
      (SkynetCpp.forwardMessageUDP 0) := by
  refine .perform_bind fun read => .ite .rfl (fun _ => ?_) fun _ => ?_
  · refine .ite .rfl (fun _ => .pure ⟨rfl, counted⟩) fun _ => ?_
    exact .perform_bind fun text => closeOnError_mirrors text
  refine .perform_bind fun protocol => ?_
  refine .ite .rfl (fun _ => .pure ⟨rfl, counted⟩) fun _ => ?_
  exact .perform_bind fun message => .pure ⟨rfl, counted⟩

theorem reportConnect_mirrors
    (counted : lock.count = 0) :
    Mirrors (SameCount 0)
      (reportConnect : LockAction Worker Outcome) lock
      SkynetCpp.reportConnect := by
  refine .perform_bind fun status => .ite .rfl (fun _ => ?_) fun _ => ?_
  · exact .perform_bind fun text => closeOnError_mirrors text
  refine .perform_bind fun _ => .perform_bind fun message => ?_
  refine .perform_bind fun failed => .ite .rfl (fun _ => ?_) fun _ => ?_
  · exact closeOnError_mirrors _
  refine .perform_bind fun text => ?_
  cases text with
  | some text =>
      exact .pure ⟨rfl, counted⟩
  | none =>
      exact nullData_mirrors

theorem pollEof_mirrors :
    Mirrors (SameCount 0)
      (pollEof : LockAction Worker Outcome) lock SkynetCpp.pollEof :=
  .perform_bind fun _ => forceClose_mirrors

end Events

section Calls

variable
    {lock : SocketLock}
    {count : Nat}

theorem getUdpAddress_mirrors
    (counted : lock.count = count) :
    Mirrors (SameCount count)
      (getUdpAddress : LockAction Worker (List UInt8)) lock
      SkynetCpp.getUdpAddress := by
  refine .perform_bind fun p => .modify_bind ?_
  cases p with
  | size size =>
      exact .throw fun _ _ => if_neg id
  | udpAddress address =>
      exact .pure ⟨rfl, counted⟩

theorem writeDirectly_mirrors
    (buffer : SocketSendbuffer)
    (counted : lock.count = count) :
    Mirrors (SameCount count)
      (writeDirectly buffer : LockAction Worker (Option Bool)) lock
      (SkynetCpp.writeDirectly buffer) := by
  refine .perform_bind fun protocol => .ite .rfl (fun _ => ?_) fun _ => ?_
  · exact .perform_bind fun left => .pure ⟨rfl, counted⟩
  apply Mirrors.bind (getUdpAddress_mirrors counted)
  rintro address lock' _ ⟨rfl, counted'⟩
  exact perform_mirrors _ counted'

/-- Entering the lock of a socket that can be written to directly. -/
theorem tryDirect_mirrors
    (caller : Caller Worker)
    (id : Int32)
    (counted : lock.count = 0) :
    Mirrors
      (fun result (lock' : SocketLock) locked =>
        result = locked ∧ lock'.count = if locked then 1 else 0)
      (tryDirect caller id) lock
      (canDirectWrite id <&&> SkynetCpp.socketTrylock caller) := by
  refine .perform_bind fun able => ?_
  cases able with
  | true =>
      exact socketTrylock_mirrors caller counted
  | false =>
      exact .pure ⟨rfl, counted⟩

theorem sendDirect_mirrors
    (caller : Caller Worker)
    (buffer : SocketSendbuffer)
    (counted : lock.count = 0) :
    Mirrors (SameCount 0) (sendDirect caller buffer) lock
      (SkynetCpp.sendDirect caller buffer) := by
  refine tried_mirrors (tryDirect_mirrors caller buffer.id counted) ?_
    fun refused => .pure ⟨rfl, refused⟩
  intro lock' entered
  refine .perform_bind fun able => .ite .rfl (fun _ => ?_) fun _ => ?_
  · apply Mirrors.bind (writeDirectly_mirrors buffer entered)
    rintro left held _ ⟨rfl, isHeld⟩
    cases left with
    | none =>
        exact unlock_mirrors isHeld
    | some left =>
        exact unlock_mirrors isHeld
  · exact unlock_mirrors entered

theorem udpSendDirect_mirrors
    (caller : Caller Worker)
    (addr : List UInt8)
    (id : Int32)
    (counted : lock.count = 0) :
    Mirrors (SameCount 0) (udpSendDirect caller addr id) lock
      (SkynetCpp.udpSendDirect caller addr id) :=
  tried_mirrors (tryDirect_mirrors caller id counted)
    (fun entered => .perform_bind fun _ => unlock_mirrors entered)
    fun refused => .pure ⟨rfl, refused⟩

theorem countConnect_mirrors
    (caller : Caller Worker)
    (id : Int32)
    (counted : lock.count = 0) :
    Mirrors (SameCount 0) (countConnect caller id) lock
      (SkynetCpp.countConnect caller id) := by
  refine .perform_bind fun gone => ?_
  refine .ite .rfl (fun _ => .pure ⟨rfl, counted⟩) fun _ => ?_
  apply Mirrors.bind (socketLock_mirrors caller counted)
  rintro _ lock' _ ⟨rfl, entered⟩
  refine .perform_bind fun goneNow => .ite .rfl (fun _ => ?_) fun _ => ?_
  · exact unlock_mirrors entered
  · exact .perform_bind fun _ => unlock_mirrors entered

/-- Code on the server that does not touch the lock object. -/
theorem perform_mirrors_server
    (program : ServerAction Worker α)
    (counted : lock.count = count) :
    Mirrors (SameCount count) (perform program : LockServerAction Worker α)
      lock program := by
  apply (Mirrors.perform program).mono
  rintro result lock' other ⟨rfl, rfl⟩
  exact ⟨rfl, counted⟩

theorem Send_mirrors
    (caller : Caller Worker)
    (buffer : SocketSendbuffer)
    (counted : lock.count = 0) :
    Mirrors (SameCount 0) (Send caller buffer) lock
      (SkynetCpp.Send caller buffer) := by
  refine .perform_bind fun refused => ?_
  refine .ite .rfl (fun _ => .pure ⟨rfl, counted⟩) fun _ => ?_
  apply Mirrors.bind ((sendDirect_mirrors caller buffer counted).zoom _ _)
  rintro direct lock' _ ⟨rfl, counted'⟩
  cases direct with
  | no =>
      exact perform_mirrors_server _ counted'
  | nowhere =>
      exact .pure ⟨rfl, counted'⟩
  | written left =>
      cases left with
      | false =>
          exact .pure ⟨rfl, counted'⟩
      | true =>
          exact .perform_bind fun _ => .pure ⟨rfl, counted'⟩

theorem UDPSend_mirrors
    (caller : Caller Worker)
    (addr : List UInt8)
    (buffer : SocketSendbuffer)
    (counted : lock.count = 0) :
    Mirrors (SameCount 0) (UDPSend caller addr buffer) lock
      (SkynetCpp.UDPSend caller addr buffer) := by
  refine .perform_bind fun gone => ?_
  refine .ite .rfl (fun _ => .pure ⟨rfl, counted⟩) fun _ => ?_
  refine .ite .rfl (fun _ => .pure ⟨rfl, counted⟩) fun _ => ?_
  apply Mirrors.bind ((udpSendDirect_mirrors caller addr _ counted).zoom _ _)
  rintro result lock' _ ⟨rfl, counted'⟩
  cases result with
  | some result =>
      exact .pure ⟨rfl, counted'⟩
  | none =>
      exact .perform_bind fun _ => .pure ⟨rfl, counted'⟩

theorem UDPConnect_mirrors
    (caller : Caller Worker)
    (id : Int32)
    (counted : lock.count = 0) :
    Mirrors (SameCount 0) (UDPConnect caller id) lock
      (SkynetCpp.UDPConnect caller id) := by
  apply Mirrors.bind ((countConnect_mirrors caller id counted).zoom _ _)
  rintro found lock' _ ⟨rfl, counted'⟩
  refine .ite .rfl (fun _ => ?_) fun _ => .pure ⟨rfl, counted'⟩
  refine .perform_bind fun resolved => ?_
  refine .ite .rfl (fun _ => .pure ⟨rfl, counted'⟩) fun _ => ?_
  refine .ite .rfl (fun _ => .pure ⟨rfl, counted'⟩) fun _ => ?_
  exact .perform_bind fun _ => .pure ⟨rfl, counted'⟩

end Calls

section Operation

/-- The code of an operation that is given the count alone. -/
def serve
    (caller : Caller Worker)
    (k : Nat) : Operation → ServerAction Worker Unit
  | .sendBuffer => do
      let _ ← SkynetCpp.atSlot k SkynetCpp.sendBuffer
  | .closeSocket id shutdown => do
      let _ ← SkynetCpp.atSlot (hashId id) (SkynetCpp.closeSocket id shutdown)
  | .forwardMessageTCP => do
      let _ ← SkynetCpp.atSlot k (SkynetCpp.forwardMessageTCP 0)
  | .forwardMessageUDP => do
      let _ ← SkynetCpp.atSlot k (SkynetCpp.forwardMessageUDP 0)
  | .reportConnect => do
      let _ ← SkynetCpp.atSlot k SkynetCpp.reportConnect
  | .pollEof => do
      let _ ← SkynetCpp.atSlot k SkynetCpp.pollEof
  | .send buffer => do
      let _ ← SkynetCpp.Send caller buffer
  | .udpSend addr buffer => do
      let _ ← SkynetCpp.UDPSend caller addr buffer
  | .udpConnect id => do
      let _ ← SkynetCpp.UDPConnect caller id

theorem discard_mirrors
    {action : LockServerAction Worker α}
    {program : ServerAction Worker α}
    {lock : SocketLock}
    (mirrors : Mirrors (SameCount 0) action lock program) :
    Mirrors (SameCount 0)
      (do let _ ← action : LockServerAction Worker Unit) lock
      (do let _ ← program) := by
  apply Mirrors.bind mirrors
  rintro result lock' _ ⟨rfl, counted⟩
  exact .pure ⟨rfl, counted⟩

theorem onSlot_mirrors
    {action : LockAction Worker α}
    {program : SocketAction Worker α}
    {lock : SocketLock}
    (k : Nat)
    (mirrors : Mirrors (SameCount 0) action lock program) :
    Mirrors (SameCount 0) (onSlot k action) lock
      (do let _ ← SkynetCpp.atSlot k program) :=
  discard_mirrors (mirrors.zoom _ _)

/-- The operations take the steps of the server's functions. -/
theorem operate_mirrors
    (caller : Caller Worker)
    (k : Nat)
    (operation : Operation) :
    Mirrors (SameCount 0) (operate caller k operation) init
      (serve caller k operation) := by
  cases operation with
  | sendBuffer =>
      exact onSlot_mirrors k (sendBuffer_mirrors rfl)
  | closeSocket id shutdown =>
      exact onSlot_mirrors (hashId id) (closeSocket_mirrors id shutdown rfl)
  | forwardMessageTCP =>
      exact onSlot_mirrors k (forwardMessageTCP_mirrors rfl)
  | forwardMessageUDP =>
      exact onSlot_mirrors k (forwardMessageUDP_mirrors rfl)
  | reportConnect =>
      exact onSlot_mirrors k (reportConnect_mirrors rfl)
  | pollEof =>
      exact onSlot_mirrors k pollEof_mirrors
  | send buffer =>
      exact discard_mirrors (Send_mirrors caller buffer rfl)
  | udpSend addr buffer =>
      exact discard_mirrors (UDPSend_mirrors caller addr buffer rfl)
  | udpConnect id =>
      exact discard_mirrors (UDPConnect_mirrors caller id rfl)

/-- An operation returns with a lock object where the server's function does. -/
theorem serve_ends_iff
    {caller : Caller Worker}
    {k : Nat}
    {operation : Operation} :
    (serve caller k operation).Ends () ↔
      ∃ lock : SocketLock,
        ((operate caller k operation).start init).Ends (.ok (), lock) := by
  have mirrors := operate_mirrors caller k operation
  constructor
  · intro way
    obtain ⟨⟨ending, lock⟩, ends, result, isResult, -⟩ := mirrors.ends_first way
    cases isResult
    exact ⟨lock, ends⟩
  · rintro ⟨lock, way⟩
    rcases mirrors.ends_second way with ⟨stop, isStop⟩ | ⟨other, ends, -⟩
    · cases isStop
    · exact ends

end Operation

end SocketLock

end SkynetCpp
