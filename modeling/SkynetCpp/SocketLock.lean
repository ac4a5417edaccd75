import SkynetCpp.Foundation.Routine
import SkynetCpp.SocketCalls

namespace SkynetCpp

open Foundation
open Foundation.Routine (perform)

/-!
# The lock objects of sockets

A `struct SocketLock` counts how often its owner has entered the lock of a
socket.  It is handed down to `ForceClose`, which would enter the lock whether
its caller holds it or not.  Here the functions that have such an object run
with it; the functions of the server are given the count alone.
-/

/-- What happens to a lock object, and by it to the lock of the socket. -/
inductive LockEvent where
  /-- The lock of the socket was acquired. -/
  | acquired
  /-- The count went up. -/
  | entered (count : Int)
  /-- The count went down. -/
  | left (count : Int)
  /-- The lock of the socket was released. -/
  | released
  deriving Repr, DecidableEq

/-- The count that an event leaves. -/
def LockEvent.count? : LockEvent → Option Int
  | .entered count => some count
  | .left count => some count
  | .acquired | .released => none

/--
`struct SocketLock`, for a given socket.  The last fields record what happened
to it, and what `p` was when an address was fetched from it; the source has no
such fields and never reads them.
-/
structure SocketLock where
  count : Int
  events : List LockEvent
  fetched : List SocketParameter
  deriving Repr, DecidableEq

/-- Why a function does not return. -/
inductive SocketStop where
  /-- An exception leaves it. -/
  | thrown
  /-- The process ends: a failed assertion, or a use of a bad pointer. -/
  | aborted
  deriving Repr, DecidableEq

variable {Worker α β : Type}

/-- Code on a socket with a lock object. -/
abbrev LockAction (Worker α : Type) :=
  Routine SocketStop SocketLock (SocketView Worker) OsAnswer α

/-- Code on the server with a lock object. -/
abbrev LockServerAction (Worker α : Type) :=
  Routine SocketStop SocketLock (SocketServer Worker) OsAnswer α

/-- How code with a lock object ends. -/
abbrev LockEnding (α : Type) := Except SocketStop α

namespace SocketLock

/-- `SocketLockInit`. -/
def init : SocketLock where
  count := 0
  events := []
  fetched := []

section Operations

/-- Record what happened. -/
def note
    (event : LockEvent)
    (lock : SocketLock) : SocketLock :=
  { lock with events := lock.events ++ [event] }

/-- `++socket_lock.count`. -/
def increment (lock : SocketLock) : SocketLock :=
  { lock with count := lock.count + 1 }.note (.entered (lock.count + 1))

/-- `--socket_lock.count`. -/
def decrement (lock : SocketLock) : SocketLock :=
  { lock with count := lock.count - 1 }.note (.left (lock.count - 1))

/-- Record what `p` was when an address was fetched from it. -/
def fetch
    (p : SocketParameter)
    (lock : SocketLock) : SocketLock :=
  { lock with fetched := p :: lock.fetched }

/-- An assertion. -/
def assert
    (condition : Prop)
    [Decidable condition] : LockAction Worker Unit :=
  if condition then perform (.check condition) else throw .aborted

/-- `data = nullptr`: a string from a null pointer, which ends the process. -/
def nullData : LockAction Worker MessageData :=
  throw .aborted

/-- `spinlock_lock`, which waits for the lock. -/
def spinlockLock (caller : Caller Worker) : SocketAction Worker Unit :=
  .attempt (fun _ => ()) fun v =>
    if v.sock.dw_lock.isNone then
      some { v with sock := { v.sock with dw_lock := some caller } }
    else none

/-- `spinlock_trylock`. -/
def spinlockTrylock (caller : Caller Worker) : SocketAction Worker Bool :=
  .act (fun _ v => v.sock.dw_lock.isNone) fun _ v =>
    if v.sock.dw_lock.isNone then
      { v with sock := { v.sock with dw_lock := some caller } }
    else v

/-- `spinlock_unlock`. -/
def spinlockUnlock : SocketAction Worker Unit :=
  store ({ · with dw_lock := none })

/-- `SocketLock`. -/
def socketLock (caller : Caller Worker) : LockAction Worker Unit := do
  if (← get).count = 0 then
    perform (spinlockLock caller)
    modify (note .acquired)
  modify increment

/-- `SocketTrylock`: whether it succeeded. -/
def socketTrylock (caller : Caller Worker) : LockAction Worker Bool := do
  if (← get).count = 0 then
    if !(← perform (spinlockTrylock caller)) then return false
    modify (note .acquired)
  modify increment
  return true

/-- `SocketUnlock`. -/
def socketUnlock : LockAction Worker Unit := do
  modify decrement
  if (← get).count ≤ 0 then
    if (← get).count ≠ 0 then throw .aborted
    perform spinlockUnlock
    modify (note .released)

end Operations

section Close

/-- `ForceClose` closes the descriptor and makes the slot invalid. -/
def closeDescriptor : SocketAction Worker Unit :=
  .act (fun _ _ => ()) fun _ v =>
    { v with
      sock := { v.sock with type := .kSocketTypeInvalid }
      notes := [.forceClosed] }

/-- `ForceClose`. -/
def forceClose : LockAction Worker SocketMessage := do
  let message ← perform (socketMessage 0 (← nullData))
  let type ← perform (load (·.type))
  if type = .kSocketTypeInvalid then return message
  assert (type ≠ .kSocketTypeReserve)
  perform (store ({ · with high := [], low := [] }))
  socketLock .socketThread
  perform closeDescriptor
  perform (store ({ · with dw_buffer := none }))
  socketUnlock
  return message

/-- `CloseWrite`. -/
def closeWrite : LockAction Worker Outcome := do
  if ← perform (load (·.closing)) then
    return some (.kSocketRst, ← forceClose)
  let t ← perform (load (·.type))
  if t = .kSocketTypeHalfCloseRead then
    return some (.kSocketRst, ← forceClose)
  if t = .kSocketTypeHalfCloseWrite then
    -- the message is left as it was, and nobody reads it
    return some (.kSocketRst, ← perform (socketMessage 0 (.text "")))
  perform (store ({ · with type := .kSocketTypeHalfCloseWrite }))
  let _ ← perform (enableWrite false)
  perform (do reportError (← strerror))

end Close

section SendBuffer

/-- The loop of `SendListTCP`, over so many nodes. -/
def sendListTCPLoop
    (priority : Priority) : Nat → LockAction Worker Outcome
  | 0 => return none
  | nodes + 1 => do
      match ← perform (writeHead priority) with
      | .empty => return none
      | .part => return none
      | .failed => closeWrite
      | .all => sendListTCPLoop priority nodes

/-- `SendListTCP`. -/
def sendListTCP (priority : Priority) : LockAction Worker Outcome := do
  sendListTCPLoop priority
    (← perform (load fun sock => (sock.list priority).length))

/-- `SendList`. -/
def sendList (priority : Priority) : LockAction Worker Outcome := do
  if (← perform (load (·.protocol))) = .TCP then
    sendListTCP priority
  else
    perform (sendListUDP priority)

/-- `RaiseUncomplete`. -/
def raiseUncomplete : LockAction Worker Unit := do
  assert (← perform (load (·.high.isEmpty)))
  perform (store fun sock =>
    { sock with high := sock.low.take 1, low := sock.low.drop 1 })

/-- `SendBuffer_` after both lists were sent. -/
def sentBuffer : LockAction Worker Outcome := do
  assert
    (← perform (load fun sock =>
      sock.high.isEmpty && sock.low.isEmpty && sock.wb_size == 0))
  if ← perform (load (·.closing)) then
    let _ ← forceClose
    return none
  if ← perform (enableWrite false) then
    return ← perform (reportError "disable write failed")
  if 0 < (← perform (load (·.warn_size))) then
    perform (store ({ · with warn_size := 0 }))
    return some
      (.kSocketWarning, ← perform (socketMessage 0 (← nullData)))
  return none

/-- `SendBuffer_` goes on after `SendList`, unless there was an error. -/
def afterList
    (outcome : Outcome)
    (rest : LockAction Worker Outcome) : LockAction Worker Outcome :=
  match outcome with
  | some (.kSocketErr, message) => return some (.kSocketErr, message)
  | some _ => return none
  | none => rest

/-- `SendBuffer_` after the low list was sent as far as possible. -/
def sentLow : LockAction Worker Outcome := do
  if ← perform (listUncomplete .low) then
    raiseUncomplete
    return none
  if ← perform (load (·.low.isEmpty)) then
    sentBuffer
  else
    return none

/-- `SendBuffer_` after the high list was sent as far as possible. -/
def sentHigh : LockAction Worker Outcome := do
  if ← perform (load (·.high.isEmpty)) then
    if ← perform (load (·.low.isEmpty)) then
      sentBuffer
    else
      afterList (← sendList .low) sentLow
  else
    return none

/-- `SendBuffer_`. -/
def sendBuffer_ : LockAction Worker Outcome := do
  assert (!(← perform (listUncomplete .low)))
  afterList (← sendList .high) sentHigh

/-- `SendBuffer`. -/
def sendBuffer : LockAction Worker Outcome := do
  if ← socketTrylock .socketThread then
    perform (store raiseDirect)
    let r ← sendBuffer_
    socketUnlock
    return r
  else
    return none

end SendBuffer

section Events

/-- `CloseRead`. -/
def closeRead : LockAction Worker SocketMessage := do
  perform (storeType .kSocketTypeHalfCloseRead)
  let _ ← perform (enableRead false)
  perform (socketMessage 0 (← nullData))

/-- `CloseSocket` of a socket that is there. -/
def closeFound (shutdown : Int32) : LockAction Worker Outcome := do
  let shutdown_read ← perform halfcloseRead
  let nothingToSend : Bool ←
    perform (pure (shutdown ≠ 0) <||> nomoreSendingData)
  if nothingToSend then
    let message ← forceClose
    return if shutdown_read then none else some (.kSocketClose, message)
  perform (store ({ · with closing := true }))
  if shutdown_read then
    return none
  else
    return some (.kSocketClose, ← closeRead)

/-- `CloseSocket`, on the slot of the request. -/
def closeSocket (id shutdown : Int32) : LockAction Worker Outcome := do
  if ← perform (socketInvalid id) then return none
  closeFound shutdown

/-- `std::get<int>(sock.p)`, which may throw. -/
def getReadSize : LockAction Worker Int32 := do
  match ← perform (load (·.p)) with
  | .size sz => return sz
  | .udpAddress _ => throw .thrown

/-- `ForwardMessageTCP` at the end of the stream. -/
def forwardEnd : LockAction Worker Outcome := do
  -- `delete buffer`, which is not set here
  perform useUnset
  if ← perform (load (·.closing)) then
    if ← perform nomoreSendingData then
      let _ ← forceClose
    return none
  let t ← perform (load (·.type))
  if t = .kSocketTypeHalfCloseRead then return none
  if t = .kSocketTypeHalfCloseWrite then
    return some (.kSocketClose, ← forceClose)
  else
    return some (.kSocketClose, ← closeRead)

/-- `ForwardMessageTCP`. -/
def forwardMessageTCP : LockAction Worker Outcome := do
  let sz ← getReadSize
  let (n, errno, bytes) ←
    perform (answer fun input => (input.number, input.errno, input.bytes))
  if n < 0 then
    if errno = .EINTR ∨ errno = .AGAIN_WOULDBLOCK then return none
    return ← perform (do reportError (← strerror))
  if n = 0 then return ← forwardEnd
  perform (forwardData sz n bytes)

/-- A close on an error, which is reported. -/
def closeOnError (text : String) : LockAction Worker Outcome := do
  let message ← forceClose
  return some (.kSocketErr, { message with data := .text text })

/-- `ForwardMessageUDP`. -/
def forwardMessageUDP : LockAction Worker Outcome := do
  let (n, errno, isV4, bytes) ←
    perform (answer fun input =>
      (input.number, input.errno, input.flag, input.bytes))
  if n < 0 then
    if errno = .EINTR ∨ errno = .AGAIN_WOULDBLOCK then return none
    return ← closeOnError (← perform strerror)
  if (← perform (load (·.protocol))) ≠ (if isV4 then .UDP else .UDPv6) then
    return none
  return some (.kSocketUDP, ← perform (socketMessage n (.bytes bytes)))

/-- `ReportConnect` of a socket that is connected. -/
def reportConnected : LockAction Worker Outcome := do
  perform (storeType .kSocketTypeConnected)
  -- the data is filled in below
  let message ← perform (socketMessage 0 (.text ""))
  let failed : Bool ← perform (nomoreSendingData <&&> enableWrite false)
  if failed then
    return ← closeOnError "disable write failed"
  match ← perform (answer (·.text)) with
  | some text => return some (.kSocketOpen, { message with data := .text text })
  | none => return some (.kSocketOpen, { message with data := ← nullData })

/-- `ReportConnect`. -/
def reportConnect : LockAction Worker Outcome := do
  let (code, error) ←
    perform (answer fun input => (input.result, input.error))
  if code < 0 ∨ error ≠ 0 then
    closeOnError (← perform strerror)
  else
    reportConnected

/-- `Poll` on the eof flag of an event. -/
def pollEof : LockAction Worker Outcome := do
  let halfclose ← perform halfcloseRead
  let message ← forceClose
  return if halfclose then none else some (.kSocketClose, message)

end Events

section Calls

/--
`std::get<uint8_t[kUdpAddressSize]>(sock->p)`, which throws when `p` holds a
size.
-/
def getUdpAddress : LockAction Worker (List UInt8) := do
  let p ← perform (load (·.p))
  modify (fetch p)
  match p with
  | .udpAddress address => return address
  | .size _ => throw .thrown

/-- `Send` of a datagram once it may write directly; `none` has no address. -/
def directSend
    (buffer : SocketSendbuffer) : LockAction Worker (Option Bool) := do
  let address ← getUdpAddress
  perform do
    if udpSocketAddress (← load (·.protocol)) address = 0 then return none
    let n ← answer (·.result)
    if n.toNat = buffer.sz.toNat then return some false
    store ({ · with
      dw_buffer := (cloneBuffer buffer).1
      dw_size := (cloneBuffer buffer).2.toNat
      dw_offset := n.toNat })
    return some true

/-- `Send` under the lock, once the second check succeeded. -/
def writeDirectly
    (buffer : SocketSendbuffer) : LockAction Worker (Option Bool) := do
  if (← perform (load (·.protocol))) = .TCP then
    return some (← perform (directWrite buffer))
  else
    directSend buffer

/-- Enter the lock of a socket that can be written to directly. -/
def tryDirect
    (caller : Caller Worker)
    (id : Int32) : LockAction Worker Bool := do
  if ← perform (canDirectWrite id) then
    socketTrylock caller
  else
    return false

/-- `Send` as far as it writes directly, with the lock if it got it. -/
def sendDirect
    (caller : Caller Worker)
    (buffer : SocketSendbuffer) : LockAction Worker Direct := do
  if ← tryDirect caller buffer.id then
    if ← perform (canDirectWrite buffer.id) then
      let left ← writeDirectly buffer
      socketUnlock
      match left with
      | none => return .nowhere
      | some left => return .written left
    else
      socketUnlock
      return .no
  else
    return .no

/-- `SocketServer::UDPSend` as far as it writes directly. -/
def udpSendDirect
    (caller : Caller Worker)
    (addr : List UInt8)
    (id : Int32) : LockAction Worker (Option Int32) := do
  if ← tryDirect caller id then
    let result ← perform (udpSendDirectly addr id)
    socketUnlock
    return result
  else
    return none

/-- `SocketServer::UDPConnect` on the socket: whether there is one. -/
def countConnect
    (caller : Caller Worker)
    (id : Int32) : LockAction Worker Bool := do
  if ← perform (socketInvalid id) then return false
  socketLock caller
  if ← perform (socketInvalid id) then
    socketUnlock
    return false
  perform (store fun sock =>
    { sock with udpconnecting := sock.udpconnecting + 1 })
  socketUnlock
  return true

/-- Code on the socket in a slot. -/
def atSlot
    (k : Nat)
    (action : LockAction Worker α) : LockServerAction Worker α :=
  action.zoom (SocketServer.view k) (SocketServer.put k)

/-- `SocketServer::Send`. -/
def Send
    (caller : Caller Worker)
    (buffer : SocketSendbuffer) : LockServerAction Worker Int32 := do
  let k := hashId buffer.id
  let refused : Bool ←
    perform (SkynetCpp.atSlot k (socketInvalid buffer.id <||> load (·.closing)))
  if refused then return -1
  match ← atSlot k (sendDirect caller buffer) with
  | .no => perform (sendByPipe caller buffer)
  | .nowhere => return -1
  | .written false => return 0
  | .written true =>
      perform (SendRequest caller (.triggerWrite buffer.id))
      return 0

/-- `SocketServer::UDPSend`. -/
def UDPSend
    (caller : Caller Worker)
    (addr : List UInt8)
    (buffer : SocketSendbuffer) : LockServerAction Worker Int32 := do
  let k := hashId buffer.id
  if ← perform (SkynetCpp.atSlot k (socketInvalid buffer.id)) then return -1
  if addr.getD 0 0 ≠ 1 ∧ addr.getD 0 0 ≠ 2 then return -1
  match ← atSlot k (udpSendDirect caller addr buffer.id) with
  | some result => return result
  | none =>
      perform (SendRequest caller
        (.sendUdp (requestSend buffer)
          (addr.take (udpAddressSize (addr.getD 0 0)))))
      return 0

/-- `SocketServer::UDPConnect`; `getaddrinfo` gives the address. -/
def UDPConnect
    (caller : Caller Worker)
    (id : Int32) : LockServerAction Worker Int32 := do
  if ← atSlot (hashId id) (countConnect caller id) then
    let (status, address) ←
      perform (answer fun input => (input.result, input.bytes))
    if status ≠ 0 then return -1
    if address.getD 0 0 ≠ 1 ∧ address.getD 0 0 ≠ 2 then return -1
    perform (SendRequest caller (.setUdp id address))
    return 0
  else
    return -1

end Calls

section Operation

/-- The operations that have a lock object. -/
inductive Operation where
  | sendBuffer
  | closeSocket (id shutdown : Int32)
  | forwardMessageTCP
  | forwardMessageUDP
  | reportConnect
  | pollEof
  | send (buffer : SocketSendbuffer)
  | udpSend (addr : List UInt8) (buffer : SocketSendbuffer)
  | udpConnect (id : Int32)
  deriving Repr, DecidableEq

/-- Run code on a slot for what it does. -/
def onSlot
    (k : Nat)
    (action : LockAction Worker α) : LockServerAction Worker Unit := do
  let _ ← atSlot k action

/-- The code of an operation; `Poll` has an event for the slot. -/
def operate
    (caller : Caller Worker)
    (k : Nat) : Operation → LockServerAction Worker Unit
  | .sendBuffer => onSlot k sendBuffer
  | .closeSocket id shutdown => onSlot (hashId id) (closeSocket id shutdown)
  | .forwardMessageTCP => onSlot k forwardMessageTCP
  | .forwardMessageUDP => onSlot k forwardMessageUDP
  | .reportConnect => onSlot k reportConnect
  | .pollEof => onSlot k pollEof
  | .send buffer => do
      let _ ← Send caller buffer
  | .udpSend addr buffer => do
      let _ ← UDPSend caller addr buffer
  | .udpConnect id => do
      let _ ← UDPConnect caller id

end Operation

end SocketLock

end SkynetCpp
