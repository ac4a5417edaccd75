import SkynetCpp.Foundation.Chains
import SkynetCpp.Foundation.Simulation
import SkynetCpp.SocketBuffers

namespace SkynetCpp

open Foundation

/-!
# The write lists in memory

A write list is a pointer to its first node and one to its last node; the nodes
lie in memory and point to each other.  Here the functions that change the lists
of a TCP socket work on these pointers.  They do what the functions on plain
lists do, as long as `tail` is the last node of a list and no node is in both.
-/

variable {Worker α β : Type}

/--
A socket with its write lists in memory, as the functions see it that are given
one.  Its own lists stay empty; `used` counts the nodes that were allocated.
-/
structure LinkedView (Worker : Type) where
  index : Nat
  sock : Socket Worker
  c_str : Nat → Address
  notes : List SocketNote
  node : Nat → WriteBuffer
  next : Nat → Option Nat
  head : Priority → Option Nat
  tail : Priority → Option Nat
  used : Nat

/-- A piece of code of a thread on a socket with its lists in memory. -/
abbrev LinkedAction (Worker α : Type) := Program (LinkedView Worker) OsAnswer α

namespace LinkedView

/-- The first node of a list, if there is one. -/
def first
    (l : LinkedView Worker)
    (priority : Priority) : List WriteBuffer :=
  ((l.head priority).map l.node).toList

/-- What code sees that looks no further than at the first nodes. -/
def view (l : LinkedView Worker) : SocketView Worker where
  index := l.index
  sock := { l.sock with high := l.first .high, low := l.first .low }
  c_str := l.c_str
  notes := l.notes

/-- Put a socket back, without its lists. -/
def put
    (part : SocketView Worker)
    (l : LinkedView Worker) : LinkedView Worker :=
  { l with
    sock := { part.sock with high := l.sock.high, low := l.sock.low }
    notes := part.notes }

/-- The number of nodes from a pointer on, of so many. -/
def count
    (l : LinkedView Worker) : Nat → Option Nat → Nat
  | 0, _ => 0
  | _ + 1, none => 0
  | nodes + 1, some at_ => l.count nodes (l.next at_) + 1

/-- A new node that points to another one, or to none. -/
def allocate
    (l : LinkedView Worker)
    (node : WriteBuffer)
    (next : Option Nat) : LinkedView Worker :=
  { l with
    node := Function.update l.node l.used node
    next := Function.update l.next l.used next
    used := l.used + 1 }

end LinkedView

/-- Code that looks no further than at the first nodes of the lists. -/
def onSocket (action : SocketAction Worker α) : LinkedAction Worker α :=
  action.zoom LinkedView.view LinkedView.put

namespace Linked

section Close

/-- `FreeWriteBufferList`, of both lists. -/
def freeWriteBufferLists : LinkedAction Worker Unit :=
  .act (fun _ _ => ()) fun _ l =>
    { l with head := fun _ => none, tail := fun _ => none }

/-- `ForceClose`. -/
def forceClose (count : Nat) : LinkedAction Worker SocketMessage := do
  let message ← onSocket (socketMessage 0 (← nullData))
  let type ← onSocket (load (·.type))
  if type = .kSocketTypeInvalid then return message
  .check (type ≠ .kSocketTypeReserve)
  freeWriteBufferLists
  let count ← onSocket (socketLock .socketThread count)
  onSocket <| .act (fun _ _ => ()) fun _ v =>
    { v with
      sock := { v.sock with type := .kSocketTypeInvalid }
      notes := [.forceClosed] }
  onSocket (store ({ · with dw_buffer := none }))
  onSocket (socketUnlock count)
  return message

/-- `CloseWrite`. -/
def closeWrite (count : Nat) : LinkedAction Worker Outcome := do
  if ← onSocket (load (·.closing)) then
    return some (.kSocketRst, ← forceClose count)
  let t ← onSocket (load (·.type))
  if t = .kSocketTypeHalfCloseRead then
    return some (.kSocketRst, ← forceClose count)
  if t = .kSocketTypeHalfCloseWrite then
    -- the message is left as it was, and nobody reads it
    return some (.kSocketRst, ← onSocket (socketMessage 0 (.text "")))
  onSocket (store ({ · with type := .kSocketTypeHalfCloseWrite }))
  let _ ← onSocket (enableWrite false)
  onSocket (do reportError (← strerror))

end Close

section Lists

/--
Bytes of the first node were written.  When the node was the last one, the loop
ends and sets `tail` to null.
-/
def wrote
    (l : LinkedView Worker)
    (priority : Priority)
    (tmp n : Nat) : LinkedView Worker :=
  let counted :=
    { l with
      sock := { l.sock with wb_size := l.sock.wb_size - sizeOfBytes n } }
  if n = (l.node tmp).sz then
    { counted with
      head := Function.update l.head priority (l.next tmp)
      tail :=
        if l.next tmp = none then Function.update l.tail priority none
        else l.tail }
  else
    { counted with
      node := Function.update l.node tmp ((l.node tmp).advance n) }

/-- One round of the loop of `SendListTCP`. -/
def writeHead (priority : Priority) : LinkedAction Worker HeadWritten :=
  .act
    (fun input l =>
      match l.head priority with
      | none => .empty
      | some tmp =>
          if input.result < 0 then
            if input.errno = .AGAIN_WOULDBLOCK then .part else .failed
          else if accepted input (l.node tmp).sz = (l.node tmp).sz then .all
          else .part)
    fun input l =>
      match l.head priority with
      | none => { l with tail := Function.update l.tail priority none }
      | some tmp =>
          if input.result < 0 then
            if input.errno = .AGAIN_WOULDBLOCK then l
            else { l with notes := [.writeFailed] }
          else
            { wrote l priority tmp (accepted input (l.node tmp).sz) with
              notes :=
                [.wrote (l.node tmp).ptr (accepted input (l.node tmp).sz)] }

/-- The loop of `SendListTCP`, over so many nodes. -/
def sendListTCPLoop
    (priority : Priority)
    (count : Nat) : Nat → LinkedAction Worker Outcome
  | 0 => return none
  | nodes + 1 => do
      match ← writeHead priority with
      | .empty => return none
      | .part => return none
      | .failed => closeWrite count
      | .all => sendListTCPLoop priority count nodes

/-- `SendListTCP`. -/
def sendListTCP
    (priority : Priority)
    (count : Nat) : LinkedAction Worker Outcome := do
  sendListTCPLoop priority count
    (← .ask fun _ l => l.count l.used (l.head priority))

/-- `SendList`; the other protocols are not modelled here. -/
def sendList
    (priority : Priority)
    (count : Nat) : LinkedAction Worker Outcome := do
  if (← onSocket (load (·.protocol))) = .TCP then
    sendListTCP priority count
  else
    return none

/-- The pointers that `RaiseUncomplete` changes. -/
def raise (l : LinkedView Worker) : LinkedView Worker :=
  let tmp := l.head .low
  let rest := tmp.bind l.next
  { l with
    head := Function.update (Function.update l.head .low rest) .high tmp
    tail := Function.update
      (if rest = none then Function.update l.tail .low none else l.tail)
      .high tmp
    next :=
      match tmp with
      | none => l.next
      | some tmp => Function.update l.next tmp none }

/-- `RaiseUncomplete`. -/
def raiseUncomplete : LinkedAction Worker Unit := do
  .check (← onSocket (load (·.high.isEmpty)))
  .act (fun _ _ => ()) fun _ l => raise l

end Lists

section SendBuffer

/-- `SendBuffer_` after both lists were sent. -/
def sentBuffer (count : Nat) : LinkedAction Worker Outcome := do
  .check
    (← onSocket <| load fun sock =>
      sock.high.isEmpty && sock.low.isEmpty && sock.wb_size == 0)
  if ← onSocket (load (·.closing)) then
    let _ ← forceClose count
    return none
  if ← onSocket (enableWrite false) then
    return ← onSocket (reportError "disable write failed")
  if 0 < (← onSocket (load (·.warn_size))) then
    onSocket (store ({ · with warn_size := 0 }))
    return some
      (.kSocketWarning, ← onSocket (socketMessage 0 (← nullData)))
  return none

/-- `SendBuffer_` goes on after `SendList`, unless there was an error. -/
def afterList
    (outcome : Outcome)
    (rest : LinkedAction Worker Outcome) : LinkedAction Worker Outcome :=
  match outcome with
  | some (.kSocketErr, message) => return some (.kSocketErr, message)
  | some _ => return none
  | none => rest

/-- `SendBuffer_` after the low list was sent as far as possible. -/
def sentLow (count : Nat) : LinkedAction Worker Outcome := do
  if ← onSocket (listUncomplete .low) then
    raiseUncomplete
    return none
  if ← onSocket (load (·.low.isEmpty)) then
    sentBuffer count
  else
    return none

/-- `SendBuffer_` after the high list was sent as far as possible. -/
def sentHigh (count : Nat) : LinkedAction Worker Outcome := do
  if ← onSocket (load (·.high.isEmpty)) then
    if ← onSocket (load (·.low.isEmpty)) then
      sentBuffer count
    else
      afterList (← sendList .low count) (sentLow count)
  else
    return none

/-- `SendBuffer_`. -/
def sendBuffer_ (count : Nat) : LinkedAction Worker Outcome := do
  .check (!(← onSocket (listUncomplete .low)))
  afterList (← sendList .high count) (sentHigh count)

/-- Put what a direct write left before the high list. -/
def raiseDirect (l : LinkedView Worker) : LinkedView Worker :=
  if l.sock.dw_buffer.isSome then
    { l.allocate (directNode l.sock) (l.head .high) with
      head := Function.update l.head .high (some l.used)
      tail :=
        if l.head .high = none then
          Function.update l.tail .high (some l.used)
        else l.tail
      sock :=
        { l.sock with
          wb_size := l.sock.wb_size + sizeOfBytes (directNode l.sock).sz
          dw_buffer := none } }
  else l

/-- `SendBuffer`. -/
def sendBuffer : LinkedAction Worker Outcome := do
  if ← onSocket (socketTrylock .socketThread) then
    .act (fun _ _ => ()) fun _ l => raiseDirect l
    let r ← sendBuffer_ 1
    onSocket (socketUnlock 1)
    return r
  else
    return none

end SendBuffer

section SendSocket

/--
`AppendSendbuffer_`, which asserts that `tail` is a last node, with memory for
the node.
-/
def append
    (priority : Priority)
    (request_send : RequestSend Buffer)
    (l : LinkedView Worker) : Option (LinkedView Worker) :=
  let allocated := l.allocate (appendNode request_send) none
  match l.head priority with
  | none =>
      some
        { allocated with
          head := Function.update l.head priority (some l.used)
          tail := Function.update l.tail priority (some l.used) }
  | some _ =>
      match l.tail priority with
      | none => none
      | some last =>
          if l.next last = none then
            some
              { allocated with
                next := Function.update allocated.next last (some l.used)
                tail := Function.update l.tail priority (some l.used) }
          else none

/-- `AppendSendbuffer` and `AppendSendbufferLow`. -/
def appendSendbuffer
    (priority : Priority)
    (request_send : RequestSend Buffer) : LinkedAction Worker Unit := do
  -- `buf` is never set
  useUnset
  .attempt (fun _ => ()) fun l =>
    (append priority request_send l).map fun l =>
      { l with
        sock :=
          { l.sock with
            wb_size :=
              l.sock.wb_size + sizeOfBytes (appendNode request_send).sz } }

/-- `SendSocket` to lists that are empty. -/
def sendSocketEmpty
    (request_send : RequestSend Buffer) : LinkedAction Worker Outcome := do
  if (← onSocket (load (·.protocol))) = .TCP then
    appendSendbuffer .high request_send
  else
    return none
  if ← onSocket (enableWrite true) then
    return ← onSocket (reportError "enable write failed")
  onSocket warnSocket

/-- `SendSocket` to lists that are not empty. -/
def sendSocketMore
    (request_send : RequestSend Buffer)
    (priority : Priority) : LinkedAction Worker Outcome := do
  if (← onSocket (load (·.protocol))) ≠ .TCP then
    return none
  appendSendbuffer priority request_send
  onSocket warnSocket

/-- `SendSocket`, on the slot of the request. -/
def sendSocket
    (request_send : RequestSend Buffer)
    (priority : Priority) : LinkedAction Worker Outcome := do
  let type ← onSocket (load (·.type))
  if type = .kSocketTypeInvalid then return none
  if (← onSocket (load (·.id))) ≠ request_send.id then return none
  if type = .kSocketTypeHalfCloseWrite then return none
  if type = .kSocketTypeIPaccept then return none
  if ← onSocket (load (·.closing)) then return none
  if type = .kSocketTypePlisten ∨ type = .kSocketTypeListen then return none
  if ← onSocket sendBufferEmpty then
    sendSocketEmpty request_send
  else
    sendSocketMore request_send priority

end SendSocket

end Linked

/-- What is done about writing to one socket. -/
inductive WriteCall where
  /-- The socket thread takes a request from the pipe. -/
  | SendSocket (request_send : RequestSend Buffer) (priority : Priority)
  /-- The socket thread handles a write event. -/
  | SendBuffer
  /-- A thread tries to write directly. -/
  | Send (buffer : SocketSendbuffer)

/-- `Poll` on a write event; an invalid socket is skipped. -/
def writeEvent : SocketAction Worker Unit := do
  if (← load (·.type)) ≠ .kSocketTypeInvalid then
    let _ ← sendBuffer

/-- What a thread runs about writing to one socket, with plain lists. -/
def writeThreads : Caller Worker → WriteCall → SocketAction Worker Unit
  | .socketThread, .SendSocket request_send priority => do
      let _ ← sendSocket request_send priority none
  | .socketThread, .SendBuffer => writeEvent
  | .worker worker, .Send buffer => do
      let _ ← sendDirect (.worker worker) buffer
  | _, _ => return ()

/-- `Poll` on a write event; an invalid socket is skipped. -/
def Linked.writeEvent : LinkedAction Worker Unit := do
  if (← onSocket (load (·.type))) ≠ .kSocketTypeInvalid then
    let _ ← Linked.sendBuffer

/-- What a thread runs about writing to one socket, with lists in memory. -/
def linkedThreads : Caller Worker → WriteCall → LinkedAction Worker Unit
  | .socketThread, .SendSocket request_send priority => do
      let _ ← Linked.sendSocket request_send priority
  | .socketThread, .SendBuffer => Linked.writeEvent
  | .worker worker, .Send buffer => do
      let _ ← onSocket (sendDirect (.worker worker) buffer)
  | _, _ => return ()

end SkynetCpp
