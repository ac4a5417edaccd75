import SkynetCpp.Foundation.Program
import SkynetCpp.ServiceCalls
import SkynetCpp.SocketRequest

namespace SkynetCpp

open Foundation

/-!
# The data of the socket server

`struct Socket` and `SocketServer` with the fields that the server's functions
read, and the atomic actions on them.  Worker threads and the socket thread
share the server; a shared read, an atomic operation, an operation of a lock, a
write to the pipe and a call of the operating system is one step.

A null pointer that is assigned to a string ends the process: no step follows.
Nodes whose allocation is commented out in the source are new ones.
-/

/-- `enum class Protocol`. -/
inductive Protocol where
  | TCP
  | UDP
  | UDPv6
  | UNKNOWN
  deriving Repr, DecidableEq

/-- The values of `Socket::type`. -/
inductive SocketType where
  | kSocketTypeInvalid
  | kSocketTypeReserve
  | kSocketTypePlisten
  | kSocketTypeListen
  | kSocketTypeConnecting
  | kSocketTypeConnected
  | kSocketTypeHalfCloseRead
  | kSocketTypeHalfCloseWrite
  | kSocketTypeIPaccept
  | kSocketTypeBind
  deriving Repr, DecidableEq

/-- The type of a socket that was set up. -/
def SocketType.isSetUp (type : SocketType) : Prop :=
  type ≠ .kSocketTypeInvalid ∧ type ≠ .kSocketTypeReserve

instance : DecidablePred SocketType.isSetUp :=
  fun _ => inferInstanceAs (Decidable (_ ∧ _))

/-- What `Poll` and its helpers return, except -1. -/
inductive Report where
  | kSocketData
  | kSocketClose
  | kSocketOpen
  | kSocketAccept
  | kSocketErr
  | kSocketExit
  | kSocketUDP
  | kSocketWarning
  | kSocketRst
  | kSocketMore
  deriving Repr, DecidableEq

/-- `MAX_SOCKET`. -/
def MAX_SOCKET : Nat := 65536

/-- `MIN_READ_BUFFER`. -/
def MIN_READ_BUFFER : Int32 := 64

/-- `WARNING_SIZE`. -/
def WARNING_SIZE : Int64 := 1024 * 1024

/-- `USEROBJECT`. -/
def USEROBJECT : UInt64 := 0xffffffffffffffff

/-- What one `write` of the operating system takes at most. -/
def writeLimit : Nat := 0x7ffff000

/-- `HASH_ID`. -/
def hashId (id : Int32) : Nat :=
  id.toUInt32.toNat % MAX_SOCKET

/-- `ID_TAG16`. -/
def idTag16 (id : Int32) : UInt64 :=
  ((id.toUInt32 >>> 16) &&& 0xffff).toUInt64

/-- A `std::string *`; the number stands for the object, `none` for null. -/
abbrev Buffer := Option Nat

/-- A place in memory, by the object that it lies in or behind. -/
structure Address where
  object : Buffer
  offset : Nat
  deriving Repr, DecidableEq

/-- `struct Sendbuffer`, with the string as an object. -/
structure SocketSendbuffer where
  id : Int32
  type : SendbufferType
  buffer : Buffer
  sz : UInt64
  deriving Repr, DecidableEq

/-- `struct WriteBuffer`. -/
structure WriteBuffer where
  buffer : Buffer
  ptr : Address
  sz : Nat
  deriving Repr, DecidableEq

/-- What `Socket::p` holds. -/
inductive SocketParameter where
  | size (size : Int32)
  | udpAddress (address : List UInt8)
  deriving Repr, DecidableEq

/-- The socket thread, or a thread that calls the API. -/
inductive Caller (Worker : Type) where
  | socketThread
  | worker (worker : Worker)
  deriving Repr, DecidableEq

/--
`struct Socket`.  The lock says who holds it.  The last field counts the
reservations of the slot; the source has no such field and never reads it.
-/
structure Socket (Worker : Type) where
  opaqueValue : UInt64
  high : List WriteBuffer
  low : List WriteBuffer
  wb_size : Int64
  sending : UInt64
  fd : Int32
  id : Int32
  type : SocketType
  protocol : Protocol
  reading : Bool
  writing : Bool
  closing : Bool
  udpconnecting : Int32
  warn_size : Int64
  p : SocketParameter
  dw_lock : Option (Caller Worker)
  dw_offset : Nat
  dw_buffer : Buffer
  dw_size : Nat
  incarnation : Nat

/--
`struct Event`.  The last field is the incarnation of the slot when the event
was fetched, if the slot held a socket; the source has no such field and never
reads it.
-/
structure Event where
  s : Option Nat
  read : Bool
  write : Bool
  error : Bool
  eof : Bool
  incarnation : Option Nat
  deriving Repr, DecidableEq

instance : Inhabited Event where
  default := ⟨none, false, false, false, false, none⟩

/-- `SocketMessage::data`. -/
inductive MessageData where
  | text (text : String)
  | bytes (bytes : List UInt8)
  deriving Repr, DecidableEq

/--
`struct SocketMessage`.  The last field is the slot and the incarnation that
the message is about; the source has no such field and never reads it.
-/
structure SocketMessage where
  id : Int32
  opaqueValue : UInt64
  ud : Int32
  data : MessageData
  about : Nat × Nat
  deriving Repr, DecidableEq

/-- What a function returns: -1, or a report with the message it filled in. -/
abbrev Outcome := Option (Report × SocketMessage)

/-- The calls of the API. -/
inductive SocketCall where
  | Poll
  | Exit
  | Connect (opaqueValue : UInt64) (addr : List UInt8) (port : Int32)
  | Send (buffer : SocketSendbuffer)
  | SendLowpriority (buffer : SocketSendbuffer)
  | Close (opaqueValue : UInt64) (id : Int32)
  | Shutdown (opaqueValue : UInt64) (id : Int32)
  | Listen (opaqueValue : UInt64)
  | Bind (opaqueValue : UInt64) (fd : Int32)
  | Start (opaqueValue : UInt64) (id : Int32)
  | Pause (opaqueValue : UInt64) (id : Int32)
  | Nodelay (id : Int32)
  | UDP (opaqueValue : UInt64)
  | UDPSend (addr : List UInt8) (buffer : SocketSendbuffer)
  | UDPConnect (id : Int32)
  deriving Repr, DecidableEq

/-- What can be seen of a run from outside. -/
inductive Happening (Worker : Type) where
  /-- A worker called the API. -/
  | called (worker : Worker) (call : SocketCall)
  /-- A call of a worker returned. -/
  | returned (worker : Worker) (call : SocketCall) (result : Int32)
  /-- `SendRequest` was to write the request, and wrote bytes of others. -/
  | requested
      (caller : Caller Worker)
      (request : SocketRequest Buffer)
      (found : List (SocketRequest Buffer))
  /-- A slot was reserved. -/
  | reserved (slot incarnation : Nat)
  /-- The operating system took bytes from a `write` for a slot. -/
  | wrote (slot incarnation : Nat) (ptr : Address) (count : Nat)
  /-- A `write` for a slot failed for good. -/
  | writeFailed (slot incarnation : Nat)
  /-- `ForceClose` closed the descriptor of a slot. -/
  | forceClosed (slot incarnation : Nat)
  /-- `Poll` began to handle an event for a slot. -/
  | handled (event : Event) (slot incarnation : Nat)
  /-- `Poll` returned. -/
  | polled (report : Report) (message : SocketMessage)
  deriving Repr, DecidableEq

/--
`SocketServer`.  The pipe holds what `CtrlCmd` will read from it; `c_str` says
where the contents of the strings are.  The last field records the run, latest
first; the source has no such field and never reads it.
-/
structure SocketServer (Worker : Type) where
  slot : Nat → Socket Worker
  alloc_id : Int32
  checkctrl : Bool
  event_n : Nat
  event_index : Nat
  ev : List Event
  reserve_fd : Int32
  pipe : List (SocketRequest Buffer)
  c_str : Nat → Address
  log : List (Happening Worker)

/-- `errno` after a failed call. -/
inductive Errno where
  | EINTR
  | AGAIN_WOULDBLOCK
  | EMFILE
  | other
  deriving Repr, DecidableEq

/--
What comes from outside in one step: the results of calls of the operating
system, the memory that stray pointers meet, and how often a loop is retried.
-/
structure OsAnswer where
  result : Int
  errno : Errno
  error : Int
  text : Option String
  number : Int32
  bytes : List UInt8
  events : List Event
  found : List (SocketRequest Buffer)
  flag : Bool
  rounds : Nat

instance : Inhabited OsAnswer where
  default :=
    { result := 0, errno := .other, error := 0, text := none, number := 0,
      bytes := [], events := [], found := [], flag := false, rounds := 0 }

/-- What a step on one socket shows outside. -/
inductive SocketNote where
  | wrote (ptr : Address) (count : Nat)
  | writeFailed
  | forceClosed
  deriving Repr, DecidableEq

/-- A socket as the functions see it that are given one. -/
structure SocketView (Worker : Type) where
  index : Nat
  sock : Socket Worker
  c_str : Nat → Address
  notes : List SocketNote

variable {Worker α : Type}

/-- What a step on a socket shows, with the slot and its incarnation. -/
def SocketNote.happening
    (k incarnation : Nat) : SocketNote → Happening Worker
  | .wrote ptr count => .wrote k incarnation ptr count
  | .writeFailed => .writeFailed k incarnation
  | .forceClosed => .forceClosed k incarnation

namespace SocketServer

/-- The socket in a slot. -/
def view
    (k : Nat)
    (s : SocketServer Worker) : SocketView Worker where
  index := k
  sock := s.slot k
  c_str := s.c_str
  notes := []

/-- Put a socket back into its slot, which is not reserved by that. -/
def put
    (k : Nat)
    (part : SocketView Worker)
    (s : SocketServer Worker) : SocketServer Worker :=
  { s with
    slot :=
      Function.update s.slot k
        { part.sock with incarnation := (s.slot k).incarnation }
    log :=
      part.notes.map (SocketNote.happening k (s.slot k).incarnation) ++ s.log }

/-- The incarnation in a slot that holds a socket. -/
def held
    (s : SocketServer Worker)
    (k : Nat) : Option Nat :=
  if (s.slot k).type.isSetUp then some (s.slot k).incarnation else none

/-- Record what happened. -/
def note
    (s : SocketServer Worker)
    (happening : Happening Worker) : SocketServer Worker :=
  { s with log := happening :: s.log }

section Note

variable
    (s : SocketServer Worker)
    (happening : Happening Worker)

@[simp] theorem note_slot : (s.note happening).slot = s.slot := rfl

@[simp] theorem note_pipe : (s.note happening).pipe = s.pipe := rfl

@[simp] theorem note_ev : (s.note happening).ev = s.ev := rfl

@[simp] theorem note_event_index :
    (s.note happening).event_index = s.event_index := rfl

@[simp] theorem note_event_n : (s.note happening).event_n = s.event_n := rfl

@[simp] theorem note_log : (s.note happening).log = happening :: s.log := rfl

end Note

section Put

variable
    (k : Nat)
    (part : SocketView Worker)
    (s : SocketServer Worker)

@[simp] theorem put_pipe : (s.put k part).pipe = s.pipe := rfl

@[simp] theorem put_ev : (s.put k part).ev = s.ev := rfl

@[simp] theorem put_event_index :
    (s.put k part).event_index = s.event_index := rfl

@[simp] theorem put_event_n : (s.put k part).event_n = s.event_n := rfl

@[simp] theorem put_incarnation
    (j : Nat) :
    ((s.put k part).slot j).incarnation = (s.slot j).incarnation := by
  by_cases same : j = k
  · subst same
    simp [put]
  · simp [put, same]

@[simp] theorem put_type :
    ((s.put k part).slot k).type = part.sock.type := by
  simp [put]

theorem put_slot_of_ne
    {j : Nat}
    (different : j ≠ k) :
    (s.put k part).slot j = s.slot j := by
  simp [put, different]

end Put

@[simp] theorem put_view
    (k : Nat)
    (s : SocketServer Worker) :
    put k (s.view k) s = s := by
  simp [put, view]

end SocketServer

/-- A piece of code of a thread on one socket. -/
abbrev SocketAction (Worker α : Type) := Program (SocketView Worker) OsAnswer α

/-- A piece of code of a thread on the server. -/
abbrev ServerAction (Worker α : Type) :=
  Program (SocketServer Worker) OsAnswer α

/-- Code on the socket in a slot. -/
def atSlot
    (k : Nat)
    (action : SocketAction Worker α) : ServerAction Worker α :=
  action.zoom (SocketServer.view k) (SocketServer.put k)

/-- Read a field. -/
def load (field : Socket Worker → α) : SocketAction Worker α :=
  .ask fun _ v => field v.sock

/-- Reading a field of a socket, as a step on the server. -/
theorem atSlot_load
    (k : Nat)
    (field : Socket Worker → α) :
    atSlot k (load field) = Program.ask fun _ s => field (s.slot k) :=
  Program.zoom_ask (SocketServer.put_view k) _

/-- Change fields. -/
def store
    (change : Socket Worker → Socket Worker) : SocketAction Worker Unit :=
  .act (fun _ _ => ()) fun _ v => { v with sock := change v.sock }

/-- Take the result of a call of the operating system. -/
def answer
    {State : Type}
    (value : OsAnswer → α) : Program State OsAnswer α :=
  .ask fun input _ => value input

/-- Record what happened. -/
def record (happening : Happening Worker) : ServerAction Worker Unit :=
  .act (fun _ _ => ()) fun _ s => s.note happening

/-- A message about a socket. -/
def socketMessage
    (ud : Int32)
    (data : MessageData) : SocketAction Worker SocketMessage :=
  .ask fun _ v =>
    { id := v.sock.id
      ud := ud
      opaqueValue := v.sock.opaqueValue
      data := data
      about := (v.index, v.sock.incarnation) }

/-- `data = nullptr`: a string from a null pointer, which ends the process. -/
def nullData {State : Type} : Program State OsAnswer MessageData :=
  .crash

/--
A use of a pointer that was never set: the process ends, unless the pointer
happens to point to memory that can be used so.
-/
def useUnset {State : Type} : Program State OsAnswer Unit := do
  if ← answer (·.flag) then return ()
  .crash

section Lock

/-- `SocketLock`, with the count before; gives the count after. -/
def socketLock
    (caller : Caller Worker)
    (count : Nat) : SocketAction Worker Nat := do
  if count = 0 then
    .attempt (fun _ => ()) fun v =>
      if v.sock.dw_lock.isNone then
        some { v with sock := { v.sock with dw_lock := some caller } }
      else none
  return count + 1

/-- `SocketTrylock`, with the count 0 before. -/
def socketTrylock (caller : Caller Worker) : SocketAction Worker Bool :=
  .act (fun _ v => v.sock.dw_lock.isNone) fun _ v =>
    if v.sock.dw_lock.isNone then
      { v with sock := { v.sock with dw_lock := some caller } }
    else v

/-- `SocketUnlock`, with the count before. -/
def socketUnlock (count : Nat) : SocketAction Worker Unit := do
  if count ≤ 1 then
    store ({ · with dw_lock := none })

end Lock

/-- `SocketInvalid`. -/
def socketInvalid (id : Int32) : SocketAction Worker Bool := do
  if (← load (·.id)) ≠ id then return true
  return (← load (·.type)) = .kSocketTypeInvalid

/-- `SendBufferEmpty`. -/
def sendBufferEmpty : SocketAction Worker Bool :=
  load (·.high.isEmpty) <&&> load (·.low.isEmpty)

/-- `NomoreSendingData`. -/
def nomoreSendingData : SocketAction Worker Bool :=
  (sendBufferEmpty <&&> load (·.dw_buffer.isNone) <&&>
      load (·.sending &&& 0xffff = 0)) <||>
    load (·.type = .kSocketTypeHalfCloseWrite)

/-- `HalfcloseRead`. -/
def halfcloseRead : SocketAction Worker Bool :=
  load (·.type = .kSocketTypeHalfCloseRead)

/-- `CanDirectWrite`. -/
def canDirectWrite (id : Int32) : SocketAction Worker Bool :=
  load (·.id = id) <&&> nomoreSendingData <&&>
    load (·.type = .kSocketTypeConnected) <&&>
    load (·.udpconnecting = 0)

/-- `CloneBuffer`. -/
def cloneBuffer (socket_sendbuffer : SocketSendbuffer) : Buffer × UInt64 :=
  match socket_sendbuffer.type with
  | .memory => (socket_sendbuffer.buffer, socket_sendbuffer.sz)
  | .object => (socket_sendbuffer.buffer, USEROBJECT)
  | .rawPointer => (none, 0)

/-- `EnableWrite`: whether it failed. -/
def enableWrite (enable : Bool) : SocketAction Worker Bool :=
  .act
    (fun input v => v.sock.writing ≠ enable ∧ input.result ≠ 0)
    fun _ v => { v with sock := { v.sock with writing := enable } }

/-- `EnableRead`: whether it failed. -/
def enableRead (enable : Bool) : SocketAction Worker Bool :=
  .act
    (fun input v => v.sock.reading ≠ enable ∧ input.result ≠ 0)
    fun _ v => { v with sock := { v.sock with reading := enable } }

/-- `ReportError`. -/
def reportError (err : String) : SocketAction Worker Outcome := do
  return some (.kSocketErr, ← socketMessage 0 (.text err))

/-- `strerror(errno)`. -/
def strerror {State : Type} : Program State OsAnswer String :=
  answer fun input => input.text.getD ""

section Crash

variable {State : Type}

/-- Nothing is run behind `data = nullptr`. -/
theorem nullData_ends
    (effect : State → State → Prop)
    {after : MessageData → Program State OsAnswer α}
    (ends : α → Prop) :
    (nullData >>= after).Within effect ends :=
  trivial

theorem nullData_triple
    {Thread : Type}
    {discipline : Discipline Thread State}
    {thread : Thread}
    {pre : State → Prop}
    {after : MessageData → Program State OsAnswer α}
    {post : α → State → Prop} :
    discipline.Triple thread pre (nullData >>= after) post :=
  fun _ _ => trivial

theorem useUnset_follows
    {effect : State → State → Prop}
    [Std.Refl effect] :
    (useUnset : Program State OsAnswer Unit).Follows effect :=
  .bind (.ask _) fun _ => .ite (.pure _) trivial

end Crash

/-- `SendRequest`. -/
def SendRequest
    (caller : Caller Worker)
    (request : SocketRequest Buffer) : ServerAction Worker Unit :=
  .act (fun _ _ => ()) fun input s =>
    { s with pipe := s.pipe ++ input.found }.note
      (.requested caller request input.found)

end SkynetCpp
