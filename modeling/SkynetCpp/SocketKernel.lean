import SkynetCpp.Foundation.Outcome
import SkynetCpp.SocketPoll

namespace SkynetCpp

open Foundation

/-!
# The descriptors of the socket thread

The functions that make, register and close descriptors, with what the
operating system keeps of them.  Everything else that these functions do is the
code on the server that they share with the model without descriptors.
-/

variable {Worker α β : Type}

namespace SocketKernel

/-- What a descriptor is registered for in epoll; the slot is `ev.data.ptr`. -/
structure Interest where
  slot : Nat
  read : Bool
  write : Bool
  deriving Repr, DecidableEq

/--
The calls on descriptors, with what came of them.  A change of a registration
is noted with the slot and the type that it had.
-/
inductive OsCall where
  | accept (fd : Int32)
  | dup (fd : Int32)
  | close (fd : Int32)
  | epollAdd (fd : Int32) (added : Bool)
  | epollMod (slot : Nat) (type : SocketType) (modified : Bool)
  | epollDel (fd : Int32) (deleted : Bool)
  | getsockname (named : Bool)
  | inet_ntop (written : Bool)
  deriving Repr, DecidableEq

/-- What the operating system keeps; the calls are ghost state, latest first. -/
structure Kernel where
  interest : Int32 → Option Interest
  calls : List OsCall

namespace Kernel

/-- A call that changes no registration. -/
def noted
    (kernel : Kernel)
    (call : OsCall) : Kernel :=
  { kernel with calls := call :: kernel.calls }

/-- `close`, which takes the descriptor out of epoll as well. -/
def close
    (kernel : Kernel)
    (fd : Int32) : Kernel :=
  { kernel.noted (.close fd) with
    interest := Function.update kernel.interest fd none }

/-- `epoll_ctl` with `EPOLL_CTL_ADD`, which refuses what is registered. -/
def epollAdd
    (kernel : Kernel)
    (fd : Int32)
    (slot : Nat)
    (added : Bool) : Option Kernel :=
  if added then
    if 0 ≤ fd ∧ kernel.interest fd = none then
      some
        { kernel.noted (.epollAdd fd true) with
          interest := Function.update kernel.interest fd (some ⟨slot, true, false⟩) }
    else none
  else
    some (kernel.noted (.epollAdd fd false))

/-- `epoll_ctl` with `EPOLL_CTL_MOD`, which refuses what is not registered. -/
def epollEnable
    (kernel : Kernel)
    (fd : Int32)
    (type : SocketType)
    (interest : Interest)
    (modified : Bool) : Option Kernel :=
  if modified then
    if kernel.interest fd ≠ none then
      some
        { kernel.noted (.epollMod interest.slot type true) with
          interest := Function.update kernel.interest fd (some interest) }
    else none
  else
    some (kernel.noted (.epollMod interest.slot type false))

/-- `epoll_ctl` with `EPOLL_CTL_DEL`. -/
def epollDel
    (kernel : Kernel)
    (fd : Int32)
    (deleted : Bool) : Kernel :=
  { kernel.noted (.epollDel fd deleted) with
    interest :=
      if deleted then Function.update kernel.interest fd none
      else kernel.interest }

end Kernel

/-- The server with its descriptors. -/
structure KernelServer (Worker : Type) where
  server : SocketServer Worker
  kernel : Kernel

/-- Change the socket in a slot. -/
def KernelServer.change
    (k : Nat)
    (change : Socket Worker → Socket Worker)
    (s : KernelServer Worker) : KernelServer Worker :=
  { s with
    server :=
      s.server.put k { s.server.view k with sock := change (s.server.slot k) } }

/-- Code of the socket thread with its descriptors. -/
abbrev KernelAction (Worker α : Type) :=
  Program (KernelServer Worker) OsAnswer α

/-- Code that makes, registers and closes nothing. -/
def plain (action : ServerAction Worker α) : KernelAction Worker α :=
  action.zoom KernelServer.server fun server s => { s with server := server }

section Calls

/-- A call of the operating system that changes no registration. -/
def call
    (value : OsAnswer → α)
    (note : OsAnswer → Option OsCall) : KernelAction Worker α :=
  .act (fun input _ => value input) fun input s =>
    match note input with
    | some call => { s with kernel := s.kernel.noted call }
    | none => s

/-- `accept`, with `errno`. -/
def osAccept : KernelAction Worker (Int32 × Errno) :=
  call (fun input => (input.number, input.errno)) fun input =>
    if 0 ≤ input.number then some (.accept input.number) else none

/-- `close`. -/
def osClose (fd : Int32) : KernelAction Worker Unit :=
  .act (fun _ _ => ()) fun _ s => { s with kernel := s.kernel.close fd }

/-- `EpollAdd`: whether it failed. -/
def epollAdd
    (fd : Int32)
    (k : Nat) : KernelAction Worker Bool :=
  .step
    (fun input s =>
      (s.kernel.epollAdd fd k (input.result = 0)).map fun kernel =>
        { s with kernel := kernel })
    fun input _ => .done (input.result ≠ 0)

/-- Change the socket in a slot, and the registration of its descriptor. -/
def enable
    (k : Nat)
    (change : Socket Worker → Socket Worker) : KernelAction Worker Bool :=
  .step
    (fun input s =>
      let sock := s.server.slot k
      let changed := change sock
      if changed.reading = sock.reading ∧ changed.writing = sock.writing then
        some s
      else
        (s.kernel.epollEnable sock.fd sock.type
          ⟨k, changed.reading, changed.writing⟩ (input.result = 0)).map
            fun kernel => { s.change k change with kernel := kernel })
    fun input s =>
      let sock := s.server.slot k
      let changed := change sock
      .done
        (¬ (changed.reading = sock.reading ∧ changed.writing = sock.writing) ∧
          input.result ≠ 0)

/-- `EnableWrite`: whether it failed. -/
def enableWrite
    (k : Nat)
    (enabled : Bool) : KernelAction Worker Bool :=
  enable k ({ · with writing := enabled })

/-- `EnableRead`: whether it failed. -/
def enableRead
    (k : Nat)
    (enabled : Bool) : KernelAction Worker Bool :=
  enable k ({ · with reading := enabled })

end Calls

section Open

/-- `NewFd`: whether there is a new socket. -/
def newFd
    (id fd : Int32)
    (protocol : Protocol)
    (opaqueValue : UInt64)
    (reading : Bool) : KernelAction Worker Bool := do
  let k := hashId id
  .check ((← plain (atSlot k (load (·.type)))) = .kSocketTypeReserve)
  if ← epollAdd fd k then
    plain (atSlot k (storeType .kSocketTypeInvalid))
    return false
  plain (atSlot k (store (newSocket id fd protocol opaqueValue)))
  .check (← plain (atSlot k (load (·.high.isEmpty))))
  .check (← plain (atSlot k (load (·.low.isEmpty))))
  plain (atSlot k (store ({ · with dw_buffer := none, dw_size := 0 })))
  if ← enableRead k reading then
    plain (atSlot k (storeType .kSocketTypeInvalid))
    return false
  return true

/-- `ListenSocket` of a socket whose name is not known. -/
def unnamedSocket
    (id : Int32)
    (opaqueValue : UInt64) : KernelAction Worker Outcome := do
  let text ← strerror
  return some
    (.kSocketErr,
      ← plain (atSlot (hashId id) (requestMessage id 0 opaqueValue (.text text))))

/-- `ListenSocket`. -/
def listenSocket
    (id fd : Int32)
    (opaqueValue : UInt64) : KernelAction Worker Outcome := do
  let k := hashId id
  if ← newFd id fd .TCP opaqueValue false then
    plain (atSlot k (storeType .kSocketTypePlisten))
    let named ← call (fun input => decide (input.result = 0))
      fun input => some (.getsockname (input.result = 0))
    if named then
      let (text, port) ← call (fun input => (input.text, input.number))
        fun input => some (.inet_ntop input.text.isSome)
      match text with
      | some text =>
          return some
            (.kSocketOpen,
              ← plain
                (atSlot k (requestMessage id port opaqueValue (.text text))))
      | none => unnamedSocket id opaqueValue
    else
      unnamedSocket id opaqueValue
  else
    osClose fd
    plain
      (atSlot k (openFailed id opaqueValue "reach skynet socket number limit"))

/-- `BindSocket`. -/
def bindSocket
    (id fd : Int32)
    (opaqueValue : UInt64) : KernelAction Worker Outcome := do
  let k := hashId id
  if ← newFd id fd .TCP opaqueValue true then
    plain (atSlot k (storeType .kSocketTypeBind))
    return some
      (.kSocketOpen,
        ← plain (atSlot k (requestMessage id 0 opaqueValue (.text "binding"))))
  else
    return some
      (.kSocketErr,
        ← plain
          (atSlot k
            (requestMessage id 0 opaqueValue
              (.text "reach skynet socket number limit"))))

/-- How `AddUDPSocket` ends. -/
inductive UdpAdded where
  | failed
  /-- `std::get` threw, as `p` holds a number. -/
  | threw
  | added
  deriving Repr, DecidableEq

/-- `AddUDPSocket`. -/
def addUDPSocket
    (id fd family : Int32)
    (opaqueValue : UInt64) : KernelAction Worker UdpAdded := do
  let k := hashId id
  -- `AF_INET6` is 10
  let protocol := if family = 10 then Protocol.UDPv6 else .UDP
  if ← newFd id fd protocol opaqueValue true then
    plain (atSlot k (storeType .kSocketTypeConnected))
    match ← plain (atSlot k (load (·.p))) with
    | .size _ => return .threw
    | .udpAddress _ =>
        plain
          (atSlot k
            (store ({ · with
              p := .udpAddress (List.replicate kUdpAddressSize 0) })))
        return .added
  else
    osClose fd
    plain (atSlot k (storeType .kSocketTypeInvalid))
    return .failed

/--
`ReportAccept` without a descriptor.  When there are none left, the spare one
is used to refuse the connection.
-/
def refuseAccept
    (k : Nat)
    (errno : Errno) : KernelAction Worker Outcome := do
  if errno = .EMFILE then
    let outcome ← plain (atSlot k (do reportError (← strerror)))
    let reserve_fd ← plain (.ask fun _ s => s.reserve_fd)
    if 0 ≤ reserve_fd then
      osClose reserve_fd
      let (client_fd, _) ← osAccept
      if 0 ≤ client_fd then osClose client_fd
      .act (fun _ _ => ()) fun input s =>
        { server := { s.server with reserve_fd := input.number }
          kernel := s.kernel.noted (.dup input.number) }
    return outcome
  return none

/-- How far `ReportAccept` gets with a connection. -/
inductive Accepted where
  /-- There was no descriptor. -/
  | refused (outcome : Outcome)
  /-- There was no slot. -/
  | unreserved
  /-- `NewFd` failed. -/
  | dropped (id : Int32)
  | opened (id : Int32)
  deriving Repr, DecidableEq

/-- `ReportAccept`, until the slot of the connection has its type. -/
def acceptSocket (k : Nat) : KernelAction Worker Accepted := do
  let (client_fd, errno) ← osAccept
  if client_fd < 0 then return .refused (← refuseAccept k errno)
  match ← plain reserveId with
  | none =>
      osClose client_fd
      return .unreserved
  | some id =>
      let opaqueValue ← plain (atSlot k (load (·.opaqueValue)))
      if ← newFd id client_fd .TCP opaqueValue false then
        plain (atSlot (hashId id) (storeType .kSocketTypeIPaccept))
        return .opened id
      else
        osClose client_fd
        return .dropped id

/-- `ReportAccept`: `kSocketAccept` for 1, `kSocketErr` for -1. -/
def reportAccept (k : Nat) : KernelAction Worker Outcome := do
  match ← acceptSocket k with
  | .refused outcome => return outcome
  | .unreserved => return none
  | .dropped _ => return none
  | .opened id =>
      let data ← nullData
      let text ← answer (·.text)
      return some
        (.kSocketAccept,
          ← plain (atSlot k (socketMessage id (addressText data text))))

end Open

section Watched

/--
What `ForceClose` does to the descriptor of a socket: `EpollDel`, and `close`
unless it was bound from outside.
-/
def Kernel.forceClosed
    (kernel : Kernel)
    (fd : Int32)
    (type : SocketType)
    (deleted : Bool) : Kernel :=
  if type = .kSocketTypeBind then kernel.epollDel fd deleted
  else (kernel.epollDel fd deleted).close fd

/--
A step on the socket in a slot, with what it does to the descriptor.  Another
interest in events is told to epoll by `EpollEnable`.  `ForceClose` takes the
descriptor out of epoll in the step that stores the type.
-/
def KernelServer.watch
    (k : Nat)
    (input : OsAnswer)
    (part : SocketView Worker)
    (s : KernelServer Worker) : Option (KernelServer Worker) :=
  let sock := s.server.slot k
  let server := s.server.put k part
  if .forceClosed ∈ part.notes then
    some
      { server := server
        kernel := s.kernel.forceClosed sock.fd sock.type (input.result = 0) }
  else if part.sock.reading = sock.reading ∧ part.sock.writing = sock.writing then
    some { s with server := server }
  else
    (s.kernel.epollEnable sock.fd sock.type
      ⟨k, part.sock.reading, part.sock.writing⟩ (input.result = 0)).map
        fun kernel => { server := server, kernel := kernel }

/-- Code on the socket in a slot, with its descriptor. -/
def watched (k : Nat) : SocketAction Worker α → KernelAction Worker α
  | .done result => .done result
  | .crash => .crash
  | .step next rest =>
      .step
        (fun input s =>
          (next input (s.server.view k)).bind fun part => s.watch k input part)
        fun input s => watched k (rest input (s.server.view k))

theorem watched_act
    {value : OsAnswer → SocketView Worker → α}
    {next : OsAnswer → SocketView Worker → SocketView Worker}
    (k : Nat) :
    watched k (.act value next) =
      .step
        (fun input s => s.watch k input (next input (s.server.view k)))
        fun input s => .done (value input (s.server.view k)) :=
  rfl

/-- A step that only changes flags, and none unless it changes something. -/
theorem watch_flags
    (change : Socket Worker → Socket Worker)
    {s : KernelServer Worker}
    {k : Nat}
    {input : OsAnswer}
    (skips :
      (change (s.server.slot k)).reading = (s.server.slot k).reading ∧
          (change (s.server.slot k)).writing = (s.server.slot k).writing →
        change (s.server.slot k) = s.server.slot k) :
    s.watch k input
        { s.server.view k with sock := change (s.server.view k).sock } =
      if (change (s.server.slot k)).reading = (s.server.slot k).reading ∧
          (change (s.server.slot k)).writing = (s.server.slot k).writing then
        some s
      else
        (s.kernel.epollEnable (s.server.slot k).fd (s.server.slot k).type
          ⟨k, (change (s.server.slot k)).reading,
            (change (s.server.slot k)).writing⟩ (input.result = 0)).map
          fun kernel => { s.change k change with kernel := kernel } := by
  have notClosed : .forceClosed ∉ (s.server.view k).notes := nofun
  unfold KernelServer.watch
  rw [if_neg notClosed]
  refine if_ctx_congr Iff.rfl (fun same => ?_) fun _ => rfl
  have isSame : change (s.server.view k).sock = (s.server.view k).sock :=
    skips same
  rw [isSame, SocketServer.put_view]

/-- `EnableWrite` on the socket in a slot, with its descriptor. -/
theorem watched_enableWrite
    (k : Nat)
    (enabled : Bool) :
    watched k (SkynetCpp.enableWrite enabled : SocketAction Worker Bool) =
      enableWrite k enabled := by
  unfold enableWrite SkynetCpp.enableWrite enable
  rw [watched_act]
  congr 1
  · funext input s
    refine watch_flags ({ · with writing := enabled }) fun same => ?_
    have isSame : enabled = (s.server.slot k).writing := same.2
    rw [isSame]
  · funext input s
    simp [SocketServer.view, eq_comm]

/-- `EnableRead` on the socket in a slot, with its descriptor. -/
theorem watched_enableRead
    (k : Nat)
    (enabled : Bool) :
    watched k (SkynetCpp.enableRead enabled : SocketAction Worker Bool) =
      enableRead k enabled := by
  unfold enableRead SkynetCpp.enableRead enable
  rw [watched_act]
  congr 1
  · funext input s
    refine watch_flags ({ · with reading := enabled }) fun same => ?_
    have isSame : enabled = (s.server.slot k).reading := same.1
    rw [isSame]
  · funext input s
    simp [SocketServer.view, eq_comm]

end Watched

section Poll

/--
The code of the socket thread with its descriptors.  `OpenSocket` ends the
process before it makes one.
-/
def kernelThread : SocketThread Worker (KernelServer Worker) where
  onServer action := plain action
  onSocket k action := watched k action
  openSocket id opaqueValue :=
    watched (hashId id) (SkynetCpp.openSocket id opaqueValue)
  listenSocket := listenSocket
  bindSocket := bindSocket
  addUDPSocket id fd family opaqueValue := do
    .check ((← addUDPSocket id fd family opaqueValue) ≠ .threw)
  reportAccept := reportAccept

/-- One round of the loop of `Poll`, with descriptors. -/
def pollRound : KernelAction Worker Unit :=
  kernelThread.pollRound

end Poll

end SocketKernel

end SkynetCpp
