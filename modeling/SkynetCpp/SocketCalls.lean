import SkynetCpp.SocketPoll

namespace SkynetCpp

open Foundation

/-!
# The calls of the socket server's API

What worker threads do on the server, and the server as a machine of the socket
thread and the workers.
-/

variable {Worker : Type}

section Direct

/-- `Send` once it may write directly: whether bytes are left for the pipe. -/
def directWrite (buffer : SocketSendbuffer) : SocketAction Worker Bool :=
  .act
    (fun input _ => accepted input buffer.sz.toNat ≠ buffer.sz.toNat)
    fun input v =>
      let n := accepted input buffer.sz.toNat
      { v with
        sock :=
          if n = buffer.sz.toNat then v.sock
          else
            { v.sock with
              dw_buffer := (cloneBuffer buffer).1
              dw_size := (cloneBuffer buffer).2.toNat
              dw_offset := n }
        notes := [.wrote ⟨buffer.buffer, 0⟩ n] }

/-- `Send` of a datagram once it may write directly; `none` has no address. -/
def directSend
    (buffer : SocketSendbuffer) : SocketAction Worker (Option Bool) := do
  let address ← getUdpAddress
  if udpSocketAddress (← load (·.protocol)) address = 0 then return none
  let n ← answer (·.result)
  if n.toNat = buffer.sz.toNat then return some false
  store ({ · with
    dw_buffer := (cloneBuffer buffer).1
    dw_size := (cloneBuffer buffer).2.toNat
    dw_offset := n.toNat })
  return some true

/-- `Send` under the lock, once the second check succeeded. -/
def writeDirectly
    (buffer : SocketSendbuffer) : SocketAction Worker (Option Bool) := do
  if (← load (·.protocol)) = .TCP then
    return some (← directWrite buffer)
  else
    directSend buffer

/-- What `Send` found out about writing directly. -/
inductive Direct where
  /-- It could not write directly. -/
  | no
  /-- There was no address to write to. -/
  | nowhere
  /-- It wrote everything, or left the rest in the direct-write buffer. -/
  | written (left : Bool)
  deriving Repr, DecidableEq

/-- `Send` as far as it writes directly, with the lock if it got it. -/
def sendDirect
    (caller : Caller Worker)
    (buffer : SocketSendbuffer) : SocketAction Worker Direct := do
  let locked : Bool ←
    canDirectWrite buffer.id <&&> socketTrylock caller
  if locked then
    if ← canDirectWrite buffer.id then
      let left ← writeDirectly buffer
      socketUnlock 1
      match left with
      | none => return .nowhere
      | some left => return .written left
    else
      socketUnlock 1
      return .no
  else
    return .no

end Direct

section Pipe

/--
The `compare_exchange_weak` of `IncSendingRef`, which may fail spuriously.
-/
def exchangeSending (sending : UInt64) : SocketAction Worker Bool :=
  .act
    (fun input v => v.sock.sending = sending ∧ input.flag)
    fun input v =>
      if v.sock.sending = sending ∧ input.flag then
        { v with sock := { v.sock with sending := sending + 1 } }
      else v

/-- The loop of `IncSendingRef`, over so many rounds. -/
def incSendingRefLoop (id : Int32) : Nat → SocketAction Worker Unit
  | 0 => .check False
  | rounds + 1 => do
      let sending ← load (·.sending)
      if sending >>> 16 = idTag16 id then
        if sending &&& 0xffff = 0xffff then
          incSendingRefLoop id rounds
        else if ← exchangeSending sending then
          return ()
        else
          incSendingRefLoop id rounds

/-- `IncSendingRef`. -/
def incSendingRef (id : Int32) : SocketAction Worker Unit := do
  if (← load (·.protocol)) = .TCP then
    incSendingRefLoop id (← answer (·.rounds))

/-- A request to send what `CloneBuffer` gives. -/
def requestSend (buffer : SocketSendbuffer) : RequestSend Buffer where
  id := buffer.id
  sz := (cloneBuffer buffer).2
  buffer := (cloneBuffer buffer).1

/-- `Send` by the control pipe. -/
def sendByPipe
    (caller : Caller Worker)
    (buffer : SocketSendbuffer) : ServerAction Worker Int32 := do
  atSlot (hashId buffer.id) (incSendingRef buffer.id)
  SendRequest caller (.send (requestSend buffer))
  return 0

end Pipe

/-- `SocketServer::Send`. -/
def Send
    (caller : Caller Worker)
    (buffer : SocketSendbuffer) : ServerAction Worker Int32 := do
  let k := hashId buffer.id
  let refused : Bool ←
    atSlot k (socketInvalid buffer.id <||> load (·.closing))
  if refused then return -1
  match ← atSlot k (sendDirect caller buffer) with
  | .no => sendByPipe caller buffer
  | .nowhere => return -1
  | .written false => return 0
  | .written true =>
      SendRequest caller (.triggerWrite buffer.id)
      return 0

/-- `SocketServer::SendLowpriority`. -/
def SendLowpriority
    (caller : Caller Worker)
    (buffer : SocketSendbuffer) : ServerAction Worker Int32 := do
  let k := hashId buffer.id
  if ← atSlot k (socketInvalid buffer.id) then return -1
  atSlot k (incSendingRef buffer.id)
  SendRequest caller (.sendLow (requestSend buffer))
  return 0

/-- `SocketServer::Connect`; `OpenRequest` refuses a long host. -/
def Connect
    (caller : Caller Worker)
    (opaqueValue : UInt64)
    (addr : List UInt8)
    (port : Int32) : ServerAction Worker Int32 := do
  if 256 ≤ addr.length + 24 then return -1
  match ← reserveId with
  | none => return -1
  | some id =>
      SendRequest caller (.connect id port opaqueValue addr)
      return id

/-- `SocketServer::Listen`; `DoListen` gives the descriptor. -/
def Listen
    (caller : Caller Worker)
    (opaqueValue : UInt64) : ServerAction Worker Int32 := do
  let fd ← answer (·.number)
  if fd < 0 then return -1
  match ← reserveId with
  | none => return -1
  | some id =>
      SendRequest caller (.listen id fd opaqueValue)
      return id

/-- `SocketServer::Bind`. -/
def Bind
    (caller : Caller Worker)
    (opaqueValue : UInt64)
    (fd : Int32) : ServerAction Worker Int32 := do
  match ← reserveId with
  | none => return -1
  | some id =>
      SendRequest caller (.bind id fd opaqueValue)
      return id

/-- `SocketServer::UDP`; `DoBind` or `socket` gives descriptor and family. -/
def UDP
    (caller : Caller Worker)
    (opaqueValue : UInt64) : ServerAction Worker Int32 := do
  let (fd, family) ←
    answer fun input => (input.number, if input.flag then 10 else 2)
  if fd < 0 then return -1
  match ← reserveId with
  | none => return -1
  | some id =>
      SendRequest caller (.udp id fd family opaqueValue)
      return id

/-- `SocketServer::UDPSend` under the lock: the result, if it is done. -/
def udpSendDirectly
    (addr : List UInt8)
    (id : Int32) : SocketAction Worker (Option Int32) := do
  if ← canDirectWrite id then
    if udpSocketAddress (← load (·.protocol)) addr = 0 then
      return some (-1)
    if 0 ≤ (← answer (·.result)) then
      return some 0
  return none

/-- `SocketServer::UDPSend` as far as it writes directly. -/
def udpSendDirect
    (caller : Caller Worker)
    (addr : List UInt8)
    (id : Int32) : SocketAction Worker (Option Int32) := do
  let locked : Bool ← canDirectWrite id <&&> socketTrylock caller
  if locked then
    let result ← udpSendDirectly addr id
    socketUnlock 1
    return result
  else
    return none

/-- `SocketServer::UDPSend`. -/
def UDPSend
    (caller : Caller Worker)
    (addr : List UInt8)
    (buffer : SocketSendbuffer) : ServerAction Worker Int32 := do
  let k := hashId buffer.id
  if ← atSlot k (socketInvalid buffer.id) then return -1
  if addr.getD 0 0 ≠ 1 ∧ addr.getD 0 0 ≠ 2 then return -1
  match ← atSlot k (udpSendDirect caller addr buffer.id) with
  | some result => return result
  | none =>
      SendRequest caller
        (.sendUdp (requestSend buffer)
          (addr.take (udpAddressSize (addr.getD 0 0))))
      return 0

/-- `SocketServer::UDPConnect` on the socket: whether there is one. -/
def countConnect
    (caller : Caller Worker)
    (id : Int32) : SocketAction Worker Bool := do
  if ← socketInvalid id then return false
  let count ← socketLock caller 0
  if ← socketInvalid id then
    socketUnlock count
    return false
  store fun sock => { sock with udpconnecting := sock.udpconnecting + 1 }
  socketUnlock count
  return true

/-- `SocketServer::UDPConnect`; `getaddrinfo` gives the address. -/
def UDPConnect
    (caller : Caller Worker)
    (id : Int32) : ServerAction Worker Int32 := do
  if ← atSlot (hashId id) (countConnect caller id) then
    let (status, address) ← answer fun input => (input.result, input.bytes)
    if status ≠ 0 then return -1
    if address.getD 0 0 ≠ 1 ∧ address.getD 0 0 ≠ 2 then return -1
    SendRequest caller (.setUdp id address)
    return 0
  else
    return -1

/-- A call of the API by a worker, with its result, 0 for none. -/
def apiCall
    (caller : Caller Worker) : SocketCall → ServerAction Worker Int32
  | .Poll => return 0
  | .Exit => do
      SendRequest caller .exit
      return 0
  | .Connect opaqueValue addr port => Connect caller opaqueValue addr port
  | .Send buffer => Send caller buffer
  | .SendLowpriority buffer => SendLowpriority caller buffer
  | .Close _ id => do
      SendRequest caller (.close id 0)
      return 0
  | .Shutdown _ id => do
      SendRequest caller (.close id 1)
      return 0
  | .Listen opaqueValue => Listen caller opaqueValue
  | .Bind opaqueValue fd => Bind caller opaqueValue fd
  | .Start opaqueValue id => do
      SendRequest caller (.resume id opaqueValue)
      return 0
  | .Pause _ id => do
      SendRequest caller (.pause id)
      return 0
  | .Nodelay id => do
      -- `TCP_NODELAY` is 1
      SendRequest caller (.setOpt id 1 1)
      return 0
  | .UDP opaqueValue => UDP caller opaqueValue
  | .UDPSend addr buffer => UDPSend caller addr buffer
  | .UDPConnect id => UDPConnect caller id

/-- What a thread runs for a call; only the socket thread polls. -/
def socketThreads :
    Caller Worker → SocketCall → ServerAction Worker Unit
  | .socketThread, _ => pollRound
  | .worker worker, call => do
      record (.called worker call)
      let result ← apiCall (.worker worker) call
      record (.returned worker call result)

/--
The constructor of `SocketServer`.  Of a slot it sets the type, the lists and
the lock; the rest is what was in the memory.
-/
def newServer
    (memory : Nat → Socket Worker)
    (reserve_fd : Int32)
    (c_str : Nat → Address) : SocketServer Worker where
  slot k :=
    { memory k with
      type := .kSocketTypeInvalid
      high := []
      low := []
      dw_lock := none }
  alloc_id := 0
  checkctrl := true
  event_n := 0
  event_index := 0
  ev := []
  reserve_fd := reserve_fd
  pipe := []
  c_str := c_str
  log := []

/-- The server with its threads. -/
abbrev SocketMachine (Worker : Type) :=
  Machine (Caller Worker) (SocketServer Worker) OsAnswer

/-- What a thread of the server does next. -/
abbrev SocketMove := Move SocketCall OsAnswer

/-- A run of the server with its threads, from a state without calls. -/
abbrev SocketRun
    [DecidableEq Worker]
    (start : SocketServer Worker) :=
  Run (Run.Steps (Machine.next? socketThreads)) (Machine.idle start)

end SkynetCpp
