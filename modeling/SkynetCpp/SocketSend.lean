import SkynetCpp.Socket

namespace SkynetCpp

open Foundation

/-!
# Writing to sockets

What the socket thread does with the two write lists of a socket and with the
buffer that a direct write left behind.
-/

variable {Worker : Type}

/-- One of the two write lists of a socket. -/
inductive Priority where
  | high
  | low
  deriving Repr, DecidableEq

namespace Socket

/-- A write list. -/
def list (sock : Socket Worker) : Priority → List WriteBuffer
  | .high => sock.high
  | .low => sock.low

/-- Replace a write list. -/
def setList
    (sock : Socket Worker)
    (priority : Priority)
    (list : List WriteBuffer) : Socket Worker :=
  match priority with
  | .high => { sock with high := list }
  | .low => { sock with low := list }

end Socket

/-- A size as it is added to `wb_size`. -/
def sizeOfBytes (sz : Nat) : Int64 :=
  Int64.ofNat sz

section Close

/-- `ForceClose`. -/
def forceClose (count : Nat) : SocketAction Worker SocketMessage := do
  let message ← socketMessage 0 (← nullData)
  let type ← load (·.type)
  if type = .kSocketTypeInvalid then return message
  .check (type ≠ .kSocketTypeReserve)
  store ({ · with high := [], low := [] })
  let count ← socketLock .socketThread count
  .act (fun _ _ => ()) fun _ v =>
    { v with
      sock := { v.sock with type := .kSocketTypeInvalid }
      notes := [.forceClosed] }
  store ({ · with dw_buffer := none })
  socketUnlock count
  return message

/-- `CloseWrite`. -/
def closeWrite (count : Nat) : SocketAction Worker Outcome := do
  if ← load (·.closing) then
    return some (.kSocketRst, ← forceClose count)
  let t ← load (·.type)
  if t = .kSocketTypeHalfCloseRead then
    return some (.kSocketRst, ← forceClose count)
  if t = .kSocketTypeHalfCloseWrite then
    -- the message is left as it was, and nobody reads it
    return some (.kSocketRst, ← socketMessage 0 (.text ""))
  store ({ · with type := .kSocketTypeHalfCloseWrite })
  let _ ← enableWrite false
  reportError (← strerror)

end Close

section Lists

/-- What one `write` of the head of a list came to. -/
inductive HeadWritten where
  | empty
  | all
  | part
  | failed
  deriving Repr, DecidableEq

/-- How many bytes the operating system takes of so many. -/
def accepted
    (input : OsAnswer)
    (sz : Nat) : Nat :=
  min input.result.toNat (min sz writeLimit)

/-- A node of which bytes were written. -/
def WriteBuffer.advance
    (node : WriteBuffer)
    (n : Nat) : WriteBuffer where
  buffer := node.buffer
  ptr := ⟨node.ptr.object, node.ptr.offset + n⟩
  sz := node.sz - n

/-- A socket of whose list bytes were written. -/
def Socket.wrote
    (sock : Socket Worker)
    (priority : Priority)
    (node : WriteBuffer)
    (rest : List WriteBuffer)
    (n : Nat) : Socket Worker :=
  { sock.setList priority
      (if n = node.sz then rest else node.advance n :: rest) with
    wb_size := sock.wb_size - sizeOfBytes n }

/--
One round of the loop of `SendListTCP`: `write` the head, and take what was
written off the list.  A `write` that was interrupted is tried again.
-/
def writeHead (priority : Priority) : SocketAction Worker HeadWritten :=
  .act
    (fun input v =>
      match v.sock.list priority with
      | [] => .empty
      | node :: _ =>
          if input.result < 0 then
            if input.errno = .AGAIN_WOULDBLOCK then .part else .failed
          else if accepted input node.sz = node.sz then .all
          else .part)
    fun input v =>
      match v.sock.list priority with
      | [] => v
      | node :: rest =>
          if input.result < 0 then
            if input.errno = .AGAIN_WOULDBLOCK then v
            else { v with notes := [.writeFailed] }
          else
            { v with
              sock := v.sock.wrote priority node rest (accepted input node.sz)
              notes := [.wrote node.ptr (accepted input node.sz)] }

/-- The loop of `SendListTCP`, over so many nodes. -/
def sendListTCPLoop
    (priority : Priority)
    (count : Nat) : Nat → SocketAction Worker Outcome
  | 0 => return none
  | nodes + 1 => do
      match ← writeHead priority with
      | .empty => return none
      | .part => return none
      | .failed => closeWrite count
      | .all => sendListTCPLoop priority count nodes

/-- `SendListTCP`. -/
def sendListTCP
    (priority : Priority)
    (count : Nat) : SocketAction Worker Outcome := do
  sendListTCPLoop priority count
    (← load fun sock => (sock.list priority).length)

/-- `UDPSocketAddress`: the size of the address, 0 for another protocol. -/
def udpSocketAddress
    (protocol : Protocol)
    (udp_address : List UInt8) : Nat :=
  match protocol, udp_address.getD 0 0 with
  | .UDP, 1 => 16
  | .UDPv6, 2 => 28
  | _, _ => 0

/--
One round of the loop of `SendListUDP`.  The address is read behind the node,
which has none.
-/
def sendHeadUDP (priority : Priority) : SocketAction Worker HeadWritten :=
  .act
    (fun input v =>
      match v.sock.list priority with
      | [] => .empty
      | _ :: _ =>
          if udpSocketAddress v.sock.protocol input.bytes = 0 then .part
          else if input.result < 0 then .part
          else .all)
    fun input v =>
      match v.sock.list priority with
      | [] => v
      | node :: rest =>
          if udpSocketAddress v.sock.protocol input.bytes ≠ 0 ∧
              input.result < 0 ∧
              (input.errno = .EINTR ∨ input.errno = .AGAIN_WOULDBLOCK) then v
          else
            { v with
              sock :=
                { v.sock.setList priority rest with
                  wb_size := v.sock.wb_size - sizeOfBytes node.sz } }

/-- The loop of `SendListUDP`, over so many nodes. -/
def sendListUDPLoop
    (priority : Priority) : Nat → SocketAction Worker Outcome
  | 0 => return none
  | nodes + 1 => do
      match ← sendHeadUDP priority with
      | .all => sendListUDPLoop priority nodes
      | _ => return none

/-- `SendListUDP`. -/
def sendListUDP (priority : Priority) : SocketAction Worker Outcome := do
  sendListUDPLoop priority (← load fun sock => (sock.list priority).length)

/-- `SendList`. -/
def sendList
    (priority : Priority)
    (count : Nat) : SocketAction Worker Outcome := do
  if (← load (·.protocol)) = .TCP then
    sendListTCP priority count
  else
    sendListUDP priority

/-- `ListUncomplete`. -/
def listUncomplete (priority : Priority) : SocketAction Worker Bool :=
  .ask fun _ v =>
    match v.sock.list priority with
    | [] => false
    | node :: _ => node.ptr ≠ v.c_str (node.buffer.getD 0)

/-- `RaiseUncomplete`. -/
def raiseUncomplete : SocketAction Worker Unit := do
  .check (← load (·.high.isEmpty))
  store fun sock =>
    { sock with high := sock.low.take 1, low := sock.low.drop 1 }

end Lists

section SendBuffer

/-- `SendBuffer_` after both lists were sent. -/
def sentBuffer (count : Nat) : SocketAction Worker Outcome := do
  .check
    (← load fun sock =>
      sock.high.isEmpty && sock.low.isEmpty && sock.wb_size == 0)
  if ← load (·.closing) then
    let _ ← forceClose count
    return none
  if ← enableWrite false then
    return ← reportError "disable write failed"
  if 0 < (← load (·.warn_size)) then
    store ({ · with warn_size := 0 })
    return some (.kSocketWarning, ← socketMessage 0 (← nullData))
  return none

/-- `SendBuffer_` goes on after `SendList`, unless there was an error. -/
def afterList
    (outcome : Outcome)
    (rest : SocketAction Worker Outcome) : SocketAction Worker Outcome :=
  match outcome with
  | some (.kSocketErr, message) => return some (.kSocketErr, message)
  | some _ => return none
  | none => rest

/-- `SendBuffer_` after the low list was sent as far as possible. -/
def sentLow (count : Nat) : SocketAction Worker Outcome := do
  if ← listUncomplete .low then
    raiseUncomplete
    return none
  if ← load (·.low.isEmpty) then
    sentBuffer count
  else
    return none

/-- `SendBuffer_` after the high list was sent as far as possible. -/
def sentHigh (count : Nat) : SocketAction Worker Outcome := do
  if ← load (·.high.isEmpty) then
    if ← load (·.low.isEmpty) then
      sentBuffer count
    else
      afterList (← sendList .low count) (sentLow count)
  else
    return none

/-- `SendBuffer_`. -/
def sendBuffer_ (count : Nat) : SocketAction Worker Outcome := do
  .check (!(← listUncomplete .low))
  afterList (← sendList .high count) (sentHigh count)

/-- The node for what a direct write left. -/
def directNode (sock : Socket Worker) : WriteBuffer where
  buffer := sock.dw_buffer
  ptr := ⟨sock.dw_buffer, sock.dw_offset⟩
  sz := sock.dw_size - sock.dw_offset

/-- Put what a direct write left before the high list. -/
def raiseDirect (sock : Socket Worker) : Socket Worker :=
  if sock.dw_buffer.isSome then
    { sock with
      high := directNode sock :: sock.high
      wb_size := sock.wb_size + sizeOfBytes (directNode sock).sz
      dw_buffer := none }
  else sock

/-- `SendBuffer`. -/
def sendBuffer : SocketAction Worker Outcome := do
  if ← socketTrylock .socketThread then
    store raiseDirect
    let r ← sendBuffer_ 1
    socketUnlock 1
    return r
  else
    return none

end SendBuffer

section SendSocket

/-- The node that `AppendSendbuffer_` writes for a request. -/
def appendNode (request_send : RequestSend Buffer) : WriteBuffer where
  buffer := request_send.buffer
  ptr := ⟨request_send.buffer, 0⟩
  sz := request_send.sz.toNat

/-- A socket with the node for a request at the end of a list. -/
def Socket.append
    (sock : Socket Worker)
    (priority : Priority)
    (request_send : RequestSend Buffer) : Socket Worker :=
  { sock.setList priority
      (sock.list priority ++ [appendNode request_send]) with
    wb_size := sock.wb_size + sizeOfBytes (appendNode request_send).sz }

/--
`AppendSendbuffer`, `AppendSendbufferLow`, and `AppendSendbufferUdp`, whose
address goes to another object than the node in the list.
-/
def appendSendbuffer
    (priority : Priority)
    (request_send : RequestSend Buffer) : SocketAction Worker Unit := do
  -- `AppendSendbuffer_` writes through `buf`, which it never sets
  useUnset
  store (·.append priority request_send)

/-- `TriggerWrite`, on the slot of the request. -/
def triggerWrite (id : Int32) : SocketAction Worker Outcome := do
  if ← socketInvalid id then return none
  if ← enableWrite true then
    return ← reportError "enable write failed"
  return none

/-- `std::get<uint8_t[kUdpAddressSize]>(sock.p)`, which may throw. -/
def getUdpAddress : SocketAction Worker (List UInt8) := do
  match ← load (·.p) with
  | .udpAddress address => return address
  | .size _ =>
      .check False
      return []

/-- `SendSocket` at its end: a warning when much is waiting. -/
def warnSocket : SocketAction Worker Outcome := do
  let wb_size ← load (·.wb_size)
  let warn_size ← load (·.warn_size)
  if WARNING_SIZE ≤ wb_size ∧ warn_size ≤ wb_size then
    store ({ · with
      warn_size := if warn_size = 0 then WARNING_SIZE * 2 else warn_size * 2 })
    let ud :=
      if wb_size % 1024 = 0 then wb_size / 1024 else wb_size / 1024 + 1
    return some (.kSocketWarning, ← socketMessage ud.toInt32 (← nullData))
  return none

/-- `SendSocket` of a datagram to lists that are empty: whether it is left. -/
def sendSocketUDP
    (request_send : RequestSend Buffer)
    (udp_address : Option (List UInt8)) : SocketAction Worker Bool := do
  let address ←
    match udp_address with
    | some address => pure address
    | none => getUdpAddress
  if udpSocketAddress (← load (·.protocol)) address = 0 then
    return false
  -- `n` is an `int` and `sz` a `size_t`
  return UInt64.ofInt (← answer (·.result)) ≠ request_send.sz

/-- `SendSocket` to lists that are empty. -/
def sendSocketEmpty
    (request_send : RequestSend Buffer)
    (priority : Priority)
    (udp_address : Option (List UInt8)) : SocketAction Worker Outcome := do
  if (← load (·.protocol)) = .TCP then
    appendSendbuffer .high request_send
  else
    if ← sendSocketUDP request_send udp_address then
      appendSendbuffer priority request_send
    else
      return none
  if ← enableWrite true then
    return ← reportError "enable write failed"
  warnSocket

/-- `SendSocket` to lists that are not empty. -/
def sendSocketMore
    (request_send : RequestSend Buffer)
    (priority : Priority)
    (udp_address : Option (List UInt8)) : SocketAction Worker Outcome := do
  if (← load (·.protocol)) ≠ .TCP ∧ udp_address.isNone then
    let _ ← getUdpAddress
  appendSendbuffer priority request_send
  warnSocket

/-- `SendSocket`, on the slot of the request. -/
def sendSocket
    (request_send : RequestSend Buffer)
    (priority : Priority)
    (udp_address : Option (List UInt8)) : SocketAction Worker Outcome := do
  let type ← load (·.type)
  if type = .kSocketTypeInvalid then return none
  if (← load (·.id)) ≠ request_send.id then return none
  if type = .kSocketTypeHalfCloseWrite then return none
  if type = .kSocketTypeIPaccept then return none
  if ← load (·.closing) then return none
  if type = .kSocketTypePlisten ∨ type = .kSocketTypeListen then return none
  if ← sendBufferEmpty then
    sendSocketEmpty request_send priority udp_address
  else
    sendSocketMore request_send priority udp_address

end SendSocket

section Follows

variable
    {effect : SocketView Worker → SocketView Worker → Prop}
    [Std.Refl effect]
    {request : RequestSend Buffer}

theorem getUdpAddress_follows :
    (getUdpAddress : SocketAction Worker (List UInt8)).Follows effect := by
  refine .bind (.ask _) fun p => ?_
  cases p with
  | udpAddress address =>
      exact .pure address
  | size size =>
      exact .bind (.check False) fun _ => .pure []

theorem sendSocketUDP_follows
    (udp_address : Option (List UInt8)) :
    (sendSocketUDP request udp_address : SocketAction Worker Bool).Follows
      effect := by
  have judged (address : List UInt8) :
      (do
        if udpSocketAddress (← load (·.protocol)) address = 0 then
          return false
        return UInt64.ofInt (← answer (·.result)) ≠ request.sz :
          SocketAction Worker Bool).Follows effect :=
    .bind (.ask _) fun _ =>
      .ite (.pure _) (.bind (.ask _) fun _ => .pure _)
  cases udp_address with
  | none =>
      exact .bind getUdpAddress_follows judged
  | some address =>
      exact judged address

/-- What `SendSocket` does: it appends, enables write, and warns. -/
theorem sendSocket_follows
    (priority : Priority)
    (udp_address : Option (List UInt8))
    (appends :
      ∀ priority (v : SocketView Worker),
        effect v { v with sock := v.sock.append priority request })
    (enables :
      ∀ v : SocketView Worker,
        effect v { v with sock := { v.sock with writing := true } })
    (warns :
      ∀ size (v : SocketView Worker),
        effect v { v with sock := { v.sock with warn_size := size } }) :
    (sendSocket request priority udp_address :
      SocketAction Worker Outcome).Follows effect := by
  have failed (err : String) :
      (reportError err : SocketAction Worker Outcome).Follows effect :=
    .bind (.ask _) fun _ => .pure _
  have warned : (warnSocket : SocketAction Worker Outcome).Follows effect :=
    .bind (.ask _) fun _ => .bind (.ask _) fun _ =>
      .ite (.bind (.act fun _ => warns _) fun _ => nullData_ends _ _) (.pure _)
  have enabled :
      (do
        if ← enableWrite true then
          return ← reportError "enable write failed"
        warnSocket : SocketAction Worker Outcome).Follows effect :=
    .bind (.act fun _ => enables) fun _ => .ite (failed _) warned
  have appended (priority : Priority) :
      (appendSendbuffer priority request :
        SocketAction Worker Unit).Follows effect :=
    .bind useUnset_follows fun _ => .act fun _ => appends priority
  refine .bind (.ask _) fun _ => .ite (.pure _) (.bind (.ask _) fun _ => ?_)
  refine .ite (.pure _) (.ite (.pure _) (.ite (.pure _) ?_))
  refine .bind (.ask _) fun _ => .ite (.pure _) (.ite (.pure _) ?_)
  refine .bind (.andM (.ask _) (.ask _)) fun _ => .ite ?_ ?_
  · refine .bind (.ask _) fun _ => .ite ?_ ?_
    · exact .bind (appended .high) fun _ => enabled
    · exact .bind (sendSocketUDP_follows _) fun _ =>
        .ite (.bind (appended priority) fun _ => enabled) (.pure _)
  · exact .bind (.ask _) fun _ =>
      .ite
        (.bind getUdpAddress_follows fun _ =>
          .bind (appended priority) fun _ => warned)
        (.bind (appended priority) fun _ => warned)

end Follows

end SkynetCpp
