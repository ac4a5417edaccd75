import SkynetCpp.SocketSend

namespace SkynetCpp

open Foundation

/-!
# Control commands of the socket thread

Slots are reserved by whoever opens a socket; everything else about a socket is
done by the socket thread, on the requests in the control pipe.
-/

variable {Worker : Type}

section Reserve

/--
The `compare_exchange_weak` of `ReserveId`, which may fail spuriously, and the
count of reservations.
-/
def reserveSlot (k : Nat) : ServerAction Worker Bool :=
  .act
    (fun input s => (s.slot k).type = .kSocketTypeInvalid ∧ input.flag)
    fun input s =>
      if (s.slot k).type = .kSocketTypeInvalid ∧ input.flag then
        { s with
          slot := Function.update s.slot k
            { s.slot k with
              type := .kSocketTypeReserve
              incarnation := (s.slot k).incarnation + 1 } }.note
          (.reserved k ((s.slot k).incarnation + 1))
      else s

/-- The fields that `ReserveId` sets. -/
def reservedSocket
    (id : Int32)
    (sock : Socket Worker) : Socket Worker :=
  { sock with
    id := id
    protocol := .UNKNOWN
    udpconnecting := 0
    fd := -1 }

/-- `alloc_id_` one further; `fetch_add` and `fetch_and` are two steps. -/
def allocateId : ServerAction Worker Int32 := do
  let id ← .act (fun _ s => s.alloc_id + 1) fun _ s =>
    { s with alloc_id := s.alloc_id + 1 }
  if id < 0 then
    .act (fun _ s => s.alloc_id &&& 0x7fffffff) fun _ s =>
      { s with alloc_id := s.alloc_id &&& 0x7fffffff }
  else
    return id

/--
The loop of `ReserveId`, over so many rounds; `i` counts the rounds in which
the exchange did not fail.
-/
def reserveIdLoop : Nat → Nat → ServerAction Worker (Option Int32)
  | 0, _ => do
      .check False
      return none
  | rounds + 1, i => do
      if MAX_SOCKET ≤ i then return none
      let id ← allocateId
      let k := hashId id
      if (← atSlot k (load (·.type))) = .kSocketTypeInvalid then
        if ← reserveSlot k then
          atSlot k (store (reservedSocket id))
          return some id
        else
          reserveIdLoop rounds i
      else
        reserveIdLoop rounds (i + 1)

/-- `ReserveId`. -/
def reserveId : ServerAction Worker (Option Int32) := do
  reserveIdLoop (← answer (·.rounds)) 0

end Reserve

section Open

/-- The fields that `NewFd` sets. -/
def newSocket
    (id fd : Int32)
    (protocol : Protocol)
    (opaqueValue : UInt64)
    (sock : Socket Worker) : Socket Worker :=
  { sock with
    id := id
    fd := fd
    reading := true
    writing := false
    closing := false
    sending := idTag16 id <<< 16
    protocol := protocol
    p := .size MIN_READ_BUFFER
    opaqueValue := opaqueValue
    wb_size := 0
    warn_size := 0 }

/-- Store a type. -/
def storeType (type : SocketType) : SocketAction Worker Unit :=
  store ({ · with type := type })

/-- `NewFd`, on the slot of the id: whether there is a new socket. -/
def newFd
    (id fd : Int32)
    (protocol : Protocol)
    (opaqueValue : UInt64)
    (reading : Bool) : SocketAction Worker Bool := do
  .check ((← load (·.type)) = .kSocketTypeReserve)
  if (← answer (·.result)) ≠ 0 then
    storeType .kSocketTypeInvalid
    return false
  store (newSocket id fd protocol opaqueValue)
  .check (← load (·.high.isEmpty))
  .check (← load (·.low.isEmpty))
  store ({ · with dw_buffer := none, dw_size := 0 })
  if ← enableRead reading then
    storeType .kSocketTypeInvalid
    return false
  return true

/-- A message about a socket that a request names. -/
def requestMessage
    (id ud : Int32)
    (opaqueValue : UInt64)
    (data : MessageData) : SocketAction Worker SocketMessage :=
  .ask fun _ v =>
    { id := id
      ud := ud
      opaqueValue := opaqueValue
      data := data
      about := (v.index, v.sock.incarnation) }

/-- A report of an error about a socket that could not be opened. -/
def openFailed
    (id : Int32)
    (opaqueValue : UInt64)
    (text : String) : SocketAction Worker Outcome := do
  let message ← requestMessage id 0 opaqueValue (.text text)
  storeType .kSocketTypeInvalid
  return some (.kSocketErr, message)

/-- The text of an address that `inet_ntop` wrote, if it did. -/
def addressText
    (data : MessageData)
    (text : Option String) : MessageData :=
  match text with
  | some text => .text text
  | none => data

/-- `OpenSocket` once a descriptor is connected, or connecting. -/
def openedSocket
    (id sock status : Int32)
    (opaqueValue : UInt64)
    (data : MessageData) : SocketAction Worker Outcome := do
  if ← newFd id sock .TCP opaqueValue true then
    if status = 0 then
      storeType .kSocketTypeConnected
      let text ← answer (·.text)
      return some
        (.kSocketOpen,
          ← requestMessage id 0 opaqueValue (addressText data text))
    else if ← enableWrite true then
      openFailed id opaqueValue "enable write failed"
    else
      storeType .kSocketTypeConnecting
      return none
  else
    openFailed id opaqueValue "reach skynet socket number limit"

/--
`OpenSocket`; host and port go to `getaddrinfo`.  The loop over the addresses
ends with the first descriptor that `connect` accepts, or without one.
-/
def openSocket
    (id : Int32)
    (opaqueValue : UInt64) : SocketAction Worker Outcome := do
  let data ← nullData
  if (← answer (·.result)) ≠ 0 then
    return ← openFailed id opaqueValue (← strerror)
  let (sock, status) ← answer fun input => (input.number, input.error)
  if sock < 0 then
    return ← openFailed id opaqueValue (← strerror)
  openedSocket id sock (if status = 0 then 0 else -1) opaqueValue data

/-- `ListenSocket` of a new socket. -/
def listeningSocket
    (id : Int32)
    (opaqueValue : UInt64) : SocketAction Worker Outcome := do
  storeType .kSocketTypePlisten
  let (named, text, port) ←
    answer fun input => (input.result, input.text, input.number)
  if named = 0 then
    match text with
    | some text =>
        return some
          (.kSocketOpen, ← requestMessage id port opaqueValue (.text text))
    | none =>
        return some
          (.kSocketErr,
            ← requestMessage id 0 opaqueValue (.text (← strerror)))
  else
    return some
      (.kSocketErr, ← requestMessage id 0 opaqueValue (.text (← strerror)))

/-- `ListenSocket`. -/
def listenSocket
    (id fd : Int32)
    (opaqueValue : UInt64) : SocketAction Worker Outcome := do
  if ← newFd id fd .TCP opaqueValue false then
    listeningSocket id opaqueValue
  else
    openFailed id opaqueValue "reach skynet socket number limit"

/-- `BindSocket`. -/
def bindSocket
    (id fd : Int32)
    (opaqueValue : UInt64) : SocketAction Worker Outcome := do
  if ← newFd id fd .TCP opaqueValue true then
    storeType .kSocketTypeBind
    return some
      (.kSocketOpen, ← requestMessage id 0 opaqueValue (.text "binding"))
  else
    return some
      (.kSocketErr,
        ← requestMessage id 0 opaqueValue
          (.text "reach skynet socket number limit"))

/-- `AddUDPSocket`.  `NewFd` leaves a number in `p`, and `std::get` throws. -/
def addUDPSocket
    (id fd family : Int32)
    (opaqueValue : UInt64) : SocketAction Worker Unit := do
  -- `AF_INET6` is 10
  let protocol := if family = 10 then Protocol.UDPv6 else .UDP
  if ← newFd id fd protocol opaqueValue true then
    storeType .kSocketTypeConnected
    let _ ← getUdpAddress
    store ({ · with p := .udpAddress (List.replicate kUdpAddressSize 0) })
  else
    storeType .kSocketTypeInvalid

end Open

section Control

/-- `CloseRead`. -/
def closeRead : SocketAction Worker SocketMessage := do
  storeType .kSocketTypeHalfCloseRead
  let _ ← enableRead false
  socketMessage 0 (← nullData)

/-- `CloseSocket` of a socket that is there. -/
def closeFound (shutdown : Int32) : SocketAction Worker Outcome := do
  let shutdown_read ← halfcloseRead
  let nothingToSend : Bool ← pure (shutdown ≠ 0) <||> nomoreSendingData
  if nothingToSend then
    let message ← forceClose 0
    return if shutdown_read then none else some (.kSocketClose, message)
  store ({ · with closing := true })
  if shutdown_read then
    return none
  else
    return some (.kSocketClose, ← closeRead)

/-- `CloseSocket`, on the slot of the request. -/
def closeSocket (id shutdown : Int32) : SocketAction Worker Outcome := do
  if ← socketInvalid id then return none
  closeFound shutdown

/-- `ResumeSocket` of a socket that is there. -/
def resumedSocket
    (id : Int32)
    (opaqueValue : UInt64) : SocketAction Worker Outcome := do
  let type ← load (·.type)
  if type = .kSocketTypeIPaccept ∨ type = .kSocketTypePlisten then
    storeType
      (if type = .kSocketTypeIPaccept then .kSocketTypeConnected
        else .kSocketTypeListen)
    store ({ · with opaqueValue := opaqueValue })
    return some
      (.kSocketOpen, ← requestMessage id 0 opaqueValue (.text "start"))
  if type = .kSocketTypeConnected then
    store ({ · with opaqueValue := opaqueValue })
    return some
      (.kSocketOpen, ← requestMessage id 0 opaqueValue (.text "transfer"))
  return none

/-- `ResumeSocket`. -/
def resumeSocket
    (id : Int32)
    (opaqueValue : UInt64) : SocketAction Worker Outcome := do
  let _ ← nullData
  if ← socketInvalid id then
    return some
      (.kSocketErr,
        ← requestMessage id 0 opaqueValue (.text "invalid socket"))
  if ← halfcloseRead then
    return some
      (.kSocketErr, ← requestMessage id 0 opaqueValue (.text "socket closed"))
  if ← enableRead true then
    return some
      (.kSocketErr,
        ← requestMessage id 0 opaqueValue (.text "enable read failed"))
  resumedSocket id opaqueValue

/-- `PauseSocket`. -/
def pauseSocket (id : Int32) : SocketAction Worker Outcome := do
  if ← socketInvalid id then return none
  if ← enableRead false then
    return ← reportError "enable read failed"
  return none

/-- `SetOptSocket`; the option itself is the operating system's. -/
def setOptSocket (id : Int32) : SocketAction Worker Unit := do
  let _ ← socketInvalid id

/-- The protocol whose number is the first byte of an address. -/
def protocolOf (udp_address : List UInt8) : Option Protocol :=
  match udp_address.getD 0 0 with
  | 0 => some .TCP
  | 1 => some .UDP
  | 2 => some .UDPv6
  | 3 => some .UNKNOWN
  | _ => none

/-- `SetUDPAddress`. -/
def setUDPAddress
    (id : Int32)
    (address : List UInt8) : SocketAction Worker Outcome := do
  if ← socketInvalid id then return none
  let protocol ← load (·.protocol)
  if protocolOf address ≠ some protocol then
    return ← reportError "protocol mismatch"
  let old ← getUdpAddress
  let size := if protocol = .UDP then 7 else 19
  store ({ · with p := .udpAddress (address.take size ++ old.drop size) })
  store fun sock => { sock with udpconnecting := sock.udpconnecting - 1 }
  return none

/-- `DecSendingRef`. -/
def decSendingRef (id : Int32) : SocketAction Worker Unit := do
  let counted : Bool ← load (·.id = id) <&&> load (·.protocol = .TCP)
  if counted then
    .check ((← load (·.sending &&& 0xffff)) ≠ 0)
    store fun sock => { sock with sending := sock.sending - 1 }

/-- `CtrlCmd` for a payload to send. -/
def sendRequested
    (request : RequestSend Buffer)
    (priority : Priority) : SocketAction Worker Outcome := do
  let ret ← sendSocket request priority none
  decSendingRef request.id
  return ret

end Control

/-- `BlockReadpipe`, for a whole request. -/
def takeRequest : ServerAction Worker (SocketRequest Buffer) :=
  .attempt (fun s => s.pipe.headD .exit) fun s =>
    match s.pipe with
    | [] => none
    | _ :: rest => some { s with pipe := rest }

end SkynetCpp
