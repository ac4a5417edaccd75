import SkynetCpp.SocketControl

namespace SkynetCpp

open Foundation

/-!
# The loop of the socket thread

`Poll` handles a request from the control pipe or one of the events that were
fetched.  One call of the model is one round of its loop; a round that ends
without a report is followed by another one.
-/

variable {Worker : Type}

section Sockets

/-- `std::get<int>(sock.p)`, which may throw. -/
def getReadSize : SocketAction Worker Int32 := do
  match ← load (·.p) with
  | .size sz => return sz
  | .udpAddress _ =>
      .check False
      return 0

/-- `ForwardMessageTCP` at the end of the stream. -/
def forwardEnd (count : Nat) : SocketAction Worker Outcome := do
  -- `delete buffer`, which is not set here
  useUnset
  if ← load (·.closing) then
    if ← nomoreSendingData then
      let _ ← forceClose count
    return none
  let t ← load (·.type)
  if t = .kSocketTypeHalfCloseRead then return none
  if t = .kSocketTypeHalfCloseWrite then
    return some (.kSocketClose, ← forceClose count)
  else
    return some (.kSocketClose, ← closeRead)

/-- `ForwardMessageTCP` of data. -/
def forwardData
    (sz n : Int32)
    (bytes : List UInt8) : SocketAction Worker Outcome := do
  if ← halfcloseRead then return none
  let message ← socketMessage n (.bytes bytes)
  if n = sz then
    store ({ · with p := .size (sz * 2) })
    return some (.kSocketMore, message)
  if MIN_READ_BUFFER < sz ∧ n * 2 < sz then
    store ({ · with p := .size (sz / 2) })
  return some (.kSocketData, message)

/-- `ForwardMessageTCP`. -/
def forwardMessageTCP (count : Nat) : SocketAction Worker Outcome := do
  let sz ← getReadSize
  let (n, errno, bytes) ←
    answer fun input => (input.number, input.errno, input.bytes)
  if n < 0 then
    if errno = .EINTR ∨ errno = .AGAIN_WOULDBLOCK then return none
    return ← reportError (← strerror)
  if n = 0 then return ← forwardEnd count
  forwardData sz n bytes

/-- A close on an error, which is reported. -/
def closeOnError
    (count : Nat)
    (text : String) : SocketAction Worker Outcome := do
  let message ← forceClose count
  return some (.kSocketErr, { message with data := .text text })

/-- `ForwardMessageUDP`. -/
def forwardMessageUDP (count : Nat) : SocketAction Worker Outcome := do
  let (n, errno, isV4, bytes) ←
    answer fun input => (input.number, input.errno, input.flag, input.bytes)
  if n < 0 then
    if errno = .EINTR ∨ errno = .AGAIN_WOULDBLOCK then return none
    return ← closeOnError count (← strerror)
  if (← load (·.protocol)) ≠ (if isV4 then .UDP else .UDPv6) then
    return none
  return some (.kSocketUDP, ← socketMessage n (.bytes bytes))

/-- `ReportConnect` of a socket that is connected. -/
def reportConnected : SocketAction Worker Outcome := do
  storeType .kSocketTypeConnected
  -- the data is filled in below
  let message ← socketMessage 0 (.text "")
  let failed : Bool ← nomoreSendingData <&&> enableWrite false
  if failed then
    return ← closeOnError 0 "disable write failed"
  match ← answer (·.text) with
  | some text => return some (.kSocketOpen, { message with data := .text text })
  | none => return some (.kSocketOpen, { message with data := ← nullData })

/-- `ReportConnect`. -/
def reportConnect : SocketAction Worker Outcome := do
  let (code, error) ← answer fun input => (input.result, input.error)
  if code < 0 ∨ error ≠ 0 then
    closeOnError 0 (← strerror)
  else
    reportConnected

/-- `Poll` on the eof flag of an event. -/
def pollEof : SocketAction Worker Outcome := do
  let halfclose ← halfcloseRead
  let message ← forceClose 0
  return if halfclose then none else some (.kSocketClose, message)

end Sockets

section Accept

/-- `ReportAccept` when the spare descriptor, if there is one, was used. -/
def replaceSpare : ServerAction Worker Unit := do
  if 0 ≤ (← .ask fun _ s => s.reserve_fd) then
    .act (fun _ _ => ()) fun input s => { s with reserve_fd := input.number }

/--
`ReportAccept` without a descriptor.  When there are none left, the spare one
is used to refuse the connection.
-/
def refuseAccept
    (k : Nat)
    (errno : Errno) : ServerAction Worker Outcome := do
  if errno = .EMFILE then
    let outcome ← atSlot k (do reportError (← strerror))
    replaceSpare
    return outcome
  return none

/-- `ReportAccept`: `kSocketAccept` for 1, `kSocketErr` for -1. -/
def reportAccept (k : Nat) : ServerAction Worker Outcome := do
  let (client_fd, errno) ← answer fun input => (input.number, input.errno)
  if client_fd < 0 then return ← refuseAccept k errno
  match ← reserveId with
  | none => return none
  | some id =>
      let opaqueValue ← atSlot k (load (·.opaqueValue))
      if ← atSlot (hashId id)
          (newFd id client_fd .TCP opaqueValue false) then
        atSlot (hashId id) (storeType .kSocketTypeIPaccept)
        let data ← nullData
        let text ← answer (·.text)
        return some
          (.kSocketAccept,
            ← atSlot k (socketMessage id (addressText data text)))
      else
        return none

end Accept

section Poll

/-- The loop of `ClearClosedEvent`, over so many events from the index on. -/
def clearClosedEventLoop
    (id : Int32) : Nat → Nat → ServerAction Worker Unit
  | 0, _ => return ()
  | rounds + 1, i => do
      match ← .ask fun _ s => (s.ev.getD i default).s with
      | none => clearClosedEventLoop id rounds (i + 1)
      | some j =>
          let closed : Bool ←
            atSlot j (socketInvalid id <&&> load (·.id = id))
          if closed then
            .act (fun _ _ => ()) fun _ s =>
              { s with ev := s.ev.modify i ({ · with s := none }) }
          else
            clearClosedEventLoop id rounds (i + 1)

/-- `ClearClosedEvent`. -/
def clearClosedEvent
    (socket_message : SocketMessage)
    (type : Report) : ServerAction Worker Unit := do
  if type = .kSocketClose ∨ type = .kSocketErr then
    let (rounds, i) ←
      .ask fun _ s => (s.event_n - s.event_index, s.event_index)
    clearClosedEventLoop socket_message.id rounds i

/-- Return from `Poll`, or go on with its loop. -/
def pollReturn : Outcome → ServerAction Worker Unit
  | some (type, message) => record (.polled type message)
  | none => return ()

/-- Handle the last event once more. -/
def putBack : ServerAction Worker Unit :=
  .act (fun _ _ => ()) fun _ s => { s with event_index := s.event_index - 1 }

/-- Handle the event at an index once more, without its read flag. -/
def putBackWrite (index : Nat) : ServerAction Worker Unit :=
  .act (fun _ _ => ()) fun _ s =>
    { s with
      ev := s.ev.modify index ({ · with read := false })
      event_index := s.event_index - 1 }

/-- `Poll` after a read. -/
def pollAfterRead
    (index : Nat)
    (event : Event) : Outcome → ServerAction Worker Outcome
  | some (.kSocketMore, message) => do
      putBack
      return some (.kSocketData, message)
  | some (.kSocketUDP, message) => do
      putBack
      return some (.kSocketUDP, message)
  | outcome => do
      let type := outcome.map Prod.fst
      if event.write ∧ type ≠ some .kSocketClose ∧ type ≠ some .kSocketErr then
        -- the write flag is dispatched next
        putBackWrite index
      return outcome

/-- `EpollWait`: whether there are events. -/
def epollWait : ServerAction Worker Bool :=
  .act (fun input _ => !(input.events.take 64).isEmpty) fun input s =>
    { s with
      ev := (input.events.take 64).map fun event =>
        { event with incarnation := event.s.bind s.held }
      event_n := (input.events.take 64).length
      event_index := 0
      checkctrl := true }

/-- `Poll` fetches the next event, and the type of its socket. -/
def fetchEvent : ServerAction Worker (Nat × Event × SocketType) :=
  .act
    (fun _ s =>
      let event := s.ev.getD s.event_index default
      (s.event_index, event, (s.slot (event.s.getD 0)).type))
    fun _ s =>
      let event := s.ev.getD s.event_index default
      let fetched := { s with event_index := s.event_index + 1 }
      match event.s with
      | none => fetched
      | some k =>
          if (s.slot k).type = .kSocketTypeInvalid then fetched
          else fetched.note (.handled event k (s.slot k).incarnation)

/-- `HasCmd`. -/
def hasCmd : ServerAction Worker Bool :=
  .ask fun input s => input.flag && !s.pipe.isEmpty

end Poll

/--
How the socket thread runs its code: on the server alone, or with the
descriptors that the operating system keeps for it.
-/
structure SocketThread (Worker State : Type) where
  onServer {α : Type} : ServerAction Worker α → Program State OsAnswer α
  onSocket {α : Type} :
    Nat → SocketAction Worker α → Program State OsAnswer α
  openSocket :
    Int32 → UInt64 → Program State OsAnswer Outcome
  listenSocket :
    Int32 → Int32 → UInt64 → Program State OsAnswer Outcome
  bindSocket :
    Int32 → Int32 → UInt64 → Program State OsAnswer Outcome
  addUDPSocket :
    Int32 → Int32 → Int32 → UInt64 → Program State OsAnswer Unit
  reportAccept :
    Nat → Program State OsAnswer Outcome

namespace SocketThread

variable
    {State : Type}
    (thread : SocketThread Worker State)

/-- `CtrlCmd` on the request that it read. -/
def handleRequest :
    SocketRequest Buffer → Program State OsAnswer Outcome
  | .resume id opaqueValue =>
      thread.onSocket (hashId id) (resumeSocket id opaqueValue)
  | .pause id => thread.onSocket (hashId id) (pauseSocket id)
  | .bind id fd opaqueValue => thread.bindSocket id fd opaqueValue
  | .listen id fd opaqueValue => thread.listenSocket id fd opaqueValue
  | .close id shutdown =>
      thread.onSocket (hashId id) (closeSocket id shutdown)
  | .connect id _ opaqueValue _ => thread.openSocket id opaqueValue
  | .exit => return some (.kSocketExit, ⟨0, 0, 0, ← nullData, (0, 0)⟩)
  | .triggerWrite id => thread.onSocket (hashId id) (triggerWrite id)
  | .send request =>
      thread.onSocket (hashId request.id) (sendRequested request .high)
  | .sendLow request =>
      thread.onSocket (hashId request.id) (sendRequested request .low)
  | .sendUdp request address =>
      thread.onSocket (hashId request.id)
        (sendSocket request .high (some address))
  | .setUdp id address =>
      thread.onSocket (hashId id) (setUDPAddress id address)
  | .setOpt id _ _ => do
      thread.onSocket (hashId id) (setOptSocket id)
      return none
  | .udp id fd family opaqueValue => do
      thread.addUDPSocket id fd family opaqueValue
      return none
  | .unknown _ => return none

/-- `CtrlCmd`. -/
def ctrlCmd : Program State OsAnswer Outcome := do
  thread.handleRequest (← thread.onServer takeRequest)

/-- `Poll` on the read flag of an event. -/
def pollRead
    (index k : Nat)
    (event : Event) : Program State OsAnswer Outcome := do
  let outcome ← thread.onSocket k do
    if (← load (·.protocol)) = .TCP then forwardMessageTCP 0
    else forwardMessageUDP 0
  thread.onServer (pollAfterRead index event outcome)

/-- `Poll` on an event for a socket that is in use. -/
def pollFlags
    (index k : Nat)
    (event : Event) : Program State OsAnswer Outcome := do
  if event.read then thread.pollRead index k event
  else if event.write then thread.onSocket k sendBuffer
  else if event.error then thread.onSocket k (do reportError (← strerror))
  else if event.eof then thread.onSocket k pollEof
  else return none

/-- `Poll` on an event for a slot, whose type was loaded. -/
def pollEvent
    (index k : Nat)
    (event : Event)
    (type : SocketType) : Program State OsAnswer Outcome := do
  match type with
  | .kSocketTypeConnecting => thread.onSocket k reportConnect
  | .kSocketTypeListen => thread.reportAccept k
  | .kSocketTypeInvalid => return none
  | _ => thread.pollFlags index k event

/-- `Poll` on the next event. -/
def pollEvents : Program State OsAnswer Unit := do
  let waiting : Bool ← thread.onServer (.ask fun _ s => s.event_index ≠ s.event_n)
  let fetched : Bool ← pure waiting <||> thread.onServer epollWait
  if fetched then
    let (index, event, type) ← thread.onServer fetchEvent
    match event.s with
    | none => return ()
    | some k =>
        thread.onServer (pollReturn (← thread.pollEvent index k event type))

/-- `Poll` on the next request. -/
def pollRequest : Program State OsAnswer Unit := do
  match ← thread.ctrlCmd with
  | some (type, message) =>
      thread.onServer (clearClosedEvent message type)
      thread.onServer (pollReturn (some (type, message)))
  | none => return ()

/-- One round of the loop of `Poll`. -/
def pollRound : Program State OsAnswer Unit := do
  let checking : Bool ← thread.onServer (.ask fun _ s => s.checkctrl)
  if checking then
    if ← thread.onServer hasCmd then
      thread.pollRequest
    else
      thread.onServer (.act (fun _ _ => ()) fun _ s => { s with checkctrl := false })
      thread.pollEvents
  else
    thread.pollEvents

end SocketThread

section Server

/-- The code on the server alone. -/
def serverThread : SocketThread Worker (SocketServer Worker) where
  onServer action := action
  onSocket k action := atSlot k action
  openSocket id opaqueValue := atSlot (hashId id) (openSocket id opaqueValue)
  listenSocket id fd opaqueValue :=
    atSlot (hashId id) (listenSocket id fd opaqueValue)
  bindSocket id fd opaqueValue :=
    atSlot (hashId id) (bindSocket id fd opaqueValue)
  addUDPSocket id fd family opaqueValue :=
    atSlot (hashId id) (addUDPSocket id fd family opaqueValue)
  reportAccept := reportAccept

/-- One round of the loop of `Poll`, on the server alone. -/
def pollRound : ServerAction Worker Unit :=
  serverThread.pollRound

end Server

end SkynetCpp
