import SkynetCpp.SocketWorkers

namespace SkynetCpp

open Foundation

/-!
# What the socket thread does to a socket

Every step of the socket thread on a socket is of one of a few kinds.  Only the
address of a socket for datagrams is written by code that has read it before;
`AddUDPSocket` and `SetUDPAddress` are left out here.
-/

variable
    {Worker α β : Type}
    {releases : Prop}

section Sockets

/-- One step of the socket thread on a socket, which may release the slot. -/
inductive Touches
    (releases : Prop)
    (v : SocketView Worker) : SocketView Worker → Prop where
  | nothing :
      Touches releases v v
  /-- The lock is taken or released. -/
  | lock
      (dw_lock : Option (Caller Worker)) :
      Touches releases v { v with sock := { v.sock with dw_lock := dw_lock } }
  /-- Bytes are queued, written or dropped. -/
  | queues
      (high low : List WriteBuffer)
      (wb_size warn_size : Int64)
      (dw_buffer : Buffer)
      (dw_size : Nat)
      (notes : List SocketNote) :
      Touches releases v
        { v with
          sock :=
            { v.sock with
              high := high
              low := low
              wb_size := wb_size
              warn_size := warn_size
              dw_buffer := dw_buffer
              dw_size := dw_size }
          notes := notes }
  /-- The interest in events changes, or a close is put off. -/
  | flags
      (reading writing closing : Bool) :
      Touches releases v
        { v with
          sock :=
            { v.sock with
              reading := reading
              writing := writing
              closing := closing } }
  | transfer
      (opaqueValue : UInt64) :
      Touches releases v { v with sock := { v.sock with opaqueValue := opaqueValue } }
  | retype
      (type : SocketType)
      (isSetUp : type.isSetUp) :
      Touches releases v { v with sock := { v.sock with type := type } }
  | release
      (isReleased : releases) :
      Touches releases v
        { v with sock := { v.sock with type := .kSocketTypeInvalid } }
  /-- `NewFd` sets up a socket. -/
  | renew
      (id fd : Int32)
      (protocol : Protocol)
      (opaqueValue : UInt64) :
      Touches releases v
        { v with sock := newSocket id fd protocol opaqueValue v.sock }
  /-- `DecSendingRef`. -/
  | countDown :
      Touches releases v
        { v with sock := { v.sock with sending := v.sock.sending - 1 } }
  /-- `ForwardMessageTCP` adapts the size of the next read. -/
  | readSize
      (sz : Int32) :
      Touches releases v { v with sock := { v.sock with p := .size sz } }

instance : Std.Refl (@Touches Worker releases) where
  refl _ := .nothing

/-- Code of the socket thread on a socket. -/
abbrev Touching
    (releases : Prop)
    (action : SocketAction Worker α) : Prop :=
  action.Follows (Touches releases)

namespace Touching

section Rules

theorem load
    (field : Socket Worker → α) :
    Touching releases (SkynetCpp.load field) :=
  .ask _

theorem answer
    (value : OsAnswer → α) :
    Touching releases (SkynetCpp.answer value : SocketAction Worker α) :=
  .ask _

theorem store
    {change : Socket Worker → Socket Worker}
    (touches : ∀ v, Touches releases v { v with sock := change v.sock }) :
    Touching releases (SkynetCpp.store change) :=
  .act fun _ v => touches v

theorem storeType
    {type : SocketType}
    (isSetUp : type.isSetUp) :
    Touching releases (SkynetCpp.storeType type : SocketAction Worker Unit) :=
  store fun _ => .retype type isSetUp

theorem socketMessage
    (ud : Int32)
    (data : MessageData) :
    Touching releases
      (SkynetCpp.socketMessage ud data : SocketAction Worker _) :=
  .ask _

/-- A report of a message. -/
theorem report
    {action : SocketAction Worker SocketMessage}
    (first : Touching releases action)
    (report : Report) :
    Touching releases
      (do return some (report, ← action) : SocketAction Worker Outcome) :=
  .bind first fun _ => .pure _

theorem requestMessage
    (report : Report)
    (id ud : Int32)
    (opaqueValue : UInt64)
    (data : MessageData) :
    Touching releases (do
      return some
        (report, ← SkynetCpp.requestMessage id ud opaqueValue data) :
      SocketAction Worker Outcome) :=
  Touching.report (.ask _) report

theorem reportError
    (err : String) :
    Touching releases
      (SkynetCpp.reportError err : SocketAction Worker Outcome) :=
  report (socketMessage _ _) _

/-- A report of the text for `errno`. -/
theorem reportErrno :
    Touching releases (do SkynetCpp.reportError (← strerror) :
      SocketAction Worker Outcome) :=
  .bind (answer _) fun _ => reportError _

theorem socketLock
    (caller : Caller Worker)
    (count : Nat) :
    Touching releases (SkynetCpp.socketLock caller count) := by
  refine .ite (.bind (.attempt fun v v' taken => ?_) fun _ => .pure _) (.pure _)
  split at taken
  · cases taken
    exact .lock _
  · cases taken

theorem socketTrylock
    (caller : Caller Worker) :
    Touching releases (SkynetCpp.socketTrylock caller) := by
  refine .act fun _ v => ?_
  split
  · exact .lock _
  · exact .nothing

theorem socketUnlock
    (count : Nat) :
    Touching releases
      (SkynetCpp.socketUnlock count : SocketAction Worker Unit) :=
  .ite (store fun _ => .lock _) (.pure _)

theorem socketInvalid
    (id : Int32) :
    Touching releases (SkynetCpp.socketInvalid id : SocketAction Worker Bool) :=
  .bind (load _) fun _ => .ite (.pure _) (.bind (load _) fun _ => .pure _)

theorem sendBufferEmpty :
    Touching releases (SkynetCpp.sendBufferEmpty : SocketAction Worker Bool) :=
  .andM (load _) (load _)

theorem nomoreSendingData :
    Touching releases
      (SkynetCpp.nomoreSendingData : SocketAction Worker Bool) :=
  .orM (.andM sendBufferEmpty (.andM (load _) (load _))) (load _)

theorem enableWrite
    (enable : Bool) :
    Touching releases
      (SkynetCpp.enableWrite enable : SocketAction Worker Bool) :=
  .act fun _ _ => .flags _ _ _

theorem enableRead
    (enable : Bool) :
    Touching releases
      (SkynetCpp.enableRead enable : SocketAction Worker Bool) :=
  .act fun _ _ => .flags _ _ _

theorem getUdpAddress :
    Touching releases
      (SkynetCpp.getUdpAddress : SocketAction Worker (List UInt8)) := by
  refine .bind (load _) fun p => ?_
  cases p
  · exact .bind (.check _) fun _ => .pure _
  · exact .pure _

theorem getReadSize :
    Touching releases (SkynetCpp.getReadSize : SocketAction Worker Int32) := by
  refine .bind (load _) fun p => ?_
  cases p
  · exact .pure _
  · exact .bind (.check _) fun _ => .pure _

end Rules

section Closing

theorem forceClose
    (count : Nat) :
    Touching releases
      (SkynetCpp.forceClose count : SocketAction Worker SocketMessage) :=
  nullData_ends _ _

theorem closeWrite
    (count : Nat) :
    Touching releases
      (SkynetCpp.closeWrite count : SocketAction Worker Outcome) := by
  have reset :
      Touching releases
        (do return some (.kSocketRst, ← SkynetCpp.forceClose count) :
          SocketAction Worker Outcome) :=
    report (forceClose count) _
  refine .bind (load _) fun _ => .ite reset (.bind (load _) fun _ => ?_)
  refine .ite reset (.ite (report (socketMessage _ _) _) ?_)
  exact .bind (storeType (by decide)) fun _ =>
    .bind (enableWrite _) fun _ => reportErrno

theorem closeRead :
    Touching releases
      (SkynetCpp.closeRead : SocketAction Worker SocketMessage) :=
  .bind (storeType (by decide)) fun _ =>
    .bind (enableRead _) fun _ => nullData_ends _ _

/-- A close that is reported unless the socket was half closed. -/
theorem reportClose
    (half : Bool) :
    Touching releases (do
      let message ← SkynetCpp.forceClose 0
      return if half then none else some (.kSocketClose, message) :
      SocketAction Worker Outcome) :=
  .bind (forceClose _) fun _ => .pure _

theorem closeSocket
    (id shutdown : Int32) :
    Touching releases
      (SkynetCpp.closeSocket id shutdown : SocketAction Worker Outcome) := by
  refine .bind (socketInvalid _) fun _ => .ite (.pure _) ?_
  refine .bind (load _) fun half =>
    .bind (.orM (.pure _) nomoreSendingData) fun _ => .ite (reportClose half) ?_
  exact .bind (store fun _ => .flags _ _ _) fun _ =>
    .ite (.pure _) (report closeRead _)

theorem closeOnError
    (count : Nat)
    (text : String) :
    Touching releases
      (SkynetCpp.closeOnError count text : SocketAction Worker Outcome) :=
  .bind (forceClose _) fun _ => .pure _

theorem pollEof :
    Touching releases (SkynetCpp.pollEof : SocketAction Worker Outcome) :=
  .bind (load _) fun half => reportClose half

end Closing

section Writing

theorem writeHead
    (priority : Priority) :
    Touching releases
      (SkynetCpp.writeHead priority : SocketAction Worker _) := by
  refine .act fun input v => ?_
  split
  · exact .nothing
  · split
    · split
      · exact .nothing
      · exact .queues _ _ _ _ _ _ _
    · cases priority <;> exact .queues _ _ _ _ _ _ _

theorem sendHeadUDP
    (priority : Priority) :
    Touching releases
      (SkynetCpp.sendHeadUDP priority : SocketAction Worker _) := by
  refine .act fun input v => ?_
  split
  · exact .nothing
  · split
    · exact .nothing
    · cases priority <;> exact .queues _ _ _ _ _ _ v.notes

theorem sendListTCPLoop
    (priority : Priority)
    (count nodes : Nat) :
    Touching releases
      (SkynetCpp.sendListTCPLoop priority count nodes :
        SocketAction Worker Outcome) := by
  induction nodes with
  | zero =>
      exact .pure _
  | succ nodes inductionHypothesis =>
      refine .bind (writeHead priority) fun written => ?_
      cases written
      · exact .pure _
      · exact inductionHypothesis
      · exact .pure _
      · exact closeWrite count

theorem sendListUDPLoop
    (priority : Priority)
    (nodes : Nat) :
    Touching releases
      (SkynetCpp.sendListUDPLoop priority nodes :
        SocketAction Worker Outcome) := by
  induction nodes with
  | zero =>
      exact .pure _
  | succ nodes inductionHypothesis =>
      refine .bind (sendHeadUDP priority) fun written => ?_
      cases written
      · exact .pure _
      · exact inductionHypothesis
      · exact .pure _
      · exact .pure _

theorem sendList
    (priority : Priority)
    (count : Nat) :
    Touching releases
      (SkynetCpp.sendList priority count : SocketAction Worker Outcome) :=
  .bind (load _) fun _ =>
    .ite (.bind (load _) fun nodes => sendListTCPLoop priority count nodes)
      (.bind (load _) fun nodes => sendListUDPLoop priority nodes)

theorem sentBuffer
    (count : Nat) :
    Touching releases
      (SkynetCpp.sentBuffer count : SocketAction Worker Outcome) := by
  refine .bind (load _) fun _ => .bind (.check _) fun _ =>
    .bind (load _) fun _ => .ite ?_ (.bind (enableWrite _) fun _ => .ite ?_ ?_)
  · exact .bind (forceClose _) fun _ => .pure _
  · exact reportError _
  · refine .bind (load _) fun _ => .ite ?_ (.pure _)
    exact .bind (store fun v => .queues _ _ _ _ _ _ v.notes) fun _ =>
      nullData_ends _ _

theorem afterList
    (outcome : Outcome)
    {rest : SocketAction Worker Outcome}
    (goesOn : Touching releases rest) :
    Touching releases (SkynetCpp.afterList outcome rest) := by
  cases outcome with
  | none =>
      exact goesOn
  | some outcome =>
      obtain ⟨report, message⟩ := outcome
      cases report <;> exact .pure _

theorem sentLow
    (count : Nat) :
    Touching releases
      (SkynetCpp.sentLow count : SocketAction Worker Outcome) := by
  refine .bind (.ask _) fun _ => .ite (.bind ?_ fun _ => .pure _) ?_
  · exact .bind (load _) fun _ => .bind (.check _) fun _ =>
      store fun v => .queues _ _ _ _ _ _ v.notes
  · exact .bind (load _) fun _ => .ite (sentBuffer count) (.pure _)

theorem sentHigh
    (count : Nat) :
    Touching releases
      (SkynetCpp.sentHigh count : SocketAction Worker Outcome) :=
  .bind (load _) fun _ =>
    .ite
      (.bind (load _) fun _ =>
        .ite (sentBuffer count)
          (.bind (sendList _ _) fun outcome =>
            afterList outcome (sentLow count)))
      (.pure _)

theorem sendBuffer :
    Touching releases (SkynetCpp.sendBuffer : SocketAction Worker Outcome) := by
  have raised :
      ∀ v : SocketView Worker,
        Touches releases v { v with sock := SkynetCpp.raiseDirect v.sock } := by
    intro v
    unfold SkynetCpp.raiseDirect
    split
    · exact .queues _ _ _ _ _ _ v.notes
    · exact .nothing
  refine .bind (socketTrylock _) fun _ => .ite ?_ (.pure _)
  refine .bind (store raised) fun _ =>
    .bind (.bind (.ask _) fun _ => .bind (.check _) fun _ => ?_) fun _ =>
      .bind (socketUnlock _) fun _ => .pure _
  exact .bind (sendList _ _) fun outcome => afterList outcome (sentHigh _)

theorem appendSendbuffer
    (priority : Priority)
    (request : RequestSend Buffer) :
    Touching releases
      (SkynetCpp.appendSendbuffer priority request :
        SocketAction Worker Unit) :=
  .bind useUnset_follows fun _ =>
    store fun v => by cases priority <;> exact .queues _ _ _ _ _ _ v.notes

theorem warnSocket :
    Touching releases (SkynetCpp.warnSocket : SocketAction Worker Outcome) :=
  .bind (load _) fun _ => .bind (load _) fun _ =>
    .ite
      (.bind (store fun v => .queues _ _ _ _ _ _ v.notes) fun _ =>
        nullData_ends _ _)
      (.pure _)

theorem sendSocketUDP
    (request : RequestSend Buffer)
    (address : Option (List UInt8)) :
    Touching releases
      (SkynetCpp.sendSocketUDP request address : SocketAction Worker Bool) := by
  have judged :
      ∀ address : List UInt8,
        Touching releases (do
          if udpSocketAddress (← SkynetCpp.load (·.protocol)) address = 0 then
            return false
          return UInt64.ofInt (← SkynetCpp.answer (·.result)) ≠ request.sz :
            SocketAction Worker Bool) :=
    fun _ => .bind (load _) fun _ =>
      .ite (.pure _) (.bind (answer _) fun _ => .pure _)
  cases address
  · exact .bind getUdpAddress judged
  · exact judged _

theorem sendSocket
    (request : RequestSend Buffer)
    (priority : Priority)
    (address : Option (List UInt8)) :
    Touching releases
      (SkynetCpp.sendSocket request priority address :
        SocketAction Worker Outcome) := by
  have enabled :
      Touching releases (do
        if ← SkynetCpp.enableWrite true then
          return ← SkynetCpp.reportError "enable write failed"
        SkynetCpp.warnSocket : SocketAction Worker Outcome) :=
    .bind (enableWrite true) fun _ => .ite (reportError _) warnSocket
  have appended :
      Touching releases (do
        SkynetCpp.appendSendbuffer priority request
        SkynetCpp.warnSocket : SocketAction Worker Outcome) :=
    .bind (appendSendbuffer _ _) fun _ => warnSocket
  refine .bind (load _) fun _ => .ite (.pure _) (.bind (load _) fun _ => ?_)
  refine .ite (.pure _) (.ite (.pure _) (.ite (.pure _) ?_))
  refine .bind (load _) fun _ => .ite (.pure _) (.ite (.pure _) ?_)
  refine .bind sendBufferEmpty fun _ => .ite ?_ ?_
  · refine .bind (load _) fun _ => .ite ?_ ?_
    · exact .bind (appendSendbuffer _ _) fun _ => enabled
    · exact .bind (sendSocketUDP _ _) fun _ =>
        .ite (.bind (appendSendbuffer _ _) fun _ => enabled) (.pure _)
  · exact .bind (load _) fun _ =>
      .ite (.bind getUdpAddress fun _ => appended) appended

theorem sendRequested
    (request : RequestSend Buffer)
    (priority : Priority) :
    Touching releases
      (SkynetCpp.sendRequested request priority :
        SocketAction Worker Outcome) := by
  refine .bind (sendSocket _ _ _) fun _ => .bind ?_ fun _ => .pure _
  refine .bind (.andM (load _) (load _)) fun _ => .ite ?_ (.pure _)
  exact .bind (load _) fun _ => .bind (.check _) fun _ =>
    store fun _ => .countDown

theorem triggerWrite
    (id : Int32) :
    Touching releases
      (SkynetCpp.triggerWrite id : SocketAction Worker Outcome) :=
  .bind (socketInvalid id) fun _ =>
    .ite (.pure _)
      (.bind (enableWrite true) fun _ => .ite (reportError _) (.pure _))

end Writing

section Opening

/-- Only what fails to set up a socket releases its slot. -/
theorem release :
    Touching True
      (SkynetCpp.storeType .kSocketTypeInvalid : SocketAction Worker Unit) :=
  store fun _ => .release trivial

theorem newFd
    (id fd : Int32)
    (protocol : Protocol)
    (opaqueValue : UInt64)
    (reading : Bool) :
    Touching True
      (SkynetCpp.newFd id fd protocol opaqueValue reading :
        SocketAction Worker Bool) := by
  refine .bind (load _) fun _ => .bind (.check _) fun _ =>
    .bind (answer _) fun _ => .ite ?_ ?_
  · exact .bind release fun _ => .pure _
  · refine .bind (store fun _ => .renew _ _ _ _) fun _ =>
      .bind (load _) fun _ => .bind (.check _) fun _ =>
      .bind (load _) fun _ => .bind (.check _) fun _ =>
      .bind (store fun v => .queues _ _ _ _ _ _ v.notes) fun _ => ?_
    exact .bind (enableRead _) fun _ =>
      .ite (.bind release fun _ => .pure _) (.pure _)

theorem openFailed
    (id : Int32)
    (opaqueValue : UInt64)
    (text : String) :
    Touching True
      (SkynetCpp.openFailed id opaqueValue text :
        SocketAction Worker Outcome) :=
  .bind (.ask _) fun _ => .bind release fun _ => .pure _

theorem openSocket
    (id : Int32)
    (opaqueValue : UInt64) :
    Touching releases
      (SkynetCpp.openSocket id opaqueValue : SocketAction Worker Outcome) :=
  nullData_ends _ _

/-- `ListenSocket` behind `NewFd`. -/
theorem listeningSocket
    (id : Int32)
    (opaqueValue : UInt64) :
    Touching releases
      (SkynetCpp.listeningSocket id opaqueValue :
        SocketAction Worker Outcome) := by
  have failed :
      Touching releases (do
        return some
          (.kSocketErr,
            ← SkynetCpp.requestMessage id 0 opaqueValue
              (.text (← strerror))) :
        SocketAction Worker Outcome) :=
    .bind (answer _) fun _ => requestMessage _ _ _ _ _
  refine .bind (storeType (by decide)) fun _ =>
    .bind (answer _) fun name => .ite ?_ failed
  obtain ⟨named, text, port⟩ := name
  cases text
  · exact failed
  · exact requestMessage _ _ _ _ _

theorem listenSocket
    (id fd : Int32)
    (opaqueValue : UInt64) :
    Touching True
      (SkynetCpp.listenSocket id fd opaqueValue :
        SocketAction Worker Outcome) :=
  .bind (newFd _ _ _ _ _) fun _ =>
    .ite (listeningSocket _ _) (openFailed _ _ _)

/-- `BindSocket` behind `NewFd`. -/
theorem boundSocket
    (id : Int32)
    (opaqueValue : UInt64)
    (isNew : Bool) :
    Touching releases (do
      if isNew then
        SkynetCpp.storeType .kSocketTypeBind
        return some
          (.kSocketOpen,
            ← SkynetCpp.requestMessage id 0 opaqueValue (.text "binding"))
      else
        return some
          (.kSocketErr,
            ← SkynetCpp.requestMessage id 0 opaqueValue
              (.text "reach skynet socket number limit")) :
      SocketAction Worker Outcome) :=
  .ite
    (.bind (storeType (by decide)) fun _ => requestMessage _ _ _ _ _)
    (requestMessage _ _ _ _ _)

theorem bindSocket
    (id fd : Int32)
    (opaqueValue : UInt64) :
    Touching True
      (SkynetCpp.bindSocket id fd opaqueValue :
        SocketAction Worker Outcome) :=
  .bind (newFd _ _ _ _ _) fun isNew => boundSocket id opaqueValue isNew

theorem resumeSocket
    (id : Int32)
    (opaqueValue : UInt64) :
    Touching releases
      (SkynetCpp.resumeSocket id opaqueValue :
        SocketAction Worker Outcome) :=
  nullData_ends _ _

theorem pauseSocket
    (id : Int32) :
    Touching releases
      (SkynetCpp.pauseSocket id : SocketAction Worker Outcome) :=
  .bind (socketInvalid id) fun _ =>
    .ite (.pure _)
      (.bind (enableRead false) fun _ => .ite (reportError _) (.pure _))

theorem setOptSocket
    (id : Int32) :
    Touching releases
      (SkynetCpp.setOptSocket id : SocketAction Worker Unit) :=
  .bind (socketInvalid id) fun _ => .pure _

end Opening

section Reading

theorem forwardEnd
    (count : Nat) :
    Touching releases
      (SkynetCpp.forwardEnd count : SocketAction Worker Outcome) := by
  refine .bind useUnset_follows fun _ =>
    .bind (load _) fun _ => .ite ?_ ?_
  · exact .bind nomoreSendingData fun _ =>
      .ite (.bind (forceClose _) fun _ => .pure _) (.pure _)
  · exact .bind (load _) fun _ =>
      .ite (.pure _) (.ite (report (forceClose _) _) (report closeRead _))

theorem forwardData
    (sz n : Int32)
    (bytes : List UInt8) :
    Touching releases
      (SkynetCpp.forwardData sz n bytes : SocketAction Worker Outcome) := by
  refine .bind (load _) fun _ =>
    .ite (.pure _) (.bind (socketMessage _ _) fun _ => .ite ?_ (.ite ?_ (.pure _)))
  · exact .bind (store fun _ => .readSize _) fun _ => .pure _
  · exact .bind (store fun _ => .readSize _) fun _ => .pure _

theorem forwardMessageTCP
    (count : Nat) :
    Touching releases
      (SkynetCpp.forwardMessageTCP count : SocketAction Worker Outcome) :=
  .bind getReadSize fun _ => .bind (answer _) fun _ =>
    .ite (.ite (.pure _) reportErrno)
      (.ite (forwardEnd _) (forwardData _ _ _))

theorem forwardMessageUDP
    (count : Nat) :
    Touching releases
      (SkynetCpp.forwardMessageUDP count : SocketAction Worker Outcome) := by
  refine .bind (answer _) fun _ => .ite (.ite (.pure _) ?_) ?_
  · exact .bind (answer _) fun _ => closeOnError _ _
  · exact .bind (load _) fun _ =>
      .ite (.pure _) (report (socketMessage _ _) _)

theorem reportConnect :
    Touching releases
      (SkynetCpp.reportConnect : SocketAction Worker Outcome) := by
  refine .bind (answer _) fun _ => .ite ?_ ?_
  · exact .bind (answer _) fun _ => closeOnError _ _
  · refine .bind (storeType (by decide)) fun _ =>
      .bind (socketMessage _ _) fun _ =>
      .bind (.andM nomoreSendingData (enableWrite _)) fun _ =>
      .ite (closeOnError _ _) (.bind (answer _) fun text => ?_)
    cases text
    · exact nullData_ends _ _
    · exact .pure _

end Reading

end Touching

end Sockets

section Server

/-- One step of the socket thread. -/
inductive ThreadStep (s : SocketServer Worker) : SocketServer Worker → Prop where
  | onSlot
      (k : Nat)
      {part : SocketView Worker}
      (touches : Touches True (s.view k) part) :
      ThreadStep s (s.put k part)
  | rest
      {s' : SocketServer Worker}
      (sameSlots : s'.slot = s.slot) :
      ThreadStep s s'
  /-- `ReportAccept` reserves a slot, as workers do. -/
  | reserve
      {s' : SocketServer Worker}
      (step : WorkerStep s s') :
      ThreadStep s s'

instance : Std.Refl (@ThreadStep Worker) where
  refl _ := .rest rfl

/-- A step that leaves the slots and the spare descriptor alone. -/
structure Elsewhere (s s' : SocketServer Worker) : Prop where
  slot : s'.slot = s.slot
  reserve_fd : s'.reserve_fd = s.reserve_fd

instance : Std.Refl (@Elsewhere Worker) where
  refl _ := ⟨rfl, rfl⟩

/-- Code on the rest of the server. -/
abbrev Apart (action : ServerAction Worker α) : Prop :=
  action.Follows Elsewhere

namespace Apart

/-- Code on a socket that only looks at it. -/
theorem atSlot
    {action : SocketAction Worker α}
    (looks : action.Follows fun v v' => v' = v)
    (k : Nat) :
    Apart (SkynetCpp.atSlot k action) := by
  refine (Program.Within.zoom looks _ _).mono ?_ (fun _ _ => trivial)
  rintro s s' ⟨part, rfl, rfl⟩
  rw [SocketServer.put_view]
  exact ⟨rfl, rfl⟩

theorem takeRequest :
    Apart (SkynetCpp.takeRequest : ServerAction Worker _) := by
  refine .attempt fun s s' taken => ?_
  split at taken
  · cases taken
  · cases taken
    exact ⟨rfl, rfl⟩

theorem clearClosedEvent
    (message : SocketMessage)
    (type : Report) :
    Apart (SkynetCpp.clearClosedEvent message type :
      ServerAction Worker Unit) := by
  have look
      (field : Socket Worker → Bool) :
      (load field).Follows fun v v' : SocketView Worker => v' = v :=
    Program.Within.ask (fun _ => rfl) fun _ _ => trivial
  have invalid :
      (socketInvalid message.id <&&>
        load fun sock : Socket Worker => sock.id = message.id).Follows
          fun v v' => v' = v :=
    .andM
      (.bind (Program.Within.ask (fun _ => rfl) fun _ _ => trivial) fun _ =>
        .ite (.pure _)
          (.bind (Program.Within.ask (fun _ => rfl) fun _ _ => trivial)
            fun _ => .pure _))
      (look _)
  have loop (rounds : Nat) :
      ∀ i,
        Apart
          (clearClosedEventLoop message.id rounds i :
            ServerAction Worker Unit) := by
    induction rounds with
    | zero =>
        exact fun _ => .pure _
    | succ rounds inductionHypothesis =>
        refine fun i => .bind (.ask _) fun found => ?_
        cases found with
        | none =>
            exact inductionHypothesis _
        | some j =>
            exact .bind (atSlot invalid j) fun _ =>
              .ite (.act fun _ _ => ⟨rfl, rfl⟩) (inductionHypothesis _)
  exact .ite (.bind (.ask _) fun range => loop _ _) (.pure _)

theorem pollReturn
    (outcome : Outcome) :
    Apart (SkynetCpp.pollReturn outcome : ServerAction Worker Unit) := by
  cases outcome with
  | none =>
      exact .pure _
  | some outcome =>
      exact .act fun _ _ => ⟨rfl, rfl⟩

theorem pollAfterRead
    (index : Nat)
    (event : Event)
    (outcome : Outcome) :
    Apart
      (SkynetCpp.pollAfterRead index event outcome :
        ServerAction Worker Outcome) := by
  have returned
      (outcome : Outcome) :
      Apart (do
        let type := outcome.map Prod.fst
        if event.write ∧ type ≠ some .kSocketClose ∧
            type ≠ some .kSocketErr then
          putBackWrite index
        return outcome : ServerAction Worker Outcome) :=
    .ite (.bind (.act fun _ _ => ⟨rfl, rfl⟩) fun _ => .pure _) (.pure _)
  cases outcome with
  | none =>
      exact returned none
  | some outcome =>
      obtain ⟨report, message⟩ := outcome
      cases report
      case kSocketMore | kSocketUDP =>
        exact .bind (.act fun _ _ => ⟨rfl, rfl⟩) fun _ => .pure _
      all_goals exact returned _

theorem fetchEvent :
    Apart (SkynetCpp.fetchEvent : ServerAction Worker _) := by
  refine .act fun _ s => ?_
  dsimp only
  split
  · exact ⟨rfl, rfl⟩
  · split <;> exact ⟨rfl, rfl⟩

end Apart

/-- Code of the socket thread. -/
abbrev Polling (action : ServerAction Worker α) : Prop :=
  action.Follows ThreadStep

namespace Polling

theorem atSlot
    {action : SocketAction Worker α}
    (touching : Touching True action)
    (k : Nat) :
    Polling (SkynetCpp.atSlot k action) := by
  refine (Program.Within.zoom touching _ _).mono ?_ (fun _ _ => trivial)
  rintro s s' ⟨part, touches, rfl⟩
  exact .onSlot k touches

/-- A step that leaves the slots alone. -/
theorem elsewhere
    {value : OsAnswer → SocketServer Worker → α}
    {next : OsAnswer → SocketServer Worker → SocketServer Worker}
    (sameSlots : ∀ input s, (next input s).slot = s.slot) :
    Polling (Program.act value next) :=
  .act fun input s => .rest (sameSlots input s)

/-- Code on the rest of the server is code of the socket thread. -/
theorem apart
    {action : ServerAction Worker α}
    (isApart : Apart action) :
    Polling action :=
  isApart.mono fun _ _ step => .rest step.slot

theorem takeRequest :
    Polling (SkynetCpp.takeRequest : ServerAction Worker _) :=
  apart .takeRequest

theorem clearClosedEvent
    (message : SocketMessage)
    (type : Report) :
    Polling (SkynetCpp.clearClosedEvent message type :
      ServerAction Worker Unit) :=
  apart (.clearClosedEvent message type)

theorem pollReturn
    (outcome : Outcome) :
    Polling (SkynetCpp.pollReturn outcome : ServerAction Worker Unit) :=
  apart (.pollReturn outcome)

theorem reportAccept
    (k : Nat) :
    Polling (SkynetCpp.reportAccept k : ServerAction Worker Outcome) := by
  have reserved :
      Polling (SkynetCpp.reserveId : ServerAction Worker (Option Int32)) :=
    Working.reserveId.mono fun _ _ step => .reserve step
  refine .bind (.ask _) fun _ => .ite (.ite ?_ (.pure _)) ?_
  · exact .bind (atSlot .reportErrno _) fun _ =>
      .bind (.bind (.ask _) fun _ => .ite (elsewhere fun _ s => rfl) (.pure _))
        fun _ => .pure _
  · refine .bind reserved fun id => ?_
    cases id
    · exact .pure _
    · refine .bind (atSlot (.load _) _) fun _ =>
        .bind (atSlot (.newFd _ _ _ _ _) _) fun _ => .ite ?_ (.pure _)
      exact .bind (atSlot (.storeType (by decide)) _) fun _ =>
        nullData_ends _ _

theorem pollAfterRead
    (index : Nat)
    (event : Event)
    (outcome : Outcome) :
    Polling
      (SkynetCpp.pollAfterRead index event outcome :
        ServerAction Worker Outcome) :=
  apart (.pollAfterRead index event outcome)

theorem pollEvent
    (index k : Nat)
    (event : Event)
    (type : SocketType) :
    Polling
      (serverThread.pollEvent index k event type :
        ServerAction Worker Outcome) := by
  have read :
      Polling (serverThread.pollRead index k event : ServerAction Worker Outcome) :=
    .bind
      (atSlot
        (.bind (Touching.load _) fun _ =>
          .ite (Touching.forwardMessageTCP _)
            (Touching.forwardMessageUDP _)) _)
      fun outcome => pollAfterRead index event outcome
  have flags :
      Polling
        (serverThread.pollFlags index k event : ServerAction Worker Outcome) :=
    .ite read
      (.ite (atSlot .sendBuffer _)
        (.ite (atSlot .reportErrno _)
          (.ite (atSlot .pollEof _) (.pure _))))
  cases type
  case kSocketTypeConnecting => exact atSlot .reportConnect _
  case kSocketTypeListen => exact reportAccept k
  case kSocketTypeInvalid => exact .pure _
  all_goals exact flags

theorem pollEvents :
    Polling (serverThread.pollEvents : ServerAction Worker Unit) := by
  have fetch : Polling (SkynetCpp.fetchEvent : ServerAction Worker _) :=
    apart .fetchEvent
  refine .bind (.ask _) fun _ =>
    .bind (.orM (.pure _) (elsewhere fun _ _ => rfl)) fun _ =>
      .ite (.bind fetch fun fetched => ?_) (.pure _)
  obtain ⟨index, event, type⟩ := fetched
  dsimp only
  split
  · exact .pure _
  · exact .bind (pollEvent _ _ _ _) fun outcome => pollReturn outcome

end Polling

end Server

end SkynetCpp
