import SkynetCpp.SocketInterest

namespace SkynetCpp

open Foundation

/-!
# What handlers do to the flags of sockets

The handlers of the socket thread for a socket that is there are followed one
at a time: they change the flags of no slot that is free, and bring no slot into
use that was only reserved.
-/

variable {Worker α β : Type}

namespace SocketKernel

/-- The type of a slot that is not free. -/
def Taken (type : SocketType) : Prop :=
  type ≠ .kSocketTypeInvalid

instance : DecidablePred Taken :=
  fun _ => inferInstanceAs (Decidable (_ ≠ _))

theorem InUse.taken
    {type : SocketType}
    (inUse : InUse type) : Taken type :=
  inUse.1

section Closing

/-- `SocketInvalid`: a socket that is not invalid is there. -/
theorem socketInvalid_handles
    (id : Int32) :
    Handles (fun _ => True) (socketInvalid id : SocketAction Worker Bool)
      fun invalid type => invalid = false → Taken type := by
  refine .bind (.quiet (.ask _) (by decide)) fun found =>
    .ite (fun _ => .pure fun _ _ => nofun) fun _ => ?_
  refine .bind
    (.load (fun type now => type ≠ SocketType.kSocketTypeInvalid → Taken now)
      (by decide) fun _ _ _ taken => taken)
    fun type => .pure fun now taken isValid => ?_
  exact taken (by simpa using isValid)

/-- Code for a socket that `SocketInvalid` found. -/
theorem found_handles
    (id : Int32)
    {missing found : SocketAction Worker α}
    (isQuiet : Unobtrusive missing)
    (handles : Handles Taken found fun _ _ => True) :
    Handles (fun _ => True)
      (socketInvalid id >>= fun invalid => if invalid then missing else found)
      fun _ _ => True := by
  have onMissing : Handles (fun _ => True) missing fun _ _ => True :=
    .quiet isQuiet (by decide)
  refine .bind (socketInvalid_handles id) fun invalid => ?_
  cases invalid with
  | true =>
      exact onMissing.weaken fun _ _ => trivial
  | false =>
      exact handles.weaken fun _ taken => taken rfl

/-- Quiet code after which nothing has to be known. -/
theorem quiet_handles
    {known : SocketType → Prop}
    {action : SocketAction Worker α}
    (isQuiet : Unobtrusive action)
    (reserved : known .kSocketTypeInvalid → known .kSocketTypeReserve) :
    Handles known action fun _ _ => True :=
  (Handles.quiet isQuiet reserved).mono fun _ _ _ => trivial

theorem closeRead_handles :
    Handles Taken (closeRead : SocketAction Worker SocketMessage)
      fun _ _ => True := by
  refine .bind (.storeType (by decide) (by decide) (fun _ => rfl) (by decide)) fun _ => ?_
  exact .bind (.enableRead false (by decide)) fun _ => .nullData

theorem closeFound_handles
    (shutdown : Int32) :
    Handles Taken (closeFound shutdown : SocketAction Worker Outcome)
      fun _ _ => True := by
  refine .bind (.quiet (.ask _) (by decide)) fun shutdown_read => ?_
  refine .bind
    (.quiet (.orM (.pure _) Unobtrusive.nomoreSendingData) (by decide))
    fun nothingToSend => .ite (fun _ => .forceClose 0) fun _ => ?_
  refine .bind
    (.quiet (.store fun _ => ⟨rfl, rfl, rfl, rfl, rfl⟩) (by decide))
    fun _ => .ite (fun _ => .pure fun _ _ => trivial) fun _ => ?_
  exact .bind closeRead_handles fun _ => .pure fun _ _ => trivial

theorem closeSocket_handles
    (id shutdown : Int32) :
    Handles (fun _ => True)
      (closeSocket id shutdown : SocketAction Worker Outcome)
      fun _ _ => True :=
  found_handles id (.pure _) (closeFound_handles shutdown)

theorem closeOnError_handles
    (count : Nat)
    (text : String) :
    Handles Taken (closeOnError count text : SocketAction Worker Outcome)
      fun _ _ => True :=
  .forceClose count

theorem pollEof_handles :
    Handles Taken (pollEof : SocketAction Worker Outcome) fun _ _ => True :=
  .bind (.quiet (.ask _) (by decide)) fun _ => .forceClose 0

end Closing

section Writing

/-- `CloseWrite` of a socket in use; it does not return -1. -/
theorem closeWrite_handles
    (count : Nat) :
    Handles InUse (closeWrite count : SocketAction Worker Outcome)
      fun outcome _ => outcome ≠ none := by
  refine .bind (.quiet (.ask _) (by decide)) fun closing =>
    .ite (fun _ => .forceClose count) fun _ => ?_
  refine .bind (.quiet (.ask _) (by decide)) fun t =>
    .ite (fun _ => .forceClose count) fun _ => .ite (fun _ => ?_) fun _ => ?_
  · exact .bind (.quiet (.ask _) (by decide)) fun _ =>
      .pure fun _ _ => Option.some_ne_none _
  · have halfClosed :
        Handles InUse
          (storeType .kSocketTypeHalfCloseWrite : SocketAction Worker Unit)
          fun _ => (· = .kSocketTypeHalfCloseWrite) :=
      .storeType (by decide) (by decide) (by decide) (by decide)
    refine .bind halfClosed fun _ => ?_
    refine .bind (.enableWrite false (by decide)) fun _ => ?_
    refine .bind (.quiet (.ask _) (by decide)) fun text => ?_
    exact .bind (.quiet (.ask _) (by decide)) fun _ =>
      .pure fun _ _ => Option.some_ne_none _

/-- What writing a list leaves, unless it met an error. -/
def Unharmed
    (known : SocketType → Prop)
    (outcome : Outcome)
    (type : SocketType) : Prop :=
  outcome = none → known type

theorem sendListTCPLoop_handles
    (priority : Priority)
    (count nodes : Nat) :
    Handles InUse
      (sendListTCPLoop priority count nodes : SocketAction Worker Outcome)
      (Unharmed InUse) := by
  induction nodes with
  | zero =>
      exact .pure fun _ inUse _ => inUse
  | succ nodes inductionHypothesis =>
      refine .bind (.quiet (.writeHead priority) (by decide)) fun written => ?_
      cases written with
      | empty =>
          exact .pure fun _ inUse _ => inUse
      | part =>
          exact .pure fun _ inUse _ => inUse
      | all =>
          exact inductionHypothesis
      | failed =>
          exact (closeWrite_handles count).mono
            fun _ _ isSome isNone => absurd isNone isSome

theorem sendList_handles
    (priority : Priority)
    (count : Nat) :
    Handles Taken (sendList priority count : SocketAction Worker Outcome)
      (Unharmed Taken) := by
  refine .bind
    (.load
      (fun protocol now =>
        Taken now ∧ (protocol = .TCP → now ≠ .kSocketTypeReserve))
      (by decide) fun sock taken unset => ⟨taken, ?_⟩)
    fun protocol => .ite (fun isTCP => ?_) fun _ => ?_
  · intro isTCP isReserved
    cases isTCP.symm.trans (unset isReserved)
  · refine Handles.weaken (?_ : Handles InUse _ _)
      fun _ holds => ⟨holds.1, holds.2 isTCP⟩
    refine .bind (.quiet (.ask _) (by decide)) fun nodes => ?_
    exact (sendListTCPLoop_handles priority count nodes).mono
      fun _ _ unharmed isNone => (unharmed isNone).1
  · refine Handles.weaken (?_ : Handles Taken _ _) fun _ holds => holds.1
    exact (Handles.quiet (.sendListUDP priority) (by decide)).mono
      fun _ _ taken _ => taken

theorem sentBuffer_handles
    (count : Nat) :
    Handles Taken (sentBuffer count : SocketAction Worker Outcome)
      fun _ _ => True := by
  refine .bind (.quiet (.ask _) (by decide)) fun _ =>
    .bind (.quiet (.check _) (by decide)) fun _ => ?_
  refine .bind (.quiet (.ask _) (by decide)) fun closing =>
    .ite (fun _ => .forceClose count) fun _ => ?_
  refine .bind (.enableWrite false (by decide)) fun failed =>
    .ite (fun _ => quiet_handles (.reportError _) (by decide)) fun _ => ?_
  refine .bind (.quiet (.ask _) (by decide)) fun warn_size =>
    .ite (fun _ => ?_) fun _ => .pure fun _ _ => trivial
  refine .bind
    (.quiet (.store fun _ => ⟨rfl, rfl, rfl, rfl, rfl⟩) (by decide))
    fun _ => .nullData

theorem afterList_handles
    {outcome : Outcome}
    {rest : SocketAction Worker Outcome}
    (goesOn : Handles Taken rest fun _ _ => True) :
    Handles (Unharmed Taken outcome) (afterList outcome rest)
      fun _ _ => True := by
  cases outcome with
  | none =>
      exact goesOn.weaken fun _ unharmed => unharmed rfl
  | some outcome =>
      obtain ⟨report, message⟩ := outcome
      cases report <;> exact .pure fun _ _ => trivial

theorem sentLow_handles
    (count : Nat) :
    Handles Taken (sentLow count : SocketAction Worker Outcome)
      fun _ _ => True := by
  refine .bind (.quiet (.ask _) (by decide)) fun uncomplete =>
    .ite (fun _ => ?_) fun _ => ?_
  · exact .bind (.quiet .raiseUncomplete (by decide)) fun _ =>
      .pure fun _ _ => trivial
  · exact .bind (.quiet (.ask _) (by decide)) fun empty =>
      .ite (fun _ => sentBuffer_handles count) fun _ => .pure fun _ _ => trivial

theorem sentHigh_handles
    (count : Nat) :
    Handles Taken (sentHigh count : SocketAction Worker Outcome)
      fun _ _ => True := by
  refine .bind (.quiet (.ask _) (by decide)) fun highEmpty =>
    .ite (fun _ => ?_) fun _ => .pure fun _ _ => trivial
  refine .bind (.quiet (.ask _) (by decide)) fun lowEmpty =>
    .ite (fun _ => sentBuffer_handles count) fun _ => ?_
  exact .bind (sendList_handles .low count) fun _ =>
    afterList_handles (sentLow_handles count)

/-- `SendBuffer`. -/
theorem sendBuffer_handles :
    Handles Taken (sendBuffer : SocketAction Worker Outcome)
      fun _ _ => True := by
  refine .bind (.quiet (.socketTrylock _) (by decide)) fun locked =>
    .ite (fun _ => ?_) fun _ => .pure fun _ _ => trivial
  refine .bind (.quiet .raiseDirect (by decide)) fun _ => ?_
  have sent :
      Handles Taken (sendBuffer_ 1 : SocketAction Worker Outcome)
        fun _ _ => True := by
    refine .bind (.quiet (.ask _) (by decide)) fun _ =>
      .bind (.quiet (.check _) (by decide)) fun _ => ?_
    exact .bind (sendList_handles .high 1) fun _ =>
      afterList_handles (sentHigh_handles 1)
  refine .bind sent fun outcome => ?_
  exact .bind (.quiet (.socketUnlock _) (by decide)) fun _ =>
    .pure fun _ _ => trivial

theorem triggerWrite_handles
    (id : Int32) :
    Handles (fun _ => True) (triggerWrite id : SocketAction Worker Outcome)
      fun _ _ => True := by
  refine found_handles id (.pure _) (.bind (.enableWrite true (by decide))
    fun failed => .ite (fun _ => ?_) fun _ => .pure fun _ _ => trivial)
  exact quiet_handles (.reportError _) (by decide)

theorem sendSocketEmpty_handles
    (request : RequestSend Buffer)
    (priority : Priority)
    (address : Option (List UInt8)) :
    Handles Taken
      (sendSocketEmpty request priority address : SocketAction Worker Outcome)
      fun _ _ => True := by
  have enabled :
      Handles Taken
        (do
          if ← SkynetCpp.enableWrite true then
            return ← reportError "enable write failed"
          warnSocket : SocketAction Worker Outcome)
        fun _ _ => True :=
    .bind (.enableWrite true (by decide)) fun failed =>
      .ite (fun _ => quiet_handles (.reportError _) (by decide))
        fun _ => quiet_handles .warnSocket (by decide)
  refine .bind (.quiet (.ask _) (by decide)) fun protocol =>
    .ite (fun _ => ?_) fun _ => ?_
  · exact .bind (.quiet (.appendSendbuffer _ _) (by decide)) fun _ => enabled
  · refine .bind (.quiet (.sendSocketUDP _ _) (by decide)) fun left =>
      .ite (fun _ => ?_) fun _ => .pure fun _ _ => trivial
    exact .bind (.quiet (.appendSendbuffer _ _) (by decide)) fun _ => enabled

theorem sendSocketMore_quiet
    (request : RequestSend Buffer)
    (priority : Priority)
    (address : Option (List UInt8)) :
    Unobtrusive
      (sendSocketMore request priority address :
        SocketAction Worker Outcome) := by
  have appended :
      Unobtrusive (do
        appendSendbuffer priority request
        warnSocket : SocketAction Worker Outcome) :=
    .bind (Unobtrusive.appendSendbuffer _ _) fun _ => Unobtrusive.warnSocket
  exact .bind (.ask _) fun _ =>
    .ite (.bind Unobtrusive.getUdpAddress fun _ => appended) appended

theorem sendSocket_handles
    (request : RequestSend Buffer)
    (priority : Priority)
    (address : Option (List UInt8)) :
    Handles (fun _ => True)
      (sendSocket request priority address : SocketAction Worker Outcome)
      fun _ _ => True := by
  have nothing :
      Handles Taken (Pure.pure none : SocketAction Worker Outcome)
        fun _ _ => True :=
    .pure fun _ _ => trivial
  refine .bind
    (.load (fun type now => type ≠ SocketType.kSocketTypeInvalid → Taken now)
      (by decide) fun _ _ _ taken => taken)
    fun type => .ite (fun _ => .pure fun _ _ => trivial) fun isTaken => ?_
  refine Handles.weaken (?_ : Handles Taken _ _) fun _ taken => taken isTaken
  refine .bind (.quiet (.ask _) (by decide)) fun _ => .ite (fun _ => nothing)
    fun _ => .ite (fun _ => nothing) fun _ => .ite (fun _ => nothing)
      fun _ => ?_
  refine .bind (.quiet (.ask _) (by decide)) fun _ => .ite (fun _ => nothing)
    fun _ => .ite (fun _ => nothing) fun _ => ?_
  exact .bind (.quiet .sendBufferEmpty (by decide)) fun _ =>
    .ite (fun _ => sendSocketEmpty_handles request priority address)
      fun _ => quiet_handles (sendSocketMore_quiet request priority address)
        (by decide)

theorem sendRequested_handles
    (request : RequestSend Buffer)
    (priority : Priority) :
    Handles (fun _ => True)
      (sendRequested request priority : SocketAction Worker Outcome)
      fun _ _ => True :=
  .bind (sendSocket_handles request priority none) fun _ =>
    .bind (.quiet (.decSendingRef _) (by decide)) fun _ =>
      .pure fun _ _ => trivial

end Writing

section Resuming

theorem resumeSocket_handles
    (id : Int32)
    (opaqueValue : UInt64) :
    Handles (fun _ => True)
      (resumeSocket id opaqueValue : SocketAction Worker Outcome)
      fun _ _ => True :=
  .nullData

theorem pauseSocket_handles
    (id : Int32) :
    Handles (fun _ => True) (pauseSocket id : SocketAction Worker Outcome)
      fun _ _ => True := by
  refine found_handles id (.pure _) (.bind (.enableRead false (by decide))
    fun failed => .ite (fun _ => ?_) fun _ => .pure fun _ _ => trivial)
  exact quiet_handles (.reportError _) (by decide)

end Resuming

section Reading

theorem forwardEnd_handles
    (count : Nat) :
    Handles Taken (forwardEnd count : SocketAction Worker Outcome)
      fun _ _ => True := by
  refine .bind (.quiet useUnset_follows (by decide)) fun _ => ?_
  refine .bind (.quiet (.ask _) (by decide)) fun closing =>
    .ite (fun _ => ?_) fun _ => ?_
  · exact .bind (.quiet .nomoreSendingData (by decide)) fun nothing =>
      .ite (fun _ => .forceClose count) fun _ => .pure fun _ _ => trivial
  · refine .bind (.quiet (.ask _) (by decide)) fun t =>
      .ite (fun _ => .pure fun _ _ => trivial) fun _ => ?_
    exact .ite (fun _ => .forceClose count)
      fun _ => .bind closeRead_handles fun _ => .pure fun _ _ => trivial

theorem forwardMessageTCP_handles
    (count : Nat) :
    Handles Taken (forwardMessageTCP count : SocketAction Worker Outcome)
      fun _ _ => True := by
  refine .bind (.quiet .getReadSize (by decide)) fun sz =>
    .bind (.quiet (.ask _) (by decide)) fun read => ?_
  refine .ite (fun _ => .ite (fun _ => .pure fun _ _ => trivial) fun _ => ?_)
    fun _ => .ite (fun _ => forwardEnd_handles count) fun _ => ?_
  · exact quiet_handles .reportErrno (by decide)
  · exact quiet_handles (.forwardData _ _ _) (by decide)

theorem forwardMessageUDP_handles
    (count : Nat) :
    Handles Taken (forwardMessageUDP count : SocketAction Worker Outcome)
      fun _ _ => True := by
  refine .bind (.quiet (.ask _) (by decide)) fun read =>
    .ite (fun _ => .ite (fun _ => .pure fun _ _ => trivial) fun _ => ?_)
      fun _ => ?_
  · exact .bind (.quiet (.ask _) (by decide)) fun text =>
      closeOnError_handles count text
  · exact .bind (.quiet (.ask _) (by decide)) fun protocol =>
      .ite (fun _ => .pure fun _ _ => trivial)
        fun _ => quiet_handles (.report (.ask _) _) (by decide)

theorem forwardMessage_handles :
    Handles Taken
      (do
        if (← load (·.protocol)) = .TCP then forwardMessageTCP 0
        else forwardMessageUDP 0 : SocketAction Worker Outcome)
      fun _ _ => True :=
  .bind (.quiet (.ask _) (by decide)) fun protocol =>
    .ite (fun _ => forwardMessageTCP_handles 0)
      fun _ => forwardMessageUDP_handles 0

theorem reportConnect_handles :
    Handles (· = .kSocketTypeConnecting)
      (reportConnect : SocketAction Worker Outcome) fun _ _ => True := by
  have failed
      {type : SocketType}
      (taken : Taken type)
      (text : String) :
      Handles (· = type) (closeOnError 0 text : SocketAction Worker Outcome)
        fun _ _ => True :=
    (closeOnError_handles 0 text).weaken fun _ isType => isType ▸ taken
  refine .bind (.quiet (.ask _) (by decide)) fun status =>
    .ite (fun _ => ?_) fun _ => ?_
  · exact .bind (.quiet (.ask _) (by decide)) fun text =>
      failed (by decide) text
  · refine .bind (.storeType (by decide) (by decide) (by decide) (by decide)) fun _ => ?_
    refine .bind (.quiet (.ask _) (by decide)) fun message => ?_
    have disabled :
        Handles (· = .kSocketTypeConnected)
          (nomoreSendingData <&&> SkynetCpp.enableWrite false :
            SocketAction Worker Bool)
          fun _ => (· = .kSocketTypeConnected) := by
      refine .bind (.quiet .nomoreSendingData (by decide)) fun nothing => ?_
      cases nothing
      · exact .pure fun _ isType => isType
      · exact .enableWrite false (by decide)
    refine .bind disabled fun isFailed =>
      .ite (fun _ => failed (by decide) _) fun _ => ?_
    refine .bind (.quiet (.ask _) (by decide)) fun text => ?_
    cases text with
    | some text =>
        exact .pure fun _ _ => trivial
    | none =>
        exact .nullData

end Reading

end SocketKernel

end SkynetCpp
