import SkynetCpp.Delivery
import SkynetCpp.Socket

namespace SkynetCpp

/-!
# Socket events on their way to a service

`ForwardMessage` of `socket.cpp`, with the object that it allocates for an
event and how often it deletes this object.
-/

/-- The bytes of `SocketMessage::data`. -/
def MessageData.content : MessageData → List UInt8
  | .text string => string.toUTF8.toList
  | .bytes content => content

/-- `sizeof(struct SkynetSocketMessage)`. -/
def sizeofSkynetSocketMessage : UInt64 := 48

/-- How `SocketPoll` forwards an event. -/
structure EventKind where
  type : Int
  padding : Bool
  deriving Repr, DecidableEq

/-- The cases of `SocketPoll` that forward a message. -/
def Report.eventKind : Report → Option EventKind
  | .kSocketData => some ⟨1, false⟩
  | .kSocketClose => some ⟨3, false⟩
  | .kSocketOpen => some ⟨2, true⟩
  | .kSocketErr => some ⟨5, true⟩
  | .kSocketAccept => some ⟨4, true⟩
  | .kSocketUDP => some ⟨6, false⟩
  | .kSocketWarning => some ⟨7, false⟩
  | .kSocketExit | .kSocketRst | .kSocketMore => none

/-- What a call of `ForwardMessage` left behind. -/
structure Forwarded where
  system : System
  /-- The object that the call allocated. -/
  object : SkynetSocketMessage
  /-- How often the call deleted it. -/
  deleted : Nat

/--
`ForwardMessage`.  A padded event assigns a null pointer to the string of the
object, which reads from it.
-/
def forwardMessage
    (s : System)
    (kind : EventKind)
    (socket_message : SocketMessage) : Except Fault Forwarded :=
  let content := socket_message.data.content
  let sz :=
    if kind.padding ∧ content ≠ [] then
      sizeofSkynetSocketMessage + UInt64.ofNat (min content.length 128)
    else
      sizeofSkynetSocketMessage
  if kind.padding then
    .error .nullPointer
  else do
    let sm : SkynetSocketMessage :=
      { type := kind.type
        id := socket_message.id.toInt
        ud := socket_message.ud.toInt
        buffer := content }
    let message : Message :=
      { source := 0
        session := 0
        data := some (.socket sm)
        sz := encodeSz sz kPtypeSocket }
    let (pushed, s) ← contextPush s socket_message.opaqueValue.toUInt32 message
    .ok { system := s, object := sm, deleted := if pushed then 1 else 0 }

/-- The data of an event, of a padded one at most 128 bytes. -/
def EventKind.data
    (kind : EventKind)
    (socket_message : SocketMessage) : List UInt8 :=
  if kind.padding then
    socket_message.data.content.take 128
  else
    socket_message.data.content

/-- The object carries the event. -/
structure EventKind.Carries
    (kind : EventKind)
    (socket_message : SocketMessage)
    (object : SkynetSocketMessage) : Prop where
  type : object.type = kind.type
  id : object.id = socket_message.id.toInt
  ud : object.ud = socket_message.ud.toInt
  buffer : object.buffer = kind.data socket_message

/--
The event went to the queue of its service, and its object was left alone; or
no service was registered, and the object was deleted once.
-/
inductive Forwarded.Meets
    (s : System)
    (kind : EventKind)
    (socket_message : SocketMessage)
    (forwarded : Forwarded) : Prop where
  | queued
      {message : Message}
      (delivered :
        Delivered s forwarded.system socket_message.opaqueValue.toUInt32 message)
      (isObject : message.data = some (.socket forwarded.object))
      (carries : kind.Carries socket_message forwarded.object)
      (kept : forwarded.deleted = 0)
  | unregistered
      (noService :
        handleLookup s socket_message.opaqueValue.toUInt32 = none)
      (unchanged : QueuesUnchanged s forwarded.system)
      (once : forwarded.deleted = 1)

/-- `ForwardMessage` returns and has done what it should. -/
def ForwardMeets
    (s : System)
    (kind : EventKind)
    (socket_message : SocketMessage) : Prop :=
  ∃ forwarded,
    forwardMessage s kind socket_message = .ok forwarded ∧
      forwarded.Meets s kind socket_message

variable
    {s : System}
    {kind : EventKind}
    {socket_message : SocketMessage}
    {forwarded : Forwarded}

/-- A call that returns deleted the object exactly if it was queued. -/
theorem forwardMessage_cases
    (returned : forwardMessage s kind socket_message = .ok forwarded) :
    (handleLookup s socket_message.opaqueValue.toUInt32 = none ∧
      forwarded.deleted = 0) ∨
      ((∃ ctx,
        handleLookup s socket_message.opaqueValue.toUInt32 = some ctx) ∧
        forwarded.deleted = 1) := by
  unfold forwardMessage at returned
  split at returned
  · cases returned
  · simp only [bind_eq_ok_iff] at returned
    obtain ⟨⟨pushed, after⟩, isPushed, isForwarded⟩ := returned
    cases isForwarded
    cases lookup : handleLookup s socket_message.opaqueValue.toUInt32 with
    | none =>
        rw [contextPush_of_unregistered lookup] at isPushed
        cases isPushed
        exact Or.inl ⟨rfl, rfl⟩
    | some ctx =>
        have isTrue := (contextPush_of_registered lookup isPushed).1
        subst isTrue
        exact Or.inr ⟨⟨ctx, rfl⟩, rfl⟩

/--
`ForwardMessage` never does what it should: a padded event does not return, an
object that was queued is deleted, and one that was not is lost.
-/
theorem forwardMessage_never_meets
    (s : System)
    (kind : EventKind)
    (socket_message : SocketMessage) :
    ¬ ForwardMeets s kind socket_message := by
  rintro ⟨forwarded, returned, meets⟩
  rcases forwardMessage_cases returned with
    ⟨noService, notDeleted⟩ | ⟨⟨ctx, registered⟩, isDeleted⟩
  · cases meets with
    | queued delivered isObject carries kept =>
        obtain ⟨ctx, registered, _⟩ := delivered
        rw [noService] at registered
        cases registered
    | unregistered noService unchanged once =>
        rw [notDeleted] at once
        cases once
  · cases meets with
    | queued delivered isObject carries kept =>
        rw [isDeleted] at kept
        cases kept
    | unregistered noService unchanged once =>
        rw [noService] at registered
        cases registered

/-- A data event of socket 3 for the service with handle 1. -/
def dataEvent : SocketMessage where
  id := 3
  opaqueValue := 1
  ud := 1
  data := .bytes [65]
  about := (3, 0)

/-- The object of a data event is in the queue and deleted. -/
theorem dataEvent_deleted :
    Report.kSocketData.eventKind = some ⟨1, false⟩ ∧
      ¬ ForwardMeets soloSystem ⟨1, false⟩ dataEvent ∧
        ∃ forwarded message,
          forwardMessage soloSystem ⟨1, false⟩ dataEvent = .ok forwarded ∧
            (forwarded.system.queues.mq 0).messageQueue = [message] ∧
            message.data = some (.socket forwarded.object) ∧
            forwarded.deleted = 1 := by
  obtain ⟨forwarded, message, returned, isQueued, isObject, isDeleted⟩ :
      ∃ forwarded message,
        forwardMessage soloSystem ⟨1, false⟩ dataEvent = .ok forwarded ∧
          (forwarded.system.queues.mq 0).messageQueue = [message] ∧
          message.data = some (.socket forwarded.object) ∧
          forwarded.deleted = 1 :=
    ⟨_, _, rfl, rfl, rfl, rfl⟩
  refine ⟨rfl, ?_, forwarded, message, returned, isQueued, isObject, isDeleted⟩
  rintro ⟨other, isOther, meets⟩
  cases returned.symm.trans isOther
  cases meets with
  | queued delivered isOtherObject carries kept =>
      rw [isDeleted] at kept
      cases kept
  | unregistered noService unchanged once =>
      cases noService

end SkynetCpp
