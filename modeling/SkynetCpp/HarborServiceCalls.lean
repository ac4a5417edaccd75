import SkynetCpp.HarborService

namespace SkynetCpp

/-!
# Calls and actions of the harbor service

With its calls of `send_remote` written out, the service does what the
functions on a slave's connection do.  The calls themselves are told apart
from the rest by `remoteSends`.
-/

/-- The calls of `send_remote`. -/
def remoteSends (calls : List HarborCall) : List RemoteSend :=
  calls.filterMap fun
    | .sendRemote send => some send
    | .socketStart _ => none
    | .action _ => none

section Sends

@[simp] theorem remoteSends_nil :
    remoteSends [] = [] :=
  rfl

@[simp] theorem remoteSends_action
    (made : HarborAction)
    (calls : List HarborCall) :
    remoteSends (.action made :: calls) = remoteSends calls :=
  rfl

@[simp] theorem remoteSends_socketStart
    (fd : Int)
    (calls : List HarborCall) :
    remoteSends (.socketStart fd :: calls) = remoteSends calls :=
  rfl

@[simp] theorem remoteSends_sendRemote
    (send : RemoteSend)
    (calls : List HarborCall) :
    remoteSends (.sendRemote send :: calls) = send :: remoteSends calls :=
  rfl

@[simp] theorem remoteSends_append
    (first second : List HarborCall) :
    remoteSends (first ++ second) = remoteSends first ++ remoteSends second :=
  List.filterMap_append

@[simp] theorem remoteSends_map_action
    (actions : List HarborAction) :
    remoteSends (actions.map .action) = [] := by
  induction actions with
  | nil =>
      rfl
  | cons made rest inductionHypothesis =>
      exact inductionHypothesis

@[simp] theorem remoteSends_map_sendRemote
    {α : Type}
    (send : α → RemoteSend)
    (items : List α) :
    remoteSends (items.map fun item => .sendRemote (send item)) =
      items.map send := by
  induction items with
  | nil =>
      rfl
  | cons item rest inductionHypothesis =>
      exact congrArg (send item :: ·) inductionHypothesis

@[simp] theorem remoteSends_map_deliver
    (handle : UInt32)
    (messages : List HarborMsg) :
    remoteSends (messages.map (HarborService.deliver handle)) = [] := by
  induction messages with
  | nil =>
      rfl
  | cons m rest inductionHypothesis =>
      exact inductionHypothesis

end Sends

namespace HarborService

variable (stack : List UInt8)

/-- What a function of the service does to the slaves, written out. -/
def writtenOut (result : HarborService × List HarborCall) :
    Harbor × List HarborAction :=
  (result.1.toHarbor, result.2.flatMap (HarborCall.actions stack))

@[simp] theorem flatMap_actions_map
    (actions : List HarborAction) :
    (actions.map HarborCall.action).flatMap (HarborCall.actions stack) =
      actions := by
  induction actions with
  | nil =>
      rfl
  | cons made rest inductionHypothesis =>
      exact congrArg (made :: ·) inductionHypothesis

/-- The loop of `dispatch_queue`, with the calls made before it. -/
theorem popLoop_dispatchQueueLoop
    (fd : Int)
    (send : HarborMsg → HarborCall)
    (written :
      ∀ m,
        (send m).actions stack = sendRemote fd m.buffer m.size m.header stack)
    (fuel : Nat)
    (queue : HarborMsgQueue)
    (made : List HarborCall) :
    (popLoop (fun calls m => calls ++ [send m]) fuel queue made).map
        (fun result => result.1.flatMap (HarborCall.actions stack)) =
      (Harbor.dispatchQueueLoop fd stack fuel queue).map
        (made.flatMap (HarborCall.actions stack) ++ ·) := by
  induction fuel generalizing queue made with
  | zero =>
      rfl
  | succ fuel inductionHypothesis =>
      unfold popLoop Harbor.dispatchQueueLoop
      rcases popQueue queue with ⟨popped, shorter⟩
      cases popped with
      | none =>
          exact congrArg Except.ok (List.append_nil _).symm
      | some m =>
          have later := inductionHypothesis shorter (made ++ [send m])
          simp only [List.flatMap_append, List.flatMap_cons, List.flatMap_nil,
            List.append_nil, written] at later
          dsimp only
          rw [later]
          cases Harbor.dispatchQueueLoop fd stack fuel shorter with
          | error fault =>
              rfl
          | ok actions =>
              exact congrArg Except.ok (List.append_assoc ..)

/-- `dispatch_queue` of the service is `dispatch_queue` of its slaves. -/
theorem dispatchQueue_writtenOut
    (h : HarborService)
    (id : Nat) :
    (h.dispatchQueue id).map (writtenOut stack) =
      h.toHarbor.dispatchQueue id stack := by
  unfold dispatchQueue Harbor.dispatchQueue
  by_cases closed : (h.s id).fd = 0
  · simp only [if_pos closed]
    rfl
  · simp only [if_neg closed]
    cases queued : (h.s id).queue with
    | none =>
        rfl
    | some queue =>
        have looped :=
          popLoop_dispatchQueueLoop stack (h.s id).fd
            (fun m =>
              .sendRemote
                { slave := id
                  status := (h.s id).status
                  fd := (h.s id).fd
                  message := m })
            (fun _ => rfl) (queue.size + 1) queue []
        dsimp only
        generalize
          popLoop
            (fun calls m =>
              calls ++
                [HarborCall.sendRemote
                  { slave := id
                    status := (h.s id).status
                    fd := (h.s id).fd
                    message := m }])
            (queue.size + 1) queue [] = popped at looped ⊢
        generalize
          Harbor.dispatchQueueLoop (h.s id).fd stack (queue.size + 1) queue =
            written at looped ⊢
        cases popped with
        | error fault =>
            cases written with
            | error other =>
                exact congrArg Except.error (Except.error.inj looped)
            | ok actions =>
                cases looped
        | ok result =>
            cases written with
            | error other =>
                cases looped
            | ok actions =>
                have same : result.1.flatMap (HarborCall.actions stack) = actions :=
                  Except.ok.inj looped
                exact congrArg (fun made => Except.ok (_, made)) same

/-- `remote_send_handle` of the service is that of its slaves. -/
theorem remoteSendHandle_writtenOut
    (h : HarborService)
    (source destination type : UInt32)
    (session : Int)
    (msg : List UInt8)
    (sz : Nat) :
    let result := h.remoteSendHandle source destination type session msg sz
    (result.1, writtenOut stack result.2) =
      SkynetCpp.remoteSendHandle h.toHarbor source destination type session msg
        sz stack := by
  unfold remoteSendHandle SkynetCpp.remoteSendHandle
  simp only
  split
  · rfl
  · split
    · split
      · rfl
      · rfl
    · simp [writtenOut, HarborCall.actions, handleHeader]

/-- One step of the handshake is that of the slaves. -/
theorem handshakeCase_writtenOut
    (h : HarborService)
    (id : Nat)
    (unknown : HarborUnknown)
    (round : Nat)
    (buffer : List UInt8)
    (size : Int) :
    (h.handshakeCase id unknown round buffer size).map
        (fun result =>
          (result.1.toHarbor,
            result.2.1.flatMap (HarborCall.actions unknown.stack),
            result.2.2)) =
      SkynetCpp.handshakeCase h.toHarbor id unknown round buffer size := by
  unfold handshakeCase SkynetCpp.handshakeCase
  by_cases wrong : ((buffer.headD 0).toNat : Int) ≠ id
  · simp only [if_pos wrong, lift]
    simp [Except.map, HarborCall.actions]
  · simp only [if_neg wrong]
    have dispatched :=
      dispatchQueue_writtenOut unknown.stack
        (h.modify id fun s => { s with status := .header }) id
    have sameSlaves :
        (h.modify id fun s => { s with status := .header }).toHarbor =
          h.toHarbor.modify id fun s => { s with status := .header } := rfl
    rw [sameSlaves] at dispatched
    rw [← dispatched]
    cases
      (h.modify id fun s => { s with status := .header }).dispatchQueue id with
    | error fault =>
        rfl
    | ok result =>
        by_cases finished : size - 1 = 0
        · simp only [Except.map, bind, Except.bind, if_pos finished]
          rfl
        · simp only [Except.map, bind, Except.bind, if_neg finished, writtenOut]
          simp

/-- A case of the switch on the service, written out. -/
def caseWrittenOut
    (result : HarborService × List HarborCall × PushFlow) : PushResult :=
  (result.1.toHarbor, result.2.1.flatMap (HarborCall.actions stack), result.2.2)

/-- The round behind a case goes on in the same way. -/
theorem nextRound_writtenOut
    {id : Nat}
    {unknown : HarborUnknown}
    {round : Nat}
    (later :
      ∀ h buffer size,
        (pushSocketDataLoop id unknown round h buffer size).map
            (writtenOut unknown.stack) =
          SkynetCpp.pushSocketDataLoop id unknown round h.toHarbor buffer size)
    (own : HarborService × List HarborCall × PushFlow) :
    ((match own.2.2 with
      | .returned => Except.ok (own.1, own.2.1)
      | .next buffer size => do
          let (h, later) ← pushSocketDataLoop id unknown round own.1 buffer size
          Except.ok (h, own.2.1 ++ later)).map (writtenOut unknown.stack)) =
      (match (caseWrittenOut unknown.stack own).2.2 with
      | .returned =>
          Except.ok
            ((caseWrittenOut unknown.stack own).1,
              (caseWrittenOut unknown.stack own).2.1)
      | .next buffer size => do
          let (h, later) ←
            SkynetCpp.pushSocketDataLoop id unknown round
              (caseWrittenOut unknown.stack own).1 buffer size
          Except.ok (h, (caseWrittenOut unknown.stack own).2.1 ++ later)) := by
  obtain ⟨h, calls, flow⟩ := own
  cases flow with
  | returned =>
      rfl
  | next buffer size =>
      have rest := later h buffer size
      simp only [caseWrittenOut]
      rw [← rest]
      cases pushSocketDataLoop id unknown round h buffer size with
      | error fault =>
          rfl
      | ok result =>
          exact
            congrArg (fun made => Except.ok (result.1.toHarbor, made))
              List.flatMap_append

/-- The loop of `push_socket_data` is that of the slaves. -/
theorem pushSocketDataLoop_writtenOut
    (id : Nat)
    (unknown : HarborUnknown)
    (round : Nat)
    (h : HarborService)
    (buffer : List UInt8)
    (size : Int) :
    (pushSocketDataLoop id unknown round h buffer size).map
        (writtenOut unknown.stack) =
      SkynetCpp.pushSocketDataLoop id unknown round h.toHarbor buffer size := by
  induction round generalizing h buffer size with
  | zero =>
      rfl
  | succ round inductionHypothesis =>
      have onSlaves (result : PushResult) :
          caseWrittenOut unknown.stack
              ({ h with toHarbor := result.1 }, result.2.1.map .action,
                result.2.2) =
            result :=
        congrArg (fun made => (result.1, made, result.2.2))
          (flatMap_actions_map unknown.stack result.2.1)
      cases isStatus : (h.s id).status with
      | handshake =>
          have shaken :=
            handshakeCase_writtenOut h id unknown round buffer size
          simp only [pushSocketDataLoop, SkynetCpp.pushSocketDataLoop,
            isStatus]
          rw [← shaken]
          cases handshakeCase h id unknown round buffer size with
          | error fault =>
              rfl
          | ok own =>
              exact nextRound_writtenOut inductionHypothesis own
      | header =>
          have rest :=
            nextRound_writtenOut inductionHypothesis
              ({ h with
                  toHarbor :=
                    (headerCase h.toHarbor id unknown round buffer size).1 },
                (headerCase h.toHarbor id unknown round buffer size).2.1.map
                  .action,
                (headerCase h.toHarbor id unknown round buffer size).2.2)
          rw [onSlaves] at rest
          simp only [pushSocketDataLoop, SkynetCpp.pushSocketDataLoop,
            isStatus]
          exact rest
      | content =>
          have rest :=
            nextRound_writtenOut inductionHypothesis
              ({ h with
                  toHarbor :=
                    (contentCase h.toHarbor id unknown round buffer size).1 },
                (contentCase h.toHarbor id unknown round buffer size).2.1.map
                  .action,
                (contentCase h.toHarbor id unknown round buffer size).2.2)
          rw [onSlaves] at rest
          simp only [pushSocketDataLoop, SkynetCpp.pushSocketDataLoop,
            isStatus]
          exact rest
      | wait =>
          simp only [pushSocketDataLoop, SkynetCpp.pushSocketDataLoop,
            isStatus]
          rfl
      | down =>
          simp only [pushSocketDataLoop, SkynetCpp.pushSocketDataLoop,
            isStatus]
          rfl

/-- `push_socket_data` of the service is that of the slaves. -/
theorem pushSocketData_writtenOut
    (h : HarborService)
    (message : SkynetSocketMessage)
    (unknown : HarborUnknown) :
    (h.pushSocketData message unknown).map (writtenOut unknown.stack) =
      SkynetCpp.pushSocketData h.toHarbor message unknown := by
  unfold pushSocketData SkynetCpp.pushSocketData
  split
  · rfl
  · cases findSlave h.toHarbor message.id with
    | none =>
        rfl
    | some id =>
        exact pushSocketDataLoop_writtenOut id unknown _ h _ _

end HarborService

end SkynetCpp
