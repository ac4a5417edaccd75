import SkynetCpp.HarborNames
import SkynetCpp.HarborCuts

namespace SkynetCpp

/-!
# Steps of the harbor service

Every function that `mainloop` calls is described once: what it sends, and
what it does to the queues of the slaves and of the names.
-/

/--
A slave has a descriptor unless it waits or is down, and a queue only as long
as its connection is not ready.
-/
structure Slave.WellFormed (s : Slave) : Prop where
  connected : s.fd = 0 ↔ s.status = .wait ∨ s.status = .down
  waiting : s.queue ≠ none → s.status = .wait ∨ s.status = .handshake
  queue : ∀ queue, s.queue = some queue → queue.WellFormed

/-- The messages that wait for a slave. -/
def Slave.messages (s : Slave) : List HarborMsg :=
  (s.queue.map HarborMsgQueue.contents).getD []

/-- A slave whose connection is ready, or closed. -/
inductive Slave.Settled (s : Slave) : Prop where
  | ready
      (connected : s.fd ≠ 0)
      (status : s.status = .header ∨ s.status = .content)
      (flushed : s.queue = none)
  | closed
      (unconnected : s.fd = 0)
      (status : s.status = .down)
      (released : s.queue = none)

namespace Slave

variable {s : Slave}

theorem Settled.queue_eq_none
    (settled : s.Settled) :
    s.queue = none := by
  cases settled with
  | ready _ _ flushed => exact flushed
  | closed _ _ released => exact released

theorem Settled.ne_handshake
    (settled : s.Settled) :
    s.status ≠ .handshake := by
  cases settled with
  | ready _ status _ =>
      rcases status with isHeader | isContent
      · simp [isHeader]
      · simp [isContent]
  | closed _ status _ =>
      simp [status]

theorem Settled.wellFormed
    (settled : s.Settled) :
    s.WellFormed := by
  have nothing := settled.queue_eq_none
  refine ⟨?_, fun queued => absurd nothing queued, ?_⟩
  · cases settled with
    | ready connected status _ =>
        rcases status with isHeader | isContent
        · simp [connected, isHeader]
        · simp [connected, isContent]
    | closed unconnected status _ =>
        simp [unconnected, status]
  · intro queue queued
    rw [nothing] at queued
    cases queued

/-- A slave that is neither waiting nor shaking hands is settled. -/
theorem WellFormed.settled
    (wellFormed : s.WellFormed)
    (notWait : s.status ≠ .wait)
    (notHandshake : s.status ≠ .handshake) :
    s.Settled := by
  have nothing : s.queue = none := by
    by_contra queued
    rcases wellFormed.waiting queued with isWait | isHandshake
    · exact notWait isWait
    · exact notHandshake isHandshake
  cases isStatus : s.status with
  | wait => exact absurd isStatus notWait
  | handshake => exact absurd isStatus notHandshake
  | header =>
      have connected : s.fd ≠ 0 := by
        intro closed
        have status := wellFormed.connected.mp closed
        simp [isStatus] at status
      exact .ready connected (Or.inl isStatus) nothing
  | content =>
      have connected : s.fd ≠ 0 := by
        intro closed
        have status := wellFormed.connected.mp closed
        simp [isStatus] at status
      exact .ready connected (Or.inr isStatus) nothing
  | down =>
      exact .closed (wellFormed.connected.mpr (Or.inr isStatus)) isStatus nothing

/-- Nothing waits for a connection that is down. -/
theorem WellFormed.queue_eq_none_of_down
    (wellFormed : s.WellFormed)
    (isDown : s.status = .down) :
    s.queue = none :=
  (wellFormed.settled (by simp [isDown]) (by simp [isDown])).queue_eq_none

theorem WellFormed.messages_eq_nil
    (nothing : s.queue = none) :
    s.messages = [] := by
  unfold messages
  rw [nothing]
  rfl

/-- The queue of a slave, or a new one, holds the messages of the slave. -/
theorem WellFormed.getD_newQueue
    (wellFormed : s.WellFormed) :
    (s.queue.getD newQueue).WellFormed ∧
      (s.queue.getD newQueue).contents = s.messages := by
  unfold messages
  cases queued : s.queue with
  | none =>
      exact ⟨newQueue_wellFormed, newQueue_contents⟩
  | some queue =>
      exact ⟨wellFormed.queue queue queued, rfl⟩

end Slave

section Slaves

variable {h : Harbor} {id : Nat}

@[simp] theorem Harbor.modify_s_self
    (change : Slave → Slave) :
    (h.modify id change).s id = change (h.s id) :=
  Function.update_self ..

theorem Harbor.modify_s_of_ne
    {other : Nat}
    (different : other ≠ id)
    (change : Slave → Slave) :
    (h.modify id change).s other = h.s other :=
  Function.update_of_ne different ..

theorem closeHarbor_settled :
    ((closeHarbor h id).1.s id).Settled := by
  unfold closeHarbor
  simp only [Harbor.modify_s_self]
  exact .closed rfl rfl rfl

/-- Receiving content keeps the connection ready. -/
theorem contentCase_settled
    (connected : (h.s id).fd ≠ 0)
    (flushed : (h.s id).queue = none)
    (status : (h.s id).status = .content)
    (unknown : HarborUnknown)
    (round : Nat)
    (buffer : List UInt8)
    (size : Int) :
    ((contentCase h id unknown round buffer size).1.s id).Settled := by
  unfold contentCase
  dsimp only
  split
  · simp only [Harbor.modify_s_self]
    exact .ready connected (Or.inr status) flushed
  · split
    · simp only [Harbor.modify_s_self]
      exact .ready connected (Or.inl rfl) flushed
    · simp only [Harbor.modify_s_self]
      exact .ready connected (Or.inl rfl) flushed

/-- Receiving a header keeps the connection ready, or closes it. -/
theorem headerCase_settled
    (connected : (h.s id).fd ≠ 0)
    (flushed : (h.s id).queue = none)
    (status : (h.s id).status = .header)
    (unknown : HarborUnknown)
    (round : Nat)
    (buffer : List UInt8)
    (size : Int) :
    ((headerCase h id unknown round buffer size).1.s id).Settled := by
  unfold headerCase
  dsimp only
  split
  · simp only [Harbor.modify_s_self]
    exact .ready connected (Or.inl status) flushed
  · split
    · exact closeHarbor_settled
    · split
      · simp only [Harbor.modify_s_self]
        exact .ready connected (Or.inr rfl) flushed
      · apply contentCase_settled
        · simp only [Harbor.modify_s_self]
          exact connected
        · simp only [Harbor.modify_s_self]
          exact flushed
        · simp only [Harbor.modify_s_self]

end Slaves

namespace HarborService

variable {h h' : HarborService} {calls : List HarborCall} {id : Nat}

@[simp] theorem modify_s_self
    (change : Slave → Slave) :
    (h.modify id change).s id = change (h.s id) :=
  Function.update_self ..

theorem modify_s_of_ne
    {other : Nat}
    (different : other ≠ id)
    (change : Slave → Slave) :
    (h.modify id change).s other = h.s other :=
  Function.update_of_ne different ..

/-- The service is well formed when its slaves and the queues of its names are. -/
structure WellFormed (h : HarborService) : Prop where
  slaves : ∀ id, (h.s id).WellFormed
  names :
    ∀ name queue, h.nameQueue name = some queue →
      queue.WellFormed ∧ queue.contents ≠ []

section DispatchQueue

/-- Appending the calls of a loop one by one. -/
theorem foldl_append_call
    (call : HarborMsg → HarborCall)
    (messages : List HarborMsg)
    (made : List HarborCall) :
    messages.foldl (fun calls m => calls ++ [call m]) made =
      made ++ messages.map call := by
  induction messages generalizing made with
  | nil =>
      exact (List.append_nil _).symm
  | cons m rest inductionHypothesis =>
      rw [List.foldl_cons, inductionHypothesis, List.map_cons,
        List.append_assoc, List.singleton_append]

/-- A loop that makes one call for each message. -/
theorem popLoop_calls
    {queue : HarborMsgQueue}
    (wellFormed : queue.WellFormed)
    (call : HarborMsg → HarborCall) :
    ∃ emptied,
      popLoop (fun calls m => calls ++ [call m]) (queue.size + 1) queue [] =
        .ok (queue.contents.map call, emptied) := by
  obtain ⟨emptied, looped, _, _⟩ :=
    popLoop_eq (fun calls m => calls ++ [call m]) wellFormed
      (Nat.lt_succ_of_lt wellFormed.length_contents_lt) []
  rw [foldl_append_call, List.nil_append] at looped
  exact ⟨emptied, looped⟩

/-- What `dispatch_queue` sends. -/
def flushSends (h : HarborService) (id : Nat) : List RemoteSend :=
  (h.s id).messages.map fun m =>
    { slave := id, status := (h.s id).status, fd := (h.s id).fd, message := m }

/-- `dispatch_queue` sends what waits for the slave, in order. -/
theorem dispatchQueue_eq
    (connected : (h.s id).fd ≠ 0)
    (queues : ∀ queue, (h.s id).queue = some queue → queue.WellFormed) :
    h.dispatchQueue id =
      .ok (h.modify id fun s => { s with queue := none },
        (h.flushSends id).map .sendRemote) := by
  unfold dispatchQueue
  rw [if_neg connected]
  cases queued : (h.s id).queue with
  | none =>
      have unchanged :
          (h.modify id fun s => { s with queue := none }) = h := by
        have same : { h.s id with queue := none } = h.s id := by
          rw [← queued]
        unfold modify Harbor.modify
        dsimp only
        rw [same, Function.update_eq_self]
      rw [unchanged, flushSends, Slave.WellFormed.messages_eq_nil queued]
      rfl
  | some queue =>
      obtain ⟨emptied, looped⟩ :=
        popLoop_calls (queues queue queued) fun m =>
          .sendRemote
            { slave := id
              status := (h.s id).status
              fd := (h.s id).fd
              message := m }
      have messages : (h.s id).messages = queue.contents := by
        unfold Slave.messages
        rw [queued]
        rfl
      dsimp only
      rw [looped, flushSends, messages, List.map_map]
      rfl

end DispatchQueue

/-- A step in which no message for another harbor arrives. -/
inductive Passive
    (h : HarborService)
    (calls : List HarborCall)
    (h' : HarborService) : Prop where
  /-- Nothing is sent; only a slave that is ready or closed loses its queue. -/
  | quiet
      (unsent : remoteSends calls = [])
      (names : ∀ name, h'.nameQueue name = h.nameQueue name)
      (slaves :
        ∀ id, (h'.s id).WellFormed ∧
          ((h'.s id).queue = (h.s id).queue ∨ (h'.s id).Settled))
  /-- A connection becomes ready, and what waits for it is sent. -/
  | flush
      (id : Nat)
      (fd : Int)
      (sends :
        remoteSends calls =
          (h.s id).messages.map fun m =>
            { slave := id, status := .header, fd := fd, message := m })
      (names : ∀ name, h'.nameQueue name = h.nameQueue name)
      (others : ∀ other, other ≠ id → h'.s other = h.s other)
      (unready : (h.s id).status = .wait ∨ (h.s id).status = .handshake)
      (settled : (h'.s id).Settled)

/-- A step that changes nothing and sends nothing. -/
theorem Passive.of_same
    (wellFormed : h.WellFormed)
    (unsent : remoteSends calls = []) :
    Passive h calls h :=
  .quiet unsent (fun _ => rfl) fun id => ⟨wellFormed.slaves id, Or.inl rfl⟩

section PushSocketData

theorem nameQueue_of_map
    (same : h'.map = h.map)
    (name : List UInt8) :
    h'.nameQueue name = h.nameQueue name := by
  unfold nameQueue
  rw [same]

/-- What the loop does to a settled slave, and to nothing else. -/
structure Receives
    (h : HarborService)
    (id : Nat)
    (h' : HarborService) : Prop where
  map : h'.map = h.map
  others : ∀ other, other ≠ id → h'.s other = h.s other
  settled : (h'.s id).Settled

theorem headerCase_receives
    (connected : (h.s id).fd ≠ 0)
    (flushed : (h.s id).queue = none)
    (status : (h.s id).status = .header)
    (unknown : HarborUnknown)
    (round : Nat)
    (buffer : List UInt8)
    (size : Int) :
    Receives h id
      { h with
        toHarbor := (headerCase h.toHarbor id unknown round buffer size).1 } where
  map := rfl
  others := fun _ different =>
    headerCase_s_of_ne different unknown round buffer size
  settled :=
    headerCase_settled connected flushed status unknown round buffer size

theorem contentCase_receives
    (connected : (h.s id).fd ≠ 0)
    (flushed : (h.s id).queue = none)
    (status : (h.s id).status = .content)
    (unknown : HarborUnknown)
    (round : Nat)
    (buffer : List UInt8)
    (size : Int) :
    Receives h id
      { h with
        toHarbor := (contentCase h.toHarbor id unknown round buffer size).1 } where
  map := rfl
  others := fun _ different =>
    contentCase_s_of_ne different unknown round buffer size
  settled :=
    contentCase_settled connected flushed status unknown round buffer size

/-- The loop of `push_socket_data` behind a case of it. -/
def continueLoop
    (id : Nat)
    (unknown : HarborUnknown)
    (round : Nat)
    (h : HarborService)
    (calls : List HarborCall) :
    PushFlow → Except Fault (HarborService × List HarborCall)
  | .returned => .ok (h, calls)
  | .next buffer size => do
      let (h, later) ← pushSocketDataLoop id unknown round h buffer size
      .ok (h, calls ++ later)

/-- From a settled slave on, the loop only receives. -/
theorem pushSocketDataLoop_receives
    {unknown : HarborUnknown}
    {round : Nat}
    {buffer : List UInt8}
    {size : Int}
    (settled : (h.s id).Settled)
    (done : pushSocketDataLoop id unknown round h buffer size = .ok (h', calls)) :
    remoteSends calls = [] ∧ Receives h id h' := by
  induction round generalizing h calls buffer size with
  | zero =>
      cases done
  | succ round inductionHypothesis =>
      have onwards :
          ∀ (next : HarborService) (sent : List HarborAction) (flow : PushFlow),
            Receives h id next →
            continueLoop id unknown round next (sent.map .action) flow =
                .ok (h', calls) →
            remoteSends calls = [] ∧ Receives h id h' := by
        intro next sent flow received isDone
        cases flow with
        | returned =>
            cases isDone
            exact ⟨remoteSends_map_action sent, received⟩
        | next buffer size =>
            obtain ⟨⟨last, later⟩, isLater, isLast⟩ := bind_eq_ok_iff.mp isDone
            cases isLast
            have rest := inductionHypothesis received.settled isLater
            refine ⟨?_, rest.2.map.trans received.map, ?_, rest.2.settled⟩
            · rw [remoteSends_append, remoteSends_map_action, rest.1]
              rfl
            · intro other different
              rw [rest.2.others other different,
                received.others other different]
      cases settled with
      | ready connected status flushed =>
          rcases status with isHeader | isContent
          · simp only [pushSocketDataLoop, isHeader] at done
            exact
              onwards _ _ _
                (headerCase_receives connected flushed isHeader unknown round
                  buffer size)
                done
          · simp only [pushSocketDataLoop, isContent] at done
            exact
              onwards _ _ _
                (contentCase_receives connected flushed isContent unknown round
                  buffer size)
                done
      | closed unconnected status released =>
          simp only [pushSocketDataLoop, status] at done
          cases done
          exact ⟨rfl, rfl, fun _ _ => rfl, .closed unconnected status released⟩

theorem Receives.trans
    {middle : HarborService}
    (first : Receives h id middle)
    (second : Receives middle id h') :
    Receives h id h' where
  map := second.map.trans first.map
  others := fun other different =>
    (second.others other different).trans (first.others other different)
  settled := second.settled

/-- Receiving is a quiet step. -/
theorem Receives.quiet
    (received : Receives h id h')
    (wellFormed : h.WellFormed)
    (unsent : remoteSends calls = []) :
    Passive h calls h' := by
  refine .quiet unsent (nameQueue_of_map received.map) ?_
  intro other
  by_cases same : other = id
  · subst same
    exact ⟨received.settled.wellFormed, Or.inr received.settled⟩
  · rw [received.others other same]
    exact ⟨wellFormed.slaves other, Or.inl rfl⟩

/-- The slave whose handshake was right, when its queue was sent. -/
theorem flushed_receives
    (connected : (h.s id).fd ≠ 0) :
    Receives h id
      (h.modify id fun s => { s with status := .header, queue := none }) where
  map := rfl
  others := fun _ different => modify_s_of_ne different _
  settled := by
    rw [modify_s_self]
    exact .ready connected (Or.inl rfl) rfl

/-- `dispatch_queue` of a slave whose connection has just become ready. -/
theorem dispatchQueue_ready
    (connected : (h.s id).fd ≠ 0)
    (queues : ∀ queue, (h.s id).queue = some queue → queue.WellFormed) :
    (h.modify id fun s => { s with status := .header }).dispatchQueue id =
      .ok (h.modify id fun s => { s with status := .header, queue := none },
        ((h.s id).messages.map fun m =>
            HarborCall.sendRemote
              { slave := id
                status := .header
                fd := (h.s id).fd
                message := m })) := by
  have slave :
      ((h.modify id fun s => { s with status := .header }).s id) =
        { h.s id with status := .header } := modify_s_self _
  rw [dispatchQueue_eq]
  · have twice :
        ((h.modify id fun s => { s with status := .header }).modify id
            fun s => { s with queue := none }) =
          h.modify id fun s => { s with status := .header, queue := none } := by
      unfold modify Harbor.modify
      simp
    rw [twice, flushSends, slave, List.map_map]
    rfl
  · rw [slave]
    exact connected
  · rw [slave]
    exact queues

/-- The handshake of a connection closes it, or makes it ready. -/
theorem handshakeCase_cases
    {unknown : HarborUnknown}
    {round : Nat}
    {buffer : List UInt8}
    {size : Int}
    {flow : PushFlow}
    (connected : (h.s id).fd ≠ 0)
    (wellFormed : (h.s id).WellFormed)
    (done :
      h.handshakeCase id unknown round buffer size = .ok (h', calls, flow)) :
    Receives h id h' ∧
      ((remoteSends calls = [] ∧ flow = .returned) ∨
        remoteSends calls =
          (h.s id).messages.map fun m =>
            { slave := id
              status := .header
              fd := (h.s id).fd
              message := m }) := by
  unfold handshakeCase at done
  dsimp only at done
  split at done
  · cases done
    refine ⟨⟨rfl, ?_, closeHarbor_settled⟩, Or.inl ⟨?_, rfl⟩⟩
    · intro other different
      exact closeHarbor_s_of_ne different
    · rw [remoteSends_action]
      exact remoteSends_map_action _
  · rw [dispatchQueue_ready connected wellFormed.queue] at done
    have flushed := flushed_receives connected
    have slave :
        (h.modify id fun s => { s with status := .header, queue := none }).s id =
          { h.s id with status := .header, queue := none } :=
      modify_s_self _
    by_cases finished : size - 1 = 0
    · simp only [bind, Except.bind, if_pos finished] at done
      cases done
      exact ⟨flushed, Or.inr (remoteSends_map_sendRemote _ _)⟩
    · simp only [bind, Except.bind, if_neg finished] at done
      cases done
      refine ⟨flushed.trans ?_, Or.inr ?_⟩
      · apply headerCase_receives
        · rw [slave]
          exact connected
        · rw [slave]
        · rw [slave]
      · rw [remoteSends_append, remoteSends_map_action, List.append_nil]
        exact remoteSends_map_sendRemote _ _

/-- The loop of `push_socket_data` makes a connection ready, or only receives. -/
theorem pushSocketDataLoop_passive
    {unknown : HarborUnknown}
    {round : Nat}
    {buffer : List UInt8}
    {size : Int}
    (wellFormed : h.WellFormed)
    (done : pushSocketDataLoop id unknown round h buffer size = .ok (h', calls)) :
    Passive h calls h' := by
  by_cases isWait : (h.s id).status = .wait
  · cases round with
    | zero =>
        cases done
    | succ round =>
        simp only [pushSocketDataLoop, isWait] at done
        cases done
        exact .of_same wellFormed rfl
  by_cases isHandshake : (h.s id).status = .handshake
  · cases round with
    | zero =>
        cases done
    | succ round =>
        have connected : (h.s id).fd ≠ 0 := by
          intro closed
          have status := (wellFormed.slaves id).connected.mp closed
          simp [isHandshake] at status
        simp only [pushSocketDataLoop, isHandshake] at done
        obtain ⟨⟨next, sent, flow⟩, isCase, isDone⟩ := bind_eq_ok_iff.mp done
        obtain ⟨received, sends⟩ :=
          handshakeCase_cases connected (wellFormed.slaves id) isCase
        cases flow with
        | returned =>
            cases isDone
            rcases sends with ⟨unsent, _⟩ | sends
            · exact received.quiet wellFormed unsent
            · exact
                .flush id _ sends (nameQueue_of_map received.map)
                  received.others (Or.inr isHandshake) received.settled
        | next buffer size =>
            obtain ⟨⟨last, later⟩, isLater, isLast⟩ := bind_eq_ok_iff.mp isDone
            cases isLast
            obtain ⟨unsent, rest⟩ :=
              pushSocketDataLoop_receives received.settled isLater
            rcases sends with ⟨_, impossible⟩ | sends
            · cases impossible
            · have whole := received.trans rest
              refine
                .flush id (h.s id).fd ?_ (nameQueue_of_map whole.map)
                  whole.others (Or.inr isHandshake) whole.settled
              rw [remoteSends_append, unsent, List.append_nil, sends]
  · obtain ⟨unsent, received⟩ :=
      pushSocketDataLoop_receives
        ((wellFormed.slaves id).settled isWait isHandshake) done
    exact received.quiet wellFormed unsent

/-- `push_socket_data` makes a connection ready, or only receives. -/
theorem pushSocketData_passive
    {message : SkynetSocketMessage}
    {unknown : HarborUnknown}
    (wellFormed : h.WellFormed)
    (done : h.pushSocketData message unknown = .ok (h', calls)) :
    Passive h calls h' := by
  unfold pushSocketData at done
  split at done
  · cases done
  · split at done
    · cases done
      exact .of_same wellFormed rfl
    · exact pushSocketDataLoop_passive wellFormed done

end PushSocketData

section Connect

/-- The commands `S` and `A` start a handshake, or make a connection ready. -/
theorem connectCommand_passive
    {accepted : Bool}
    {name stack : List UInt8}
    (wellFormed : h.WellFormed)
    (done : h.connectCommand accepted name stack = .ok (h', calls)) :
    Passive h calls h' := by
  unfold connectCommand at done
  generalize scanInts (cString name) = scanned at done
  obtain ⟨fd, number⟩ := scanned
  dsimp only at done
  split at done
  · cases done
    exact .of_same wellFormed rfl
  next valid =>
  split at done
  · cases done
    exact .of_same wellFormed rfl
  next unconnected =>
  have fresh : fd ≠ 0 := fun isZero => valid (Or.inl isZero)
  have closed : (h.s number.toNat).fd = 0 := not_not.mp unconnected
  have slave := wellFormed.slaves number.toNat
  have modified (change : Slave → Slave) (other : Nat)
      (different : other ≠ number.toNat) :
      ((h.modify number.toNat change).s other).WellFormed ∧
        (((h.modify number.toNat change).s other).queue = (h.s other).queue ∨
          ((h.modify number.toNat change).s other).Settled) := by
    rw [modify_s_of_ne different]
    exact ⟨wellFormed.slaves other, Or.inl rfl⟩
  cases accepted with
  | false =>
      cases done
      refine .quiet rfl (fun _ => rfl) ?_
      intro other
      have twice :
          ((h.modify number.toNat fun s => { s with fd := fd }).modify
              number.toNat fun s => { s with status := .handshake }) =
            h.modify number.toNat fun s =>
              { s with fd := fd, status := .handshake } := by
        unfold modify Harbor.modify
        simp
      rw [twice]
      by_cases same : other = number.toNat
      · subst same
        rw [modify_s_self]
        refine ⟨⟨?_, fun _ => Or.inr rfl, slave.queue⟩, Or.inl rfl⟩
        simp [fresh]
      · exact modified _ other same
  | true =>
      have opened :
          (h.modify number.toNat fun s => { s with fd := fd }).s number.toNat =
            { h.s number.toNat with fd := fd } := modify_s_self _
      simp only [↓reduceIte] at done
      rw [dispatchQueue_ready (by rw [opened]; exact fresh)
        (by rw [opened]; exact slave.queue), opened] at done
      cases done
      have others (other : Nat) (different : other ≠ number.toNat) :
          ((h.modify number.toNat fun s => { s with fd := fd }).modify
              number.toNat fun s =>
                { s with status := .header, queue := none }).s other =
            h.s other := by
        rw [modify_s_of_ne different, modify_s_of_ne different]
      have settled :
          (((h.modify number.toNat fun s => { s with fd := fd }).modify
              number.toNat fun s =>
                { s with status := .header, queue := none }).s
            number.toNat).Settled := by
        rw [modify_s_self, opened]
        exact .ready fresh (Or.inl rfl) rfl
      have sends :
          remoteSends
              (.socketStart fd ::
                (h.modify number.toNat fun s => { s with fd := fd }).handshake
                    number.toNat stack ++
                  (h.s number.toNat).messages.map fun m =>
                    HarborCall.sendRemote
                      { slave := number.toNat
                        status := .header
                        fd := fd
                        message := m }) =
            (h.s number.toNat).messages.map fun m =>
              { slave := number.toNat
                status := .header
                fd := fd
                message := m } := by
        exact remoteSends_map_sendRemote _ _
      rcases slave.connected.mp closed with isWait | isDown
      · exact
          .flush number.toNat fd sends (fun _ => rfl) others (Or.inl isWait)
            settled
      · have nothing := slave.queue_eq_none_of_down isDown
        refine .quiet (sends.trans ?_) (fun _ => rfl) ?_
        · rw [Slave.WellFormed.messages_eq_nil nothing]
          rfl
        · intro other
          by_cases same : other = number.toNat
          · subst same
            exact ⟨settled.wellFormed, Or.inr settled⟩
          · rw [others other same]
            exact ⟨wellFormed.slaves other, Or.inl rfl⟩

end Connect

section RemoteSend

/-- What becomes of a message for a slave. -/
inductive Takes
    (h : HarborService)
    (id : Nat)
    (m : HarborMsg)
    (calls : List HarborCall)
    (h' : HarborService) : Prop where
  /-- The connection is down. -/
  | refused
      (unsent : remoteSends calls = [])
      (same : h' = h)
      (nothing : (h.s id).queue = none)
  /-- The connection is not ready yet. -/
  | queued
      (unsent : remoteSends calls = [])
      (unready : (h.s id).status = .wait ∨ (h.s id).status = .handshake)
      (names : h'.map = h.map)
      (others : ∀ other, other ≠ id → h'.s other = h.s other)
      (queue : HarborMsgQueue)
      (slave : h'.s id = { h.s id with queue := some queue })
      (wellFormed : queue.WellFormed)
      (messages : queue.contents = (h.s id).messages ++ [m])
  /-- The connection is ready. -/
  | sent
      (sends :
        remoteSends calls =
          [{ slave := id
             status := (h.s id).status
             fd := (h.s id).fd
             message := m }])
      (same : h' = h)
      (connected : (h.s id).fd ≠ 0)
      (settled : (h.s id).Settled)

/-- The message that `remote_send_handle` makes. -/
def handleMessage
    (source destination type : UInt32)
    (session : Int)
    (msg : List UInt8)
    (sz : Nat) : HarborMsg where
  header := handleHeader source destination type session
  buffer := msg
  size := sz

/-- A message for this harbor is delivered, any other is taken for its slave. -/
theorem remoteSendHandle_cases
    (wellFormed : h.WellFormed)
    (source destination type : UInt32)
    (session : Int)
    (msg : List UInt8)
    (sz : Nat) :
    let result := (h.remoteSendHandle source destination type session msg sz).2
    let harbor_id := (destination >>> kHandleRemoteShift).toNat
    if (harbor_id : Int) = h.id then
      remoteSends result.2 = [] ∧ result.1 = h
    else
      Takes h harbor_id (handleMessage source destination type session msg sz)
        result.2 result.1 := by
  have slave := wellFormed.slaves (destination >>> kHandleRemoteShift).toNat
  have queue := slave.getD_newQueue
  unfold remoteSendHandle
  dsimp only
  split
  · exact ⟨rfl, rfl⟩
  split
  · next unready =>
      split
      · next isDown =>
          exact .refused rfl rfl (slave.queue_eq_none_of_down isDown)
      · next notDown =>
          have status :
              (h.s (destination >>> kHandleRemoteShift).toNat).status = .wait ∨
                (h.s (destination >>> kHandleRemoteShift).toNat).status =
                  .handshake := by
            rcases unready with closed | isHandshake
            · exact
                Or.inl ((slave.connected.mp closed).resolve_right notDown)
            · exact Or.inr isHandshake
          exact
            .queued rfl status rfl
              (fun _ different => modify_s_of_ne different _)
              _ (modify_s_self _)
              (pushQueueMsg_wellFormed queue.1 _)
              ((pushQueueMsg_contents queue.1 _).trans
                (congrArg (· ++ _) queue.2))
  · next ready =>
      rw [not_or] at ready
      refine .sent rfl rfl ready.1 (slave.settled ?_ ready.2)
      intro isWait
      exact ready.1 (slave.connected.mpr (Or.inl isWait))

/-- What becomes of a message for a name that is not bound. -/
structure Awaits
    (h : HarborService)
    (name : List UInt8)
    (m : HarborMsg)
    (calls : List HarborCall)
    (h' : HarborService) : Prop where
  unsent : remoteSends calls = []
  slaves : h'.s = h.s
  queued :
    ∃ queue,
      queue.WellFormed ∧ queue.contents = h.nameMessages name ++ [m] ∧
        ∀ other,
          h'.nameQueue other =
            if nameKey other = nameKey name then
              some queue
            else
              h.nameQueue other

/-- A search that inserts a node changes no queue. -/
theorem nameQueue_findOrInsert_map
    (name other : List UInt8) :
    nameQueue { h with map := (findOrInsert h.map name).2 } other =
      h.nameQueue other := by
  have inserted := nameQueue_findOrInsert (h := h) name
  unfold nameQueue at inserted ⊢
  dsimp only
  rw [hashSearch_findOrInsert]
  by_cases same : nameKey other = nameKey name
  · rw [if_pos same, hashSearch_congr h.map same, ← inserted]
    rfl
  · rw [if_neg same]

theorem WellFormed.findOrInsert
    (wellFormed : h.WellFormed)
    (name : List UInt8) :
    WellFormed { h with map := (findOrInsert h.map name).2 } where
  slaves := wellFormed.slaves
  names := fun other queue queued =>
    wellFormed.names other queue
      ((nameQueue_findOrInsert_map name other).symm.trans queued)

/-- A name that is not bound keeps the message, a bound one is its handle. -/
theorem remoteSendName_cases
    (wellFormed : h.WellFormed)
    (source : UInt32)
    (name : List UInt8)
    (type : UInt32)
    (session : Int)
    (msg : List UInt8)
    (sz : Nat) :
    let result := (h.remoteSendName source name type session msg sz).2
    if h.nameValue name = 0 then
      Awaits h name (unaddressed source type session msg sz) result.2 result.1
    else
      result =
        (remoteSendHandle { h with map := (findOrInsert h.map name).2 } source
          (h.nameValue name) type session msg sz).2 := by
  have value := nameValue_findOrInsert (h := h) name
  have queue := nameQueue_findOrInsert (h := h) name
  unfold remoteSendName
  dsimp only
  rw [value]
  split
  · have base :
        ((findOrInsert h.map name).1.queue.getD newQueue).WellFormed ∧
          ((findOrInsert h.map name).1.queue.getD newQueue).contents =
            h.nameMessages name := by
      rw [queue]
      unfold nameMessages
      cases queued : h.nameQueue name with
      | none =>
          exact ⟨newQueue_wellFormed, newQueue_contents⟩
      | some waiting =>
          exact ⟨(wellFormed.names name waiting queued).1, rfl⟩
    refine
      ⟨rfl, rfl,
        pushQueueMsg ((findOrInsert h.map name).1.queue.getD newQueue)
          (unaddressed source type session msg sz),
        pushQueueMsg_wellFormed base.1 _, ?_, ?_⟩
    · rw [pushQueueMsg_contents base.1, base.2]
    · intro other
      exact nameQueue_of_modify name other fun _ => rfl
  · rfl

end RemoteSend

section UpdateName

/-- What becomes of the messages that waited for a name. -/
inductive Releases
    (h : HarborService)
    (handle : UInt32)
    (messages : List HarborMsg)
    (calls : List HarborCall)
    (h' : HarborService) : Prop where
  /-- The connection is down. -/
  | dropped
      (isDown : (h.s (handle >>> kHandleRemoteShift).toNat).status = .down)
      (unsent : remoteSends calls = [])
      (slaves : h'.s = h.s)
  /-- The handle is one of this node. -/
  | delivered
      (isLocal :
        (handle >>> kHandleRemoteShift).toNat =
          (h.slave >>> kHandleRemoteShift).toNat)
      (isWait : (h.s (handle >>> kHandleRemoteShift).toNat).status = .wait)
      (delivered :
        calls =
          ((h.s (handle >>> kHandleRemoteShift).toNat).messages ++
            messages).map (deliver handle))
      (others :
        ∀ other, other ≠ (handle >>> kHandleRemoteShift).toNat →
          h'.s other = h.s other)
      (slave :
        h'.s (handle >>> kHandleRemoteShift).toNat =
          { h.s (handle >>> kHandleRemoteShift).toNat with queue := none })
  /-- There is no connection yet. -/
  | queued
      (isRemote :
        (handle >>> kHandleRemoteShift).toNat ≠
          (h.slave >>> kHandleRemoteShift).toNat)
      (isWait : (h.s (handle >>> kHandleRemoteShift).toNat).status = .wait)
      (silent : calls = [])
      (others :
        ∀ other, other ≠ (handle >>> kHandleRemoteShift).toNat →
          h'.s other = h.s other)
      (queue : HarborMsgQueue)
      (slave :
        h'.s (handle >>> kHandleRemoteShift).toNat =
          { h.s (handle >>> kHandleRemoteShift).toNat with queue := some queue })
      (wellFormed : queue.WellFormed)
      (contents :
        queue.contents =
          (h.s (handle >>> kHandleRemoteShift).toNat).messages ++ messages)
  /-- There is a connection, ready or not. -/
  | sent
      (connected : (h.s (handle >>> kHandleRemoteShift).toNat).fd ≠ 0)
      (sends :
        calls =
          messages.map fun m =>
            .sendRemote
              { slave := (handle >>> kHandleRemoteShift).toNat
                status := (h.s (handle >>> kHandleRemoteShift).toNat).status
                fd := (h.s (handle >>> kHandleRemoteShift).toNat).fd
                message := addressed handle m })
      (slaves : h'.s = h.s)

/-- Behind what waits for a slave comes what waited for a name. -/
theorem joinQueue_eq
    {s : Slave}
    (wellFormed : s.WellFormed)
    {queue : HarborMsgQueue}
    (shape : queue.WellFormed) :
    ∃ merged,
      joinQueue s.queue queue = .ok merged ∧ merged.WellFormed ∧
        merged.contents = s.messages ++ queue.contents := by
  unfold Slave.messages
  cases queued : s.queue with
  | none =>
      exact ⟨queue, rfl, shape, (List.nil_append _).symm⟩
  | some waiting =>
      obtain ⟨emptied, looped, _, _⟩ :=
        popLoop_eq pushQueueMsg shape
          (Nat.lt_succ_of_lt shape.length_contents_lt) waiting
      have pushed :=
        foldl_pushQueueMsg (wellFormed.queue waiting queued) queue.contents
      refine ⟨queue.contents.foldl pushQueueMsg waiting, ?_, pushed⟩
      unfold joinQueue
      dsimp only
      rw [looped]
      rfl

/-- `dispatch_name_queue` returns, and releases the messages of the name. -/
theorem dispatchNameQueue_releases
    (wellFormed : h.WellFormed)
    (node : KeyValue)
    {queue : HarborMsgQueue}
    (shape : queue.WellFormed) :
    ∃ h' calls,
      h.dispatchNameQueue node queue = .ok (h', calls) ∧
        h'.map = h.map ∧ Releases h node.value queue.contents calls h' := by
  have slave :=
    wellFormed.slaves (node.value >>> kHandleRemoteShift).toNat
  unfold dispatchNameQueue
  dsimp only
  by_cases closed : (h.s (node.value >>> kHandleRemoteShift).toNat).fd = 0
  · rw [if_pos closed]
    by_cases isDown :
        (h.s (node.value >>> kHandleRemoteShift).toNat).status = .down
    · rw [if_pos isDown]
      exact ⟨_, _, rfl, rfl, .dropped isDown rfl rfl⟩
    · rw [if_neg isDown]
      have isWait := (slave.connected.mp closed).resolve_right isDown
      obtain ⟨merged, isMerged, mergedShape, contents⟩ :=
        joinQueue_eq slave shape
      rw [isMerged]
      by_cases isLocal :
          (node.value >>> kHandleRemoteShift).toNat =
            (h.slave >>> kHandleRemoteShift).toNat
      · obtain ⟨emptied, looped⟩ :=
          popLoop_calls mergedShape (deliver node.value)
        refine ⟨_, _, ?_, ?_,
          .delivered isLocal isWait (congrArg _ contents)
            (fun _ different => modify_s_of_ne different fun s =>
              { s with queue := none })
            (modify_s_self _)⟩
        · simp only [bind, Except.bind, if_pos isLocal, looped]
        · rfl
      · refine ⟨_, _, ?_, ?_,
          .queued isLocal isWait rfl
            (fun _ different => modify_s_of_ne different fun s =>
              { s with queue := some merged })
            merged (modify_s_self _) mergedShape contents⟩
        · simp only [bind, Except.bind, if_neg isLocal]
        · rfl
  · rw [if_neg closed]
    obtain ⟨emptied, looped⟩ :=
      popLoop_calls shape fun m =>
        .sendRemote
          { slave := (node.value >>> kHandleRemoteShift).toNat
            status := (h.s (node.value >>> kHandleRemoteShift).toNat).status
            fd := (h.s (node.value >>> kHandleRemoteShift).toNat).fd
            message := addressed node.value m }
    refine ⟨h, _, ?_, rfl, .sent closed rfl rfl⟩
    rw [looped]
    rfl

/-- `update_name` returns; the queue of the name is released. -/
theorem updateName_releases
    (wellFormed : h.WellFormed)
    (name : List UInt8)
    (handle : UInt32) :
    ∃ h' calls,
      h.updateName name handle = .ok (h', calls) ∧
        (∀ other,
          h'.nameQueue other =
            if nameKey other = nameKey name then none else h.nameQueue other) ∧
        if h.nameQueue name = none then
          calls = [] ∧ h'.s = h.s
        else
          Releases h handle (h.nameMessages name) calls h' := by
  have isQueue := nameQueue_findOrInsert (h := h) name
  have keepsKey (node : KeyValue) :
      KeyValue.nodeKey { node with value := handle } = node.nodeKey := rfl
  have releasesKey (node : KeyValue) :
      KeyValue.nodeKey { node with queue := none } = node.nodeKey := rfl
  have sameNames (other : List UInt8) :
      nameQueue
          { h with
            map :=
              (findOrInsert h.map name).2.modify name fun node =>
                { node with value := handle } } other =
        h.nameQueue other := by
    refine
      (nameQueue_of_modify name other keepsKey).trans ?_
    split
    · next same =>
        exact isQueue.trans (nameQueue_congr same).symm
    · rfl
  unfold updateName
  dsimp only
  rw [isQueue]
  cases queued : h.nameQueue name with
  | none =>
      refine ⟨_, _, rfl, ?_, ?_⟩
      · intro other
        rw [sameNames]
        split
        · next same =>
            rw [nameQueue_congr same, queued]
        · rfl
      · rw [if_pos rfl]
        exact ⟨rfl, rfl⟩
  | some queue =>
      have bound :
          WellFormed
            { h with
              map :=
                (findOrInsert h.map name).2.modify name fun node =>
                  { node with value := handle } } :=
        ⟨wellFormed.slaves, fun other waiting isWaiting =>
          wellFormed.names other waiting
            ((sameNames other).symm.trans isWaiting)⟩
      obtain ⟨next, calls, dispatched, sameMap, releases⟩ :=
        dispatchNameQueue_releases bound
          { (findOrInsert h.map name).1 with
            value := handle
            queue := some queue }
          (wellFormed.names name queue queued).1
      dsimp only
      rw [dispatched]
      refine ⟨_, _, rfl, ?_, ?_⟩
      · intro other
        have written := sameNames other
        unfold nameQueue at written ⊢
        dsimp only at written ⊢
        rw [hashSearch_modify _ _ releasesKey, sameMap]
        by_cases same : nameKey other = nameKey name
        · rw [if_pos same, if_pos same]
          cases
              hashSearch
                ((findOrInsert h.map name).2.modify name fun node =>
                  { node with value := handle }) name with
          | none =>
              rfl
          | some node =>
              rfl
        · rw [if_neg same, if_neg same]
          exact written
      · rw [if_neg (by simp)]
        have messages : h.nameMessages name = queue.contents := by
          unfold nameMessages
          rw [queued]
          rfl
        rw [messages]
        cases releases with
        | dropped isDown unsent slaves =>
            exact .dropped isDown unsent slaves
        | delivered isLocal isWait delivered others slave =>
            exact .delivered isLocal isWait delivered others slave
        | queued isRemote isWait silent others merged slave shape contents =>
            exact
              .queued isRemote isWait silent others merged slave shape contents
        | sent connected sends slaves =>
            exact .sent connected sends slaves

end UpdateName

end HarborService

end SkynetCpp
