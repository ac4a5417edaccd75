import SkynetCpp.HarborRun

namespace SkynetCpp

open Foundation

/-!
# The states of a slave

The status of a slave says whether it has a descriptor and a queue, and how
far its parser has come.  Every message that `mainloop` gets keeps this, and
`mainloop` returns from every message but a command `S` or `A` of one byte.
-/

/-- What the status of a slave says about its other fields. -/
structure Slave.Consistent (s : Slave) : Prop where
  connected : s.fd = 0 ↔ s.status = .wait ∨ s.status = .down
  ready : s.status = .header ∨ s.status = .content → s.queue = none
  down : s.status = .down → s.queue = none
  header : s.status = .header → s.read < 4
  content : s.status = .content → s.read ≤ s.length ∧ s.length < 2 ^ 24

/-- How far the parser of a slave has come. -/
structure Slave.Counted (s : Slave) : Prop where
  outside :
    s.status ≠ .content → s.read < 4 ∧ s.length = 0 ∧ s.recv_buffer = []
  content : s.status = .content → s.read ≤ s.length ∧ s.length < 2 ^ 24

namespace Slave

variable {s : Slave}

/-- A well-formed slave whose parser is counted is consistent. -/
theorem WellFormed.consistent
    (wellFormed : s.WellFormed)
    (counted : s.Counted) :
    s.Consistent where
  connected := wellFormed.connected
  ready status := by
    apply (wellFormed.settled _ _).queue_eq_none <;>
      rcases status with isHeader | isContent <;> simp [*]
  down := wellFormed.queue_eq_none_of_down
  header isHeader := (counted.outside (by simp [isHeader])).1
  content := counted.content

/-- What a step leaves that neither receives data nor gets into a body. -/
structure SameParser (s s' : Slave) : Prop where
  status :
    s'.status = s.status ∨ s.status ≠ .content ∧ s'.status ≠ .content
  read : s'.read = s.read
  length : s'.length = s.length
  size : s'.size = s.size
  recv_buffer : s'.recv_buffer = s.recv_buffer

theorem SameParser.refl
    (s : Slave) :
    s.SameParser s :=
  ⟨Or.inl rfl, rfl, rfl, rfl, rfl⟩

/-- A parser that is left as it is still counts. -/
theorem SameParser.counted
    {s' : Slave}
    (same : s.SameParser s')
    (counted : s.Counted) :
    s'.Counted := by
  have parts (outside : s'.status ≠ .content) : s.status ≠ .content := by
    rcases same.status with sameStatus | ⟨outsideBefore, _⟩
    · rwa [← sameStatus]
    · exact outsideBefore
  refine ⟨fun outside => ?_, fun isContent => ?_⟩
  · rw [same.read, same.length, same.recv_buffer]
    exact counted.outside (parts outside)
  · rcases same.status with sameStatus | ⟨_, outside⟩
    · rw [same.read, same.length]
      exact counted.content (sameStatus ▸ isContent)
    · exact absurd isContent outside

end Slave

section Parser

variable {h : Harbor} {id : Nat}

/-- Receiving content keeps the counters, and the next round gets a header. -/
theorem contentCase_counted
    (counted : (h.s id).Counted)
    (isContent : (h.s id).status = .content)
    (unknown : HarborUnknown)
    (round : Nat)
    (buffer : List UInt8)
    (size : Int) :
    let result := contentCase h id unknown round buffer size
    (result.1.s id).Counted ∧
      ∀ rest left, result.2.2 = .next rest left →
        (result.1.s id).status = .header ∧ 0 < left ∧ left ≤ size := by
  have counts := counted.content isContent
  unfold contentCase
  dsimp only
  split
  · next short =>
      refine ⟨?_, fun _ _ impossible => by cases impossible⟩
      rw [Harbor.modify_s_self]
      refine ⟨fun outside => absurd isContent outside, fun _ => ?_⟩
      dsimp only
      omega
  · next whole =>
      have isShort : (0 : Int) < 4 := by decide
      have cleared :
          ({ h.s id with
              length := 0, read := 0, recv_buffer := [],
              status := .header } : Slave).Counted :=
        ⟨fun _ => ⟨isShort, rfl, rfl⟩,
          fun impossible => by cases impossible⟩
      split
      · refine ⟨?_, fun _ _ impossible => by cases impossible⟩
        rw [Harbor.modify_s_self]
        exact cleared
      · next more =>
          refine ⟨?_, fun rest left isNext => ?_⟩
          · rw [Harbor.modify_s_self]
            exact cleared
          · cases isNext
            rw [Harbor.modify_s_self]
            exact ⟨rfl, by omega, by omega⟩

/-- Receiving a header keeps the counters, and the next round has less. -/
theorem headerCase_counted
    (counted : (h.s id).Counted)
    (isHeader : (h.s id).status = .header)
    (unknown : HarborUnknown)
    (round : Nat)
    (buffer : List UInt8)
    (size : Int) :
    let result := headerCase h id unknown round buffer size
    (result.1.s id).Counted ∧
      ∀ rest left, result.2.2 = .next rest left →
        (result.1.s id).status = .header ∧ 0 < left ∧ left < size := by
  have outside : (h.s id).status ≠ .content := by simp [isHeader]
  obtain ⟨short, noLength, noBuffer⟩ := counted.outside outside
  unfold headerCase
  dsimp only
  split
  · next tooFew =>
      refine ⟨?_, fun _ _ impossible => by cases impossible⟩
      rw [Harbor.modify_s_self]
      refine ⟨fun _ => ⟨?_, noLength, noBuffer⟩, fun isContent => ?_⟩
      · dsimp only
        omega
      · exact absurd isContent outside
  · split
    · refine ⟨?_, fun _ _ impossible => by cases impossible⟩
      unfold closeHarbor
      rw [Harbor.modify_s_self, Harbor.modify_s_self]
      exact
        ⟨fun _ => ⟨short, noLength, noBuffer⟩,
          fun impossible => by cases impossible⟩
    · next zeroFirst =>
        generalize isHead :
          (h.s id).size.take (h.s id).read.toNat ++
              buffer.take (4 - (h.s id).read).toNat ++
            (h.s id).size.drop ((h.s id).read + (4 - (h.s id).read)).toNat =
          head
        have bound : (harborFraming.bodyLength head : Int) < 2 ^ 24 := by
          exact_mod_cast harborFraming_bodyLength_lt head
        have begun :
            ({ h.s id with
                size := head
                length := (harborFraming.bodyLength head : Int)
                read := 0
                status := .content } : Slave).Counted :=
          ⟨fun outside => absurd rfl outside,
            fun _ => ⟨Int.natCast_nonneg _, bound⟩⟩
        split
        · refine ⟨?_, fun _ _ impossible => by cases impossible⟩
          rw [Harbor.modify_s_self, Harbor.modify_s_self]
          exact begun
        · have received :=
            contentCase_counted
              (h :=
                (h.modify id fun s => { s with size := head }).modify id
                  fun s =>
                    { s with
                      length := (harborFraming.bodyLength head : Int)
                      read := 0
                      status := .content })
              (by rw [Harbor.modify_s_self, Harbor.modify_s_self]; exact begun)
              (by rw [Harbor.modify_s_self])
              unknown round (buffer.drop (4 - (h.s id).read).toNat)
              (size - (4 - (h.s id).read))
          refine ⟨received.1, fun rest left isNext => ?_⟩
          obtain ⟨status, positive, bounded⟩ := received.2 rest left isNext
          exact ⟨status, positive, by omega⟩

end Parser

namespace HarborService

variable {h h' : HarborService} {calls : List HarborCall} {id : Nat}

/-- The descriptor, the queue and the parser of every slave agree. -/
structure Sound (h : HarborService) : Prop where
  wellFormed : h.WellFormed
  counted : ∀ id, (h.s id).Counted

section PushSocketData

/-- The round behind a case, once the next status is `kStatusHeader`. -/
theorem nextRound_counted
    {unknown : HarborUnknown}
    {round : Nat}
    {next : HarborService}
    {sent : List HarborCall}
    {flow : PushFlow}
    (counted : (next.s id).Counted)
    (onwards :
      ∀ rest left, flow = .next rest left →
        ∃ h' calls,
          pushSocketDataLoop id unknown round next rest left =
              .ok (h', calls) ∧
            (h'.s id).Counted) :
    ∃ h' calls,
      (match flow with
        | .returned => Except.ok (next, sent)
        | .next buffer size => do
            let (last, later) ←
              pushSocketDataLoop id unknown round next buffer size
            Except.ok (last, sent ++ later)) =
          .ok (h', calls) ∧
        (h'.s id).Counted := by
  cases flow with
  | returned =>
      exact ⟨next, sent, rfl, counted⟩
  | next rest left =>
      obtain ⟨last, later, looped, stillCounted⟩ := onwards rest left rfl
      exact ⟨last, sent ++ later, by simp [looped, bind, Except.bind],
        stillCounted⟩

/-- From a header on, the loop returns when there is a round for every byte. -/
theorem pushSocketDataLoop_header_counted
    {unknown : HarborUnknown}
    {round : Nat}
    {buffer : List UInt8}
    {size : Int}
    (counted : (h.s id).Counted)
    (isHeader : (h.s id).status = .header)
    (started : 0 < round)
    (enough : size ≤ round) :
    ∃ h' calls,
      pushSocketDataLoop id unknown round h buffer size = .ok (h', calls) ∧
        (h'.s id).Counted := by
  induction round generalizing h buffer size with
  | zero =>
      cases started
  | succ round inductionHypothesis =>
      have received :=
        headerCase_counted counted isHeader unknown round buffer size
      simp only [pushSocketDataLoop, isHeader]
      refine nextRound_counted received.1 fun rest left isNext => ?_
      obtain ⟨status, positive, less⟩ := received.2 rest left isNext
      exact inductionHypothesis received.1 status (by omega) (by omega)

/-- From a body on, the loop needs one round more. -/
theorem pushSocketDataLoop_content_counted
    {unknown : HarborUnknown}
    {round : Nat}
    {buffer : List UInt8}
    {size : Int}
    (counted : (h.s id).Counted)
    (isContent : (h.s id).status = .content)
    (enough : size ≤ round) :
    ∃ h' calls,
      pushSocketDataLoop id unknown (round + 1) h buffer size =
          .ok (h', calls) ∧
        (h'.s id).Counted := by
  have received :=
    contentCase_counted counted isContent unknown round buffer size
  simp only [pushSocketDataLoop, isContent]
  refine nextRound_counted received.1 fun rest left isNext => ?_
  obtain ⟨status, positive, bounded⟩ := received.2 rest left isNext
  exact
    pushSocketDataLoop_header_counted received.1 status (by omega) (by omega)

/-- From a handshake on, the loop may need a round without data. -/
theorem pushSocketDataLoop_handshake_counted
    {unknown : HarborUnknown}
    {round : Nat}
    {buffer : List UInt8}
    {size : Int}
    (wellFormed : (h.s id).WellFormed)
    (counted : (h.s id).Counted)
    (isHandshake : (h.s id).status = .handshake)
    (started : 0 < round)
    (enough : size ≤ round) :
    ∃ h' calls,
      pushSocketDataLoop id unknown (round + 1) h buffer size =
          .ok (h', calls) ∧
        (h'.s id).Counted := by
  have outside : (h.s id).status ≠ .content := by simp [isHandshake]
  have connected : (h.s id).fd ≠ 0 := by
    intro closed
    have status := wellFormed.connected.mp closed
    simp [isHandshake] at status
  have flushed :
      ((h.modify id fun s => { s with status := .header, queue := none }).s
          id).Counted := by
    rw [modify_s_self]
    exact
      Slave.SameParser.counted ⟨Or.inr ⟨outside, by simp⟩, rfl, rfl, rfl, rfl⟩
        counted
  simp only [pushSocketDataLoop, isHandshake]
  unfold handshakeCase
  dsimp only
  split
  · next wrong =>
      refine ⟨_, _, rfl, ?_⟩
      unfold closeHarbor
      rw [lift, Harbor.modify_s_self]
      exact
        Slave.SameParser.counted ⟨Or.inr ⟨outside, by simp⟩, rfl, rfl, rfl, rfl⟩
          counted
  · rw [dispatchQueue_ready connected wellFormed.queue]
    by_cases finished : size - 1 = 0
    · simp only [bind, Except.bind, if_pos finished]
      obtain ⟨last, later, looped, stillCounted⟩ :=
        pushSocketDataLoop_header_counted flushed (by rw [modify_s_self])
          started (by omega : size - 1 ≤ round)
      rw [looped]
      exact ⟨_, _, rfl, stillCounted⟩
    · simp only [bind, Except.bind, if_neg finished]
      have received :=
        headerCase_counted flushed (by rw [modify_s_self]) unknown round
          (buffer.drop 1) (size - 1)
      refine nextRound_counted received.1 fun rest left isNext => ?_
      obtain ⟨status, positive, less⟩ := received.2 rest left isNext
      exact
        pushSocketDataLoop_header_counted received.1 status (by omega)
          (by omega)

/-- The loop of `push_socket_data` returns, and keeps the slaves sound. -/
theorem pushSocketDataLoop_sound
    (sound : h.Sound)
    (id : Nat)
    (unknown : HarborUnknown)
    (round : Nat)
    (buffer : List UInt8)
    {size : Int}
    (started : 0 < round)
    (enough : size ≤ round) :
    ∃ h' calls,
      pushSocketDataLoop id unknown (round + 1) h buffer size =
          .ok (h', calls) ∧
        (h'.s id).Counted := by
  have counted := sound.counted id
  cases isStatus : (h.s id).status with
  | wait =>
      exact ⟨h, [], by simp [pushSocketDataLoop, isStatus, bind, Except.bind],
        counted⟩
  | handshake =>
      exact
        pushSocketDataLoop_handshake_counted (sound.wellFormed.slaves id)
          counted isStatus started enough
  | header =>
      exact
        pushSocketDataLoop_header_counted counted isStatus (by omega)
          (by omega)
  | content =>
      exact
        pushSocketDataLoop_content_counted counted isStatus (by omega)
  | down =>
      exact ⟨h, [], by simp [pushSocketDataLoop, isStatus, bind, Except.bind],
        counted⟩

/-- The loop for a slave leaves the other slaves. -/
theorem pushSocketDataLoop_others
    {unknown : HarborUnknown}
    {round : Nat}
    {buffer : List UInt8}
    {size : Int}
    (looped :
      pushSocketDataLoop id unknown round h buffer size = .ok (h', calls))
    {other : Nat}
    (different : other ≠ id) :
    h'.s other = h.s other := by
  have written := congrArg (Except.map (writtenOut unknown.stack)) looped
  rw [pushSocketDataLoop_writtenOut] at written
  exact pushSocketDataLoop_s_of_ne different written

/-- `push_socket_data` returns, and keeps the slaves sound. -/
theorem pushSocketData_sound
    (sound : h.Sound)
    {message : SkynetSocketMessage}
    (isData : message.type = 1)
    (unknown : HarborUnknown) :
    ∃ h' calls, h.pushSocketData message unknown = .ok (h', calls) ∧ h'.Sound := by
  unfold pushSocketData
  rw [if_neg (by simp [isData])]
  split
  · exact ⟨h, _, rfl, sound⟩
  · next id found =>
      obtain ⟨h', calls, looped, counted⟩ :=
        pushSocketDataLoop_sound sound id unknown
          (max message.buffer.length message.ud.toNat + 1) message.buffer
          (by omega) (by omega : message.ud ≤ _)
      refine ⟨h', calls, looped, ?_, ?_⟩
      · exact
          (pushSocketDataLoop_passive sound.wellFormed looped).wellFormed
            sound.wellFormed
      · intro other
        by_cases same : other = id
        · subst same
          exact counted
        · rw [pushSocketDataLoop_others looped same]
          exact sound.counted other

end PushSocketData

section Queues

/-- Only queues of slaves change. -/
def OnlyQueues (h h' : HarborService) : Prop :=
  ∀ id, ∃ queue, h'.s id = { h.s id with queue := queue }

/-- Queues are no part of a parser. -/
theorem OnlyQueues.sameParser
    (only : OnlyQueues h h')
    (id : Nat) :
    (h.s id).SameParser (h'.s id) := by
  obtain ⟨queue, same⟩ := only id
  rw [same]
  exact ⟨Or.inl rfl, rfl, rfl, rfl, rfl⟩

theorem OnlyQueues.of_same
    (same : h'.s = h.s) :
    OnlyQueues h h' :=
  fun id => ⟨(h.s id).queue, by rw [same]⟩

/-- The queue of one slave changes. -/
theorem OnlyQueues.of_one
    {queue : Option HarborMsgQueue}
    (slave : h'.s id = { h.s id with queue := queue })
    (others : ∀ other, other ≠ id → h'.s other = h.s other) :
    OnlyQueues h h' := by
  intro other
  by_cases same : other = id
  · subst same
    exact ⟨queue, slave⟩
  · exact ⟨(h.s other).queue, others other same⟩

/-- Releasing what waits for a name changes only queues. -/
theorem Releases.onlyQueues
    {handle : UInt32}
    {messages : List HarborMsg}
    (releases : Releases h handle messages calls h') :
    OnlyQueues h h' := by
  cases releases with
  | dropped _ _ slaves =>
      exact .of_same slaves
  | delivered _ _ _ others slave =>
      exact .of_one slave others
  | queued _ _ _ others queue slave _ _ =>
      exact .of_one slave others
  | sent _ _ slaves =>
      exact .of_same slaves

/-- `remote_send_handle` changes only queues. -/
theorem remoteSendHandle_onlyQueues
    (h : HarborService)
    (source destination type : UInt32)
    (session : Int)
    (msg : List UInt8)
    (sz : Nat) :
    OnlyQueues h
      (h.remoteSendHandle source destination type session msg sz).2.1 := by
  unfold remoteSendHandle
  dsimp only
  split
  · exact .of_same rfl
  · split
    · split
      · exact .of_same rfl
      · exact
          .of_one (modify_s_self _)
            (fun _ different => modify_s_of_ne different _)
    · exact .of_same rfl

/-- `remote_send_name` changes only queues. -/
theorem remoteSendName_onlyQueues
    (h : HarborService)
    (source : UInt32)
    (name : List UInt8)
    (type : UInt32)
    (session : Int)
    (msg : List UInt8)
    (sz : Nat) :
    OnlyQueues h (h.remoteSendName source name type session msg sz).2.1 := by
  unfold remoteSendName
  dsimp only
  split
  · exact .of_same rfl
  · exact remoteSendHandle_onlyQueues _ source _ type session msg sz

/-- `update_name` returns, and changes only queues. -/
theorem updateName_returns
    (wellFormed : h.WellFormed)
    (name : List UInt8)
    (handle : UInt32) :
    ∃ h' calls,
      h.updateName name handle = .ok (h', calls) ∧ OnlyQueues h h' := by
  obtain ⟨h', calls, done, _, released⟩ :=
    updateName_releases wellFormed name handle
  refine ⟨h', calls, done, ?_⟩
  split at released
  · exact .of_same released.2
  · exact released.onlyQueues

end Queues

section Mainloop

/-- The commands `S` and `A` return, and leave every parser as it is. -/
theorem connectCommand_returns
    (wellFormed : h.WellFormed)
    (accepted : Bool)
    (name stack : List UInt8) :
    ∃ h' calls,
      h.connectCommand accepted name stack = .ok (h', calls) ∧
        ∀ id, (h.s id).SameParser (h'.s id) := by
  unfold connectCommand
  generalize scanInts (cString name) = scanned
  obtain ⟨fd, number⟩ := scanned
  dsimp only
  split
  · exact ⟨h, [], rfl, fun _ => .refl _⟩
  next valid =>
  split
  · exact ⟨h, [], rfl, fun _ => .refl _⟩
  next unconnected =>
  have fresh : fd ≠ 0 := fun isZero => valid (Or.inl isZero)
  have slave := wellFormed.slaves number.toNat
  have outside : (h.s number.toNat).status ≠ .content := by
    rcases slave.connected.mp (not_not.mp unconnected) with isWait | isDown
    · simp [isWait]
    · simp [isDown]
  have opened :
      (h.modify number.toNat fun s => { s with fd := fd }).s number.toNat =
        { h.s number.toNat with fd := fd } :=
    modify_s_self _
  have keeps (change : Slave → Slave)
      (changed :
        (h.s number.toNat).SameParser
          (change { h.s number.toNat with fd := fd }))
      (id : Nat) :
      (h.s id).SameParser
        (((h.modify number.toNat fun s => { s with fd := fd }).modify
          number.toNat change).s id) := by
    by_cases same : id = number.toNat
    · subst same
      rw [modify_s_self, opened]
      exact changed
    · rw [modify_s_of_ne same, modify_s_of_ne same]
      exact .refl _
  cases accepted with
  | false =>
      refine ⟨_, _, rfl, keeps _ ?_⟩
      exact ⟨Or.inr ⟨outside, by simp⟩, rfl, rfl, rfl, rfl⟩
  | true =>
      simp only [↓reduceIte]
      rw [dispatchQueue_ready (by rw [opened]; exact fresh)
        (by rw [opened]; exact slave.queue)]
      refine ⟨_, _, rfl, keeps _ ?_⟩
      exact ⟨Or.inr ⟨outside, by simp⟩, rfl, rfl, rfl, rfl⟩

/-- A command that connects a slave, of one byte. -/
def IsTruncated (msg : List UInt8) : Prop :=
  (msg.headD 0 = 83 ∨ msg.headD 0 = 65) ∧ msg.length < 2

/-- `harbor_command` leaves every parser, or copies `(size_t)-1` bytes. -/
theorem harborCommand_returns
    (wellFormed : h.WellFormed)
    (msg : List UInt8)
    (source : UInt32)
    (stack : List UInt8) :
    (∃ h' calls,
        h.harborCommand msg source stack = .ok (h', calls) ∧
          ∀ id, (h.s id).SameParser (h'.s id)) ∨
      IsTruncated msg ∧
        h.harborCommand msg source stack = .error .nullPointer := by
  unfold harborCommand
  dsimp only
  split
  · split
    · exact Or.inl ⟨h, [], rfl, fun _ => .refl _⟩
    · obtain ⟨h', calls, done, only⟩ := updateName_returns wellFormed _ source
      exact Or.inl ⟨h', calls, done, only.sameParser⟩
  · next isStart =>
      split
      · exact Or.inr ⟨⟨Or.inl isStart, by omega⟩, rfl⟩
      · exact Or.inl (connectCommand_returns wellFormed false _ stack)
  · next isAccept =>
      split
      · exact Or.inr ⟨⟨Or.inr isAccept, by omega⟩, rfl⟩
      · exact Or.inl (connectCommand_returns wellFormed true _ stack)
  · exact Or.inl ⟨h, [], rfl, fun _ => .refl _⟩

/--
`mainloop` receives data, leaves every parser as it is, or gets a command of
one byte.
-/
theorem mainloop_returns
    (sound : h.Sound)
    (msg : HarborMessage)
    (session : Int)
    (source : UInt32)
    (unknown : HarborUnknown) :
    (∃ h' calls,
        h.mainloop msg session source unknown = .ok (h', calls) ∧
          ((∃ message,
              msg = .socket message ∧ message.type = 1 ∧
                h.pushSocketData message unknown = .ok (h', calls)) ∨
            ∀ id, (h.s id).SameParser (h'.s id))) ∨
      (∃ command, msg = .harbor command ∧ IsTruncated command) ∧
        h.mainloop msg session source unknown = .error .nullPointer := by
  cases msg with
  | socket message =>
      left
      unfold mainloop
      dsimp only
      split
      · next isData =>
          obtain ⟨h', calls, done, _⟩ :=
            pushSocketData_sound sound isData unknown
          exact ⟨h', calls, done, Or.inl ⟨message, rfl, isData, done⟩⟩
      · split
        · split
          · exact ⟨h, _, rfl, Or.inr fun _ => .refl _⟩
          · exact ⟨h, _, rfl, Or.inr fun _ => .refl _⟩
        · exact ⟨h, [], rfl, Or.inr fun _ => .refl _⟩
  | harbor command =>
      refine
        (harborCommand_returns sound.wellFormed command source
          unknown.stack).imp ?_ ?_
      · rintro ⟨h', calls, done, same⟩
        exact ⟨h', calls, done, Or.inr same⟩
      · rintro ⟨truncated, failed⟩
        exact ⟨⟨command, rfl, truncated⟩, failed⟩
  | system rmsg =>
      left
      by_cases isName : rmsg.destination.handle = 0
      · have only :=
          remoteSendName_onlyQueues h source rmsg.destination.name
            (UInt32.ofInt rmsg.type) session (rmsg.message.getD [])
            rmsg.sz.toNat
        exact ⟨_, _, if_pos isName, Or.inr only.sameParser⟩
      · have only :=
          remoteSendHandle_onlyQueues h source rmsg.destination.handle
            (UInt32.ofInt rmsg.type) session (rmsg.message.getD [])
            rmsg.sz.toNat
        exact ⟨_, _, if_neg isName, Or.inr only.sameParser⟩
  | other type =>
      left
      unfold mainloop
      dsimp only
      split
      · exact ⟨h, _, rfl, Or.inr fun _ => .refl _⟩
      · exact ⟨h, [], rfl, Or.inr fun _ => .refl _⟩

/-- `mainloop` keeps the slaves sound. -/
theorem mainloop_sound
    (sound : h.Sound)
    {msg : HarborMessage}
    {session : Int}
    {source : UInt32}
    {unknown : HarborUnknown}
    (done : h.mainloop msg session source unknown = .ok (h', calls)) :
    h'.Sound := by
  refine ⟨(mainloop_meets sound.wellFormed done).wellFormed sound.wellFormed, ?_⟩
  rcases mainloop_returns sound msg session source unknown with
    ⟨last, made, returned, received | same⟩ | ⟨_, failed⟩
  · rw [done] at returned
    cases returned
    obtain ⟨message, _, isData, pushed⟩ := received
    obtain ⟨last, made, alsoPushed, stillSound⟩ :=
      pushSocketData_sound sound isData unknown
    rw [pushed] at alsoPushed
    cases alsoPushed
    exact stillSound.counted
  · rw [done] at returned
    cases returned
    exact fun id => (same id).counted (sound.counted id)
  · rw [done] at failed
    cases failed

end Mainloop

section Runs

/-- One step of `mainloop`. -/
def next?
    (h : HarborService)
    (input : HarborInput) : Option HarborService :=
  ((h.mainloop input.msg input.session input.source input.unknown).toOption).map
    Prod.fst

/-- A step is one of `mainloop`. -/
theorem next?_eq_some_iff
    {input : HarborInput} :
    h.next? input = some h' ↔
      ∃ calls,
        h.mainloop input.msg input.session input.source input.unknown =
          .ok (h', calls) := by
  unfold next?
  cases h.mainloop input.msg input.session input.source input.unknown with
  | error fault =>
      simp [Except.toOption]
  | ok result =>
      obtain ⟨last, made⟩ := result
      simp [Except.toOption]

/-- A step of `mainloop` keeps the slaves sound. -/
theorem sound_next
    {input : HarborInput}
    (sound : h.Sound)
    (taken : Run.Steps next? h input h') :
    h'.Sound := by
  obtain ⟨calls, done⟩ := next?_eq_some_iff.mp taken
  exact mainloop_sound sound done

/-- A service that was initialised is sound. -/
theorem harborInit_sound
    {harbor_id : Int}
    {slave : UInt32}
    (initialised : harborInit harbor_id slave = some h) :
    h.Sound := by
  obtain ⟨slaves, names⟩ := HarborRun.harborInit_spec initialised
  obtain ⟨counted, _⟩ :=
    HarborRun.harborInit_slaves
      (fun s => s.status ≠ .content ∧ s.Counted)
      ⟨by decide, ⟨fun _ => by decide, fun impossible => by cases impossible⟩⟩
      (fun s holds =>
        ⟨by simp,
          Slave.SameParser.counted
            ⟨Or.inr ⟨holds.1, by simp⟩, rfl, rfl, rfl, rfl⟩ holds.2⟩)
      initialised
  refine ⟨⟨fun id => (slaves id).1, ?_⟩, fun id => (counted id).2⟩
  intro name queue queued
  rw [names name] at queued
  cases queued

/--
Whatever the harbor service gets, the fields of its slaves agree with their
status, and `dispatch_queue` finds a descriptor.
-/
theorem consistent_visited
    {harbor_id : Int}
    {slave : UInt32}
    {start final : HarborService}
    {past : List (HarborService × HarborInput)}
    (initialised : harborInit harbor_id slave = some start)
    (run : Run (Run.Steps next?) start past final) :
    ∀ h ∈ Run.visited past final,
      (∀ id, (h.s id).Consistent) ∧
        ∀ msg session source unknown,
          h.mainloop msg session source unknown ≠
            .error (.assertion "fd != 0") := by
  intro h member
  have sound : h.Sound :=
    Run.invariant_of_step run (harborInit_sound initialised) sound_next h member
  refine ⟨fun id => (sound.wellFormed.slaves id).consistent (sound.counted id),
    ?_⟩
  intro msg session source unknown
  rcases mainloop_returns sound msg session source unknown with
    ⟨last, calls, done, _⟩ | ⟨_, failed⟩
  · simp [done]
  · simp [failed]

/-- `A 5 2`, and the header of a message of 16 bytes. -/
def acceptThenHeader : List HarborInput :=
  [HarborRun.inputOf (.harbor [65, 32, 53, 32, 50]) 0x1000001,
    HarborRun.inputOf
      (.socket { type := 1, id := 5, ud := 5, buffer := [0, 0, 0, 16, 7] }) 0]

/-- A slave in the middle of a body, and everything before, is consistent. -/
theorem acceptThenHeader_consistent :
    ∃ past final,
      Run (Run.Steps next?) HarborRun.harborOne past final ∧
        (final.s 2).status = .content ∧
        ∀ h ∈ Run.visited past final,
          (∀ id, (h.s id).Consistent) ∧
            ∀ msg session source unknown,
              h.mainloop msg session source unknown ≠
                .error (.assertion "fd != 0") := by
  obtain ⟨past, final, run, isContent⟩ :=
    Run.exists_of_replay HarborRun.harborOne next? acceptThenHeader
      (fun h => (h.s 2).status = .content)
      (by decide +kernel)
  have initialised :
      harborInit 1 0x1000001 = some HarborRun.harborOne := rfl
  exact
    ⟨past, final, run, of_decide_eq_true isContent,
      consistent_visited initialised run⟩

end Runs

end HarborService

end SkynetCpp
