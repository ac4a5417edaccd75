import SkynetCpp.Foundation.Framing
import SkynetCpp.Gate

namespace SkynetCpp

open Foundation

/-!
# Frames through the gate

A connection's data buffer always holds the incomplete rest of its stream,
with the header of the unfinished frame already taken out when it is whole.
`dispatch_message` therefore finds, over any cut into chunks, exactly the
frames of the stream.
-/

/-- The two header sizes of a gate. -/
def IsHeaderSize (headerSize : Nat) : Prop :=
  headerSize = 2 ∨ headerSize = 4

/-- The frames of a gate with this header size. -/
def gateFraming
    (headerSize : Nat)
    (isHeaderSize : IsHeaderSize headerSize) : Framing UInt8 where
  headerSize := headerSize
  bodyLength := fun plen => (headerLength headerSize plen).toNat
  positive := by
    rcases isHeaderSize with isTwo | isFour <;> omega

/-- The message that a frame's body is sent in, to the broker or the agent. -/
def Gate.forwarded
    (gate : Gate)
    (c : Nat)
    (body : List UInt8) : ServiceCall :=
  let type := gate.client_tag ||| kPtypeTagDontcopy
  let connection := gate.conn c
  if gate.broker ≠ 0 then
    .serviceSend 0 gate.broker type connection.id (some body)
      (UInt64.ofInt body.length)
  else
    .serviceSend connection.client connection.agent type connection.id
      (some body) (UInt64.ofInt body.length)

/-- The connection has a broker or an agent. -/
def Gate.HasReceiver
    (gate : Gate)
    (c : Nat) : Prop :=
  gate.broker ≠ 0 ∨ (gate.conn c).agent ≠ 0

/-- The buffer holds the bytes that are left of an incomplete rest. -/
def Held
    (headerSize : Nat)
    (header : Int)
    (bytes rest : List UInt8) : Prop :=
  if rest.length < headerSize then
    header = 0 ∧ bytes = rest
  else
    header = headerLength headerSize (rest.take headerSize) ∧
      bytes = rest.drop headerSize

/-- The buffer holds a stream, with or without its first header. -/
def Pending
    (headerSize : Nat)
    (header : Int)
    (bytes stream : List UInt8) : Prop :=
  (header = 0 ∧ bytes = stream) ∨
    (header ≠ 0 ∧ headerSize ≤ stream.length ∧
      header = headerLength headerSize (stream.take headerSize) ∧
      bytes = stream.drop headerSize)

section Buffer

variable
    (gate : Gate)
    (c : Nat)
    (db : Databuffer)
    (mp : Messagepool)

@[simp] theorem Gate.setBuffer_bufs :
    (gate.setBuffer c db mp).bufs = Function.update gate.bufs c db := by
  funext k
  by_cases same : k = c
  · subst same
    simp [Gate.bufs, Gate.setBuffer, Gate.modify]
  · simp [Gate.bufs, Gate.setBuffer, Gate.modify, same]

@[simp] theorem Gate.setBuffer_mp :
    (gate.setBuffer c db mp).mp = mp :=
  rfl

@[simp] theorem Gate.setBuffer_header_size :
    (gate.setBuffer c db mp).header_size = gate.header_size :=
  rfl

@[simp] theorem Gate.setBuffer_buffer :
    ((gate.setBuffer c db mp).conn c).buffer = db := by
  simp [Gate.setBuffer, Gate.modify]

@[simp] theorem Gate.setBuffer_id
    (k : Nat) :
    ((gate.setBuffer c db mp).conn k).id = (gate.conn k).id := by
  by_cases same : k = c
  · subst same
    simp [Gate.setBuffer, Gate.modify]
  · simp [Gate.setBuffer, Gate.modify, same]

@[simp] theorem Gate.setBuffer_agent
    (k : Nat) :
    ((gate.setBuffer c db mp).conn k).agent = (gate.conn k).agent := by
  by_cases same : k = c
  · subst same
    simp [Gate.setBuffer, Gate.modify]
  · simp [Gate.setBuffer, Gate.modify, same]

@[simp] theorem Gate.setBuffer_client
    (k : Nat) :
    ((gate.setBuffer c db mp).conn k).client = (gate.conn k).client := by
  by_cases same : k = c
  · subst same
    simp [Gate.setBuffer, Gate.modify]
  · simp [Gate.setBuffer, Gate.modify, same]

@[simp] theorem Gate.setBuffer_setBuffer
    (db' : Databuffer)
    (mp' : Messagepool) :
    (gate.setBuffer c db mp).setBuffer c db' mp' = gate.setBuffer c db' mp' := by
  simp [Gate.setBuffer, Gate.modify]

/-- Writing back what is there changes nothing. -/
@[simp] theorem Gate.setBuffer_self :
    gate.setBuffer c (gate.conn c).buffer gate.mp = gate := by
  simp [Gate.setBuffer, Gate.modify]

@[simp] theorem Gate.setBuffer_forwarded :
    (gate.setBuffer c db mp).forwarded c = gate.forwarded c := by
  funext body
  simp only [Gate.forwarded, setBuffer_id, setBuffer_agent, setBuffer_client]
  rfl

@[simp] theorem Gate.setBuffer_hasReceiver :
    (gate.setBuffer c db mp).HasReceiver c ↔ gate.HasReceiver c := by
  simp only [Gate.HasReceiver, setBuffer_agent]
  rfl

end Buffer

section Operations

variable
    {mp : Messagepool}
    {bufs : Nat → Databuffer}
    {contents : Nat → List UInt8}
    {c headerSize : Nat}

/-- An incomplete rest with its next chunk is what the buffer has pending. -/
theorem Held.pending
    (isHeaderSize : IsHeaderSize headerSize)
    {header : Int}
    {bytes rest : List UInt8}
    (held : Held headerSize header bytes rest)
    (incomplete : (gateFraming headerSize isHeaderSize).Incomplete rest)
    (chunk : List UInt8) :
    Pending headerSize header (bytes ++ chunk) (rest ++ chunk) := by
  unfold Held at held
  split at held
  · next short =>
      exact Or.inl ⟨held.1, by rw [held.2]⟩
  · next long =>
      have atLeast : headerSize ≤ rest.length := Nat.le_of_not_lt long
      have announced := incomplete atLeast
      simp only [gateFraming] at announced
      refine Or.inr ⟨?_, ?_, ?_, ?_⟩
      · rw [held.1]
        omega
      · rw [List.length_append]
        omega
      · rw [List.take_append_of_le_length atLeast, held.1]
      · rw [List.drop_append_of_le_length atLeast, held.2]

/-- `databuffer_readheader` on a stream without a whole header. -/
theorem databufferReadheader_short
    (buffers : Buffers mp bufs contents)
    {stream : List UInt8}
    (pending : Pending headerSize (bufs c).header (contents c) stream)
    (short : stream.length < headerSize) :
    databufferReadheader (bufs c) mp headerSize = .ok (-1, bufs c, mp) ∧
      (bufs c).header = 0 ∧ contents c = stream := by
  rcases pending with ⟨isZero, isStream⟩ | ⟨_, long, _⟩
  · have isShort : (bufs c).size < headerSize := by
      rw [buffers.size c, isStream]
      exact_mod_cast short
    refine ⟨?_, isZero, isStream⟩
    simp only [databufferReadheader, if_pos isZero, if_pos isShort]
  · omega

/-- `databuffer_readheader` on a stream with a whole header. -/
theorem databufferReadheader_spec
    (isHeaderSize : IsHeaderSize headerSize)
    (buffers : Buffers mp bufs contents)
    {stream : List UInt8}
    (pending : Pending headerSize (bufs c).header (contents c) stream)
    (long : headerSize ≤ stream.length) :
    let header := headerLength headerSize (stream.take headerSize)
    let bytes := stream.drop headerSize
    ∃ db mp',
      databufferReadheader (bufs c) mp headerSize =
          .ok (if (bytes.length : Int) < header then -1 else header, db, mp') ∧
        Buffers mp' (Function.update bufs c db)
          (Function.update contents c bytes) ∧
        db.header = header := by
  intro header bytes
  rcases pending with ⟨isZero, isStream⟩ | ⟨notZero, _, isHeader, isBytes⟩
  · have positive : 0 < headerSize := by
      rcases isHeaderSize with isTwo | isFour <;> omega
    have notShort : ¬ (bufs c).size < headerSize := by
      rw [buffers.size c, isStream]
      exact_mod_cast Nat.not_lt.mpr long
    rw [← isStream] at long
    obtain ⟨db, mp', isRead, buffers', sameHeader⟩ :=
      databufferRead_spec buffers positive long
    have written := buffers'.setHeader c header
    rw [isStream, Function.update_self, Function.update_idem] at written
    have isSize : db.size = bytes.length := by
      simpa [isStream, bytes] using buffers'.size c
    refine ⟨{ db with header := header }, mp', ?_, written, rfl⟩
    simp only [databufferReadheader, if_pos isZero, if_neg notShort, isRead,
      isStream]
    change Except.ok (if db.size < header then _ else _) = _
    rw [isSize]
    split <;> rfl
  · have isContents : contents c = bytes := isBytes
    have isAnnounced : (bufs c).header = header := isHeader
    have same : Function.update contents c bytes = contents := by
      rw [← isContents]
      exact Function.update_eq_self c contents
    refine ⟨bufs c, mp, ?_, by rw [same]; simpa using buffers, isHeader⟩
    simp only [databufferReadheader, if_neg notZero]
    rw [buffers.size c, isContents, isAnnounced]
    split <;> rfl

variable {gate : Gate}

/-- `_forward` reads the body and sends it, when there is a receiver. -/
theorem Gate.forward_spec
    (buffers : Buffers gate.mp gate.bufs contents)
    (isOpen : 0 < (gate.conn c).id)
    (receiver : gate.HasReceiver c)
    {size : Nat}
    (positive : 0 < size)
    (enough : size ≤ (contents c).length) :
    ∃ db mp,
      gate.forward c size =
          .ok (gate.setBuffer c db mp,
            [gate.forwarded c ((contents c).take size)]) ∧
        Buffers mp (Function.update gate.bufs c db)
          (Function.update contents c ((contents c).drop size)) := by
  obtain ⟨db, mp, isRead, buffers', _⟩ :=
    databufferRead_spec buffers positive enough
  have isBuffer : (gate.conn c).buffer = gate.bufs c := rfl
  have taken : ((contents c).take size).length = size :=
    List.length_take_of_le enough
  refine ⟨db, mp, ?_, buffers'⟩
  simp only [Gate.forward, Gate.forwarded, if_neg (not_le.mpr isOpen),
    isBuffer, isRead, taken]
  rcases receiver with hasBroker | hasAgent
  · rw [if_pos hasBroker, if_pos hasBroker]
    rfl
  · by_cases hasBroker : gate.broker ≠ 0
    · rw [if_pos hasBroker, if_pos hasBroker]
      rfl
    · rw [if_neg hasBroker, if_neg hasBroker, if_pos hasAgent]
      rfl

/-- `_forward` reads the body and sends it as a text to the watchdog. -/
theorem Gate.forward_watchdog
    (buffers : Buffers gate.mp gate.bufs contents)
    (isOpen : 0 < (gate.conn c).id)
    (noReceiver : ¬ gate.HasReceiver c)
    (hasWatchdog : gate.watchdog ≠ 0)
    {size : Nat}
    (positive : 0 < size)
    (enough : size ≤ (contents c).length) :
    ∃ db mp calls,
      gate.forward c size = .ok (gate.setBuffer c db mp, calls) ∧
        Buffers mp (Function.update gate.bufs c db)
          (Function.update contents c ((contents c).drop size)) := by
  simp only [Gate.HasReceiver, not_or] at noReceiver
  obtain ⟨noBroker, noAgent⟩ := noReceiver
  obtain ⟨db, mp, isRead, buffers', _⟩ :=
    databufferRead_spec buffers positive enough
  have isBuffer : (gate.conn c).buffer = gate.bufs c := rfl
  have isSent :
      gate.forward c size =
        .ok (gate.setBuffer c db mp,
          [.serviceSend 0 gate.watchdog
            (kPtypeText ||| kPtypeTagDontcopy) (gate.conn c).id
            (some (watchdogText (gate.conn c).id ++ (contents c).take size))
            (UInt64.ofInt
              (size + (watchdogText (gate.conn c).id).length))]) := by
    simp only [Gate.forward, if_neg (not_le.mpr isOpen),
      if_neg noBroker, if_neg noAgent, if_pos hasWatchdog, isBuffer, isRead]
    rfl
  exact ⟨db, mp, _, isSent, buffers'⟩

/-- `_forward` leaves the body where it is when there is nobody to send to. -/
theorem Gate.forward_nobody
    (noReceiver : ¬ gate.HasReceiver c)
    (noWatchdog : ¬ gate.watchdog ≠ 0)
    (size : Int) :
    gate.forward c size = .ok (gate, []) := by
  simp only [Gate.HasReceiver, not_or] at noReceiver
  simp only [Gate.forward, if_neg noReceiver.1, if_neg noReceiver.2,
    if_neg noWatchdog, ite_self]

/-- `_forward` returns, with or without a receiver. -/
theorem Gate.forward_returns
    (buffers : Buffers gate.mp gate.bufs contents)
    {size : Nat}
    (positive : 0 < size)
    (enough : size ≤ (contents c).length) :
    ∃ db mp calls bytes,
      gate.forward c size = .ok (gate.setBuffer c db mp, calls) ∧
        Buffers mp (Function.update gate.bufs c db)
          (Function.update contents c bytes) ∧
        bytes.length ≤ (contents c).length := by
  have unread (isKept : gate.forward c size = .ok (gate, [])) :
      ∃ db mp calls bytes,
        gate.forward c size = .ok (gate.setBuffer c db mp, calls) ∧
          Buffers mp (Function.update gate.bufs c db)
            (Function.update contents c bytes) ∧
          bytes.length ≤ (contents c).length := by
    refine
      ⟨gate.bufs c, gate.mp, [], contents c, ?_, by simpa using buffers,
        le_refl _⟩
    rw [isKept, Gate.bufs, Gate.setBuffer_self]
  by_cases isOpen : 0 < (gate.conn c).id
  · by_cases receiver : gate.HasReceiver c
    · obtain ⟨db, mp, isSent, buffers'⟩ :=
        Gate.forward_spec buffers isOpen receiver positive enough
      exact ⟨db, mp, _, _, isSent, buffers', by simp⟩
    · by_cases hasWatchdog : gate.watchdog ≠ 0
      · obtain ⟨db, mp, calls, isSent, buffers'⟩ :=
          Gate.forward_watchdog buffers isOpen receiver hasWatchdog positive
            enough
        exact ⟨db, mp, calls, _, isSent, buffers', by simp⟩
      · exact unread (Gate.forward_nobody receiver hasWatchdog size)
  · apply unread
    simp only [Gate.forward, if_pos (not_lt.mp isOpen)]

/-- The bodies that frames carry, without the empty ones. -/
def bodies
    {framing : Framing UInt8}
    (frames : List (WireFrame framing)) : List (List UInt8) :=
  (frames.map WireFrame.body).filter fun body => body ≠ []

/-- The header of a frame announces its body, of less than 2^24 bytes. -/
def Announced
    {isHeaderSize : IsHeaderSize headerSize}
    (frame : WireFrame (gateFraming headerSize isHeaderSize)) : Prop :=
  headerLength headerSize frame.header = frame.body.length ∧
    frame.body.length < 0x1000000

section Rounds

variable
    {db db' : Databuffer}
    {mp mp' : Messagepool}
    {size : Int}
    {id : Int}
    {fuel : Nat}
    (isRead :
      databufferReadheader (gate.bufs c) gate.mp gate.header_size =
        .ok (size, db, mp))

include isRead

/-- A round that waits for more bytes. -/
theorem Gate.dispatchMessageLoop_wait
    (isNegative : size < 0) :
    Gate.dispatchMessageLoop c id (fuel + 1) gate =
      .ok (gate.setBuffer c db mp, []) := by
  have isBuffer : (gate.conn c).buffer = gate.bufs c := rfl
  simp only [Gate.dispatchMessageLoop, isBuffer, isRead, bind, Except.bind,
    if_pos isNegative]

/-- A round that skips a frame without a body. -/
theorem Gate.dispatchMessageLoop_skip
    (isZero : size = 0) :
    Gate.dispatchMessageLoop c id (fuel + 1) gate =
      Gate.dispatchMessageLoop c id fuel (gate.setBuffer c db mp) := by
  have isBuffer : (gate.conn c).buffer = gate.bufs c := rfl
  have notNegative : ¬ size < 0 := by omega
  have notPositive : ¬ size > 0 := by omega
  simp only [Gate.dispatchMessageLoop, isBuffer, isRead, bind, Except.bind,
    if_neg notNegative, if_neg notPositive]

/-- A round that refuses a frame of 16M and more. -/
theorem Gate.dispatchMessageLoop_refuse
    (isLong : size ≥ 0x1000000)
    (cleared : databufferClear db mp = .ok (db', mp')) :
    Gate.dispatchMessageLoop c id (fuel + 1) gate =
      .ok (gate.setBuffer c db' mp',
        [.socketClose id, .skynetError "Recv socket message > 16M"]) := by
  have isBuffer : ∀ other : Gate, (other.conn c).buffer = other.bufs c :=
    fun _ => rfl
  have notNegative : ¬ size < 0 := by omega
  have isPositive : size > 0 := by omega
  simp only [Gate.dispatchMessageLoop, isBuffer, isRead, bind, Except.bind,
    if_neg notNegative, if_pos isPositive, if_pos isLong,
    Gate.setBuffer_bufs, Function.update_self, Gate.setBuffer_mp, cleared,
    Gate.setBuffer_setBuffer]

/-- A round that hands a frame to `_forward`. -/
theorem Gate.dispatchMessageLoop_forward
    (isPositive : size > 0)
    (isShort : size < 0x1000000)
    {calls : List ServiceCall}
    (sent :
      (gate.setBuffer c db mp).forward c size =
        .ok (gate.setBuffer c db' mp', calls)) :
    Gate.dispatchMessageLoop c id (fuel + 1) gate =
      match Gate.dispatchMessageLoop c id fuel
          (gate.setBuffer c { db' with header := 0 } mp') with
      | .ok (next, more) => .ok (next, calls ++ more)
      | .error fault => .error fault := by
  have isBuffer : ∀ other : Gate, (other.conn c).buffer = other.bufs c :=
    fun _ => rfl
  have notNegative : ¬ size < 0 := by omega
  have notLong : ¬ size ≥ 0x1000000 := by omega
  simp only [Gate.dispatchMessageLoop, isBuffer, isRead, bind, Except.bind,
    if_neg notNegative, if_pos isPositive, if_neg notLong, sent,
    Gate.setBuffer_bufs, Function.update_self, Gate.setBuffer_mp,
    Gate.setBuffer_setBuffer, databufferReset]
  split <;> simp_all

end Rounds

/-- The loop of `dispatch_message` sends the bodies of the whole frames. -/
theorem Gate.dispatchMessageLoop_spec
    (isHeaderSize : IsHeaderSize headerSize)
    {stream rest : List UInt8}
    {frames : List (WireFrame (gateFraming headerSize isHeaderSize))}
    (splits :
      (gateFraming headerSize isHeaderSize).Splits stream frames rest)
    (announced : ∀ frame ∈ frames, Announced frame)
    (isGateSize : gate.header_size = headerSize)
    (isOpen : 0 < (gate.conn c).id)
    (receiver : gate.HasReceiver c)
    (buffers : Buffers gate.mp gate.bufs contents)
    (pending : Pending headerSize (gate.bufs c).header (contents c) stream)
    {fuel : Nat}
    (fueled : frames.length < fuel)
    (id : Int) :
    ∃ db mp bytes,
      Gate.dispatchMessageLoop c id fuel gate =
          .ok (gate.setBuffer c db mp,
            (bodies frames).map (gate.forwarded c)) ∧
        Buffers mp (Function.update gate.bufs c db)
          (Function.update contents c bytes) ∧
        Held headerSize db.header bytes rest := by
  induction frames generalizing gate contents stream fuel with
  | nil =>
      obtain ⟨fuel, rfl⟩ := Nat.exists_eq_succ_of_ne_zero (by omega : fuel ≠ 0)
      have isRest : stream = rest := splits.stream_eq
      subst isRest
      by_cases short : stream.length < headerSize
      · obtain ⟨isRead, isZero, isStream⟩ :=
          databufferReadheader_short buffers pending short
        refine
          ⟨gate.bufs c, gate.mp, contents c, ?_, by simpa using buffers, ?_⟩
        · rw [← isGateSize] at isRead
          exact Gate.dispatchMessageLoop_wait isRead (by decide)
        · rw [Held, if_pos short]
          exact ⟨isZero, isStream⟩
      · have long := Nat.le_of_not_lt short
        obtain ⟨db, mp, isRead, buffers', isHeader⟩ :=
          databufferReadheader_spec isHeaderSize buffers pending long
        have unfinished := splits.incomplete long
        simp only [gateFraming] at unfinished
        have isUnfinished :
            ((stream.drop headerSize).length : Int) <
              headerLength headerSize (stream.take headerSize) := by
          rw [List.length_drop]
          omega
        rw [if_pos isUnfinished] at isRead
        refine ⟨db, mp, stream.drop headerSize, ?_, buffers', ?_⟩
        · rw [← isGateSize] at isRead
          exact Gate.dispatchMessageLoop_wait isRead (by decide)
        · rw [Held, if_neg short]
          exact ⟨isHeader, rfl⟩
  | cons frame later inductionHypothesis =>
      obtain ⟨fuel, rfl⟩ := Nat.exists_eq_succ_of_ne_zero (by omega : fuel ≠ 0)
      obtain ⟨isLength, isSmall⟩ := announced frame (by simp)
      have laterAnnounced : ∀ frame ∈ later, Announced frame :=
        fun frame member => announced frame (by simp [member])
      have laterFueled : later.length < fuel := by
        simpa using fueled
      let behind := later.flatMap WireFrame.bytes ++ rest
      have laterSplits :
          (gateFraming headerSize isHeaderSize).Splits behind later rest :=
        ⟨rfl, splits.incomplete⟩
      have isStream : stream = frame.header ++ (frame.body ++ behind) := by
        rw [splits.stream_eq, List.flatMap_cons, WireFrame.bytes]
        simp [behind]
      have headerSized : frame.header.length = headerSize :=
        frame.header_length
      have long : headerSize ≤ stream.length := by
        rw [isStream, List.length_append]
        omega
      have isHeader : stream.take headerSize = frame.header := by
        rw [isStream, List.take_left' headerSized]
      have isBehind : stream.drop headerSize = frame.body ++ behind := by
        rw [isStream, List.drop_left' headerSized]
      obtain ⟨db, mp, isRead, buffers', headerWritten⟩ :=
        databufferReadheader_spec isHeaderSize buffers pending long
      have whole :
          ¬ ((frame.body ++ behind).length : Int) < frame.body.length := by
        rw [List.length_append]
        omega
      rw [isHeader, isLength] at headerWritten
      rw [isBehind] at buffers'
      rw [isHeader, isBehind, isLength, if_neg whole, ← isGateSize] at isRead
      let read := gate.setBuffer c db mp
      have readBuffers :
          Buffers read.mp read.bufs
            (Function.update contents c (frame.body ++ behind)) := by
        simpa [read] using buffers'
      by_cases isEmpty : frame.body = []
      · -- A frame without a body leaves the header field zero.
        have isZero : (read.bufs c).header = 0 := by
          simp [read, headerWritten, isEmpty]
        have nextPending :
            Pending headerSize (read.bufs c).header
              (Function.update contents c (frame.body ++ behind) c) behind :=
          Or.inl ⟨isZero, by simp [isEmpty]⟩
        obtain ⟨last, mpLast, bytes, isDone, buffersLast, held⟩ :=
          inductionHypothesis laterSplits laterAnnounced
            (by simpa [read] using isGateSize) (by simpa [read] using isOpen)
            (by simpa [read] using receiver) readBuffers nextPending
            laterFueled
        refine ⟨last, mpLast, bytes, ?_, by simpa [read] using buffersLast,
          held⟩
        have isSkipped : bodies (frame :: later) = bodies later := by
          simp [bodies, isEmpty]
        rw [Gate.dispatchMessageLoop_skip isRead (by simp [isEmpty])]
        simpa [read, isSkipped] using isDone
      · have positive : 0 < frame.body.length :=
          List.length_pos_iff.mpr isEmpty
        have isOpenRead : 0 < (read.conn c).id := by
          simpa [read] using isOpen
        have receiverRead : read.HasReceiver c := by
          simpa [read] using receiver
        obtain ⟨db', mp', isSent, buffersSent⟩ :=
          Gate.forward_spec readBuffers isOpenRead receiverRead positive
            (by simp)
        have reset := buffersSent.setHeader c 0
        let sent := gate.setBuffer c { db' with header := 0 } mp'
        have sentBuffers :
            Buffers sent.mp sent.bufs
              (Function.update contents c behind) := by
          simpa [sent, read] using reset
        have nextPending :
            Pending headerSize (sent.bufs c).header
              (Function.update contents c behind c) behind :=
          Or.inl ⟨by simp [sent], by simp⟩
        obtain ⟨last, mpLast, bytes, isDone, buffersLast, held⟩ :=
          inductionHypothesis laterSplits laterAnnounced
            (by simpa [sent] using isGateSize) (by simpa [sent] using isOpen)
            (by simpa [sent] using receiver) sentBuffers nextPending
            laterFueled
        refine ⟨last, mpLast, bytes, ?_, by simpa [sent] using buffersLast,
          held⟩
        have isFirst :
            bodies (frame :: later) = frame.body :: bodies later := by
          simp [bodies, isEmpty]
        have isBody :
            ((frame.body ++ behind).take frame.body.length) = frame.body :=
          List.take_left
        simp only [Function.update_self, isBody, read,
          Gate.setBuffer_setBuffer, Gate.setBuffer_forwarded] at isSent
        rw [Gate.dispatchMessageLoop_forward isRead (by omega) (by omega)
          isSent]
        simp only [sent, Gate.setBuffer_setBuffer] at isDone
        rw [isDone, isFirst]
        simp

/-- `databuffer_readheader` returns, whatever the buffer holds. -/
theorem databufferReadheader_returns
    (isHeaderSize : IsHeaderSize headerSize)
    (buffers : Buffers mp bufs contents)
    (c : Nat) :
    ∃ size db mp' bytes,
      databufferReadheader (bufs c) mp headerSize = .ok (size, db, mp') ∧
        Buffers mp' (Function.update bufs c db)
          (Function.update contents c bytes) ∧
        (0 ≤ size → size = db.header ∧ size ≤ bytes.length ∧
          if (bufs c).header = 0 then
            bytes.length < (contents c).length
          else
            db.header ≠ 0 ∧ bytes = contents c) := by
  have positive : 0 < headerSize := by
    rcases isHeaderSize with isTwo | isFour <;> omega
  by_cases isZero : (bufs c).header = 0
  · have pending :
        Pending headerSize (bufs c).header (contents c) (contents c) :=
      Or.inl ⟨isZero, rfl⟩
    by_cases short : (contents c).length < headerSize
    · obtain ⟨isRead, _⟩ := databufferReadheader_short buffers pending short
      exact
        ⟨-1, bufs c, mp, contents c, isRead, by simpa using buffers,
          fun notNegative => by omega⟩
    · have long := Nat.le_of_not_lt short
      obtain ⟨db, mp', isRead, buffers', isHeader⟩ :=
        databufferReadheader_spec isHeaderSize buffers pending long
      refine ⟨_, db, mp', _, isRead, buffers', ?_⟩
      intro notNegative
      split at notNegative
      · omega
      · next whole =>
          rw [if_neg whole, if_pos isZero, isHeader]
          refine ⟨rfl, Int.not_lt.mp whole, ?_⟩
          rw [List.length_drop]
          omega
  · refine
      ⟨if (bufs c).size < (bufs c).header then -1 else (bufs c).header,
        bufs c, mp, contents c, ?_, by simpa using buffers, ?_⟩
    · simp only [databufferReadheader, if_neg isZero]
      split <;> rfl
    · intro notNegative
      split at notNegative
      · omega
      · next whole =>
          rw [if_neg whole, if_neg isZero]
          rw [buffers.size c] at whole
          exact ⟨rfl, Int.not_lt.mp whole, isZero, rfl⟩

/-- The loop of `dispatch_message` returns, whatever the buffer holds. -/
theorem Gate.dispatchMessageLoop_returns
    (isHeaderSize : IsHeaderSize headerSize)
    (isGateSize : gate.header_size = headerSize)
    (buffers : Buffers gate.mp gate.bufs contents)
    (c : Nat)
    (id : Int)
    {fuel : Nat}
    (fueled :
      (contents c).length + (if (gate.bufs c).header = 0 then 0 else 1) <
        fuel) :
    ∃ db mp calls bytes,
      Gate.dispatchMessageLoop c id fuel gate =
          .ok (gate.setBuffer c db mp, calls) ∧
        Buffers mp (Function.update gate.bufs c db)
          (Function.update contents c bytes) := by
  induction fuel generalizing gate contents with
  | zero =>
      omega
  | succ fuel inductionHypothesis =>
      obtain ⟨size, db, mp, bytes, isRead, readBuffers, isWhole⟩ :=
        databufferReadheader_returns isHeaderSize buffers c
      rw [← isGateSize] at isRead
      by_cases isNegative : size < 0
      · exact
          ⟨db, mp, [], bytes,
            Gate.dispatchMessageLoop_wait isRead isNegative, readBuffers⟩
      obtain ⟨isHeader, inside, shorter⟩ := isWhole (Int.not_lt.mp isNegative)
      have buffersRead :
          Buffers (gate.setBuffer c db mp).mp (gate.setBuffer c db mp).bufs
            (Function.update contents c bytes) := by
        simpa using readBuffers
      -- Every further round has less to read or no header to keep.
      have fueledNext :
          ∀ rest : List UInt8,
            rest.length ≤ bytes.length → rest.length < fuel := by
        intro rest notLonger
        split at shorter
        · next isZero =>
            rw [if_pos isZero] at fueled
            omega
        · next notZero =>
            rw [if_neg notZero] at fueled
            rw [shorter.2] at notLonger
            omega
      by_cases isZero : size = 0
      · have noHeader : db.header = 0 := isHeader.symm.trans isZero
        have fueled' :
            (Function.update contents c bytes c).length +
                (if ((gate.setBuffer c db mp).bufs c).header = 0 then 0
                  else 1) < fuel := by
          simpa [noHeader] using fueledNext bytes (le_refl _)
        obtain ⟨last, mpLast, calls, rest, isDone, buffersLast⟩ :=
          inductionHypothesis (by simpa using isGateSize) buffersRead fueled'
        refine ⟨last, mpLast, calls, rest, ?_, by simpa using buffersLast⟩
        rw [Gate.dispatchMessageLoop_skip isRead isZero, isDone]
        simp
      by_cases isLong : size ≥ 0x1000000
      · obtain ⟨mp', cleared, buffersCleared⟩ :=
          databufferClear_spec buffersRead c
        simp only [Gate.setBuffer_bufs, Function.update_self,
          Gate.setBuffer_mp] at cleared
        exact
          ⟨.zero, mp', _, [],
            Gate.dispatchMessageLoop_refuse isRead isLong cleared,
            by simpa using buffersCleared⟩
      · obtain ⟨count, rfl⟩ := Int.eq_ofNat_of_zero_le (Int.not_lt.mp isNegative)
        obtain ⟨db', mp', calls, rest, isSent, buffersSent, notLonger⟩ :=
          Gate.forward_returns buffersRead (by omega)
            (show count ≤ (Function.update contents c bytes c).length by
              simpa using inside)
        rw [Gate.setBuffer_setBuffer] at isSent
        have reset := buffersSent.setHeader c 0
        have resetBuffers :
            Buffers (gate.setBuffer c { db' with header := 0 } mp').mp
              (gate.setBuffer c { db' with header := 0 } mp').bufs
              (Function.update contents c rest) := by
          simpa using reset
        have fueled' :
            (Function.update contents c rest c).length +
                (if ((gate.setBuffer c { db' with header := 0 } mp').bufs
                  c).header = 0 then 0 else 1) < fuel := by
          simpa using fueledNext rest (by simpa using notLonger)
        obtain ⟨last, mpLast, more, final, isDone, buffersLast⟩ :=
          inductionHypothesis (by simpa using isGateSize) resetBuffers fueled'
        refine ⟨last, mpLast, calls ++ more, final, ?_,
          by simpa using buffersLast⟩
        rw [Gate.dispatchMessageLoop_forward isRead (by omega) (by omega)
          isSent, isDone]
        simp

end Operations

end SkynetCpp
