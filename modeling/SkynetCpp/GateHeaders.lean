import SkynetCpp.GateRun

namespace SkynetCpp

open Foundation

/-!
# The headers that the gate reads

`dispatch_message` with a record of the headers that it takes out of a
connection's stream, each with its place in the stream.  The record is beside
the results: without it the traced loop is the loop of the gate.
-/

/-- A header that was taken out of a stream. -/
structure HeaderRead where
  /-- How many bytes of the stream are in front of it. -/
  offset : Int
  bytes : List UInt8
  deriving Repr, DecidableEq

/--
The header that `databuffer_readheader` takes out, if it takes one, when this
many bytes of the stream were received.
-/
def headerReads
    (received : Nat)
    (db : Databuffer)
    (mp : Messagepool)
    (headerSize : Int) : List HeaderRead :=
  if db.header = 0 ∧ headerSize ≤ db.size then
    match databufferRead db mp headerSize with
    | .ok (plen, _, _) => [{ offset := received - db.size, bytes := plen }]
    | .error _ => []
  else
    []

/-- The loop of `dispatch_message`, with the headers that it reads. -/
def Gate.tracedMessageLoop
    (received c : Nat)
    (id : Int) :
    Nat → Gate → Except Fault (Gate × List ServiceCall × List HeaderRead)
  | 0, _ => .error .running
  | fuel + 1, gate => do
      let reads :=
        headerReads received (gate.conn c).buffer gate.mp gate.header_size
      let (size, db, mp) ←
        databufferReadheader (gate.conn c).buffer gate.mp gate.header_size
      let gate := gate.setBuffer c db mp
      if size < 0 then
        .ok (gate, [], reads)
      else if size > 0 then
        if size ≥ 0x1000000 then do
          let (db, mp) ← databufferClear (gate.conn c).buffer gate.mp
          .ok (gate.setBuffer c db mp,
            [.socketClose id, .skynetError "Recv socket message > 16M"], reads)
        else do
          let (gate, calls) ← gate.forward c size
          let gate :=
            gate.setBuffer c (databufferReset (gate.conn c).buffer) gate.mp
          let (gate, more, later) ←
            Gate.tracedMessageLoop received c id fuel gate
          .ok (gate, calls ++ more, reads ++ later)
      else do
        let (gate, calls, later) ←
          Gate.tracedMessageLoop received c id fuel gate
        .ok (gate, calls, reads ++ later)

/-- `dispatch_message`, with the headers that it reads. -/
def Gate.tracedMessage
    (gate : Gate)
    (received c : Nat)
    (id : Int)
    (data : List UInt8)
    (sz : Int) :
    Except Fault (Gate × List ServiceCall × List HeaderRead) := do
  let (db, mp) ← databufferPush (gate.conn c).buffer gate.mp data sz
  let gate := gate.setBuffer c db mp
  Gate.tracedMessageLoop received c id (db.size.toNat + 2) gate

/-- A traced result without its record. -/
def untraced
    (result : Gate × List ServiceCall × List HeaderRead) :
    Gate × List ServiceCall :=
  (result.1, result.2.1)

variable
    {gate : Gate}
    {received c headerSize fuel : Nat}
    {id : Int}
    {contents : Nat → List UInt8}

section Projection

/-- Without its record the traced loop is the loop of the gate. -/
theorem Gate.tracedMessageLoop_untraced
    (received c : Nat)
    (id : Int)
    (fuel : Nat)
    (gate : Gate) :
    (Gate.tracedMessageLoop received c id fuel gate).map untraced =
      Gate.dispatchMessageLoop c id fuel gate := by
  induction fuel generalizing gate with
  | zero =>
      rfl
  | succ fuel inductionHypothesis =>
      simp only [Gate.tracedMessageLoop, Gate.dispatchMessageLoop, bind,
        Except.bind]
      cases databufferReadheader (gate.conn c).buffer gate.mp
          gate.header_size with
      | error fault =>
          rfl
      | ok read =>
          obtain ⟨size, db, mp⟩ := read
          simp only
          split
          · rfl
          · split
            · split
              · cases databufferClear
                    (((gate.setBuffer c db mp).conn c).buffer)
                    (gate.setBuffer c db mp).mp <;> rfl
              · cases (gate.setBuffer c db mp).forward c size with
                | error fault =>
                    rfl
                | ok sent =>
                    simp only
                    rw [← inductionHypothesis]
                    cases Gate.tracedMessageLoop received c id fuel
                        (sent.1.setBuffer c
                          (databufferReset (sent.1.conn c).buffer)
                          sent.1.mp) <;> rfl
            · rw [← inductionHypothesis]
              cases Gate.tracedMessageLoop received c id fuel
                  (gate.setBuffer c db mp) <;> rfl

/-- Without its record the traced `dispatch_message` is that of the gate. -/
theorem Gate.tracedMessage_untraced
    (gate : Gate)
    (received c : Nat)
    (id : Int)
    (data : List UInt8)
    (sz : Int) :
    (gate.tracedMessage received c id data sz).map untraced =
      gate.dispatchMessage c id data sz := by
  simp only [Gate.tracedMessage, Gate.dispatchMessage, bind, Except.bind]
  cases databufferPush (gate.conn c).buffer gate.mp data sz with
  | error fault =>
      rfl
  | ok pushed =>
      exact Gate.tracedMessageLoop_untraced received c id _ _

/-- A result of the gate has a record. -/
theorem exists_traced
    {traced : Except Fault (Gate × List ServiceCall × List HeaderRead)}
    {result : Except Fault (Gate × List ServiceCall)}
    (projected : traced.map untraced = result)
    {next : Gate}
    {calls : List ServiceCall}
    (done : result = .ok (next, calls)) :
    ∃ reads, traced = .ok (next, calls, reads) := by
  subst projected
  cases traced with
  | error fault =>
      cases done
  | ok result =>
      obtain ⟨last, made, reads⟩ := result
      cases done
      exact ⟨reads, rfl⟩

end Projection

section Rounds

variable
    {db db' : Databuffer}
    {mp mp' : Messagepool}
    {size : Int}
    {next : Gate}
    {calls : List ServiceCall}
    {reads : List HeaderRead}

/-- The first header that is read is the one that is there at first. -/
theorem Gate.tracedMessageLoop_reads
    (done :
      Gate.tracedMessageLoop received c id (fuel + 1) gate =
        .ok (next, calls, reads)) :
    ∃ later,
      reads =
        headerReads received (gate.bufs c) gate.mp gate.header_size ++
          later := by
  have isBuffer : (gate.conn c).buffer = gate.bufs c := rfl
  simp only [Gate.tracedMessageLoop, isBuffer, bind_eq_ok_iff] at done
  obtain ⟨⟨size, db, mp⟩, _, done⟩ := done
  simp only at done
  split at done
  · cases done
    exact ⟨[], (List.append_nil _).symm⟩
  · split at done
    · split at done
      · obtain ⟨_, _, done⟩ := bind_eq_ok_iff.mp done
        cases done
        exact ⟨[], (List.append_nil _).symm⟩
      · obtain ⟨_, _, done⟩ := bind_eq_ok_iff.mp done
        obtain ⟨⟨_, _, later⟩, _, done⟩ := bind_eq_ok_iff.mp done
        cases done
        exact ⟨later, rfl⟩
    · obtain ⟨⟨_, _, later⟩, _, done⟩ := bind_eq_ok_iff.mp done
      cases done
      exact ⟨later, rfl⟩

/-- Put a record and calls in front of those of the later rounds. -/
def before
    (calls : List ServiceCall)
    (reads : List HeaderRead)
    (result : Except Fault (Gate × List ServiceCall × List HeaderRead)) :
    Except Fault (Gate × List ServiceCall × List HeaderRead) :=
  result.map fun result => (result.1, calls ++ result.2.1, reads ++ result.2.2)

variable
    (isRead :
      databufferReadheader (gate.bufs c) gate.mp gate.header_size =
        .ok (size, db, mp))

include isRead

/-- A traced round that waits for more bytes. -/
theorem Gate.tracedMessageLoop_wait
    (isNegative : size < 0) :
    Gate.tracedMessageLoop received c id (fuel + 1) gate =
      .ok (gate.setBuffer c db mp, [],
        headerReads received (gate.bufs c) gate.mp gate.header_size) := by
  have isBuffer : (gate.conn c).buffer = gate.bufs c := rfl
  simp only [Gate.tracedMessageLoop, isBuffer, isRead, bind, Except.bind,
    if_pos isNegative]

/-- A traced round that skips a frame without a body. -/
theorem Gate.tracedMessageLoop_skip
    (isZero : size = 0) :
    Gate.tracedMessageLoop received c id (fuel + 1) gate =
      before []
        (headerReads received (gate.bufs c) gate.mp gate.header_size)
        (Gate.tracedMessageLoop received c id fuel
          (gate.setBuffer c db mp)) := by
  have isBuffer : (gate.conn c).buffer = gate.bufs c := rfl
  have notNegative : ¬ size < 0 := by omega
  have notPositive : ¬ size > 0 := by omega
  simp only [Gate.tracedMessageLoop, isBuffer, isRead, bind, Except.bind,
    if_neg notNegative, if_neg notPositive]
  cases Gate.tracedMessageLoop received c id fuel (gate.setBuffer c db mp) <;>
    rfl

/-- A traced round that hands a frame to `_forward`. -/
theorem Gate.tracedMessageLoop_forward
    (isPositive : size > 0)
    (isShort : size < 0x1000000)
    {calls : List ServiceCall}
    (sent :
      (gate.setBuffer c db mp).forward c size =
        .ok (gate.setBuffer c db' mp', calls)) :
    Gate.tracedMessageLoop received c id (fuel + 1) gate =
      before calls
        (headerReads received (gate.bufs c) gate.mp gate.header_size)
        (Gate.tracedMessageLoop received c id fuel
          (gate.setBuffer c { db' with header := 0 } mp')) := by
  have isBuffer : ∀ other : Gate, (other.conn c).buffer = other.bufs c :=
    fun _ => rfl
  have notNegative : ¬ size < 0 := by omega
  have notLong : ¬ size ≥ 0x1000000 := by omega
  simp only [Gate.tracedMessageLoop, isBuffer, isRead, bind, Except.bind,
    if_neg notNegative, if_pos isPositive, if_neg notLong, sent,
    Gate.setBuffer_bufs, Function.update_self, Gate.setBuffer_mp,
    Gate.setBuffer_setBuffer, databufferReset]
  cases Gate.tracedMessageLoop received c id fuel
      (gate.setBuffer c { db' with header := 0 } mp') <;> rfl

end Rounds

section Stream

variable
    {db : Databuffer}
    {mp : Messagepool}
    {bufs : Nat → Databuffer}
    {offset : Nat}
    {isHeaderSize : IsHeaderSize headerSize}
    {frames : List (WireFrame (gateFraming headerSize isHeaderSize))}
    {stream behind kept : List UInt8}

/-- There is somebody who gets the bytes of the connection. -/
def Gate.HasTarget
    (gate : Gate)
    (c : Nat) : Prop :=
  gate.HasReceiver c ∨ gate.watchdog ≠ 0

/-- The headers of frames from a place in the stream on. -/
def frameHeaders :
    Nat → List (WireFrame (gateFraming headerSize isHeaderSize)) →
      List HeaderRead
  | _, [] => []
  | offset, frame :: later =>
      { offset := offset, bytes := frame.header } ::
        frameHeaders (offset + frame.bytes.length) later

/-- The header of an unfinished frame, when it has arrived. -/
def restHeader
    (headerSize offset : Nat)
    (rest : List UInt8) : List HeaderRead :=
  if headerSize ≤ rest.length then
    [{ offset := offset, bytes := rest.take headerSize }]
  else
    []

/-- Headers of a list of frames and of the frames behind them. -/
theorem frameHeaders_append
    (offset : Nat)
    (first second : List (WireFrame (gateFraming headerSize isHeaderSize))) :
    frameHeaders offset (first ++ second) =
      frameHeaders offset first ++
        frameHeaders (offset + (first.flatMap WireFrame.bytes).length)
          second := by
  induction first generalizing offset with
  | nil =>
      rfl
  | cons frame first inductionHypothesis =>
      simp only [List.cons_append, frameHeaders, inductionHypothesis,
        List.flatMap_cons, List.length_append, Nat.add_assoc]

@[simp] theorem Gate.setBuffer_hasTarget :
    (gate.setBuffer c db mp).HasTarget c ↔ gate.HasTarget c := by
  simp only [Gate.HasTarget, Gate.setBuffer_hasReceiver]
  rfl

/-- `_forward` reads the body when there is somebody to send to. -/
theorem Gate.forward_takes
    (buffers : Buffers gate.mp gate.bufs contents)
    (isOpen : 0 < (gate.conn c).id)
    (target : gate.HasTarget c)
    {size : Nat}
    (positive : 0 < size)
    (enough : size ≤ (contents c).length) :
    ∃ db mp calls,
      gate.forward c size = .ok (gate.setBuffer c db mp, calls) ∧
        Buffers mp (Function.update gate.bufs c db)
          (Function.update contents c ((contents c).drop size)) := by
  by_cases receiver : gate.HasReceiver c
  · obtain ⟨db, mp, isSent, buffers'⟩ :=
      Gate.forward_spec buffers isOpen receiver positive enough
    exact ⟨db, mp, _, isSent, buffers'⟩
  · rcases target with hasReceiver | hasWatchdog
    · exact (receiver hasReceiver).elim
    · exact
        Gate.forward_watchdog buffers isOpen receiver hasWatchdog positive
          enough

/-- The header of a pending stream is taken out unless it was before. -/
theorem headerReads_of_pending
    (isHeaderSize : IsHeaderSize headerSize)
    (buffers : Buffers mp bufs contents)
    (pending : Pending headerSize (bufs c).header (contents c) stream)
    (long : headerSize ≤ stream.length)
    (isReceived : received = offset + stream.length) :
    headerReads received (bufs c) mp headerSize =
      if (bufs c).header = 0 then
        [{ offset := offset, bytes := stream.take headerSize }]
      else
        [] := by
  by_cases isZero : (bufs c).header = 0
  · have isStream : contents c = stream := by
      rcases pending with ⟨_, isStream⟩ | ⟨notZero, _⟩
      · exact isStream
      · exact (notZero isZero).elim
    have isSize := buffers.size c
    rw [isStream] at isSize
    have enough : (headerSize : Int) ≤ (bufs c).size := by
      rw [isSize]
      exact_mod_cast long
    have positive : 0 < headerSize := by
      rcases isHeaderSize with isTwo | isFour <;> omega
    obtain ⟨db', mp', isRead, _⟩ :=
      databufferRead_spec buffers positive
        (show headerSize ≤ (contents c).length by rw [isStream]; exact long)
    rw [headerReads, if_pos ⟨isZero, enough⟩, isRead, if_pos isZero, isStream,
      isSize, isReceived]
    simp
  · rw [headerReads, if_neg (fun both => isZero both.1), if_neg isZero]

/-- No header is taken out of less than a header. -/
theorem headerReads_short
    (buffers : Buffers mp bufs contents)
    (short : (contents c).length < headerSize)
    (received : Nat) :
    headerReads received (bufs c) mp headerSize = [] := by
  have isSize := buffers.size c
  rw [headerReads, if_neg]
  omega

/-- How many of the headers of a pending stream were taken out before. -/
def takenBefore (header : Int) : Nat :=
  if header = 0 then 0 else 1

/-- A whole frame in front of a pending stream, with its header taken out. -/
theorem databufferReadheader_frame
    (buffers : Buffers mp bufs contents)
    {frame : WireFrame (gateFraming headerSize isHeaderSize)}
    (announced : Announced frame)
    (pending :
      Pending headerSize (bufs c).header (contents c)
        (frame.bytes ++ behind)) :
    ∃ db mp',
      databufferReadheader (bufs c) mp headerSize =
          .ok (frame.body.length, db, mp') ∧
        Buffers mp' (Function.update bufs c db)
          (Function.update contents c (frame.body ++ behind)) ∧
        db.header = frame.body.length := by
  have headerSized : frame.header.length = headerSize := frame.header_length
  have isStream :
      frame.bytes ++ behind = frame.header ++ (frame.body ++ behind) := by
    rw [WireFrame.bytes, List.append_assoc]
  have long : headerSize ≤ (frame.bytes ++ behind).length := by
    rw [isStream, List.length_append]
    omega
  obtain ⟨db, mp', isRead, buffers', isHeader⟩ :=
    databufferReadheader_spec isHeaderSize buffers pending long
  rw [isStream, List.take_left' headerSized] at isHeader isRead
  rw [isStream, List.drop_left' headerSized] at buffers'
  rw [List.drop_left' headerSized, announced.1, if_neg] at isRead
  · exact ⟨db, mp', isRead, buffers', isHeader.trans announced.1⟩
  · rw [List.length_append]
    omega

/-- The headers that are taken out of a stream with a frame in front. -/
theorem headerReads_frame
    (buffers : Buffers mp bufs contents)
    {frame : WireFrame (gateFraming headerSize isHeaderSize)}
    (pending :
      Pending headerSize (bufs c).header (contents c)
        (frame.bytes ++ behind))
    (isReceived : received = offset + (frame.bytes ++ behind).length) :
    headerReads received (bufs c) mp headerSize =
      [{ offset := offset, bytes := frame.header }].drop
        (takenBefore (bufs c).header) := by
  have headerSized : frame.header.length = headerSize := frame.header_length
  have isHeader : (frame.bytes ++ behind).take headerSize = frame.header := by
    rw [WireFrame.bytes, List.append_assoc, List.take_left' headerSized]
  have long : headerSize ≤ (frame.bytes ++ behind).length := by
    rw [WireFrame.bytes, List.length_append, List.length_append, headerSized]
    omega
  rw [headerReads_of_pending isHeaderSize buffers pending long isReceived,
    isHeader, takenBefore]
  split <;> rfl

/-- Frames that are taken are behind the loop, with their headers read. -/
theorem Gate.tracedMessageLoop_frames
    (announced : ∀ frame ∈ frames, Announced frame)
    (taken : ∀ frame ∈ frames, frame.body = [] ∨ gate.HasTarget c)
    (isGateSize : gate.header_size = headerSize)
    (isOpen : 0 < (gate.conn c).id)
    (buffers : Buffers gate.mp gate.bufs contents)
    (pending :
      Pending headerSize (gate.bufs c).header (contents c)
        (frames.flatMap WireFrame.bytes ++ behind))
    (isReceived :
      received =
        offset + (frames.flatMap WireFrame.bytes ++ behind).length)
    (id : Int) :
    ∃ db mp bytes calls,
      (∀ fuel,
        Gate.tracedMessageLoop received c id (frames.length + fuel) gate =
          before calls
            ((frameHeaders offset frames).drop
              (takenBefore (gate.bufs c).header))
            (Gate.tracedMessageLoop received c id fuel
              (gate.setBuffer c db mp))) ∧
        Buffers mp (Function.update gate.bufs c db)
          (Function.update contents c bytes) ∧
        Pending headerSize db.header bytes behind ∧
        (frames ≠ [] ∧ db.header = 0 ∨
          frames = [] ∧ db.header = (gate.bufs c).header) := by
  induction frames generalizing gate contents offset with
  | nil =>
      refine
        ⟨gate.bufs c, gate.mp, contents c, [], ?_, by simpa using buffers,
          pending, Or.inr ⟨rfl, rfl⟩⟩
      intro fuel
      have isBuffer : gate.bufs c = (gate.conn c).buffer := rfl
      rw [isBuffer, Gate.setBuffer_self]
      simp only [List.length_nil, Nat.zero_add, frameHeaders, List.drop_nil,
        before, List.nil_append]
      cases Gate.tracedMessageLoop received c id fuel gate <;> rfl
  | cons frame later inductionHypothesis =>
      have isAnnounced := announced frame (by simp)
      have isShort := isAnnounced.2
      have isStream :
          (frame :: later).flatMap WireFrame.bytes ++ behind =
            frame.bytes ++ (later.flatMap WireFrame.bytes ++ behind) := by
        rw [List.flatMap_cons, List.append_assoc]
      rw [isStream] at pending isReceived
      obtain ⟨db, mp, isRead, buffersRead, headerWritten⟩ :=
        databufferReadheader_frame buffers isAnnounced pending
      have reads :=
        headerReads_frame buffers pending isReceived
      rw [← isGateSize] at isRead reads
      let rest := later.flatMap WireFrame.bytes ++ behind
      have laterReceived :
          received = offset + frame.bytes.length + rest.length := by
        rw [isReceived, List.length_append, Nat.add_assoc]
      let read := gate.setBuffer c db mp
      have readBuffers :
          Buffers read.mp read.bufs
            (Function.update contents c (frame.body ++ rest)) := by
        simpa [read] using buffersRead
      -- The loop goes on behind the frame, with no header taken out.
      obtain ⟨dbNext, mpNext, calls, isTurn, buffersNext, noHeader⟩ :
          ∃ dbNext mpNext calls,
            (∀ fuel,
              Gate.tracedMessageLoop received c id (fuel + 1) gate =
                before calls
                  (headerReads received (gate.bufs c) gate.mp
                    gate.header_size)
                  (Gate.tracedMessageLoop received c id fuel
                    (gate.setBuffer c dbNext mpNext))) ∧
              Buffers mpNext (Function.update gate.bufs c dbNext)
                (Function.update contents c rest) ∧
              dbNext.header = 0 := by
        by_cases isEmpty : frame.body = []
        · refine ⟨db, mp, [], ?_, ?_, by simp [headerWritten, isEmpty]⟩
          · intro fuel
            exact
              Gate.tracedMessageLoop_skip isRead (by simp [isEmpty])
          · simpa [isEmpty] using buffersRead
        · have positive : 0 < frame.body.length :=
            List.length_pos_iff.mpr isEmpty
          have target : read.HasTarget c := by
            rcases taken frame (by simp) with noBody | hasTarget
            · exact (isEmpty noBody).elim
            · simpa [read] using hasTarget
          obtain ⟨db', mp', calls, isSent, buffersSent⟩ :=
            Gate.forward_takes readBuffers
              (by simpa [read] using isOpen) target positive (by simp)
          simp only [read, Gate.setBuffer_setBuffer] at isSent
          refine ⟨{ db' with header := 0 }, mp', calls, ?_, ?_, rfl⟩
          · intro fuel
            exact
              Gate.tracedMessageLoop_forward isRead (by omega) (by omega)
                isSent
          · have reset := buffersSent.setHeader c 0
            simpa [read] using reset
      let next := gate.setBuffer c dbNext mpNext
      have nextBuffers :
          Buffers next.mp next.bufs (Function.update contents c rest) := by
        simpa [next] using buffersNext
      have nextPending :
          Pending headerSize (next.bufs c).header
            (Function.update contents c rest c) rest :=
        Or.inl ⟨by simp [next, noHeader], by simp⟩
      obtain ⟨last, mpLast, bytes, more, isDone, buffersLast, pendingLast,
        headerLast⟩ :=
        inductionHypothesis
          (fun other member => announced other (by simp [member]))
          (fun other member => by
            simpa [next] using taken other (by simp [member]))
          (by simpa [next] using isGateSize) (by simpa [next] using isOpen)
          nextBuffers nextPending laterReceived
      refine
        ⟨last, mpLast, bytes, calls ++ more, ?_,
          by simpa [next] using buffersLast, pendingLast, ?_⟩
      · intro fuel
        have isFuel :
            (frame :: later).length + fuel = later.length + fuel + 1 := by
          rw [List.length_cons]
          omega
        have noneTaken : takenBefore (next.bufs c).header = 0 := by
          simp [next, noHeader, takenBefore]
        rw [isFuel, isTurn, reads, isDone fuel, noneTaken]
        simp only [next, Gate.setBuffer_setBuffer, frameHeaders, before]
        cases Gate.tracedMessageLoop received c id fuel
            (gate.setBuffer c last mpLast) with
        | error fault =>
            rfl
        | ok result =>
            unfold takenBefore
            split <;> simp [Except.map]
      · refine Or.inl ⟨by simp, ?_⟩
        rcases headerLast with ⟨_, isZero⟩ | ⟨_, sameHeader⟩
        · exact isZero
        · rw [sameHeader]
          simp [next, noHeader]

/-- Headers that are read in two parts, one of them before. -/
theorem drop_frameHeaders
    {first last : Int}
    (header :
      frames ≠ [] ∧ last = 0 ∨ frames = [] ∧ last = first)
    (offset : Nat)
    (reads : List HeaderRead) :
    (frameHeaders offset frames).drop (takenBefore first) ++
        reads.drop (takenBefore last) =
      (frameHeaders offset frames ++ reads).drop (takenBefore first) := by
  rcases header with ⟨someFrames, isZero⟩ | ⟨noFrames, same⟩
  · obtain ⟨frame, later, isCons⟩ := List.exists_cons_of_ne_nil someFrames
    have atMost : takenBefore first ≤ (frameHeaders offset frames).length := by
      rw [isCons]
      unfold takenBefore
      split <;> simp [frameHeaders]
    rw [List.drop_append_of_le_length atMost, isZero]
    rfl
  · rw [noFrames, same]
    simp [frameHeaders]

/-- The loop ends at an unfinished frame, with its header read. -/
theorem Gate.tracedMessageLoop_rest
    (isHeaderSize : IsHeaderSize headerSize)
    (incomplete : (gateFraming headerSize isHeaderSize).Incomplete stream)
    (isGateSize : gate.header_size = headerSize)
    (buffers : Buffers gate.mp gate.bufs contents)
    (pending : Pending headerSize (gate.bufs c).header (contents c) stream)
    (isReceived : received = offset + stream.length)
    (id : Int)
    (fuel : Nat) :
    ∃ db mp bytes,
      Gate.tracedMessageLoop received c id (fuel + 1) gate =
          .ok (gate.setBuffer c db mp, [],
            (restHeader headerSize offset stream).drop
              (takenBefore (gate.bufs c).header)) ∧
        Buffers mp (Function.update gate.bufs c db)
          (Function.update contents c bytes) ∧
        Held headerSize db.header bytes stream := by
  by_cases short : stream.length < headerSize
  · obtain ⟨isRead, isZero, isStream⟩ :=
      databufferReadheader_short buffers pending short
    have noReads :=
      headerReads_short buffers
        (show (contents c).length < headerSize by rw [isStream]; exact short)
        received
    rw [← isGateSize] at isRead noReads
    refine ⟨gate.bufs c, gate.mp, contents c, ?_, by simpa using buffers, ?_⟩
    · rw [Gate.tracedMessageLoop_wait isRead (by decide), noReads, restHeader,
        if_neg (Nat.not_le_of_lt short), List.drop_nil]
    · rw [Held, if_pos short]
      exact ⟨isZero, isStream⟩
  · have long := Nat.le_of_not_lt short
    obtain ⟨db, mp, isRead, buffers', isHeader⟩ :=
      databufferReadheader_spec isHeaderSize buffers pending long
    have reads :=
      headerReads_of_pending isHeaderSize buffers pending long isReceived
    have unfinished := incomplete long
    simp only [gateFraming] at unfinished
    have isUnfinished :
        ((stream.drop headerSize).length : Int) <
          headerLength headerSize (stream.take headerSize) := by
      rw [List.length_drop]
      omega
    rw [if_pos isUnfinished, ← isGateSize] at isRead
    rw [← isGateSize] at reads
    refine ⟨db, mp, stream.drop headerSize, ?_, buffers', ?_⟩
    · rw [Gate.tracedMessageLoop_wait isRead (by decide), reads, restHeader,
        if_pos long, takenBefore]
      split <;> rfl
    · rw [Held, if_neg short]
      exact ⟨isHeader, rfl⟩

/-- The bytes that a frame without a receiver left are in the buffer. -/
structure Stranded
    (gate : Gate)
    (c : Nat)
    (contents : Nat → List UInt8)
    (kept : List UInt8) : Prop where
  noHeader : (gate.bufs c).header = 0
  contents : contents c = kept

/-- The loop waits at less than a header. -/
theorem Gate.tracedMessageLoop_stranded_short
    (isGateSize : gate.header_size = headerSize)
    (buffers : Buffers gate.mp gate.bufs contents)
    (stranded : Stranded gate c contents kept)
    (short : kept.length < headerSize) :
    Gate.tracedMessageLoop received c id (fuel + 1) gate =
      .ok (gate, [], []) := by
  have pending :
      Pending headerSize (gate.bufs c).header (contents c) kept :=
    Or.inl ⟨stranded.noHeader, stranded.contents⟩
  obtain ⟨isRead, _, isKept⟩ :=
    databufferReadheader_short buffers pending short
  have noReads :=
    headerReads_short buffers
      (show (contents c).length < headerSize by rw [isKept]; exact short)
      received
  rw [← isGateSize] at isRead noReads
  rw [Gate.tracedMessageLoop_wait isRead (by decide), noReads, Gate.bufs,
    Gate.setBuffer_self]

/-- The loop reads the next header where the bytes were left. -/
theorem Gate.tracedMessageLoop_stranded_long
    (isHeaderSize : IsHeaderSize headerSize)
    (isGateSize : gate.header_size = headerSize)
    (buffers : Buffers gate.mp gate.bufs contents)
    (stranded : Stranded gate c contents kept)
    (long : headerSize ≤ kept.length)
    (isReceived : received = offset + kept.length)
    {next : Gate}
    {calls : List ServiceCall}
    {reads : List HeaderRead}
    (done :
      Gate.tracedMessageLoop received c id fuel gate =
        .ok (next, calls, reads)) :
    ∃ bytes later,
      reads = { offset := offset, bytes := bytes } :: later := by
  cases fuel with
  | zero =>
      cases done
  | succ fuel =>
      have pending :
          Pending headerSize (gate.bufs c).header (contents c) kept :=
        Or.inl ⟨stranded.noHeader, stranded.contents⟩
      obtain ⟨later, areReads⟩ := Gate.tracedMessageLoop_reads done
      have isFirst :=
        headerReads_of_pending isHeaderSize buffers pending long isReceived
      rw [isGateSize, isFirst, if_pos stranded.noHeader] at areReads
      exact ⟨kept.take headerSize, later, areReads⟩

end Stream

end SkynetCpp
