import SkynetCpp.GateHeaders

namespace SkynetCpp

open Foundation

/-!
# Frames without a receiver

`_forward` leaves the body of a frame in the buffer when there is nobody to
send it to, and `databuffer_reset` forgets its header.  The next header is then
read out of the body, as soon as enough bytes for one are there.
-/

variable
    {gate : Gate}
    {received c headerSize offset : Nat}
    {id : Int}
    {contents : Nat → List UInt8}
    {isHeaderSize : IsHeaderSize headerSize}
    {frames : List (WireFrame (gateFraming headerSize isHeaderSize))}
    {rest rest' chunk kept behind : List UInt8}

section Messages

/-- `dispatch_message` is its loop once the chunk is pushed. -/
theorem Gate.tracedMessage_eq
    {db : Databuffer}
    {mp : Messagepool}
    (isPushed :
      databufferPush (gate.bufs c) gate.mp chunk chunk.length = .ok (db, mp)) :
    gate.tracedMessage received c id chunk chunk.length =
      Gate.tracedMessageLoop received c id (db.size.toNat + 2)
        (gate.setBuffer c db mp) := by
  have isBuffer : (gate.conn c).buffer = gate.bufs c := rfl
  simp only [Gate.tracedMessage, isBuffer, isPushed, bind, Except.bind]

/-- A held rest has its header taken out when it has a whole one. -/
theorem Held.takenBefore
    {header : Int}
    {bytes : List UInt8}
    (held : Held headerSize header bytes rest)
    (incomplete : (gateFraming headerSize isHeaderSize).Incomplete rest) :
    takenBefore header = if rest.length < headerSize then 0 else 1 := by
  unfold SkynetCpp.takenBefore
  unfold Held at held
  split at held
  · next short =>
      rw [if_pos held.1, if_pos short]
  · next long =>
      have announced := incomplete (Nat.le_of_not_lt long)
      simp only [gateFraming] at announced
      have notZero : header ≠ 0 := by
        rw [held.1]
        omega
      rw [if_neg notZero, if_neg long]

/-- The headers that are still to be read behind a held rest. -/
def headersBehind
    (offset kept : Nat)
    (frames : List (WireFrame (gateFraming headerSize isHeaderSize)))
    (rest : List UInt8) : List HeaderRead :=
  (frameHeaders offset frames ++
      restHeader headerSize
        (offset + (frames.flatMap WireFrame.bytes).length) rest).drop
    (if kept < headerSize then 0 else 1)

/-- A chunk whose frames are taken has its headers read, each at its place. -/
theorem Gate.tracedMessage_taken
    (incomplete : (gateFraming headerSize isHeaderSize).Incomplete rest)
    (splits :
      (gateFraming headerSize isHeaderSize).Splits (rest ++ chunk) frames
        rest')
    (announced : ∀ frame ∈ frames, Announced frame)
    (taken : ∀ frame ∈ frames, frame.body = [] ∨ gate.HasTarget c)
    (isGateSize : gate.header_size = headerSize)
    (isOpen : 0 < (gate.conn c).id)
    (buffers : Buffers gate.mp gate.bufs contents)
    (held : Held headerSize (gate.bufs c).header (contents c) rest)
    (isReceived : received = offset + (rest ++ chunk).length)
    (id : Int) :
    ∃ db mp bytes calls,
      gate.tracedMessage received c id chunk chunk.length =
          .ok (gate.setBuffer c db mp, calls,
            headersBehind offset rest.length frames rest') ∧
        Buffers mp (Function.update gate.bufs c db)
          (Function.update contents c bytes) ∧
        Held headerSize db.header bytes rest' := by
  obtain ⟨db, mp, isPushed, buffersPushed, sameHeader, isPending, enough⟩ :=
    exists_pushed isHeaderSize incomplete buffers held chunk
  let pushed := gate.setBuffer c db mp
  have pushedBuffers :
      Buffers pushed.mp pushed.bufs
        (Function.update contents c (contents c ++ chunk)) := by
    simpa [pushed] using buffersPushed
  have pending :
      Pending headerSize (pushed.bufs c).header
        (Function.update contents c (contents c ++ chunk) c)
        (frames.flatMap WireFrame.bytes ++ rest') := by
    rw [← splits.stream_eq]
    simpa [pushed] using isPending
  rw [splits.stream_eq] at isReceived
  obtain ⟨dbNext, mpNext, bytesNext, calls, isDone, buffersNext, pendingNext,
    headerNext⟩ :=
    Gate.tracedMessageLoop_frames announced
      (fun frame member => by simpa [pushed] using taken frame member)
      (by simpa [pushed] using isGateSize) (by simpa [pushed] using isOpen)
      pushedBuffers pending isReceived id
  have fueled := enough frames rest' splits.stream_eq
  obtain ⟨fuel, isFuel⟩ :
      ∃ fuel, db.size.toNat + 2 = frames.length + (fuel + 1) :=
    ⟨db.size.toNat + 1 - frames.length, by omega⟩
  let next := pushed.setBuffer c dbNext mpNext
  have nextBuffers :
      Buffers next.mp next.bufs
        (Function.update contents c bytesNext) := by
    simpa [next] using buffersNext
  have nextPending :
      Pending headerSize (next.bufs c).header
        (Function.update contents c bytesNext c) rest' := by
    simpa [next] using pendingNext
  have restReceived :
      received =
        offset + (frames.flatMap WireFrame.bytes).length + rest'.length := by
    rw [isReceived, List.length_append, Nat.add_assoc]
  obtain ⟨last, mpLast, bytes, isLast, buffersLast, heldLast⟩ :=
    Gate.tracedMessageLoop_rest isHeaderSize splits.incomplete
      (by simpa [next, pushed] using isGateSize) nextBuffers nextPending
      restReceived id fuel
  refine
    ⟨last, mpLast, bytes, calls ++ [], ?_,
      by simpa [next, pushed] using buffersLast, heldLast⟩
  have isTaken : takenBefore (pushed.bufs c).header =
      if rest.length < headerSize then 0 else 1 := by
    have wasTaken := held.takenBefore incomplete
    rw [← sameHeader] at wasTaken
    simpa [pushed] using wasTaken
  have isNext : (next.bufs c).header = dbNext.header := by
    simp [next]
  have areReads :
      (frameHeaders offset frames).drop (takenBefore (pushed.bufs c).header) ++
          (restHeader headerSize
            (offset + (frames.flatMap WireFrame.bytes).length) rest').drop
            (takenBefore (next.bufs c).header) =
        headersBehind offset rest.length frames rest' := by
    rw [headersBehind, ← isTaken, isNext, drop_frameHeaders headerNext]
  rw [Gate.tracedMessage_eq isPushed, isFuel, isDone, isLast, ← areReads]
  simp [before, Except.map, next, pushed]

/--
What a message leads to when bytes of a frame are left at a place in the
stream: too few for a header, or a header read there.
-/
inductive LeftBehind
    (next : Gate)
    (c headerSize place : Nat)
    (kept : List UInt8)
    (reads : List HeaderRead) : Prop where
  | few
      (contents : Nat → List UInt8)
      (short : kept.length < headerSize)
      (noReads : reads = [])
      (sameSize : next.header_size = headerSize)
      (buffers : Buffers next.mp next.bufs contents)
      (stranded : Stranded next c contents kept)
  | misread
      (bytes : List UInt8)
      (later : List HeaderRead)
      (long : headerSize ≤ kept.length)
      (isRead : reads = { offset := place, bytes := bytes } :: later)

/-- What the loop makes of bytes that were left. -/
theorem LeftBehind.of_loop
    (isHeaderSize : IsHeaderSize headerSize)
    (isGateSize : gate.header_size = headerSize)
    (buffers : Buffers gate.mp gate.bufs contents)
    (stranded : Stranded gate c contents kept)
    {place fuel : Nat}
    (isReceived : received = place + kept.length)
    {next : Gate}
    {calls : List ServiceCall}
    {reads : List HeaderRead}
    (done :
      Gate.tracedMessageLoop received c id fuel gate =
        .ok (next, calls, reads)) :
    LeftBehind next c headerSize place kept reads := by
  by_cases short : kept.length < headerSize
  · cases fuel with
    | zero =>
        cases done
    | succ fuel =>
        rw [Gate.tracedMessageLoop_stranded_short isGateSize buffers stranded
          short] at done
        cases done
        exact .few contents short rfl isGateSize buffers stranded
  · have long := Nat.le_of_not_lt short
    obtain ⟨bytes, later, isRead⟩ :=
      Gate.tracedMessageLoop_stranded_long isHeaderSize isGateSize buffers
        stranded long isReceived done
    exact .misread bytes later long isRead

/-- The traced `dispatch_message` returns, whatever the buffer holds. -/
theorem Gate.tracedMessage_returns
    (isHeaderSize : IsHeaderSize headerSize)
    (isGateSize : gate.header_size = headerSize)
    (buffers : Buffers gate.mp gate.bufs contents)
    (received c : Nat)
    (id : Int)
    (chunk : List UInt8) :
    ∃ next calls reads,
      gate.tracedMessage received c id chunk chunk.length =
        .ok (next, calls, reads) := by
  obtain ⟨db, mp, calls, bytes, isDone, _⟩ :=
    Gate.dispatchMessage_returns isHeaderSize isGateSize buffers c id chunk
  obtain ⟨reads, isTraced⟩ :=
    exists_traced (gate.tracedMessage_untraced received c id chunk _) isDone
  exact ⟨_, calls, reads, isTraced⟩

/-- A message behind bytes that were left. -/
theorem Gate.tracedMessage_stranded
    (isHeaderSize : IsHeaderSize headerSize)
    (isGateSize : gate.header_size = headerSize)
    (buffers : Buffers gate.mp gate.bufs contents)
    (stranded : Stranded gate c contents kept)
    (chunk : List UInt8)
    {place : Nat}
    (isReceived : received = place + (kept ++ chunk).length)
    (id : Int) :
    ∃ next calls reads,
      gate.tracedMessage received c id chunk chunk.length =
          .ok (next, calls, reads) ∧
        LeftBehind next c headerSize place (kept ++ chunk) reads := by
  obtain ⟨next, calls, reads, isDone⟩ :=
    Gate.tracedMessage_returns isHeaderSize isGateSize buffers received c id
      chunk
  refine ⟨next, calls, reads, isDone, ?_⟩
  obtain ⟨db, mp, isPushed, buffersPushed, sameHeader⟩ :=
    databufferPush_spec buffers c chunk
  let pushed := gate.setBuffer c db mp
  have pushedBuffers :
      Buffers pushed.mp pushed.bufs
        (Function.update contents c (contents c ++ chunk)) := by
    simpa [pushed] using buffersPushed
  have pushedStranded :
      Stranded pushed c (Function.update contents c (contents c ++ chunk))
        (kept ++ chunk) := by
    refine ⟨?_, by simp [stranded.contents]⟩
    simpa [pushed, sameHeader] using stranded.noHeader
  rw [Gate.tracedMessage_eq isPushed] at isDone
  exact
    LeftBehind.of_loop isHeaderSize (by simpa [pushed] using isGateSize)
      pushedBuffers pushedStranded isReceived isDone

/-- What comes behind calls and headers in front. -/
theorem before_eq_ok
    {calls made : List ServiceCall}
    {reads all : List HeaderRead}
    {next : Gate}
    {result : Except Fault (Gate × List ServiceCall × List HeaderRead)}
    (done : before calls reads result = .ok (next, made, all)) :
    ∃ later laterReads,
      result = .ok (next, later, laterReads) ∧ all = reads ++ laterReads := by
  cases result with
  | error fault =>
      cases done
  | ok result =>
      obtain ⟨last, later, laterReads⟩ := result
      cases done
      exact ⟨later, laterReads, rfl, rfl⟩

/-- The body of a frame that nobody gets is left at its place. -/
theorem Gate.tracedMessage_leaves
    (incomplete : (gateFraming headerSize isHeaderSize).Incomplete rest)
    {frame : WireFrame (gateFraming headerSize isHeaderSize)}
    (isData :
      rest ++ chunk =
        frames.flatMap WireFrame.bytes ++ (frame.bytes ++ behind))
    (announced : ∀ other ∈ frames, Announced other)
    (isAnnounced : Announced frame)
    (noBodies : ∀ other ∈ frames, other.body = [])
    (hasBody : frame.body ≠ [])
    (noTarget : ¬ gate.HasTarget c)
    (isGateSize : gate.header_size = headerSize)
    (isOpen : 0 < (gate.conn c).id)
    (buffers : Buffers gate.mp gate.bufs contents)
    (held : Held headerSize (gate.bufs c).header (contents c) rest)
    (isReceived : received = offset + (rest ++ chunk).length)
    (id : Int) :
    ∃ next calls reads,
      gate.tracedMessage received c id chunk chunk.length =
          .ok (next, calls,
            (frameHeaders offset (frames ++ [frame])).drop
                (if rest.length < headerSize then 0 else 1) ++ reads) ∧
        LeftBehind next c headerSize
          (offset + (frames.flatMap WireFrame.bytes).length + headerSize)
          (frame.body ++ behind) reads := by
  obtain ⟨next, calls, reads, isDone⟩ :=
    Gate.tracedMessage_returns isHeaderSize isGateSize buffers received c id
      chunk
  obtain ⟨db, mp, isPushed, buffersPushed, sameHeader, isPending, enough⟩ :=
    exists_pushed isHeaderSize incomplete buffers held chunk
  let pushed := gate.setBuffer c db mp
  have pushedBuffers :
      Buffers pushed.mp pushed.bufs
        (Function.update contents c (contents c ++ chunk)) := by
    simpa [pushed] using buffersPushed
  have pending :
      Pending headerSize (pushed.bufs c).header
        (Function.update contents c (contents c ++ chunk) c)
        (frames.flatMap WireFrame.bytes ++ (frame.bytes ++ behind)) := by
    rw [← isData]
    simpa [pushed] using isPending
  rw [isData] at isReceived
  have isTaken : takenBefore (pushed.bufs c).header =
      if rest.length < headerSize then 0 else 1 := by
    have wasTaken := held.takenBefore incomplete
    rw [← sameHeader] at wasTaken
    simpa [pushed] using wasTaken
  obtain ⟨dbNext, mpNext, bytesNext, made, isSkipped, buffersNext, pendingNext,
    headerNext⟩ :=
    Gate.tracedMessageLoop_frames announced
      (fun other member => Or.inl (noBodies other member))
      (by simpa [pushed] using isGateSize) (by simpa [pushed] using isOpen)
      pushedBuffers pending isReceived id
  have fueled :=
    enough (frames ++ [frame]) behind (by rw [isData]; simp)
  obtain ⟨fuel, isFuel⟩ :
      ∃ fuel, db.size.toNat + 2 = frames.length + (fuel + 1) := by
    rw [List.length_append, List.length_singleton] at fueled
    exact ⟨db.size.toNat + 1 - frames.length, by omega⟩
  let skipped := pushed.setBuffer c dbNext mpNext
  have skippedBuffers :
      Buffers skipped.mp skipped.bufs
        (Function.update contents c bytesNext) := by
    simpa [skipped] using buffersNext
  have skippedPending :
      Pending headerSize (skipped.bufs c).header
        (Function.update contents c bytesNext c) (frame.bytes ++ behind) := by
    simpa [skipped] using pendingNext
  have skippedSize : skipped.header_size = headerSize := by
    simpa [skipped, pushed] using isGateSize
  let start := offset + (frames.flatMap WireFrame.bytes).length
  have startReceived :
      received = start + (frame.bytes ++ behind).length := by
    rw [isReceived, List.length_append, Nat.add_assoc]
  obtain ⟨dbRead, mpRead, isRead, buffersRead, _⟩ :=
    databufferReadheader_frame skippedBuffers isAnnounced skippedPending
  have reads₂ := headerReads_frame skippedBuffers skippedPending startReceived
  rw [← skippedSize] at isRead reads₂
  have positive : 0 < frame.body.length := List.length_pos_iff.mpr hasBody
  have nobody : ¬ (skipped.setBuffer c dbRead mpRead).HasTarget c := by
    simpa [skipped, pushed] using noTarget
  rw [Gate.HasTarget, not_or] at nobody
  have isLeft :=
    Gate.forward_nobody nobody.1 nobody.2 (frame.body.length : Int)
  let left := skipped.setBuffer c { dbRead with header := 0 } mpRead
  have leftBuffers :
      Buffers left.mp left.bufs
        (Function.update contents c (frame.body ++ behind)) := by
    have reset := buffersRead.setHeader c 0
    simpa [left] using reset
  have leftStranded :
      Stranded left c (Function.update contents c (frame.body ++ behind))
        (frame.body ++ behind) :=
    ⟨by simp [left], by simp⟩
  have isWhole := isDone
  rw [Gate.tracedMessage_eq isPushed, isFuel, isSkipped,
    Gate.tracedMessageLoop_forward isRead (by omega)
      (by exact_mod_cast isAnnounced.2) isLeft, reads₂] at isDone
  obtain ⟨_, behindReads, isDone, areReads⟩ := before_eq_ok isDone
  obtain ⟨_, leftReads, isDone, areBehind⟩ := before_eq_ok isDone
  have headerSized : frame.header.length = headerSize := frame.header_length
  have joined :
      (frameHeaders offset (frames ++ [frame])).drop
          (if rest.length < headerSize then 0 else 1) =
        (frameHeaders offset frames).drop (takenBefore (pushed.bufs c).header) ++
          [({ offset := start, bytes := frame.header } : HeaderRead)].drop
            (takenBefore (skipped.bufs c).header) := by
    have isNext : (skipped.bufs c).header = dbNext.header := by
      simp [skipped]
    rw [isNext, drop_frameHeaders headerNext, isTaken, frameHeaders_append]
    rfl
  refine ⟨next, calls, leftReads, ?_, ?_⟩
  · rw [isWhole, areReads, areBehind, joined, List.append_assoc]
  · refine
      LeftBehind.of_loop isHeaderSize (by simpa [left] using skippedSize)
        leftBuffers leftStranded ?_ isDone
    rw [startReceived, WireFrame.bytes, List.append_assoc, List.length_append,
      headerSized]
    simp only [start]
    omega

end Messages

section Events

/-- How many bytes events bring to a connection. -/
def arrived
    (c : Nat)
    (events : List GateEvent) : Nat :=
  (chunksFor c events).flatten.length

/-- The headers read for an event, when this many bytes had been received. -/
def GateEntry.headersRead
    (entry : GateEntry)
    (c received : Nat) : List HeaderRead :=
  match entry.event with
  | .data k buffer =>
      if k = c then
        match entry.gate.tracedMessage (received + buffer.length) c
            (entry.gate.conn c).id buffer buffer.length with
        | .ok (_, _, reads) => reads
        | .error _ => []
      else
        []
  | _ => []

/-- The headers read for a connection along a run. -/
def headersRead
    (c : Nat) : Nat → List GateEntry → List HeaderRead
  | _, [] => []
  | received, entry :: later =>
      entry.headersRead c received ++
        headersRead c (received + arrived c [entry.event]) later

/--
A frame with a body that is complete while nobody gets it, with the bytes of
another header behind its own.  The connection had `kept` bytes of the frames
before the events.
-/
inductive Gate.Strands
    (gate : Gate)
    (c kept : Nat)
    (events : List GateEvent)
    (frames : List (WireFrame (gateFraming headerSize isHeaderSize))) :
    Prop where
  | leaves
      (earlier : List GateEvent)
      (chunk : List UInt8)
      (after : List GateEvent)
      (met : Gate)
      (past : List GateEntry)
      (done : List (WireFrame (gateFraming headerSize isHeaderSize)))
      (frame : WireFrame (gateFraming headerSize isHeaderSize))
      (later : List (WireFrame (gateFraming headerSize isHeaderSize)))
      (isEvents : events = earlier ++ .data c chunk :: after)
      (reached : gate.run earlier = .ok (met, past))
      (noTarget : ¬ met.HasTarget c)
      (isFrames : frames = done ++ frame :: later)
      (hasBody : frame.body ≠ [])
      (wasIncomplete :
        kept + arrived c earlier <
          (done.flatMap WireFrame.bytes).length + frame.bytes.length)
      (isComplete :
        (done.flatMap WireFrame.bytes).length + frame.bytes.length ≤
          kept + arrived c (earlier ++ [.data c chunk]))
      (hasMore :
        (done.flatMap WireFrame.bytes).length + headerSize + headerSize ≤
          kept + arrived c events)

variable
    {next : Gate}
    {event : GateEvent}
    {events : List GateEvent}
    {calls : List ServiceCall}
    {keptBytes : Nat}

theorem arrived_append
    (first second : List GateEvent) :
    arrived c (first ++ second) = arrived c first + arrived c second := by
  induction first with
  | nil =>
      simp [arrived, chunksFor]
  | cons event first inductionHypothesis =>
      unfold arrived at inductionHypothesis ⊢
      cases event with
      | data k buffer =>
          simp only [List.cons_append, chunksFor]
          split
          · simp only [List.flatten_cons, List.length_append,
              inductionHypothesis]
            omega
          · exact inductionHypothesis
      | forward k agentaddr clientaddr =>
          exact inductionHypothesis
      | broker handle =>
          exact inductionHypothesis
      | accept k ud =>
          exact inductionHypothesis
      | close k =>
          exact inductionHypothesis

@[simp] theorem arrived_data
    (buffer : List UInt8) :
    arrived c [.data c buffer] = buffer.length := by
  simp [arrived, chunksFor]

theorem GateEvent.Elsewhere.arrived
    (elsewhere : event.Elsewhere c) :
    arrived c [event] = 0 := by
  rw [SkynetCpp.arrived, elsewhere.chunksFor_cons]
  rfl

/-- An event in front of a run. -/
theorem Gate.run_cons
    {final : Gate}
    {trace : List GateEntry}
    (handled : gate.handle event = .ok (next, calls))
    (isRun : next.run events = .ok (final, trace)) :
    gate.run (event :: events) =
      .ok (final,
        { gate := gate, event := event, calls := calls } :: trace) := by
  simp only [Gate.run, handled, isRun, bind, Except.bind]

/-- A run behind its first event. -/
theorem Gate.exists_run_of_cons
    {final : Gate}
    {trace : List GateEntry}
    (handled : gate.handle event = .ok (next, calls))
    (isRun : gate.run (event :: events) = .ok (final, trace)) :
    ∃ later, next.run events = .ok (final, later) := by
  simp only [Gate.run, handled, bind, Except.bind] at isRun
  cases isLater : next.run events with
  | error fault =>
      rw [isLater] at isRun
      cases isRun
  | ok result =>
      rw [isLater] at isRun
      cases isRun
      exact ⟨result.2, rfl⟩

/-- Stranding behind an event is stranding with it in front. -/
theorem Gate.Strands.cons
    {done : List (WireFrame (gateFraming headerSize isHeaderSize))}
    {kept : Nat}
    (strands : next.Strands c kept events frames)
    (handled : gate.handle event = .ok (next, calls))
    (isKept :
      kept + (done.flatMap WireFrame.bytes).length =
        keptBytes + arrived c [event]) :
    gate.Strands c keptBytes (event :: events) (done ++ frames) := by
  obtain ⟨earlier, chunk, after, met, past, first, frame, later, isEvents,
    reached, noTarget, isFrames, hasBody, wasIncomplete, isComplete,
    hasMore⟩ := strands
  have front (more : List GateEvent) :
      arrived c (event :: more) = arrived c [event] + arrived c more :=
    arrived_append [event] more
  have isLength :
      ((done ++ first).flatMap WireFrame.bytes).length =
        (done.flatMap WireFrame.bytes).length +
          (first.flatMap WireFrame.bytes).length := by
    rw [List.flatMap_append, List.length_append]
  refine
    .leaves (event :: earlier) chunk after met _ (done ++ first) frame later
      (by rw [isEvents]; rfl) (Gate.run_cons handled reached) noTarget
      (by rw [isFrames, List.append_assoc]) hasBody ?_ ?_ ?_
  · rw [isLength, front]
    omega
  · rw [isLength, List.cons_append, front]
    omega
  · rw [isLength, front]
    omega

/-- Stranding is stranding behind the first event unless it happens there. -/
theorem Gate.Strands.of_cons
    {done : List (WireFrame (gateFraming headerSize isHeaderSize))}
    {kept : Nat}
    (strands : gate.Strands c keptBytes (event :: events) (done ++ frames))
    (handled : gate.handle event = .ok (next, calls))
    (isKept :
      kept + (done.flatMap WireFrame.bytes).length =
        keptBytes + arrived c [event])
    (notHere :
      ∀ chunk, event = .data c chunk →
        ∀ frame ∈ done, frame.body = [] ∨ gate.HasTarget c)
    (inFirst :
      ∀ frame later, frames = frame :: later → kept < frame.bytes.length) :
    next.Strands c kept events frames := by
  obtain ⟨earlier, chunk, after, met, past, first, frame, later, isEvents,
    reached, noTarget, isFrames, hasBody, wasIncomplete, isComplete,
    hasMore⟩ := strands
  have front (more : List GateEvent) :
      arrived c (event :: more) = arrived c [event] + arrived c more :=
    arrived_append [event] more
  rcases append_eq_append_cons isFrames with
    ⟨others, isDone⟩ | ⟨others, isFirst, isLater⟩
  · -- The frame was complete with the first event.
    exfalso
    have inDone :
        (first.flatMap WireFrame.bytes).length + frame.bytes.length ≤
          (done.flatMap WireFrame.bytes).length := by
      rw [isDone, List.flatMap_append, List.flatMap_cons, List.length_append,
        List.length_append]
      omega
    cases earlier with
    | nil =>
        cases isEvents
        cases reached
        rcases notHere chunk rfl frame (by simp [isDone]) with
          noBody | hasTarget
        · exact hasBody noBody
        · exact noTarget hasTarget
    | cons other earlier =>
        cases isEvents
        rw [front] at wasIncomplete
        omega
  · have isLength :
        (first.flatMap WireFrame.bytes).length =
          (done.flatMap WireFrame.bytes).length +
            (others.flatMap WireFrame.bytes).length := by
      rw [isFirst, List.flatMap_append, List.length_append]
    cases earlier with
    | nil =>
        exfalso
        cases isEvents
        rw [List.nil_append] at isComplete
        cases others with
        | nil =>
            have short := inFirst frame later isLater
            omega
        | cons other others =>
            have short := inFirst other _ isLater
            rw [List.flatMap_cons, List.length_append] at isLength
            omega
    | cons other earlier =>
        cases isEvents
        obtain ⟨pastLater, reachedLater⟩ :=
          Gate.exists_run_of_cons handled reached
        rw [front] at wasIncomplete hasMore
        rw [List.cons_append, front] at isComplete
        exact
          .leaves earlier chunk after met pastLater others frame later rfl
            reachedLater noTarget isLater hasBody (by omega) (by omega)
            (by omega)

/-- The first frame that nobody gets strands when a header is behind it. -/
theorem Gate.strands_here_iff
    (incomplete : (gateFraming headerSize isHeaderSize).Incomplete rest)
    {done : List (WireFrame (gateFraming headerSize isHeaderSize))}
    {frame : WireFrame (gateFraming headerSize isHeaderSize)}
    {later : List (WireFrame (gateFraming headerSize isHeaderSize))}
    (isData :
      rest ++ chunk =
        done.flatMap WireFrame.bytes ++ (frame.bytes ++ behind))
    (noBodies : ∀ other ∈ done, other.body = [])
    (hasBody : frame.body ≠ [])
    (noTarget : ¬ gate.HasTarget c)
    (events : List GateEvent) :
    gate.Strands c rest.length (.data c chunk :: events)
        (done ++ frame :: later) ↔
      (done.flatMap WireFrame.bytes).length + headerSize + headerSize ≤
        rest.length + arrived c (.data c chunk :: events) := by
  constructor
  · rintro ⟨earlier, chunk', after, met, past, first, other, others, _, _, _,
      isFrames, otherBody, _, _, hasMore⟩
    rcases append_eq_append_cons isFrames with
      ⟨more, isDone⟩ | ⟨more, isFirst, _⟩
    · exact (otherBody (noBodies other (by simp [isDone]))).elim
    · rw [isFirst, List.flatMap_append, List.length_append] at hasMore
      omega
  · intro hasMore
    have total := congrArg List.length isData
    simp only [List.length_append] at total
    refine
      .leaves [] chunk events gate [] done frame later rfl rfl noTarget rfl
        hasBody ?_ ?_ hasMore
    · have noneArrived : arrived c [] = 0 := rfl
      rw [noneArrived]
      cases done with
      | nil =>
          have short := incomplete.length_lt isData
          rw [List.flatMap_nil, List.length_nil]
          omega
      | cons other done =>
          rw [List.flatMap_cons, List.append_assoc] at isData
          have short := incomplete.length_lt isData
          rw [List.flatMap_cons, List.length_append]
          omega
    · rw [List.nil_append, arrived_data]
      omega

end Events

section Runs

variable
    {events : List GateEvent}
    {place : Nat}

/-- Every run is handled. -/
theorem Gate.run_returns
    (isHeaderSize : IsHeaderSize headerSize)
    (isGateSize : gate.header_size = headerSize)
    (buffers : Buffers gate.mp gate.bufs contents)
    (events : List GateEvent) :
    ∃ final trace, gate.run events = .ok (final, trace) := by
  induction events generalizing gate contents with
  | nil =>
      exact ⟨gate, [], rfl⟩
  | cons event events inductionHypothesis =>
      obtain ⟨next, calls, contents', handled, buffers', sameSize, _⟩ :=
        Gate.handle_returns isHeaderSize isGateSize buffers event
      obtain ⟨final, trace, isRun⟩ :=
        inductionHypothesis (sameSize.trans isGateSize) buffers'
      exact ⟨final, _, Gate.run_cons handled isRun⟩

/-- Every run behind a handled event is handled. -/
theorem Gate.returns_behind
    (isHeaderSize : IsHeaderSize headerSize)
    (isGateSize : gate.header_size = headerSize)
    (buffers : Buffers gate.mp gate.bufs contents)
    {event : GateEvent}
    {next : Gate}
    {calls : List ServiceCall}
    (handled : gate.handle event = .ok (next, calls))
    (events : List GateEvent) :
    ∃ final trace, next.run events = .ok (final, trace) := by
  obtain ⟨other, made, contents', isHandled, buffers', sameSize, _⟩ :=
    Gate.handle_returns isHeaderSize isGateSize buffers event
  rw [handled] at isHandled
  cases isHandled
  exact
    Gate.run_returns isHeaderSize (sameSize.trans isGateSize) buffers' events

/-- No header of the connection is read for an event elsewhere. -/
theorem GateEvent.Elsewhere.headersRead_eq_nil
    {entry : GateEntry}
    (elsewhere : entry.event.Elsewhere c)
    (received : Nat) :
    entry.headersRead c received = [] := by
  unfold GateEntry.headersRead
  cases isEvent : entry.event with
  | data k buffer =>
      rw [isEvent] at elsewhere
      exact if_neg elsewhere
  | forward k agentaddr clientaddr =>
      rfl
  | broker handle =>
      rfl
  | accept k ud =>
      rfl
  | close k =>
      rfl

/-- The headers read for a chunk are those of its `dispatch_message`. -/
theorem headersRead_data
    {calls made : List ServiceCall}
    {next : Gate}
    {reads : List HeaderRead}
    (isDone :
      gate.tracedMessage (received + chunk.length) c (gate.conn c).id chunk
          chunk.length = .ok (next, made, reads)) :
    GateEntry.headersRead
        { gate := gate, event := .data c chunk, calls := calls } c received =
      reads := by
  simp only [GateEntry.headersRead, if_true, isDone]

/-- A chunk is handled as the traced `dispatch_message` does. -/
theorem Gate.handle_of_traced
    {made : List ServiceCall}
    {next : Gate}
    {reads : List HeaderRead}
    (isDone :
      gate.tracedMessage received c (gate.conn c).id chunk chunk.length =
        .ok (next, made, reads)) :
    gate.handle (.data c chunk) = .ok (next, made) := by
  have projected :=
    gate.tracedMessage_untraced received c (gate.conn c).id chunk chunk.length
  rw [isDone] at projected
  exact projected.symm

/-- What the headers of a run are behind bytes that were left. -/
inductive Misread
    (headerSize place total : Nat)
    (reads : List HeaderRead) : Prop where
  | few
      (short : total < headerSize)
      (noReads : reads = [])
  | misread
      (bytes : List UInt8)
      (later : List HeaderRead)
      (long : headerSize ≤ total)
      (isRead : reads = { offset := place, bytes := bytes } :: later)

/-- A run behind a message that left bytes, or misread a header. -/
theorem LeftBehind.run
    {next : Gate}
    {reads : List HeaderRead}
    (leftBehind : LeftBehind next c headerSize place kept reads)
    (returns : ∃ final trace, next.run events = .ok (final, trace))
    (rest :
      ∀ contents : Nat → List UInt8,
        kept.length < headerSize → next.header_size = headerSize →
          Buffers next.mp next.bufs contents →
            Stranded next c contents kept →
              ∃ final trace,
                next.run events = .ok (final, trace) ∧
                  Misread headerSize place (kept.length + arrived c events)
                    (headersRead c received trace)) :
    ∃ final trace,
      next.run events = .ok (final, trace) ∧
        Misread headerSize place (kept.length + arrived c events)
          (reads ++ headersRead c received trace) := by
  cases leftBehind with
  | few contents short noReads sameSize buffers stranded =>
      rw [noReads]
      exact rest contents short sameSize buffers stranded
  | misread bytes first long isRead =>
      obtain ⟨final, trace, isRun⟩ := returns
      refine ⟨final, trace, isRun, ?_⟩
      rw [isRead]
      exact .misread bytes _ (by omega) rfl

/-- A run from bytes that were left. -/
theorem Gate.run_stranded
    (isHeaderSize : IsHeaderSize headerSize)
    (isGateSize : gate.header_size = headerSize)
    (keepsOpen : ∀ event ∈ events, event.KeepsOpen c)
    (buffers : Buffers gate.mp gate.bufs contents)
    (stranded : Stranded gate c contents kept)
    (short : kept.length < headerSize)
    (isReceived : received = place + kept.length) :
    ∃ final trace,
      gate.run events = .ok (final, trace) ∧
        Misread headerSize place (kept.length + arrived c events)
          (headersRead c received trace) := by
  induction events generalizing gate contents kept received with
  | nil =>
      exact ⟨gate, [], rfl, .few short rfl⟩
  | cons event events inductionHypothesis =>
      have keepsOpenLater : ∀ event ∈ events, event.KeepsOpen c :=
        fun other member => keepsOpen other (by simp [member])
      have front :
          arrived c (event :: events) =
            arrived c [event] + arrived c events :=
        arrived_append [event] events
      rcases (keepsOpen event (by simp)).elsewhere_or_data with
        elsewhere | ⟨chunk, isChunk⟩
      · obtain ⟨next, calls, contentsNext, handled, buffersNext, sameSize,
          same⟩ :=
          Gate.handle_returns isHeaderSize isGateSize buffers event
        obtain ⟨sameContents, sameBuffer, _⟩ := same c elsewhere
        obtain ⟨final, trace, isRun, misread⟩ :=
          inductionHypothesis (sameSize.trans isGateSize) keepsOpenLater
            buffersNext
            ⟨by rw [sameBuffer]; exact stranded.noHeader,
              by rw [sameContents]; exact stranded.contents⟩
            short isReceived
        refine ⟨final, _, Gate.run_cons handled isRun, ?_⟩
        let entry : GateEntry := { gate := gate, event := event, calls := calls }
        have noReads : entry.headersRead c received = [] :=
          GateEvent.Elsewhere.headersRead_eq_nil elsewhere received
        rw [headersRead, noReads, List.nil_append, front,
          elsewhere.arrived, Nat.zero_add]
        simpa [entry, elsewhere.arrived] using misread
      · subst isChunk
        have chunkReceived :
            received + chunk.length = place + (kept ++ chunk).length := by
          rw [isReceived, List.length_append, Nat.add_assoc]
        obtain ⟨next, calls, reads, isDone, leftBehind⟩ :=
          Gate.tracedMessage_stranded isHeaderSize isGateSize buffers stranded
            chunk chunkReceived (gate.conn c).id
        have handled := Gate.handle_of_traced isDone
        have isTotal :
            kept.length + arrived c (.data c chunk :: events) =
              (kept ++ chunk).length + arrived c events := by
          rw [front, arrived_data, List.length_append, Nat.add_assoc]
        obtain ⟨final, trace, isRun, misread⟩ :=
          leftBehind.run
            (Gate.returns_behind isHeaderSize isGateSize buffers handled events)
            fun contents' short' sameSize buffers' stranded' =>
              inductionHypothesis sameSize keepsOpenLater buffers' stranded'
                short' chunkReceived
        refine ⟨final, _, Gate.run_cons handled isRun, ?_⟩
        rw [isTotal, headersRead, headersRead_data isDone, arrived_data]
        exact misread

/-- The first header behind a rest that has it whole is that of the rest. -/
theorem exists_firstHeader
    {later : List (WireFrame (gateFraming headerSize isHeaderSize))}
    {middle more : List UInt8}
    (isData : middle ++ more = later.flatMap WireFrame.bytes ++ rest')
    (long : headerSize ≤ middle.length)
    (offset : Nat) :
    ∃ others,
      frameHeaders offset later ++
          restHeader headerSize
            (offset + (later.flatMap WireFrame.bytes).length) rest' =
        { offset := offset, bytes := middle.take headerSize } :: others := by
  have isFirst := congrArg (List.take headerSize) isData
  rw [List.take_append_of_le_length long] at isFirst
  cases later with
  | nil =>
      have longRest : headerSize ≤ rest'.length := by
        have total := congrArg List.length isData
        rw [List.flatMap_nil, List.nil_append, List.length_append] at total
        omega
      refine ⟨[], ?_⟩
      rw [isFirst]
      simp [frameHeaders, restHeader, longRest]
  | cons frame later =>
      have headerSized : frame.header.length = headerSize :=
        frame.header_length
      have isHeader : middle.take headerSize = frame.header := by
        rw [isFirst, List.flatMap_cons, WireFrame.bytes, List.append_assoc,
          List.append_assoc, List.take_left' headerSized]
      rw [isHeader]
      exact ⟨_, rfl⟩

/-- The headers behind a rest are those of a chunk and those behind it. -/
theorem headersBehind_append
    {done later : List (WireFrame (gateFraming headerSize isHeaderSize))}
    {middle more : List UInt8}
    (isData : rest ++ chunk = done.flatMap WireFrame.bytes ++ middle)
    (isLater : middle ++ more = later.flatMap WireFrame.bytes ++ rest')
    (offset : Nat) :
    headersBehind offset rest.length (done ++ later) rest' =
      headersBehind offset rest.length done middle ++
        headersBehind (offset + (done.flatMap WireFrame.bytes).length)
          middle.length later rest' := by
  let start := offset + (done.flatMap WireFrame.bytes).length
  let behind :=
    frameHeaders start later ++
      restHeader headerSize
        (start + (later.flatMap WireFrame.bytes).length) rest'
  let taken := if rest.length < headerSize then 0 else 1
  have isWhole :
      headersBehind offset rest.length (done ++ later) rest' =
        (frameHeaders offset done ++ behind).drop taken := by
    rw [headersBehind, frameHeaders_append, List.flatMap_append,
      List.length_append, ← Nat.add_assoc, List.append_assoc]
  have total := congrArg List.length isData
  simp only [List.length_append] at total
  rw [isWhole]
  by_cases short : middle.length < headerSize
  · have enough : taken ≤ (frameHeaders offset done).length := by
      simp only [taken]
      split
      · omega
      · next long =>
          cases done with
          | nil =>
              rw [List.flatMap_nil, List.length_nil] at total
              omega
          | cons frame done =>
              simp [frameHeaders]
    rw [headersBehind, headersBehind, restHeader,
      if_neg (Nat.not_le_of_lt short), if_pos short, List.append_nil,
      List.drop_append_of_le_length enough]
    rfl
  · have long := Nat.le_of_not_lt short
    obtain ⟨others, isBehind⟩ := exists_firstHeader isLater long start
    have enough :
        taken ≤
          (frameHeaders offset done ++
            [({ offset := start, bytes := middle.take headerSize } :
              HeaderRead)]).length := by
      rw [List.length_append, List.length_singleton]
      simp only [taken]
      split <;> omega
    rw [headersBehind, headersBehind, restHeader, if_pos long, if_neg short,
      isBehind, List.drop_succ_cons, List.drop_zero]
    rw [← List.drop_append_of_le_length enough, List.append_assoc]
    congr 2

/-- The headers behind a rest, from some frames on. -/
theorem headersBehind_of_ne_nil
    {first : List (WireFrame (gateFraming headerSize isHeaderSize))}
    (someFrames : first ≠ [])
    (offset kept : Nat)
    (second : List (WireFrame (gateFraming headerSize isHeaderSize)))
    (rest : List UInt8) :
    headersBehind offset kept (first ++ second) rest =
      (frameHeaders offset first).drop (if kept < headerSize then 0 else 1) ++
        (frameHeaders (offset + (first.flatMap WireFrame.bytes).length)
            second ++
          restHeader headerSize
            (offset + (first.flatMap WireFrame.bytes).length +
              (second.flatMap WireFrame.bytes).length) rest) := by
  obtain ⟨frame, others, rfl⟩ := List.exists_cons_of_ne_nil someFrames
  rw [headersBehind, frameHeaders_append, List.flatMap_append,
    List.length_append, List.append_assoc, List.drop_append_of_le_length,
    Nat.add_assoc]
  simp only [frameHeaders, List.length_cons]
  split <;> omega

/-- Headers behind bytes that were left are not those of the stream. -/
theorem Misread.prefix_iff
    {total : Nat}
    {reads : List HeaderRead}
    (misread : Misread headerSize place total reads)
    {later : List (WireFrame (gateFraming headerSize isHeaderSize))}
    {start : Nat}
    (behindPlace : place < start)
    (rest : List UInt8) :
    reads <+:
        frameHeaders start later ++
          restHeader headerSize
            (start + (later.flatMap WireFrame.bytes).length) rest ↔
      ¬ headerSize ≤ total := by
  cases misread with
  | few short noReads =>
      simp [noReads, short]
  | misread bytes others long isRead =>
      refine iff_of_false ?_ (by simp [long])
      rw [isRead]
      intro isPart
      cases later with
      | nil =>
          simp only [frameHeaders, List.nil_append, restHeader] at isPart
          split at isPart
          · have same := (List.cons_prefix_cons.mp isPart).1
            rw [HeaderRead.mk.injEq] at same
            simp only [List.flatMap_nil, List.length_nil] at same
            omega
          · simp at isPart
      | cons frame later =>
          have same := (List.cons_prefix_cons.mp isPart).1
          rw [HeaderRead.mk.injEq] at same
          omega

/--
The headers read along a run are those of the frames, in order, exactly when no
frame strands.
-/
theorem Gate.run_aligned_iff
    (isHeaderSize : IsHeaderSize headerSize)
    {rest rest' : List UInt8}
    {frames : List (WireFrame (gateFraming headerSize isHeaderSize))}
    (incomplete : (gateFraming headerSize isHeaderSize).Incomplete rest)
    (splits :
      (gateFraming headerSize isHeaderSize).Splits
        (rest ++ (chunksFor c events).flatten) frames rest')
    (announced : ∀ frame ∈ frames, Announced frame)
    (isGateSize : gate.header_size = headerSize)
    (isOpen : 0 < (gate.conn c).id)
    (keepsOpen : ∀ event ∈ events, event.KeepsOpen c)
    (buffers : Buffers gate.mp gate.bufs contents)
    (held : Held headerSize (gate.bufs c).header (contents c) rest)
    (isReceived : received = offset + rest.length) :
    ∃ final trace,
      gate.run events = .ok (final, trace) ∧
        (headersRead c received trace <+:
            headersBehind offset rest.length frames rest' ↔
          ¬ gate.Strands c rest.length events frames) := by
  induction events generalizing gate contents rest frames offset received with
  | nil =>
      refine ⟨gate, [], rfl, iff_of_true (List.nil_prefix) ?_⟩
      rintro ⟨earlier, chunk, after, met, past, done, frame, later, isEvents, _⟩
      simp at isEvents
  | cons event events inductionHypothesis =>
      have keepsOpenLater : ∀ event ∈ events, event.KeepsOpen c :=
        fun other member => keepsOpen other (by simp [member])
      rcases (keepsOpen event (by simp)).elsewhere_or_data with
        elsewhere | ⟨chunk, isChunk⟩
      · obtain ⟨next, calls, contentsNext, handled, buffersNext, sameSize,
          same⟩ :=
          Gate.handle_returns isHeaderSize isGateSize buffers event
        obtain ⟨sameContents, sameBuffer, sameId⟩ := same c elsewhere
        rw [elsewhere.chunksFor_cons] at splits
        obtain ⟨final, trace, isRun, aligned⟩ :=
          inductionHypothesis incomplete splits announced
            (sameSize.trans isGateSize) (by rw [sameId]; exact isOpen)
            keepsOpenLater buffersNext
            (by rw [sameContents, sameBuffer]; exact held) isReceived
        refine ⟨final, _, Gate.run_cons handled isRun, ?_⟩
        let entry : GateEntry := { gate := gate, event := event, calls := calls }
        have noReads : entry.headersRead c received = [] :=
          GateEvent.Elsewhere.headersRead_eq_nil elsewhere received
        have sameReads :
            headersRead c received (entry :: trace) =
              headersRead c received trace := by
          rw [headersRead, noReads, List.nil_append]
          simp only [entry, elsewhere.arrived, Nat.add_zero]
        have isKept :
            rest.length +
                (([] : List (WireFrame (gateFraming headerSize
                  isHeaderSize))).flatMap WireFrame.bytes).length =
              rest.length + arrived c [event] := by
          rw [elsewhere.arrived]
          rfl
        rw [sameReads, aligned, not_iff_not]
        constructor
        · intro strands
          exact strands.cons handled isKept
        · intro strands
          have strandsBehind :
              gate.Strands c rest.length (event :: events) ([] ++ frames) :=
            strands
          refine strandsBehind.of_cons handled isKept ?_ ?_
          · intro chunk isChunk
            simp
          · intro frame later isFrames
            apply incomplete.length_lt
            rw [splits.stream_eq, isFrames, List.flatMap_cons,
              List.append_assoc]
      · subst isChunk
        have isFlat :
            rest ++ (chunksFor c (.data c chunk :: events)).flatten =
              (rest ++ chunk) ++ (chunksFor c events).flatten := by
          simp [chunksFor]
        rw [isFlat] at splits
        obtain ⟨completed, middle, splitsChunk⟩ :=
          (gateFraming headerSize isHeaderSize).exists_splits (rest ++ chunk)
        obtain ⟨later, isFrames, splitsLater⟩ :=
          splitsChunk.exists_append splits
        subst isFrames
        have chunkReceived :
            received + chunk.length = offset + (rest ++ chunk).length := by
          rw [isReceived, List.length_append, Nat.add_assoc]
        have total := congrArg List.length splitsChunk.stream_eq
        simp only [List.length_append] at total
        by_cases taken :
            ∀ frame ∈ completed, frame.body = [] ∨ gate.HasTarget c
        · -- Everything that the chunk completes is taken out of the buffer.
          obtain ⟨db, mp, bytes, calls, isDone, buffersDone, heldDone⟩ :=
            Gate.tracedMessage_taken incomplete splitsChunk
              (fun frame member => announced frame (by simp [member])) taken
              isGateSize isOpen buffers held chunkReceived (gate.conn c).id
          have handled := Gate.handle_of_traced isDone
          let next := gate.setBuffer c db mp
          have nextBuffers :
              Buffers next.mp next.bufs (Function.update contents c bytes) := by
            simpa [next] using buffersDone
          have nextHeld :
              Held headerSize (next.bufs c).header
                (Function.update contents c bytes c) middle := by
            simpa [next] using heldDone
          have nextReceived :
              received + chunk.length =
                offset + (completed.flatMap WireFrame.bytes).length +
                  middle.length := by
            rw [chunkReceived, List.length_append]
            omega
          obtain ⟨final, trace, isRun, aligned⟩ :=
            inductionHypothesis splitsChunk.incomplete splitsLater
              (fun frame member => announced frame (by simp [member]))
              (by simpa [next] using isGateSize) (by simpa [next] using isOpen)
              keepsOpenLater nextBuffers nextHeld nextReceived
          refine ⟨final, _, Gate.run_cons handled isRun, ?_⟩
          have isKept :
              middle.length + (completed.flatMap WireFrame.bytes).length =
                rest.length + arrived c [.data c chunk] := by
            rw [arrived_data]
            omega
          rw [headersRead, headersRead_data isDone, arrived_data,
            headersBehind_append splitsChunk.stream_eq splitsLater.stream_eq,
            List.prefix_append_right_inj, aligned, not_iff_not]
          constructor
          · intro strands
            exact strands.cons handled isKept
          · intro strands
            refine strands.of_cons handled isKept (fun _ _ => taken) ?_
            intro frame others isFrames
            apply splitsChunk.incomplete.length_lt
            rw [splitsLater.stream_eq, isFrames, List.flatMap_cons,
              List.append_assoc]
        · -- The first frame with a body is left in the buffer.
          obtain ⟨done, frame, others, isCompleted, doneTaken, notTaken⟩ :=
            exists_first_not taken
          rw [not_or] at notTaken
          obtain ⟨hasBody, noTarget⟩ := notTaken
          subst isCompleted
          have noBodies : ∀ other ∈ done, other.body = [] :=
            fun other member =>
              (doneTaken other member).resolve_right noTarget
          let left := others.flatMap WireFrame.bytes ++ middle
          have isData :
              rest ++ chunk =
                done.flatMap WireFrame.bytes ++ (frame.bytes ++ left) := by
            rw [splitsChunk.stream_eq, List.flatMap_append, List.flatMap_cons]
            simp only [left, List.append_assoc]
          obtain ⟨next, calls, reads, isDone, leftBehind⟩ :=
            Gate.tracedMessage_leaves incomplete isData
              (fun other member => announced other (by simp [member]))
              (announced frame (by simp)) noBodies hasBody noTarget isGateSize
              isOpen buffers held chunkReceived (gate.conn c).id
          have handled := Gate.handle_of_traced isDone
          let place :=
            offset + (done.flatMap WireFrame.bytes).length + headerSize
          have isLength :
              frame.bytes.length = headerSize + frame.body.length := by
            have headerSized : frame.header.length = headerSize :=
              frame.header_length
            rw [WireFrame.bytes, List.length_append, headerSized]
          have dataLength := congrArg List.length isData
          simp only [List.length_append, isLength] at dataLength
          have leftReceived :
              received + chunk.length = place + (frame.body ++ left).length := by
            rw [isReceived, List.length_append]
            simp only [place]
            omega
          obtain ⟨final, trace, isRun, misread⟩ :=
            leftBehind.run
              (Gate.returns_behind isHeaderSize isGateSize buffers handled
                events)
              fun contents' short sameSize buffers' stranded =>
                Gate.run_stranded isHeaderSize sameSize keepsOpenLater buffers'
                  stranded short leftReceived
          refine ⟨final, _, Gate.run_cons handled isRun, ?_⟩
          have isStart :
              offset + ((done ++ [frame]).flatMap WireFrame.bytes).length =
                place + frame.body.length := by
            rw [List.flatMap_append, List.length_append]
            simp only [List.flatMap_cons, List.flatMap_nil, List.append_nil,
              isLength, place]
            omega
          have positive := List.length_pos_iff.mpr hasBody
          have isBehind :
              (done ++ frame :: others) ++ later =
                (done ++ [frame]) ++ (others ++ later) := by
            simp
          have inOneList :
              (done ++ frame :: others) ++ later =
                done ++ frame :: (others ++ later) := by
            simp
          have front :
              arrived c (.data c chunk :: events) =
                chunk.length + arrived c events := by
            rw [← List.singleton_append, arrived_append, arrived_data]
          have enough :
              headerSize ≤ (frame.body ++ left).length + arrived c events ↔
                (done.flatMap WireFrame.bytes).length + headerSize +
                    headerSize ≤
                  rest.length + arrived c (.data c chunk :: events) := by
            rw [front, List.length_append]
            omega
          rw [headersRead, headersRead_data isDone, arrived_data,
            List.append_assoc, isBehind, headersBehind_of_ne_nil (by simp),
            List.prefix_append_right_inj, isStart,
            misread.prefix_iff (by omega), enough, ← isBehind, inOneList,
            Gate.strands_here_iff incomplete isData noBodies hasBody noTarget]

/--
Whenever a header is read along the run, it is the header of the next frame of
the stream.
-/
def Gate.Aligned
    (gate : Gate)
    (c : Nat)
    (events : List GateEvent)
    (frames : List (WireFrame (gateFraming headerSize isHeaderSize)))
    (rest : List UInt8) : Prop :=
  ∃ final trace,
    gate.run events = .ok (final, trace) ∧
      headersRead c 0 trace <+:
        frameHeaders 0 frames ++
          restHeader headerSize (frames.flatMap WireFrame.bytes).length rest

/-- A connection that always has a receiver strands nothing. -/
theorem Gate.ReceivesThroughout.not_strands
    (receives : gate.ReceivesThroughout c events)
    (frames : List (WireFrame (gateFraming headerSize isHeaderSize))) :
    ¬ gate.Strands c 0 events frames := by
  rintro ⟨earlier, chunk, after, met, past, _, _, _, isEvents, reached,
    noTarget, _⟩
  exact noTarget (Or.inl (receives earlier _ isEvents met past reached))

/-- What has come before leaves a connection without bytes with clean buffers. -/
theorem Gate.Fresh.held
    (isHeaderSize : IsHeaderSize headerSize)
    {start : Gate}
    {earlier : List GateEvent}
    {past : List GateEntry}
    (fresh : start.Fresh headerSize)
    (reached : start.run earlier = .ok (gate, past))
    (isEmpty : (gate.bufs c).header = 0 ∧ (gate.bufs c).size = 0) :
    gate.header_size = headerSize ∧
      ∃ contents,
        Buffers gate.mp gate.bufs contents ∧
          Held headerSize (gate.bufs c).header (contents c) [] := by
  have startBuffers : Buffers start.mp start.bufs fun _ => [] := by
    have areZero : start.bufs = fun _ => .zero := funext fresh.bufs
    rw [fresh.mp, areZero]
    exact .zero
  obtain ⟨isGateSize, contents, buffers⟩ :=
    Gate.buffers_of_run isHeaderSize fresh.header_size startBuffers reached
  have noBytes : contents c = [] := by
    have isSize := buffers.size c
    rw [isEmpty.2] at isSize
    exact List.length_eq_zero_iff.mp (by exact_mod_cast isSize.symm)
  have positive : 0 < headerSize := by
    rcases isHeaderSize with isTwo | isFour <;> omega
  refine ⟨isGateSize, contents, buffers, ?_⟩
  rw [Held, if_pos (by simpa using positive)]
  exact ⟨isEmpty.1, noBytes⟩

/--
However the frames of a connection are cut into chunks, and whatever happens to
the gate in between, every header that is read is that of the next frame,
exactly when no frame is left in the buffer with a header behind it.
-/
theorem Gate.aligned_iff
    (isHeaderSize : IsHeaderSize headerSize)
    {start gate : Gate}
    {earlier events : List GateEvent}
    {past : List GateEntry}
    {rest : List UInt8}
    {frames : List (WireFrame (gateFraming headerSize isHeaderSize))}
    (fresh : start.Fresh headerSize)
    (reached : start.run earlier = .ok (gate, past))
    (isOpen : 0 < (gate.conn c).id)
    (isEmpty : (gate.bufs c).header = 0 ∧ (gate.bufs c).size = 0)
    (keepsOpen : ∀ event ∈ events, event.KeepsOpen c)
    (splits :
      (gateFraming headerSize isHeaderSize).Splits
        (chunksFor c events).flatten frames rest)
    (announced : ∀ frame ∈ frames, Announced frame) :
    gate.Aligned c events frames rest ↔ ¬ gate.Strands c 0 events frames := by
  obtain ⟨isGateSize, contents, buffers, held⟩ :=
    fresh.held isHeaderSize reached isEmpty
  obtain ⟨final, trace, isRun, aligned⟩ :=
    Gate.run_aligned_iff isHeaderSize Framing.incomplete_nil
      (by rw [List.nil_append]; exact splits) announced isGateSize isOpen
      keepsOpen buffers held (show 0 = 0 + 0 from rfl)
  have positive : 0 < headerSize := by
    rcases isHeaderSize with isTwo | isFour <;> omega
  have isExpected :
      headersBehind 0 ([] : List UInt8).length frames rest =
        frameHeaders 0 frames ++
          restHeader headerSize (frames.flatMap WireFrame.bytes).length
            rest := by
    rw [headersBehind, List.length_nil, if_pos positive, List.drop_zero,
      Nat.zero_add]
  rw [isExpected] at aligned
  rw [← List.length_nil (α := UInt8), ← aligned]
  constructor
  · rintro ⟨other, otherTrace, isOther, isPart⟩
    rw [isRun] at isOther
    cases isOther
    exact isPart
  · intro isPart
    exact ⟨final, trace, isRun, isPart⟩

/-- A frame with one byte. -/
def byteFrame (byte : UInt8) : WireFrame (gateFraming 2 (Or.inl rfl)) where
  header := [0, 1]
  body := [byte]
  header_length := rfl
  body_length := rfl

/-- Frames with one byte announce it. -/
theorem byteFrame_announced
    (byte : UInt8) :
    Announced (byteFrame byte) := by
  constructor
  · show headerLength 2 [0, 1] = 1
    decide
  · show 1 < 0x1000000
    decide

/-- The headers that the gate reads for its broker are in their places. -/
theorem brokerGate_aligned :
    brokerGate.Aligned 0 [.data 0 [0, 1], .data 0 [65, 0]] [byteFrame 65]
      [0] := by
  have reached : brokerGate.run [] = .ok (brokerGate, []) := rfl
  refine
    (Gate.aligned_iff (Or.inl rfl) brokerGate_fresh reached (by decide)
      ⟨rfl, rfl⟩ (by decide) ⟨rfl, ?_⟩ ?_).mpr
      ((brokerGate_receives (by decide)).not_strands _)
  · intro long
    exact absurd long (by decide)
  · intro frame member
    cases List.mem_singleton.mp member
    exact byteFrame_announced 65

/-- A gate with two-byte headers that has nobody to send to. -/
def nobodyGate : Gate :=
  { brokerGate with broker := 0 }

/-- The headers that `nobodyGate` reads along a run. -/
def nobodyHeaders (events : List GateEvent) : List HeaderRead :=
  match nobodyGate.run events with
  | .ok (_, trace) => headersRead 0 0 trace
  | .error _ => []

/-- The second header is read out of the first frame. -/
theorem nobodyGate_not_aligned :
    ¬ nobodyGate.Aligned 0 [.data 0 [0, 1, 65, 0, 1, 66]]
      [byteFrame 65, byteFrame 66] [] := by
  rintro ⟨final, trace, isRun, isPart⟩
  have reads :
      (nobodyHeaders [.data 0 [0, 1, 65, 0, 1, 66]]).take 2 =
        [{ offset := 0, bytes := [0, 1] }, { offset := 2, bytes := [65, 0] }] := by
    decide
  simp only [nobodyHeaders, isRun] at reads
  have isSecond :
      (headersRead 0 0 trace)[1]? = some { offset := 2, bytes := [65, 0] } := by
    rw [← List.getElem?_take_of_lt (show 1 < 2 by decide), reads]
    rfl
  obtain ⟨inside, isAt⟩ := List.getElem?_eq_some_iff.mp isSecond
  have isNext := List.prefix_iff_getElem?.mp isPart 1 inside
  rw [isAt] at isNext
  exact absurd isNext (by decide)

end Runs

end SkynetCpp
