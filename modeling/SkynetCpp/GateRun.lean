import Mathlib.Data.List.Infix
import SkynetCpp.Foundation.BigEndian
import SkynetCpp.GateFrames

namespace SkynetCpp

open Foundation

/-!
# Runs of the gate

Chunks of all connections, changes of receivers and connections that come and
go may be interleaved; the pool of message nodes is shared by all of them.
For one connection that stays open and keeps a receiver, the messages sent for
its chunks are those of the frames of its whole stream.
-/

/-- A frame with a big-endian length in front. -/
def encodeFrame
    (headerSize : Nat)
    (body : List UInt8) : List UInt8 :=
  toBytes headerSize body.length ++ body

/-- A body whose length is below 2^24 and fits the header. -/
def Encodable
    (headerSize : Nat)
    (body : List UInt8) : Prop :=
  body.length < 0x1000000 ∧ body.length < 256 ^ headerSize

instance
    (headerSize : Nat)
    (body : List UInt8) :
    Decidable (Encodable headerSize body) :=
  inferInstanceAs (Decidable (_ ∧ _))

/-- The header gives back the length that it was made of. -/
theorem headerLength_toBytes
    {headerSize : Nat}
    (isHeaderSize : IsHeaderSize headerSize)
    {body : List UInt8}
    (encodable : Encodable headerSize body) :
    headerLength headerSize (toBytes headerSize body.length) = body.length := by
  obtain ⟨isSmall, fits⟩ := encodable
  rcases isHeaderSize with isTwo | isFour
  · subst isTwo
    have written := ofBytes_toBytes 2 body.length
    rw [Nat.mod_eq_of_lt fits] at written
    simp only [toBytes] at written
    simp only [headerLength, toBytes]
    rw [if_pos (by decide)]
    simp only [List.getD_cons_zero, List.getD_cons_succ]
    rw [ofBytes_pair, written]
  · subst isFour
    have written := ofBytes_toBytes 4 body.length
    rw [Nat.mod_eq_of_lt fits] at written
    simp only [toBytes] at written
    simp only [headerLength, toBytes]
    rw [if_neg (by decide)]
    simp only [List.getD_cons_zero, List.getD_cons_succ]
    rw [ofBytes_quadruple, written]
    exact toInt32_of_bounds (by omega) (by omega)

/-- An encoded frame, as a frame of the gate. -/
def frameOf
    {headerSize : Nat}
    (isHeaderSize : IsHeaderSize headerSize)
    (body : List UInt8)
    (encodable : Encodable headerSize body) :
    WireFrame (gateFraming headerSize isHeaderSize) where
  header := toBytes headerSize body.length
  body := body
  header_length := length_toBytes headerSize body.length
  body_length := by
    simp only [gateFraming, headerLength_toBytes isHeaderSize encodable]
    rfl

/-- A stream of encoded frames splits into these frames. -/
theorem exists_frames
    {headerSize : Nat}
    (isHeaderSize : IsHeaderSize headerSize)
    {payloads : List (List UInt8)}
    (encodable : ∀ body ∈ payloads, Encodable headerSize body) :
    ∃ frames : List (WireFrame (gateFraming headerSize isHeaderSize)),
      frames.map WireFrame.body = payloads ∧
        frames.flatMap WireFrame.bytes =
          payloads.flatMap (encodeFrame headerSize) ∧
        ∀ frame ∈ frames, Announced frame := by
  induction payloads with
  | nil =>
      exact ⟨[], rfl, rfl, by simp⟩
  | cons body later inductionHypothesis =>
      have isEncodable := encodable body (by simp)
      obtain ⟨frames, areBodies, areBytes, announced⟩ :=
        inductionHypothesis fun other member =>
          encodable other (by simp [member])
      refine ⟨frameOf isHeaderSize body isEncodable :: frames, ?_, ?_, ?_⟩
      · simp [frameOf, areBodies]
      · rw [List.flatMap_cons, List.flatMap_cons, areBytes]
        rfl
      · intro frame member
        rcases List.mem_cons.mp member with isFirst | isLater
        · subst isFirst
          exact
            ⟨headerLength_toBytes isHeaderSize isEncodable, isEncodable.1⟩
        · exact announced frame isLater

/-- A proper part of an encoded frame is an incomplete rest. -/
theorem incomplete_of_encoded
    {headerSize : Nat}
    (isHeaderSize : IsHeaderSize headerSize)
    {body unfinished more : List UInt8}
    (encodable : Encodable headerSize body)
    (isPart : unfinished ++ more = encodeFrame headerSize body)
    (proper : more ≠ []) :
    (gateFraming headerSize isHeaderSize).Incomplete unfinished := by
  have isFrame :
      unfinished ++ more = (frameOf isHeaderSize body encodable).bytes :=
    isPart
  exact Framing.incomplete_of_prefix isFrame proper

section Events

variable
    {headerSize c : Nat}
    {gate : Gate}
    {contents : Nat → List UInt8}

/-- Frames take at least their headers. -/
theorem frames_length_le
    {isHeaderSize : IsHeaderSize headerSize}
    (frames : List (WireFrame (gateFraming headerSize isHeaderSize))) :
    frames.length * headerSize ≤ (frames.flatMap WireFrame.bytes).length := by
  induction frames with
  | nil =>
      simp
  | cons frame later inductionHypothesis =>
      have headerSized : frame.header.length = headerSize :=
        frame.header_length
      rw [List.length_cons, List.flatMap_cons, List.length_append,
        WireFrame.bytes, List.length_append, headerSized, Nat.succ_mul]
      omega

/-- A chunk behind the rest that a buffer holds, with rounds for its frames. -/
theorem exists_pushed
    (isHeaderSize : IsHeaderSize headerSize)
    {rest : List UInt8}
    (incomplete : (gateFraming headerSize isHeaderSize).Incomplete rest)
    (buffers : Buffers gate.mp gate.bufs contents)
    (held : Held headerSize (gate.bufs c).header (contents c) rest)
    (chunk : List UInt8) :
    ∃ db mp,
      databufferPush (gate.bufs c) gate.mp chunk chunk.length = .ok (db, mp) ∧
        Buffers mp (Function.update gate.bufs c db)
          (Function.update contents c (contents c ++ chunk)) ∧
        db.header = (gate.bufs c).header ∧
        Pending headerSize db.header (contents c ++ chunk) (rest ++ chunk) ∧
        ∀ (frames : List (WireFrame (gateFraming headerSize isHeaderSize)))
          (behind : List UInt8),
          rest ++ chunk = frames.flatMap WireFrame.bytes ++ behind →
            frames.length < db.size.toNat + 2 := by
  obtain ⟨db, mp, isPushed, buffersPushed, sameHeader⟩ :=
    databufferPush_spec buffers c chunk
  have isSize : db.size = (contents c ++ chunk).length := by
    simpa using buffersPushed.size c
  refine ⟨db, mp, isPushed, buffersPushed, sameHeader, ?_, ?_⟩
  · rw [sameHeader]
    exact held.pending isHeaderSize incomplete chunk
  · intro frames behind isData
    have notMore := frames_length_le frames
    have isLength := congrArg List.length isData
    simp only [List.length_append] at isLength
    have nearly : rest.length ≤ (contents c).length + headerSize := by
      unfold Held at held
      split at held
      · rw [held.2]
        omega
      · rw [held.2, List.length_drop]
        omega
    rw [isSize, List.length_append]
    rcases isHeaderSize with isTwo | isFour
    · subst isTwo
      omega
    · subst isFour
      omega

/-- `dispatch_message` sends the frames that its chunk completes. -/
theorem Gate.dispatchMessage_spec
    (isHeaderSize : IsHeaderSize headerSize)
    {rest rest' chunk : List UInt8}
    {frames : List (WireFrame (gateFraming headerSize isHeaderSize))}
    (incomplete : (gateFraming headerSize isHeaderSize).Incomplete rest)
    (splits :
      (gateFraming headerSize isHeaderSize).Splits (rest ++ chunk) frames
        rest')
    (announced : ∀ frame ∈ frames, Announced frame)
    (isGateSize : gate.header_size = headerSize)
    (isOpen : 0 < (gate.conn c).id)
    (receiver : gate.HasReceiver c)
    (buffers : Buffers gate.mp gate.bufs contents)
    (held : Held headerSize (gate.bufs c).header (contents c) rest)
    (id : Int) :
    ∃ db mp bytes,
      gate.dispatchMessage c id chunk chunk.length =
          .ok (gate.setBuffer c db mp,
            (bodies frames).map (gate.forwarded c)) ∧
        Buffers mp (Function.update gate.bufs c db)
          (Function.update contents c bytes) ∧
        Held headerSize db.header bytes rest' := by
  obtain ⟨db, mp, isPushed, buffersPushed, _, isPending, enough⟩ :=
    exists_pushed isHeaderSize incomplete buffers held chunk
  let pushed := gate.setBuffer c db mp
  have pushedBuffers :
      Buffers pushed.mp pushed.bufs
        (Function.update contents c (contents c ++ chunk)) := by
    simpa [pushed] using buffersPushed
  have pending :
      Pending headerSize (pushed.bufs c).header
        (Function.update contents c (contents c ++ chunk) c)
        (rest ++ chunk) := by
    simpa [pushed] using isPending
  obtain ⟨last, mpLast, bytes, isDone, buffersLast, heldLast⟩ :=
    Gate.dispatchMessageLoop_spec isHeaderSize splits announced
      (by simpa [pushed] using isGateSize) (by simpa [pushed] using isOpen)
      (by simpa [pushed] using receiver) pushedBuffers pending
      (enough frames rest' splits.stream_eq) id
  refine ⟨last, mpLast, bytes, ?_, by simpa [pushed] using buffersLast,
    heldLast⟩
  have isBuffer : (gate.conn c).buffer = gate.bufs c := rfl
  simp only [Gate.dispatchMessage, isBuffer, isPushed, bind, Except.bind]
  simpa [pushed] using isDone

/-- `dispatch_message` returns and keeps the buffers of the others. -/
theorem Gate.dispatchMessage_returns
    (isHeaderSize : IsHeaderSize headerSize)
    (isGateSize : gate.header_size = headerSize)
    (buffers : Buffers gate.mp gate.bufs contents)
    (c : Nat)
    (id : Int)
    (chunk : List UInt8) :
    ∃ db mp calls bytes,
      gate.dispatchMessage c id chunk chunk.length =
          .ok (gate.setBuffer c db mp, calls) ∧
        Buffers mp (Function.update gate.bufs c db)
          (Function.update contents c bytes) := by
  obtain ⟨db, mp, isPushed, buffersPushed, sameHeader⟩ :=
    databufferPush_spec buffers c chunk
  let pushed := gate.setBuffer c db mp
  have pushedBuffers :
      Buffers pushed.mp pushed.bufs
        (Function.update contents c (contents c ++ chunk)) := by
    simpa [pushed] using buffersPushed
  have isSize : db.size = (contents c ++ chunk).length := by
    simpa [pushed] using pushedBuffers.size c
  have fueled :
      (Function.update contents c (contents c ++ chunk) c).length +
          (if (pushed.bufs c).header = 0 then 0 else 1) <
        db.size.toNat + 2 := by
    rw [Function.update_self, isSize]
    split <;> omega
  obtain ⟨last, mpLast, calls, bytes, isDone, buffersLast⟩ :=
    Gate.dispatchMessageLoop_returns isHeaderSize
      (by simpa [pushed] using isGateSize) pushedBuffers c id fueled
  refine ⟨last, mpLast, calls, bytes, ?_, by simpa [pushed] using buffersLast⟩
  have isBuffer : (gate.conn c).buffer = gate.bufs c := rfl
  simp only [Gate.dispatchMessage, isBuffer, isPushed, bind, Except.bind]
  simpa [pushed] using isDone

/-- The event neither feeds nor opens nor closes the connection. -/
def GateEvent.Elsewhere
    (c : Nat) : GateEvent → Prop
  | .data k _ => k ≠ c
  | .forward _ _ _ => True
  | .broker _ => True
  | .accept k _ => k ≠ c
  | .close k => k ≠ c

/-- The event neither opens nor closes the connection. -/
def GateEvent.KeepsOpen
    (c : Nat) : GateEvent → Prop
  | .data _ _ => True
  | .forward _ _ _ => True
  | .broker _ => True
  | .accept k _ => k ≠ c
  | .close k => k ≠ c

instance
    (c : Nat)
    (event : GateEvent) :
    Decidable (event.KeepsOpen c) :=
  match event with
  | .data _ _ => inferInstanceAs (Decidable True)
  | .forward _ _ _ => inferInstanceAs (Decidable True)
  | .broker _ => inferInstanceAs (Decidable True)
  | .accept k _ => inferInstanceAs (Decidable (k ≠ c))
  | .close k => inferInstanceAs (Decidable (k ≠ c))

/-- A change that leaves the buffer of a connection leaves all buffers. -/
theorem Gate.modify_bufs
    {change : Connection → Connection}
    (k : Nat)
    (sameBuffer : (change (gate.conn k)).buffer = (gate.conn k).buffer) :
    (gate.modify k change).bufs = gate.bufs := by
  funext c
  by_cases same : c = k
  · subst same
    simp [Gate.bufs, Gate.modify, sameBuffer]
  · simp [Gate.bufs, Gate.modify, same]

/-- The buffer of a connection that is closed is empty. -/
theorem Gate.handle_close
    (buffers : Buffers gate.mp gate.bufs contents)
    (k : Nat) :
    ∃ mp,
      let closed : Connection :=
        { id := -1, agent := 0, client := 0, buffer := .zero }
      let next : Gate := { gate.modify k (fun _ => closed) with mp := mp }
      gate.handle (.close k) = .ok (next, []) ∧
        next.bufs = Function.update gate.bufs k .zero ∧
        Buffers mp (Function.update gate.bufs k .zero)
          (Function.update contents k []) := by
  obtain ⟨mp, cleared, buffers'⟩ := databufferClear_spec buffers k
  have isBuffer : (gate.conn k).buffer = gate.bufs k := rfl
  refine ⟨mp, ?_, ?_, buffers'⟩
  · simp only [Gate.handle, isBuffer, cleared]
    rfl
  · funext c
    by_cases same : c = k
    · subst same
      simp [Gate.bufs, Gate.modify]
    · simp [Gate.bufs, Gate.modify, same]

/-- Every event is handled, and leaves the other connections' buffers. -/
theorem Gate.handle_returns
    (isHeaderSize : IsHeaderSize headerSize)
    (isGateSize : gate.header_size = headerSize)
    (buffers : Buffers gate.mp gate.bufs contents)
    (event : GateEvent) :
    ∃ next calls contents',
      gate.handle event = .ok (next, calls) ∧
        Buffers next.mp next.bufs contents' ∧
        next.header_size = gate.header_size ∧
        ∀ c, event.Elsewhere c →
          contents' c = contents c ∧ next.bufs c = gate.bufs c ∧
            (next.conn c).id = (gate.conn c).id := by
  cases event with
  | data k chunk =>
      obtain ⟨db, mp, calls, bytes, isDone, buffers'⟩ :=
        Gate.dispatchMessage_returns isHeaderSize isGateSize buffers k
          (gate.conn k).id chunk
      refine
        ⟨gate.setBuffer k db mp, calls, Function.update contents k bytes,
          isDone, by simpa using buffers', rfl, ?_⟩
      intro c elsewhere
      have different : c ≠ k := fun same => elsewhere same.symm
      simp [different]
  | forward k agentaddr clientaddr =>
      have sameBufs :
          (gate.modify k fun connection =>
            { connection with
              agent := agentaddr, client := clientaddr }).bufs = gate.bufs :=
        Gate.modify_bufs k rfl
      refine ⟨_, [], contents, rfl, ?_, rfl, ?_⟩
      · rw [sameBufs]
        exact buffers
      · intro c _
        refine ⟨rfl, by rw [sameBufs], ?_⟩
        by_cases same : c = k
        · subst same
          simp [Gate.modify]
        · simp [Gate.modify, same]
  | broker handle =>
      exact ⟨_, [], contents, rfl, buffers, rfl, fun _ _ => ⟨rfl, rfl, rfl⟩⟩
  | accept k ud =>
      have sameBufs :
          (gate.modify k fun connection =>
            { connection with id := ud }).bufs = gate.bufs :=
        Gate.modify_bufs k rfl
      refine ⟨_, [], contents, rfl, ?_, rfl, ?_⟩
      · rw [sameBufs]
        exact buffers
      · intro c elsewhere
        have different : c ≠ k := fun same => elsewhere same.symm
        exact ⟨rfl, by rw [sameBufs], by simp [Gate.modify, different]⟩
  | close k =>
      obtain ⟨mp, closed, closedBufs, buffers'⟩ := Gate.handle_close buffers k
      refine
        ⟨_, [], Function.update contents k [], closed, ?_, rfl, ?_⟩
      · rw [closedBufs]
        exact buffers'
      · intro c elsewhere
        have different : c ≠ k := fun same => elsewhere same.symm
        refine ⟨by simp [different], by rw [closedBufs]; simp [different], ?_⟩
        simp [Gate.modify, different]

/-- The chunks that a connection gets. -/
def chunksFor
    (c : Nat) : List GateEvent → List (List UInt8)
  | [] => []
  | .data k buffer :: events =>
      if k = c then buffer :: chunksFor c events else chunksFor c events
  | _ :: events => chunksFor c events

/-- The calls made for a chunk of a connection. -/
def GateEntry.sentFor
    (entry : GateEntry)
    (c : Nat) : List ServiceCall :=
  match entry.event with
  | .data k _ => if k = c then entry.calls else []
  | _ => []

/-- An event elsewhere brings the connection no chunk. -/
theorem GateEvent.Elsewhere.chunksFor_cons
    {event : GateEvent}
    (elsewhere : event.Elsewhere c)
    (events : List GateEvent) :
    chunksFor c (event :: events) = chunksFor c events := by
  cases event with
  | data k buffer =>
      exact if_neg elsewhere
  | forward k agentaddr clientaddr =>
      rfl
  | broker handle =>
      rfl
  | accept k ud =>
      rfl
  | close k =>
      rfl

/-- Nothing is sent for the connection on an event elsewhere. -/
theorem GateEvent.Elsewhere.sentFor_eq_nil
    {entry : GateEntry}
    (elsewhere : entry.event.Elsewhere c) :
    entry.sentFor c = [] := by
  unfold GateEntry.sentFor
  cases isEvent : entry.event with
  | data k buffer =>
      rw [isEvent] at elsewhere
      exact if_neg elsewhere
  | forward k agentaddr clientaddr =>
      rfl
  | broker handle =>
      rfl
  | accept k ud =>
      rfl
  | close k =>
      rfl

/-- An event that keeps the connection open is elsewhere or brings a chunk. -/
theorem GateEvent.KeepsOpen.elsewhere_or_data
    {event : GateEvent}
    (keepsOpen : event.KeepsOpen c) :
    event.Elsewhere c ∨ ∃ chunk, event = .data c chunk := by
  cases event with
  | data k buffer =>
      by_cases same : k = c
      · subst same
        exact Or.inr ⟨buffer, rfl⟩
      · exact Or.inl same
  | forward k agentaddr clientaddr =>
      exact Or.inl trivial
  | broker handle =>
      exact Or.inl trivial
  | accept k ud =>
      exact Or.inl keepsOpen
  | close k =>
      exact Or.inl keepsOpen

/-- The payload of a `ServiceSend` call. -/
def ServiceCall.payload : ServiceCall → Option (List UInt8)
  | .serviceSend _ _ _ _ data _ => data
  | _ => none

/-- A forwarded frame carries its body. -/
@[simp] theorem Gate.forwarded_payload
    (gate : Gate)
    (c : Nat)
    (body : List UInt8) :
    (gate.forwarded c body).payload = some body := by
  unfold Gate.forwarded
  dsimp only
  split <;> rfl

/-- The connection has a receiver in every state that a run goes through. -/
def Gate.ReceivesThroughout
    (gate : Gate)
    (c : Nat)
    (events : List GateEvent) : Prop :=
  ∀ before after, events = before ++ after →
    ∀ reached trace, gate.run before = .ok (reached, trace) →
      reached.HasReceiver c

/-- A receiver throughout is one now and throughout the rest of the run. -/
theorem Gate.ReceivesThroughout.next
    {next : Gate}
    {event : GateEvent}
    {events : List GateEvent}
    {calls : List ServiceCall}
    (receives : gate.ReceivesThroughout c (event :: events))
    (handled : gate.handle event = .ok (next, calls)) :
    gate.HasReceiver c ∧ next.ReceivesThroughout c events := by
  refine ⟨receives [] (event :: events) rfl gate [] rfl, ?_⟩
  intro before after isEvents reached trace isRun
  refine
    receives (event :: before) after (by rw [isEvents]; rfl) reached
      ({ gate := gate, event := event, calls := calls } :: trace) ?_
  simp only [Gate.run, handled, isRun, bind, Except.bind]

/-- The run lemma: what one connection's chunks lead to, among all events. -/
theorem Gate.run_spec
    (isHeaderSize : IsHeaderSize headerSize)
    {events : List GateEvent}
    {rest rest' : List UInt8}
    {frames : List (WireFrame (gateFraming headerSize isHeaderSize))}
    (incomplete : (gateFraming headerSize isHeaderSize).Incomplete rest)
    (splits :
      (gateFraming headerSize isHeaderSize).Splits
        (rest ++ (chunksFor c events).flatten) frames rest')
    (announced : ∀ frame ∈ frames, Announced frame)
    (isGateSize : gate.header_size = headerSize)
    (isOpen : 0 < (gate.conn c).id)
    (keepsOpen : ∀ event ∈ events, event.KeepsOpen c)
    (receives : gate.ReceivesThroughout c events)
    (buffers : Buffers gate.mp gate.bufs contents)
    (held : Held headerSize (gate.bufs c).header (contents c) rest) :
    ∃ final trace contents',
      gate.run events = .ok (final, trace) ∧
        (trace.flatMap fun entry => entry.sentFor c).map ServiceCall.payload =
          (bodies frames).map some ∧
        (∀ entry ∈ trace, ∀ call ∈ entry.sentFor c,
          ∃ body, call = entry.gate.forwarded c body) ∧
        Buffers final.mp final.bufs contents' ∧
        Held headerSize (final.bufs c).header (contents' c) rest' := by
  induction events generalizing gate contents rest frames with
  | nil =>
      have isRest :
          (gateFraming headerSize isHeaderSize).Splits
            (rest ++ (chunksFor c []).flatten) [] rest :=
        ⟨by simp [chunksFor], incomplete⟩
      obtain ⟨noFrames, sameRest⟩ := isRest.unique splits
      subst noFrames
      subst sameRest
      exact
        ⟨gate, [], contents, rfl, by simp [bodies], by simp, buffers, held⟩
  | cons event events inductionHypothesis =>
      have keepsOpenLater : ∀ event ∈ events, event.KeepsOpen c :=
        fun other member => keepsOpen other (by simp [member])
      have runs :
          ∀ {next : Gate} {calls : List ServiceCall} {final : Gate}
            {trace : List GateEntry},
            gate.handle event = .ok (next, calls) →
            next.run events = .ok (final, trace) →
            gate.run (event :: events) =
              .ok (final,
                { gate := gate, event := event, calls := calls } :: trace) := by
        intro next calls final trace handled isRun
        simp only [Gate.run, handled, isRun, bind, Except.bind]
      rcases (keepsOpen event (by simp)).elsewhere_or_data with
        elsewhere | ⟨chunk, isChunk⟩
      · obtain ⟨next, calls, contentsNext, handled, buffersNext, sameSize,
          same⟩ :=
          Gate.handle_returns isHeaderSize isGateSize buffers event
        obtain ⟨sameContents, sameBuffer, sameId⟩ := same c elsewhere
        have notSent :
            ({ gate := gate, event := event, calls := calls } :
              GateEntry).sentFor c = [] :=
          GateEvent.Elsewhere.sentFor_eq_nil elsewhere
        rw [elsewhere.chunksFor_cons] at splits
        obtain ⟨final, trace, contents', isRun, areSent, areForwarded,
          buffers', held'⟩ :=
          inductionHypothesis incomplete splits announced
            (sameSize.trans isGateSize) (by rw [sameId]; exact isOpen)
            keepsOpenLater (receives.next handled).2 buffersNext
            (by rw [sameContents, sameBuffer]; exact held)
        refine
          ⟨final, _, contents', runs handled isRun, ?_, ?_, buffers', held'⟩
        · rw [List.flatMap_cons, notSent]
          exact areSent
        · intro entry member
          rcases List.mem_cons.mp member with isFirst | isLater
          · subst isFirst
            rw [notSent]
            simp
          · exact areForwarded entry isLater
      · subst isChunk
        have isFlat :
            rest ++ (chunksFor c (.data c chunk :: events)).flatten =
              (rest ++ chunk) ++ (chunksFor c events).flatten := by
          simp [chunksFor]
        rw [isFlat] at splits
        obtain ⟨completed, middle, splitsChunk⟩ :=
          (gateFraming headerSize isHeaderSize).exists_splits (rest ++ chunk)
        obtain ⟨later, isFrames, splitsLater⟩ :=
          splitsChunk.exists_append splits
        subst isFrames
        have receiver : gate.HasReceiver c :=
          receives [] (.data c chunk :: events) rfl gate [] rfl
        obtain ⟨db, mp, bytes, isDone, buffersDone, heldDone⟩ :=
          Gate.dispatchMessage_spec isHeaderSize incomplete splitsChunk
            (fun frame member => announced frame (by simp [member]))
            isGateSize isOpen receiver buffers held (gate.conn c).id
        have handled :
            gate.handle (.data c chunk) =
              .ok (gate.setBuffer c db mp,
                (bodies completed).map (gate.forwarded c)) :=
          isDone
        obtain ⟨final, trace, contents', isRun, areSent, areForwarded,
          buffers', held'⟩ :=
          inductionHypothesis splitsChunk.incomplete splitsLater
            (fun frame member => announced frame (by simp [member]))
            (by simpa using isGateSize) (by simpa using isOpen) keepsOpenLater
            (receives.next handled).2 (by simpa using buffersDone)
            (by simpa using heldDone)
        have isSent :
            ({ gate := gate
               event := .data c chunk
               calls := (bodies completed).map (gate.forwarded c) } :
              GateEntry).sentFor c =
              (bodies completed).map (gate.forwarded c) := by
          simp [GateEntry.sentFor]
        have areBodies :
            bodies (completed ++ later) = bodies completed ++ bodies later := by
          simp [bodies]
        refine
          ⟨final, _, contents', runs handled isRun, ?_, ?_, buffers', held'⟩
        · rw [List.flatMap_cons, isSent, List.map_append, areSent, areBodies,
            List.map_append, List.map_map]
          congr 1
          exact List.map_congr_left fun body _ => gate.forwarded_payload c body
        · intro entry member
          rcases List.mem_cons.mp member with isFirst | isLater
          · subst isFirst
            rw [isSent]
            intro call sent
            obtain ⟨body, _, isCall⟩ := List.mem_map.mp sent
            exact ⟨body, isCall.symm⟩
          · exact areForwarded entry isLater

end Events

/-- A gate as `gate_init` leaves it. -/
structure Gate.Fresh
    (gate : Gate)
    (headerSize : Nat) : Prop where
  header_size : gate.header_size = headerSize
  mp : gate.mp = .zero
  bufs : ∀ c, gate.bufs c = .zero

/-- In every state that a gate reaches the buffers share the pool properly. -/
theorem Gate.buffers_of_run
    {headerSize : Nat}
    (isHeaderSize : IsHeaderSize headerSize)
    {gate reached : Gate}
    {contents : Nat → List UInt8}
    {events : List GateEvent}
    {trace : List GateEntry}
    (isGateSize : gate.header_size = headerSize)
    (buffers : Buffers gate.mp gate.bufs contents)
    (isRun : gate.run events = .ok (reached, trace)) :
    reached.header_size = headerSize ∧
      ∃ contents', Buffers reached.mp reached.bufs contents' := by
  induction events generalizing gate contents trace with
  | nil =>
      simp only [Gate.run, Except.ok.injEq, Prod.mk.injEq] at isRun
      obtain ⟨rfl, _⟩ := isRun
      exact ⟨isGateSize, contents, buffers⟩
  | cons event events inductionHypothesis =>
      obtain ⟨next, calls, contentsNext, handled, buffersNext, sameSize, _⟩ :=
        Gate.handle_returns isHeaderSize isGateSize buffers event
      simp only [Gate.run] at isRun
      obtain ⟨first, isFirst, isRun⟩ := bind_eq_ok_iff.mp isRun
      rw [handled, Except.ok.injEq] at isFirst
      subst isFirst
      obtain ⟨⟨final, later⟩, isLater, isFinal⟩ := bind_eq_ok_iff.mp isRun
      simp only [Except.ok.injEq, Prod.mk.injEq] at isFinal
      obtain ⟨rfl, _⟩ := isFinal
      exact
        inductionHypothesis (sameSize.trans isGateSize) buffersNext isLater

/--
However a connection's stream of frames is cut into chunks, and whatever
happens to the other connections in between, one message is sent for every
frame that has a body, in order, to the receiver of the moment, and the
unfinished frame at the end stays in the buffer.
-/
theorem Gate.run_sends_frames
    {headerSize c : Nat}
    (isHeaderSize : IsHeaderSize headerSize)
    {start gate : Gate}
    {earlier events : List GateEvent}
    {past : List GateEntry}
    {payloads : List (List UInt8)}
    {last unfinished missing : List UInt8}
    (fresh : start.Fresh headerSize)
    (reached : start.run earlier = .ok (gate, past))
    (isOpen : 0 < (gate.conn c).id)
    (isEmpty : (gate.bufs c).header = 0 ∧ (gate.bufs c).size = 0)
    (keepsOpen : ∀ event ∈ events, event.KeepsOpen c)
    (receives : gate.ReceivesThroughout c events)
    (encodable : ∀ body ∈ last :: payloads, Encodable headerSize body)
    (isStream :
      (chunksFor c events).flatten =
        payloads.flatMap (encodeFrame headerSize) ++ unfinished)
    (isUnfinished :
      unfinished ++ missing = encodeFrame headerSize last ∧ missing ≠ []) :
    ∃ final trace contents,
      gate.run events = .ok (final, trace) ∧
        (trace.flatMap fun entry => entry.sentFor c).map ServiceCall.payload =
          (payloads.filter fun body => body ≠ []).map some ∧
        (∀ entry ∈ trace, ∀ call ∈ entry.sentFor c,
          ∃ body, call = entry.gate.forwarded c body) ∧
        Buffers final.mp final.bufs contents ∧
        Held headerSize (final.bufs c).header (contents c) unfinished := by
  have startBuffers : Buffers start.mp start.bufs fun _ => [] := by
    have areZero : start.bufs = fun _ => .zero := funext fresh.bufs
    rw [fresh.mp, areZero]
    exact .zero
  obtain ⟨isGateSize, contents, buffers⟩ :=
    Gate.buffers_of_run isHeaderSize fresh.header_size startBuffers reached
  have noBytes : contents c = [] := by
    have isSize := buffers.size c
    rw [isEmpty.2] at isSize
    exact List.length_eq_zero_iff.mp (by exact_mod_cast isSize.symm)
  have positive : 0 < headerSize := by
    rcases isHeaderSize with isTwo | isFour <;> omega
  have held : Held headerSize (gate.bufs c).header (contents c) [] := by
    rw [Held, if_pos (by simpa using positive)]
    exact ⟨isEmpty.1, noBytes⟩
  obtain ⟨frames, areBodies, areBytes, announced⟩ :=
    exists_frames isHeaderSize fun body member =>
      encodable body (List.mem_cons_of_mem last member)
  have splits :
      (gateFraming headerSize isHeaderSize).Splits
        ([] ++ (chunksFor c events).flatten) frames unfinished := by
    refine ⟨?_, ?_⟩
    · rw [List.nil_append, isStream, areBytes]
    · exact
        incomplete_of_encoded isHeaderSize (encodable last (by simp))
          isUnfinished.1 isUnfinished.2
  obtain ⟨final, trace, contents', isRun, areSent, areForwarded, buffers',
    held'⟩ :=
    Gate.run_spec isHeaderSize Framing.incomplete_nil splits announced
      isGateSize isOpen keepsOpen receives buffers held
  refine
    ⟨final, trace, contents', isRun, ?_, areForwarded, buffers', held'⟩
  rw [areSent, bodies, areBodies]

/-- A gate with two-byte headers, a broker and one open connection. -/
def brokerGate : Gate where
  watchdog := 0
  broker := 9
  client_tag := 3
  header_size := 2
  conn := fun c =>
    { id := if c = 0 then 7 else -1, agent := 0, client := 0, buffer := .zero }
  mp := .zero

/-- The broker of `brokerGate` after a run. -/
def brokerAfter (events : List GateEvent) : Option UInt32 :=
  match brokerGate.run events with
  | .ok (gate, _) => some gate.broker
  | .error _ => none

/--
A frame of two bytes, an empty one, a frame of one byte and the start of the
next, in three chunks.
-/
def cutFrames : List GateEvent :=
  [.data 0 [0], .data 0 [2, 65], .data 0 [66, 0, 0, 0, 1, 67, 0]]

/-- A broker that stays is a receiver throughout. -/
theorem brokerGate_receives
    {events : List GateEvent}
    (brokers : ∀ before ∈ events.inits, brokerAfter before = some 9) :
    brokerGate.ReceivesThroughout 0 events := by
  intro before after isEvents reached trace isRun
  have isBroker :=
    brokers before ((List.mem_inits _ _).mpr ⟨after, isEvents.symm⟩)
  simp only [brokerAfter, isRun, Option.some.injEq] at isBroker
  exact Or.inl (by rw [isBroker]; decide)

/-- Nothing has happened to the gate yet. -/
theorem brokerGate_fresh :
    brokerGate.Fresh 2 :=
  ⟨rfl, rfl, fun _ => rfl⟩

section Receivers

/--
What the receiver of a message finds as its payload.  With `kPtypeTagDontcopy`
the message points to `temp`, an array of `_forward` that is gone when it
returns: `memory` is what lies there when the receiver reads it.
-/
def ServiceCall.received
    (memory : Nat → UInt8) : ServiceCall → Option (List UInt8)
  | .serviceSend _ _ type _ data sz =>
      if type &&& kPtypeTagDontcopy = 0 then data
      else data.map fun _ => (List.range sz.toNat).map memory
  | _ => none

/-- What the receivers find, with a memory for each of the messages. -/
def receivedPayloads
    (memory : Nat → Nat → UInt8)
    (calls : List ServiceCall) : List (Option (List UInt8)) :=
  calls.mapIdx fun n call => call.received (memory n)

/-- The size that a message has, and the array `temp` with it. -/
def ServiceCall.size : ServiceCall → Nat
  | .serviceSend _ _ _ _ _ sz => sz.toNat
  | _ => 0

/--
Whether the stream of a connection arrives: every array `temp` finds room on the
stack, a message for every frame that has a body reaches the receiver of the
moment, in order and with that body, and the unfinished frame at the end stays
in the buffer.
-/
def Gate.DeliversFrames
    (gate : Gate)
    (c headerSize : Nat)
    (room : Nat)
    (memory : Nat → Nat → UInt8)
    (events : List GateEvent)
    (payloads : List (List UInt8))
    (unfinished : List UInt8) : Prop :=
  ∃ final trace contents,
    gate.run events = .ok (final, trace) ∧
      (∀ call ∈ trace.flatMap fun entry => entry.sentFor c,
        call.size ≤ room) ∧
      receivedPayloads memory (trace.flatMap fun entry => entry.sentFor c) =
        (payloads.filter fun body => body ≠ []).map some ∧
      (∀ entry ∈ trace, ∀ call ∈ entry.sentFor c,
        ∃ body, call = entry.gate.forwarded c body) ∧
      Buffers final.mp final.bufs contents ∧
      Held headerSize (final.bufs c).header (contents c) unfinished

/-- Every body found room on the stack, and its array still holds it. -/
def TempKept
    (room : Nat)
    (memory : Nat → Nat → UInt8)
    (payloads : List (List UInt8)) : Prop :=
  ∀ n body,
    (payloads.filter fun body => body ≠ [])[n]? = some body →
      body.length ≤ room ∧ (List.range body.length).map (memory n) = body

/-- A forwarded frame is passed on without a copy. -/
theorem Gate.forwarded_received
    (gate : Gate)
    (c : Nat)
    {body : List UInt8}
    (short : body.length < 2 ^ 64)
    (memory : Nat → UInt8) :
    (gate.forwarded c body).size = body.length ∧
      (gate.forwarded c body).received memory =
        some ((List.range body.length).map memory) := by
  have tagged (type : UInt32) :
      (type ||| kPtypeTagDontcopy) &&& kPtypeTagDontcopy ≠ 0 := by
    have isTag :
        (type ||| kPtypeTagDontcopy) &&& kPtypeTagDontcopy =
          kPtypeTagDontcopy := by
      rw [← UInt32.toBitVec_inj]
      ext i
      simpa using Or.inr
    rw [isTag]
    decide
  have isSize : (UInt64.ofInt (body.length : Int)).toNat = body.length := by
    unfold UInt64.ofInt
    rw [UInt64.toNat_ofNat']
    omega
  unfold Gate.forwarded
  dsimp only
  split
  all_goals
    simp [ServiceCall.size, ServiceCall.received, tagged, isSize]

/-- What is found for forwarded frames, message by message. -/
theorem receivedPayloads_of_forwarded
    {c : Nat}
    {calls : List ServiceCall}
    {bodies : List (List UInt8)}
    (areSent : calls.map ServiceCall.payload = bodies.map some)
    (areForwarded :
      ∀ call ∈ calls, ∃ gate : Gate, ∃ body, call = gate.forwarded c body)
    (short : ∀ body ∈ bodies, body.length < 2 ^ 64)
    (memory : Nat → Nat → UInt8) :
    calls.map ServiceCall.size = bodies.map List.length ∧
      receivedPayloads memory calls =
        bodies.mapIdx fun n body =>
          some ((List.range body.length).map (memory n)) := by
  induction calls generalizing bodies memory with
  | nil =>
      have isEmpty : bodies = [] := List.map_eq_nil_iff.mp areSent.symm
      subst isEmpty
      exact ⟨rfl, rfl⟩
  | cons call calls inductionHypothesis =>
      obtain ⟨gate, sent, rfl⟩ := areForwarded call List.mem_cons_self
      cases bodies with
      | nil =>
          cases areSent
      | cons body bodies =>
          rw [List.map_cons, List.map_cons, gate.forwarded_payload] at areSent
          injection areSent with isBody areSent
          cases isBody
          obtain ⟨isSize, isReceived⟩ :=
            gate.forwarded_received c (short sent List.mem_cons_self) (memory 0)
          obtain ⟨sizes, later⟩ :=
            inductionHypothesis areSent
              (fun call member =>
                areForwarded call (List.mem_cons_of_mem _ member))
              (fun body member => short body (List.mem_cons_of_mem _ member))
              fun n => memory (n + 1)
          refine ⟨?_, ?_⟩
          · rw [List.map_cons, List.map_cons, isSize, sizes]
          · unfold receivedPayloads at later ⊢
            rw [List.mapIdx_cons, List.mapIdx_cons, isReceived, later]

/--
However a connection's stream of frames is cut into chunks, and whatever
happens to the other connections in between, the frames arrive exactly when the
arrays that `_forward` passed on fitted on the stack and still hold them.
-/
theorem Gate.run_delivers_frames_iff
    {headerSize c : Nat}
    (isHeaderSize : IsHeaderSize headerSize)
    {start gate : Gate}
    {earlier events : List GateEvent}
    {past : List GateEntry}
    {payloads : List (List UInt8)}
    {last unfinished missing : List UInt8}
    (fresh : start.Fresh headerSize)
    (reached : start.run earlier = .ok (gate, past))
    (isOpen : 0 < (gate.conn c).id)
    (isEmpty : (gate.bufs c).header = 0 ∧ (gate.bufs c).size = 0)
    (keepsOpen : ∀ event ∈ events, event.KeepsOpen c)
    (receives : gate.ReceivesThroughout c events)
    (encodable : ∀ body ∈ last :: payloads, Encodable headerSize body)
    (isStream :
      (chunksFor c events).flatten =
        payloads.flatMap (encodeFrame headerSize) ++ unfinished)
    (isUnfinished :
      unfinished ++ missing = encodeFrame headerSize last ∧ missing ≠ [])
    (room : Nat)
    (memory : Nat → Nat → UInt8) :
    gate.DeliversFrames c headerSize room memory events payloads unfinished ↔
      TempKept room memory payloads := by
  obtain ⟨final, trace, contents, isRun, areSent, areForwarded, buffers,
    held⟩ :=
    Gate.run_sends_frames isHeaderSize fresh reached isOpen isEmpty keepsOpen
      receives encodable isStream isUnfinished
  have short :
      ∀ body ∈ payloads.filter fun body => body ≠ [],
        body.length < 2 ^ 64 := by
    intro body member
    have encodes :=
      encodable body (List.mem_cons_of_mem last (List.mem_filter.mp member).1)
    unfold Encodable at encodes
    omega
  obtain ⟨sizes, found⟩ :=
    receivedPayloads_of_forwarded areSent
      (fun call member => by
        obtain ⟨entry, inTrace, sent⟩ := List.mem_flatMap.mp member
        exact ⟨entry.gate, areForwarded entry inTrace call sent⟩)
      short memory
  have fits_iff :
      (∀ call ∈ trace.flatMap fun entry => entry.sentFor c,
          call.size ≤ room) ↔
        ∀ body ∈ payloads.filter fun body => body ≠ [],
          body.length ≤ room := by
    rw [← List.forall_mem_map (f := ServiceCall.size) (P := (· ≤ room)), sizes,
      List.forall_mem_map]
  have found_iff :
      receivedPayloads memory (trace.flatMap fun entry => entry.sentFor c) =
          (payloads.filter fun body => body ≠ []).map some ↔
        ∀ n body,
          (payloads.filter fun body => body ≠ [])[n]? = some body →
            (List.range body.length).map (memory n) = body := by
    rw [found, List.ext_getElem?_iff]
    refine forall_congr' fun n => ?_
    rw [List.getElem?_mapIdx, List.getElem?_map]
    cases (payloads.filter fun body => body ≠ [])[n]? with
    | none =>
        simp
    | some body =>
        simp
  constructor
  · rintro ⟨other, otherTrace, _, otherRun, fits, received, _⟩
    rw [isRun, Except.ok.injEq, Prod.mk.injEq] at otherRun
    obtain ⟨rfl, rfl⟩ := otherRun
    intro n body isBody
    exact
      ⟨fits_iff.mp fits body (List.mem_of_getElem? isBody),
        found_iff.mp received n body isBody⟩
  · intro kept
    refine
      ⟨final, trace, contents, isRun, fits_iff.mpr ?_,
        found_iff.mpr fun n body isBody => (kept n body isBody).2, areForwarded,
        buffers, held⟩
    intro body member
    obtain ⟨n, isBody⟩ := List.getElem?_of_mem member
    exact (kept n body isBody).1

end Receivers

/-- The frames arrive while their arrays hold them. -/
theorem cutFrames_delivered :
    brokerGate.DeliversFrames 0 2 (2 ^ 20)
      (fun n i => if n = 0 then 65 + UInt8.ofNat i else 67) cutFrames
      [[65, 66], [], [67]] [0] := by
  have kept :
      TempKept (2 ^ 20) (fun n i => if n = 0 then 65 + UInt8.ofNat i else 67)
        [[65, 66], [], [67]] := by
    intro n body isBody
    match n, isBody with
    | 0, isBody | 1, isBody =>
        cases isBody
        decide
  have encodable :
      ∀ body ∈ ([] : List UInt8) :: [[65, 66], [], [67]],
        Encodable 2 body := by
    decide
  have reached : brokerGate.run [] = .ok (brokerGate, []) := rfl
  exact
    (Gate.run_delivers_frames_iff (Or.inl rfl) brokerGate_fresh reached
      (by decide) ⟨rfl, rfl⟩ (by decide) (brokerGate_receives (by decide))
      encodable
      (by decide) (show [0] ++ [0] = encodeFrame 2 [] ∧ _ by decide) (2 ^ 20)
      _).mpr kept

/-- They do not when the memory of the arrays has been used again. -/
theorem cutFrames_not_delivered :
    ¬ brokerGate.DeliversFrames 0 2 (2 ^ 20) (fun _ _ => 0) cutFrames
      [[65, 66], [], [67]] [0] := by
  rintro ⟨final, trace, contents, isRun, _, received, _⟩
  have found :
      (brokerGate.run cutFrames).map
          (fun result =>
            receivedPayloads (fun _ _ => 0)
              (result.2.flatMap fun entry => entry.sentFor 0)) =
        .ok [some [0, 0], some [0]] :=
    rfl
  rw [isRun, Except.map, Except.ok.injEq, received] at found
  exact absurd found (by decide)

end SkynetCpp
