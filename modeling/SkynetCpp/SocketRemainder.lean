import SkynetCpp.SocketOutcome
import SkynetCpp.SocketRuns

namespace SkynetCpp

open Foundation

/-!
# What `Send` leaves to the socket thread

What a direct write did not take is left in the `dw_*` fields, which `SendBuffer`
makes a node of, and what was not written at all goes through the pipe.  Both are
built from what `CloneBuffer` gives, in which the size means something else for
an object, and a raw pointer is lost.
-/

variable {Worker : Type}

section Bytes

/-- The bytes of memory from a place on. -/
def bytesAt
    (ptr : Address)
    (sz : Nat) : List Address :=
  (List.range sz).map fun i => ⟨ptr.object, ptr.offset + i⟩

@[simp] theorem bytesAt_length
    (ptr : Address)
    (sz : Nat) :
    (bytesAt ptr sz).length = sz := by
  simp [bytesAt]

/-- Without the first bytes, the rest starts further on. -/
theorem bytesAt_drop
    (ptr : Address)
    (sz n : Nat) :
    (bytesAt ptr sz).drop n = bytesAt ⟨ptr.object, ptr.offset + n⟩ (sz - n) := by
  unfold bytesAt
  apply List.ext_getElem
  · simp
  · intro i _ _
    simp [Nat.add_assoc]

/-- The bytes that a node describes. -/
def WriteBuffer.bytes (node : WriteBuffer) : List Address :=
  bytesAt node.ptr node.sz

/--
The bytes of a payload as the direct write takes them: those from the address
of the `std::string` object on, which are not its characters (`c_str`).
-/
def SocketSendbuffer.payload (buffer : SocketSendbuffer) : List Address :=
  bytesAt ⟨buffer.buffer, 0⟩ buffer.sz.toNat

/-- The bytes of the nodes that `SendBuffer` makes of the `dw_*` fields. -/
def Socket.leftOver (sock : Socket Worker) : List Address :=
  (raiseDirect { sock with high := [] }).high.flatMap WriteBuffer.bytes

/-- Without a buffer nothing is left, and with one what is behind the offset. -/
theorem Socket.leftOver_eq
    (sock : Socket Worker) :
    sock.leftOver =
      if sock.dw_buffer.isSome then (directNode sock).bytes else [] := by
  unfold Socket.leftOver raiseDirect
  split
  · exact List.append_nil _
  · rfl

end Bytes

section Describe

/-- The fields are what a direct write of so many bytes leaves. -/
structure LeavesBehind
    (buffer : SocketSendbuffer)
    (n : Nat)
    (sock : Socket Worker) : Prop where
  dw_buffer : sock.dw_buffer = (cloneBuffer buffer).1
  dw_size : sock.dw_size = (cloneBuffer buffer).2.toNat
  dw_offset : sock.dw_offset = n

variable
    {buffer : SocketSendbuffer}
    {sock : Socket Worker}
    {n : Nat}

/-- The buffer is given on with its string and its size. -/
def Faithful (buffer : SocketSendbuffer) : Prop :=
  buffer.type = .memory ∨ buffer.type = .object ∧ buffer.sz = USEROBJECT

/-- `CloneBuffer` of a buffer that is given on so. -/
theorem cloneBuffer_of_faithful
    (faithful : Faithful buffer) :
    cloneBuffer buffer = (buffer.buffer, buffer.sz) := by
  unfold cloneBuffer
  rcases faithful with isMemory | ⟨isObject, isSize⟩
  · rw [isMemory]
  · rw [isObject, isSize]

theorem cloneBuffer_object
    (isObject : buffer.type = .object) :
    cloneBuffer buffer = (buffer.buffer, USEROBJECT) := by
  unfold cloneBuffer
  rw [isObject]

theorem cloneBuffer_rawPointer
    (isRaw : buffer.type = .rawPointer) :
    cloneBuffer buffer = (none, 0) := by
  unfold cloneBuffer
  rw [isRaw]

/-- What is left describes the rest of the payload, or something else. -/
theorem LeavesBehind.leftOver_iff
    (leaves : LeavesBehind buffer n sock)
    (isString : buffer.buffer.isSome)
    (isShort : n < buffer.sz.toNat) :
    sock.leftOver = buffer.payload.drop n ↔ Faithful buffer := by
  rw [Socket.leftOver_eq]
  constructor
  · intro same
    have sameLength := congrArg List.length same
    rw [SocketSendbuffer.payload, List.length_drop, bytesAt_length] at sameLength
    have isClone := leaves.dw_buffer
    have isSize := leaves.dw_size
    cases isType : buffer.type with
    | memory =>
        exact Or.inl isType
    | object =>
        rw [cloneBuffer_object isType] at isClone isSize
        change sock.dw_size = USEROBJECT.toNat at isSize
        rw [isClone, if_pos isString, WriteBuffer.bytes,
          bytesAt_length] at sameLength
        change sock.dw_size - sock.dw_offset = _ at sameLength
        rw [isSize, leaves.dw_offset] at sameLength
        refine Or.inr ⟨isType, UInt64.toNat_inj.mp ?_⟩
        omega
    | rawPointer =>
        -- nothing is left
        rw [cloneBuffer_rawPointer isType] at isClone
        rw [isClone, if_neg (by decide), List.length_nil] at sameLength
        omega
  · intro faithful
    have isBuffer : sock.dw_buffer = buffer.buffer := by
      rw [leaves.dw_buffer, cloneBuffer_of_faithful faithful]
    have isSize : sock.dw_size = buffer.sz.toNat := by
      rw [leaves.dw_size, cloneBuffer_of_faithful faithful]
    rw [isBuffer, if_pos isString, WriteBuffer.bytes, directNode,
      SocketSendbuffer.payload, bytesAt_drop, isBuffer, isSize,
      leaves.dw_offset, Nat.zero_add]

/-- A request that is built from a buffer describes its bytes, or others. -/
theorem requestSend_bytes_iff :
    (appendNode (requestSend buffer)).bytes = buffer.payload ↔
      Faithful buffer ∨ buffer.type = .rawPointer ∧ buffer.sz = 0 := by
  rw [WriteBuffer.bytes, appendNode, requestSend, SocketSendbuffer.payload]
  constructor
  · intro same
    have sameLength := congrArg List.length same
    rw [bytesAt_length, bytesAt_length] at sameLength
    have sameSize := UInt64.toNat_inj.mp sameLength
    match isType : buffer.type with
    | .memory =>
        exact Or.inl (Or.inl isType)
    | .object =>
        rw [cloneBuffer_object isType] at sameSize
        exact Or.inl (Or.inr ⟨isType, sameSize.symm⟩)
    | .rawPointer =>
        rw [cloneBuffer_rawPointer isType] at sameSize
        exact Or.inr ⟨rfl, sameSize.symm⟩
  · rintro (faithful | ⟨isRaw, isEmpty⟩)
    · rw [cloneBuffer_of_faithful faithful]
    · rw [cloneBuffer_rawPointer isRaw, isEmpty]
      rfl

end Describe

section Calls

/-- How a call of `Send` that returned 0 dealt with its payload. -/
inductive Sent
    (s : SocketServer Worker)
    (caller : Caller Worker)
    (buffer : SocketSendbuffer)
    (s' : SocketServer Worker) : Prop where
  /-- All of it was written. -/
  | all
      (isLog :
        s'.log =
          .wrote (hashId buffer.id) (s.slot (hashId buffer.id)).incarnation
            ⟨buffer.buffer, 0⟩ buffer.sz.toNat :: s.log)
  /-- A part was written, or nothing, and the rest is left behind. -/
  | part
      (n : Nat)
      (found : List (SocketRequest Buffer))
      (isShort : n < buffer.sz.toNat)
      (isLog :
        s'.log =
          .requested caller (.triggerWrite buffer.id) found ::
            .wrote (hashId buffer.id) (s.slot (hashId buffer.id)).incarnation
              ⟨buffer.buffer, 0⟩ n :: s.log)
      (leaves : LeavesBehind buffer n (s'.slot (hashId buffer.id)))
  /-- It was not written, and goes through the pipe. -/
  | pipe
      (found : List (SocketRequest Buffer))
      (isLog :
        s'.log =
          .requested caller (.send (requestSend buffer)) found :: s.log)

variable
    {s s' : SocketServer Worker}
    {k : Nat}
    {caller : Caller Worker}
    {buffer : SocketSendbuffer}

/-- A direct write takes all the bytes, or leaves the rest behind. -/
theorem directWrite_yields
    {left : Bool}
    (yields : (atSlot k (directWrite buffer)).Yields s left s') :
    ∃ n,
      s'.log =
          .wrote k (s.slot k).incarnation ⟨buffer.buffer, 0⟩ n :: s.log ∧
        ((left = false ∧ n = buffer.sz.toNat) ∨
          (left = true ∧ n < buffer.sz.toNat ∧
            LeavesBehind buffer n (s'.slot k))) := by
  unfold atSlot directWrite at yields
  rw [Program.zoom_act, Program.yields_act] at yields
  obtain ⟨input, isLeft, isNext⟩ := yields
  have isTaken : accepted input buffer.sz.toNat ≤ buffer.sz.toNat :=
    Nat.le_trans (Nat.min_le_right _ _) (Nat.min_le_left _ _)
  refine ⟨accepted input buffer.sz.toNat, ?_, ?_⟩
  · rw [isNext]
    rfl
  · by_cases isAll : accepted input buffer.sz.toNat = buffer.sz.toNat
    · exact Or.inl ⟨by simpa [isAll] using isLeft, isAll⟩
    · refine Or.inr ⟨by simpa [isAll] using isLeft, by omega, ?_⟩
      rw [isNext]
      simp only [isAll, if_false, SocketServer.put, Function.update_self]
      exact ⟨rfl, rfl, rfl⟩

/-- Counting the request up shows nothing. -/
theorem incSendingRefLoop_follows
    (id : Int32)
    (rounds : Nat) :
    (incSendingRefLoop id rounds : SocketAction Worker Unit).Follows
      fun v v' => v'.notes = v.notes := by
  induction rounds with
  | zero =>
      exact Program.Within.check (fun _ => rfl) fun _ => trivial
  | succ rounds inductionHypothesis =>
      refine .bind (Program.Within.ask (fun _ => rfl) fun _ _ => trivial)
        fun sending => .ite (.ite inductionHypothesis ?_) (.pure ())
      refine .bind (.act fun input v => ?_) fun exchanged =>
        .ite (.pure ()) inductionHypothesis
      split <;> rfl

theorem incSendingRef_follows
    (id : Int32) :
    (incSendingRef id : SocketAction Worker Unit).Follows
      fun v v' => v'.notes = v.notes :=
  .bind (Program.Within.ask (fun _ => rfl) fun _ _ => trivial) fun _ =>
    .ite
      (.bind (Program.Within.ask (fun _ => rfl) fun _ _ => trivial) fun rounds =>
        incSendingRefLoop_follows id rounds)
      (.pure ())

/-- The fields that a direct write leaves stay when the lock is given back. -/
theorem LeavesBehind.withLock
    {n : Nat}
    {lock : Option (Caller Worker)}
    (leaves : LeavesBehind buffer n (s.slot k)) :
    LeavesBehind buffer n
      ((s.withSlot k { s.slot k with dw_lock := lock }).slot k) := by
  rw [SocketServer.withSlot_slot]
  exact ⟨leaves.dw_buffer, leaves.dw_size, leaves.dw_offset⟩

/-- On a TCP socket writing directly is one write. -/
theorem writeDirectly_yields
    (isTCP : (s.slot k).protocol = .TCP)
    {left : Option Bool}
    (yields : (atSlot k (writeDirectly buffer)).Yields s left s') :
    ∃ isLeft,
      left = some isLeft ∧
        (atSlot k (directWrite buffer)).Yields s isLeft s' := by
  unfold writeDirectly at yields
  rw [atSlot_bind] at yields
  obtain ⟨protocol, t, loads, later⟩ := Program.yields_bind.mp yields
  obtain ⟨rfl, rfl⟩ := yields_load.mp loads
  rw [if_pos isTCP, atSlot_bind] at later
  obtain ⟨isLeft, u, writes, later⟩ := Program.yields_bind.mp later
  cases later
  exact ⟨isLeft, rfl, writes⟩

/-- What `Send` finds out about writing directly, and what it did then. -/
theorem sendDirect_yields
    (isTCP : (s.slot k).protocol = .TCP)
    {direct : Direct}
    (yields : (atSlot k (sendDirect caller buffer)).Yields s direct s') :
    (direct = .no ∧ s'.log = s.log) ∨
      ∃ n,
        s'.log =
            .wrote k (s.slot k).incarnation ⟨buffer.buffer, 0⟩ n :: s.log ∧
          ((direct = .written false ∧ n = buffer.sz.toNat) ∨
            (direct = .written true ∧ n < buffer.sz.toNat ∧
              LeavesBehind buffer n (s'.slot k))) := by
  unfold sendDirect at yields
  rw [andM, atSlot_bind, atSlot_bind] at yields
  obtain ⟨locked, t, locking, later⟩ := Program.yields_bind.mp yields
  obtain ⟨can, u, cans, trying⟩ := Program.yields_bind.mp locking
  cases unchanged_of_follows (canDirectWrite_follows _) cans
  cases can with
  | false =>
      cases trying
      cases later
      exact Or.inl ⟨rfl, rfl⟩
  | true =>
      obtain ⟨isFree, rfl⟩ := yields_socketTrylock.mp trying
      cases locked with
      | false =>
          rw [← isFree] at later
          cases later
          exact Or.inl ⟨rfl, rfl⟩
      | true =>
          rw [← isFree] at later
          simp only [↓reduceIte] at later
          rw [atSlot_bind] at later
          obtain ⟨again, t, cans, later⟩ := Program.yields_bind.mp later
          cases unchanged_of_follows (canDirectWrite_follows _) cans
          cases again with
          | false =>
              simp only [Bool.false_eq_true, ↓reduceIte] at later
              rw [atSlot_bind] at later
              obtain ⟨_, t, unlocks, later⟩ := Program.yields_bind.mp later
              cases later
              rw [yields_socketUnlock.mp unlocks]
              exact Or.inl ⟨rfl, rfl⟩
          | true =>
              simp only [↓reduceIte] at later
              rw [atSlot_bind] at later
              obtain ⟨left, t, writes, later⟩ := Program.yields_bind.mp later
              rw [atSlot_bind] at later
              obtain ⟨_, u, unlocks, later⟩ := Program.yields_bind.mp later
              have isHeld :
                  ((s.lockedBy k caller).slot k).protocol = .TCP := by
                rw [SocketServer.lockedBy, SocketServer.withSlot_slot]
                exact isTCP
              obtain ⟨isLeft, rfl, wrote⟩ := writeDirectly_yields isHeld writes
              cases later
              cases yields_socketUnlock.mp unlocks
              obtain ⟨n, isLog, isEnd⟩ := directWrite_yields wrote
              have isIncarnation :
                  ((s.lockedBy k caller).slot k).incarnation =
                    (s.slot k).incarnation := by
                rw [SocketServer.lockedBy, SocketServer.withSlot_slot]
              rw [isIncarnation] at isLog
              refine Or.inr ⟨n, isLog, ?_⟩
              rcases isEnd with ⟨rfl, isAll⟩ | ⟨rfl, isShort, leaves⟩
              · exact Or.inl ⟨rfl, isAll⟩
              · exact Or.inr ⟨rfl, isShort, leaves.withLock⟩

/-- How `Send` deals with a payload for a TCP socket when it returns 0. -/
theorem sent_of_yields
    (isTCP : (s.slot (hashId buffer.id)).protocol = .TCP)
    (yields : (Send caller buffer).Yields s 0 s') :
    Sent s caller buffer s' := by
  unfold Send at yields
  obtain ⟨refused, t, refuses, later⟩ := Program.yields_bind.mp yields
  have unchanged :
      (socketInvalid buffer.id <||> load (·.closing) :
        SocketAction Worker Bool).Follows Eq :=
    .orM (socketInvalid_follows _) (.ask _)
  cases unchanged_of_follows unchanged refuses
  cases refused with
  | true =>
      cases later
  | false =>
      simp only [Bool.false_eq_true, ↓reduceIte] at later
      obtain ⟨direct, t, directs, later⟩ := Program.yields_bind.mp later
      rcases sendDirect_yields isTCP directs with
        ⟨rfl, isLog⟩ | ⟨n, isLog, ⟨rfl, rfl⟩ | ⟨rfl, isShort, leaves⟩⟩
      · obtain ⟨_, u, counts, later⟩ := Program.yields_bind.mp later
        obtain ⟨_, w, requests, later⟩ := Program.yields_bind.mp later
        cases later
        obtain ⟨found, rfl⟩ := yields_SendRequest.mp requests
        refine .pipe found ?_
        rw [SocketServer.note_log, ← isLog,
          ← log_of_follows (incSendingRef_follows _) counts]
      · cases later
        exact .all isLog
      · obtain ⟨_, w, requests, later⟩ := Program.yields_bind.mp later
        cases later
        obtain ⟨found, rfl⟩ := yields_SendRequest.mp requests
        refine .part n found isShort ?_ leaves
        rw [SocketServer.note_log, ← isLog]

/-- An open TCP socket of the buffer's id that is connected. -/
structure Connected
    (s : SocketServer Worker)
    (id : Int32) : Prop where
  isId : (s.slot (hashId id)).id = id
  isConnected : (s.slot (hashId id)).type = .kSocketTypeConnected
  isTCP : (s.slot (hashId id)).protocol = .TCP
  notClosing : (s.slot (hashId id)).closing = false

/--
What was written directly and what the `dw_*` fields describe is the payload,
and so is what a request describes.
-/
structure Describes
    (s s' : SocketServer Worker)
    (caller : Caller Worker)
    (buffer : SocketSendbuffer) : Prop where
  rest :
    ∀ later n,
      s'.log = later ++ s.log →
      n < buffer.sz.toNat →
      .wrote (hashId buffer.id) (s.slot (hashId buffer.id)).incarnation
          ⟨buffer.buffer, 0⟩ n ∈ later →
        (s'.slot (hashId buffer.id)).leftOver = buffer.payload.drop n
  whole :
    ∀ later request found,
      s'.log = later ++ s.log →
      .requested caller (.send request) found ∈ later →
        (appendNode request).bytes = buffer.payload

/-- A buffer that is given on faithfully is described, and an empty one. -/
theorem Sent.describes
    (sent : Sent s caller buffer s')
    (isString : buffer.buffer.isSome)
    (given :
      Faithful buffer ∨ buffer.type = .rawPointer ∧ buffer.sz = 0) :
    Describes s s' caller buffer := by
  have later_eq
      (first later : List (Happening Worker))
      (isLog : s'.log = first ++ s.log)
      (isLater : s'.log = later ++ s.log) :
      later = first :=
    List.append_cancel_right (isLater.symm.trans isLog)
  cases sent with
  | all isLog =>
      constructor
      · intro later n isLater isShort member
        rw [later_eq [_] later isLog isLater, List.mem_singleton] at member
        cases member
        exact absurd isShort (Nat.lt_irrefl _)
      · intro later request found isLater member
        rw [later_eq [_] later isLog isLater, List.mem_singleton] at member
        cases member
  | part wrote found isShort isLog leaves =>
      have faithful : Faithful buffer := by
        rcases given with faithful | ⟨_, isEmpty⟩
        · exact faithful
        · rw [isEmpty] at isShort
          exact absurd isShort (Nat.not_lt_zero _)
      constructor
      · intro later n isLater _ member
        rw [later_eq [_, _] later isLog isLater] at member
        have isWrote : n = wrote := by
          simpa using member
        rw [isWrote]
        exact (leaves.leftOver_iff isString isShort).mpr faithful
      · intro later request others isLater member
        rw [later_eq [_, _] later isLog isLater] at member
        simp at member
  | pipe found isLog =>
      constructor
      · intro later n isLater _ member
        rw [later_eq [_] later isLog isLater, List.mem_singleton] at member
        cases member
      · intro later request others isLater member
        rw [later_eq [_] later isLog isLater, List.mem_singleton] at member
        cases member
        exact requestSend_bytes_iff.mpr given

end Calls

section Types

/-- A connected TCP socket with bytes of another payload left behind. -/
def waitingServer : SocketServer Worker :=
  { blankServer with
    slot := fun _ =>
      { blankSocket with
        id := 1, type := .kSocketTypeConnected, protocol := .TCP,
        dw_buffer := some 0, dw_size := 1 } }

variable (Worker) in
/-- What `Send` does there, with exchanges that do not fail. -/
theorem waitingServer_yields
    (type : SendbufferType)
    (object : Nat)
    (sz : UInt64) :
    ∃ s',
      (Send .socketThread ⟨1, type, some object, sz⟩).Yields
          (waitingServer : SocketServer Worker) 0 s' ∧
        s'.log =
          [.requested .socketThread
            (.send (requestSend ⟨1, type, some object, sz⟩)) []] := by
  let input : OsAnswer := { (default : OsAnswer) with flag := true, rounds := 1 }
  have isRun :
      (Program.replay (List.replicate 16 input)
          (Send .socketThread ⟨1, type, some object, sz⟩)
          (waitingServer : SocketServer Worker)).map
        (fun ended => (ended.1, ended.2.log)) =
      some
        (0, [.requested .socketThread
          (.send (requestSend ⟨1, type, some object, sz⟩)) []]) := by
    with_unfolding_all rfl
  obtain ⟨⟨result, s'⟩, replayed, isEnd⟩ := Option.map_eq_some_iff.mp isRun
  obtain ⟨rfl, isLog⟩ := Prod.mk.inj isEnd
  exact ⟨s', Program.yields_of_replay replayed, isLog⟩

/--
Every call of `Send` that returns 0 describes what it did not write exactly when
the buffer is given on as memory.  An object would have to have `USEROBJECT`
bytes, and a raw pointer none.
-/
theorem send_describes_iff
    (type : SendbufferType)
    (object : Nat)
    (sz : UInt64) :
    (∀ (id : Int32) (caller : Caller Worker) (s s' : SocketServer Worker),
      Connected s id →
      (Send caller ⟨id, type, some object, sz⟩).Yields s 0 s' →
        Describes s s' caller ⟨id, type, some object, sz⟩) ↔
      type = .memory ∨ type = .object ∧ sz = USEROBJECT ∨
        type = .rawPointer ∧ sz = 0 := by
  rw [← or_assoc]
  constructor
  · intro describes
    obtain ⟨s', yields, isLog⟩ := waitingServer_yields Worker type object sz
    have described :=
      describes 1 .socketThread waitingServer s' ⟨rfl, rfl, rfl, rfl⟩ yields
    refine requestSend_bytes_iff.mp
      (described.whole s'.log _ [] (List.append_nil _).symm ?_)
    rw [isLog]
    exact List.mem_cons_self
  · intro given id caller s s' connected yields
    exact (sent_of_yields connected.isTCP yields).describes rfl given

/-- An object of 7 bytes becomes a request for `USEROBJECT` bytes. -/
theorem sendObject_not_describes :
    ∃ s',
      (Send .socketThread ⟨1, .object, some 5, 7⟩).Yields
          (waitingServer : SocketServer Unit) 0 s' ∧
        ¬ Describes waitingServer s' .socketThread ⟨1, .object, some 5, 7⟩ := by
  obtain ⟨s', yields, isLog⟩ := waitingServer_yields Unit .object 5 7
  refine ⟨s', yields, fun describes => ?_⟩
  have member :
      .requested .socketThread
          (.send (requestSend ⟨1, .object, some 5, 7⟩)) [] ∈ s'.log := by
    rw [isLog]
    exact List.mem_cons_self
  have given :=
    requestSend_bytes_iff.mp
      (describes.whole s'.log _ [] (List.append_nil _).symm member)
  simp [Faithful, USEROBJECT] at given

end Types

end SkynetCpp
