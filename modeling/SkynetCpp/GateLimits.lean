import SkynetCpp.GateAlignment
import SkynetCpp.Foundation.Run

namespace SkynetCpp

open Foundation

/-!
# The limit on frames

`dispatch_message` looks at the length of a frame when the frame is complete,
and at an `int`.  `scan` is a reader of the same stream that looks at every
header when it reads it, as an unsigned number, and stops at one of 16M and
more; what the gate does with such a header is compared with it.
-/

/-- The lengths that are refused. -/
def kFrameLimit : Nat := 0x1000000

/-- Where a reader of a stream stops. -/
inductive ScanEnd where
  /-- In front of a frame that is not complete; no header is 0. -/
  | waiting (header : Nat) (bytes : List UInt8)
  /-- Behind a header that announces 16M or more. -/
  | overlong (header : Nat) (bytes : List UInt8)
  deriving Repr, DecidableEq

/-- What a reader of a stream finds. -/
structure Scan where
  /-- The bodies that are sent on. -/
  forwarded : List (List UInt8)
  /-- The headers that are read. -/
  reads : List (List UInt8)
  ending : ScanEnd
  deriving Repr, DecidableEq

/-- Put what was found before in front. -/
def Scan.behind
    (forwarded reads : List (List UInt8))
    (scan : Scan) : Scan :=
  { forwarded := forwarded ++ scan.forwarded
    reads := reads ++ scan.reads
    ending := scan.ending }

/--
The header that is taken out already, or the one in front of the stream: what
was read for it, the length that it announces, and the bytes behind it.
-/
def takeHeader
    (header : Nat)
    (bytes : List UInt8) : Option (List (List UInt8) × Nat × List UInt8) :=
  if header ≠ 0 then
    some ([], header, bytes)
  else if bytes.length < 4 then
    none
  else
    some ([bytes.take 4], ofBytes (bytes.take 4), bytes.drop 4)

/--
Read frames of a stream of which the header is already taken out, or 0.  When
nobody `takes` the bodies, they are read as headers.
-/
def scanLoop (takes : Bool) : Nat → Nat → List UInt8 → Scan
  | 0, header, bytes =>
      { forwarded := [], reads := [], ending := .waiting header bytes }
  | fuel + 1, header, bytes =>
      match takeHeader header bytes with
      | none =>
          { forwarded := [], reads := [], ending := .waiting 0 bytes }
      | some (reads, length, rest) =>
          if kFrameLimit ≤ length then
            { forwarded := [], reads := reads, ending := .overlong length rest }
          else if rest.length < length then
            { forwarded := [], reads := reads, ending := .waiting length rest }
          else if length ≠ 0 ∧ takes then
            (scanLoop takes fuel 0 (rest.drop length)).behind
              [rest.take length] reads
          else
            (scanLoop takes fuel 0 rest).behind [] reads

/-- Read a stream to its end. -/
def scan
    (takes : Bool)
    (header : Nat)
    (bytes : List UInt8) : Scan :=
  scanLoop takes (bytes.length + 2) header bytes

/-- A header below the limit, and less bytes than it announces. -/
def HoldsLess
    (header : Nat)
    (bytes : List UInt8) : Prop :=
  header < kFrameLimit ∧ bytes.length < if header = 0 then 4 else header

/-- Without a byte there is less than a header. -/
theorem holdsLess_nil : HoldsLess 0 [] :=
  ⟨by decide, by decide⟩

/-- The rounds that a reader may need. -/
def scanRounds
    (header : Nat)
    (bytes : List UInt8) : Nat :=
  bytes.length + if header = 0 then 0 else 1

section Scanning

variable
    {takes : Bool}
    {fuel header length : Nat}
    {bytes rest : List UInt8}
    {reads : List (List UInt8)}

/-- A header was taken out before, or is taken out now. -/
theorem takeHeader_eq_some_iff :
    takeHeader header bytes = some (reads, length, rest) ↔
      (header ≠ 0 ∧ reads = [] ∧ length = header ∧ rest = bytes) ∨
        (header = 0 ∧ 4 ≤ bytes.length ∧ reads = [bytes.take 4] ∧
          length = ofBytes (bytes.take 4) ∧ rest = bytes.drop 4) := by
  unfold takeHeader
  split
  · next notZero =>
      simp [notZero, eq_comm]
  · next isZero =>
      have isZero := not_not.mp isZero
      split
      · next short =>
          simp [isZero, Nat.not_le_of_lt short]
      · next long =>
          simp [isZero, Nat.le_of_not_lt long, eq_comm]

/-- No header is taken out of less than four bytes. -/
theorem takeHeader_eq_none_iff :
    takeHeader header bytes = none ↔ header = 0 ∧ bytes.length < 4 := by
  unfold takeHeader
  split
  · next notZero =>
      simp [notZero]
  · next isZero =>
      split
      · next short =>
          simp [not_not.mp isZero, short]
      · next long =>
          simp [long]

/-- Taking a header out takes a round. -/
theorem scanRounds_of_takeHeader
    (taken : takeHeader header bytes = some (reads, length, rest)) :
    rest.length < scanRounds header bytes := by
  unfold scanRounds
  rcases takeHeader_eq_some_iff.mp taken with
    ⟨notZero, _, _, isRest⟩ | ⟨isZero, long, _, _, isRest⟩
  · rw [if_neg notZero, isRest]
    omega
  · rw [if_pos isZero, isRest, List.length_drop]
    omega

/-- A reader that waits holds less than the next frame. -/
theorem scanLoop_holdsLess
    (fueled : scanRounds header bytes < fuel)
    {last : Nat}
    {unread : List UInt8}
    (isEnding :
      (scanLoop takes fuel header bytes).ending = .waiting last unread) :
    HoldsLess last unread := by
  fun_induction scanLoop takes fuel header bytes with
  | case1 =>
      cases fueled
  | case2 fuel header bytes noHeader =>
      cases isEnding
      exact ⟨by decide, (takeHeader_eq_none_iff.mp noHeader).2⟩
  | case3 =>
      cases isEnding
  | case4 fuel header bytes reads length rest taken small short =>
      cases isEnding
      refine ⟨Nat.lt_of_not_le small, ?_⟩
      rw [if_neg (Nat.ne_of_gt (Nat.zero_lt_of_lt short))]
      exact short
  | case5 fuel header bytes reads length rest taken small whole forwards
      inductionHypothesis =>
      have later := scanRounds_of_takeHeader taken
      refine inductionHypothesis ?_ isEnding
      rw [scanRounds, if_pos rfl, List.length_drop]
      omega
  | case6 fuel header bytes reads length rest taken small whole keeps
      inductionHypothesis =>
      have later := scanRounds_of_takeHeader taken
      refine inductionHypothesis ?_ isEnding
      rw [scanRounds, if_pos rfl]
      omega

/-- A reader stops at a header of 16M and more that it has just read. -/
theorem scanLoop_overlong
    (small : header < kFrameLimit)
    (isEnding :
      (scanLoop takes fuel header bytes).ending = .overlong length rest) :
    kFrameLimit ≤ length ∧ length < 2 ^ 32 ∧
      ∃ read ∈ (scanLoop takes fuel header bytes).reads,
        ofBytes read = length := by
  fun_induction scanLoop takes fuel header bytes with
  | case1 | case2 | case4 =>
      cases isEnding
  | case3 fuel header bytes reads length rest taken isLong =>
      cases isEnding
      rcases takeHeader_eq_some_iff.mp taken with
        ⟨_, _, isHeader, _⟩ | ⟨_, long, areReads, isLength, _⟩
      · rw [isHeader] at isLong
        exact absurd isLong (Nat.not_le_of_lt small)
      · have bound := ofBytes_lt (bytes.take 4)
        rw [List.length_take_of_le long, ← isLength] at bound
        refine ⟨isLong, bound, bytes.take 4, ?_, isLength.symm⟩
        rw [areReads]
        exact List.mem_singleton_self _
  | case5 fuel header bytes reads next rest taken _ _ _ inductionHypothesis
  | case6 fuel header bytes reads next rest taken _ _ _ inductionHypothesis =>
      obtain ⟨isLong, bound, read, member, isLength⟩ :=
        inductionHypothesis (by decide) isEnding
      exact
        ⟨isLong, bound, read, List.mem_append_right _ member, isLength⟩

/-- A header of 16M and more that was read is where a reader stops. -/
theorem scanLoop_of_long_read
    {read : List UInt8}
    (member : read ∈ (scanLoop takes fuel header bytes).reads)
    (isLong : kFrameLimit ≤ ofBytes read) :
    ∃ length rest,
      (scanLoop takes fuel header bytes).ending = .overlong length rest := by
  fun_induction scanLoop takes fuel header bytes with
  | case1 | case2 =>
      cases member
  | case3 fuel header bytes reads length rest =>
      exact ⟨length, rest, rfl⟩
  | case4 fuel header bytes reads length rest taken small =>
      rcases takeHeader_eq_some_iff.mp taken with
        ⟨_, areReads, _⟩ | ⟨_, _, areReads, isLength, _⟩
      · rw [areReads] at member
        cases member
      · rw [areReads] at member
        rw [List.mem_singleton.mp member, ← isLength] at isLong
        exact absurd isLong small
  | case5 fuel header bytes reads length rest taken small _ _
      inductionHypothesis
  | case6 fuel header bytes reads length rest taken small _ _
      inductionHypothesis =>
      rcases List.mem_append.mp member with isFirst | isLater
      · rcases takeHeader_eq_some_iff.mp taken with
          ⟨_, areReads, _⟩ | ⟨_, _, areReads, isLength, _⟩
        · rw [areReads] at isFirst
          cases isFirst
        · rw [areReads] at isFirst
          rw [List.mem_singleton.mp isFirst, ← isLength] at isLong
          exact absurd isLong small
      · exact inductionHypothesis isLater

end Scanning

section Reading

variable
    {mp : Messagepool}
    {bufs : Nat → Databuffer}
    {contents : Nat → List UInt8}
    {c header length : Nat}
    {rest : List UInt8}
    {reads : List (List UInt8)}

theorem isHeaderSize_four : IsHeaderSize 4 :=
  Or.inr rfl

/-- A header of four bytes is the `int` of its unsigned number. -/
theorem headerLength_four
    {plen : List UInt8}
    (isFour : plen.length = 4) :
    headerLength (4 : Nat) plen = toInt32 (ofBytes plen) := by
  obtain ⟨a, b, c, d, isPlen⟩ := List.length_eq_four.mp isFour
  subst isPlen
  rw [headerLength, if_neg (by decide)]
  simp only [List.getD_cons_zero, List.getD_cons_succ]
  rw [ofBytes_quadruple]

/-- The bytes of a header do not depend on its place. -/
theorem headerReads_bytes
    {db : Databuffer}
    (received other : Nat)
    (headerSize : Int) :
    (headerReads received db mp headerSize).map HeaderRead.bytes =
      (headerReads other db mp headerSize).map HeaderRead.bytes := by
  unfold headerReads
  split
  · cases databufferRead db mp headerSize <;> rfl
  · rfl

/-- Without a header in front `databuffer_readheader` waits. -/
theorem databufferReadheader_none
    (buffers : Buffers mp bufs contents)
    (isHeader : (bufs c).header = header)
    (noHeader : takeHeader header (contents c) = none)
    (received : Nat) :
    databufferReadheader (bufs c) mp (4 : Nat) = .ok (-1, bufs c, mp) ∧
      headerReads received (bufs c) mp (4 : Nat) = [] ∧
      (bufs c).header = 0 := by
  obtain ⟨isZero, short⟩ := takeHeader_eq_none_iff.mp noHeader
  have noField : (bufs c).header = 0 := by
    rw [isHeader, isZero]
    rfl
  obtain ⟨isRead, _⟩ :=
    databufferReadheader_short buffers (Or.inl ⟨noField, rfl⟩) short
  exact ⟨isRead, headerReads_short buffers short received, noField⟩

/-- `databuffer_readheader` takes the header out, and compares an `int`. -/
theorem databufferReadheader_some
    (buffers : Buffers mp bufs contents)
    (isHeader : (bufs c).header = header)
    (small : header < kFrameLimit)
    (taken : takeHeader header (contents c) = some (reads, length, rest))
    (received : Nat) :
    ∃ db mp',
      databufferReadheader (bufs c) mp (4 : Nat) =
          .ok (if (rest.length : Int) < toInt32 length then -1
            else toInt32 length, db, mp') ∧
        Buffers mp' (Function.update bufs c db)
          (Function.update contents c rest) ∧
        db.header = toInt32 length ∧
        (headerReads received (bufs c) mp (4 : Nat)).map HeaderRead.bytes =
          reads := by
  rcases takeHeader_eq_some_iff.mp taken with
    ⟨notZero, areReads, isLength, isRest⟩ |
    ⟨isZero, long, areReads, isLength, isRest⟩
  · have hasField : (bufs c).header ≠ 0 := by
      rw [isHeader]
      exact_mod_cast notZero
    have stored : toInt32 length = (bufs c).header := by
      rw [isLength, isHeader]
      have bound : header < 0x1000000 := small
      exact toInt32_of_bounds (by omega) (by omega)
    have isSize : (bufs c).size = rest.length := by
      rw [buffers.size c, isRest]
    refine ⟨bufs c, mp, ?_, ?_, stored.symm, ?_⟩
    · simp only [databufferReadheader, if_neg hasField, stored, isSize]
      split <;> rfl
    · rw [isRest, Function.update_eq_self, Function.update_eq_self]
      exact buffers
    · rw [headerReads, if_neg (fun both => hasField both.1), areReads]
      rfl
  · have noField : (bufs c).header = 0 := by
      rw [isHeader, isZero]
      rfl
    have pending : Pending 4 (bufs c).header (contents c) (contents c) :=
      Or.inl ⟨noField, rfl⟩
    obtain ⟨db, mp', isRead, buffers', isField⟩ :=
      databufferReadheader_spec isHeaderSize_four buffers pending long
    have isInt :
        headerLength (4 : Nat) ((contents c).take 4) = toInt32 length := by
      rw [isLength]
      exact headerLength_four (List.length_take_of_le long)
    rw [isInt] at isRead isField
    rw [← isRest] at isRead buffers'
    refine ⟨db, mp', isRead, buffers', isField, ?_⟩
    have areRead :=
      headerReads_of_pending isHeaderSize_four buffers pending long
        (Nat.zero_add (contents c).length).symm
    rw [headerReads_bytes received, areRead, if_pos noField, areReads]
    rfl

/-- A length of 16M and more is an `int` that is not 0. -/
theorem toInt32_long
    (isLong : kFrameLimit ≤ length)
    (bound : length < 2 ^ 32) :
    if length < 2 ^ 31 then
      toInt32 length = length
    else
      toInt32 length < 0 := by
  have positive : 0x1000000 ≤ length := isLong
  split
  · next small =>
      exact toInt32_of_bounds (by omega) (by omega)
  · next large =>
      have wrapped : toInt32 length = toInt32 ((length : Int) - 2 ^ 32) := by
        exact (Int.sub_bmod_right (length : Int) (2 ^ 32)).symm
      rw [wrapped, toInt32_of_bounds (by omega) (by omega)]
      omega

end Reading

section Forwarding

variable
    {gate next : Gate}
    {c : Nat}
    {size : Int}
    {calls : List ServiceCall}

/-- The call is a `ServiceSend`. -/
def ServiceCall.isSend : ServiceCall → Bool
  | .serviceSend .. => true
  | _ => false

/-- `_forward` reads the bodies of the connection, and sends them on. -/
def Gate.takes
    (gate : Gate)
    (c : Nat) : Bool :=
  0 < (gate.conn c).id &&
    (gate.broker ≠ 0 || (gate.conn c).agent ≠ 0 || gate.watchdog ≠ 0)

theorem Gate.takes_iff :
    gate.takes c = true ↔ 0 < (gate.conn c).id ∧ gate.HasTarget c := by
  simp [Gate.takes, Gate.HasTarget, Gate.HasReceiver]

@[simp] theorem Gate.setBuffer_takes
    (db : Databuffer)
    (mp : Messagepool) :
    (gate.setBuffer c db mp).takes c = gate.takes c := by
  rw [Bool.eq_iff_iff, Gate.takes_iff, Gate.takes_iff, Gate.setBuffer_id,
    Gate.setBuffer_hasTarget]

/-- `_forward` sends one message when it takes the body. -/
theorem Gate.forward_sends
    (takes : gate.takes c = true)
    (done : gate.forward c size = .ok (next, calls)) :
    calls.countP ServiceCall.isSend = 1 := by
  obtain ⟨isOpen, target⟩ := Gate.takes_iff.mp takes
  unfold Gate.forward at done
  simp only [if_neg (not_le.mpr isOpen)] at done
  split at done
  · obtain ⟨_, _, done⟩ := bind_eq_ok_iff.mp done
    cases done
    rfl
  · next noBroker =>
      split at done
      · obtain ⟨_, _, done⟩ := bind_eq_ok_iff.mp done
        cases done
        rfl
      · next noAgent =>
          split at done
          · obtain ⟨_, _, done⟩ := bind_eq_ok_iff.mp done
            cases done
            rfl
          · next noWatchdog =>
              rcases target with (hasBroker | hasAgent) | hasWatchdog
              · exact absurd hasBroker noBroker
              · exact absurd hasAgent noAgent
              · exact absurd hasWatchdog noWatchdog

/-- `_forward` leaves the body where it is when it does not take it. -/
theorem Gate.forward_leaves
    (leaves : ¬ gate.takes c = true)
    (size : Int) :
    gate.forward c size = .ok (gate, []) := by
  rw [Gate.takes_iff, not_and] at leaves
  by_cases isOpen : 0 < (gate.conn c).id
  · have noTarget := leaves isOpen
    rw [Gate.HasTarget, not_or] at noTarget
    exact Gate.forward_nobody noTarget.1 noTarget.2 size
  · simp only [Gate.forward, if_pos (not_lt.mp isOpen)]

end Forwarding

/--
What the loop of `dispatch_message` leaves where a reader finds this: a buffer,
its bytes, the calls made and the headers read.
-/
structure LoopLeft
    (found : Scan)
    (id : Int)
    (db : Databuffer)
    (bytes : List UInt8)
    (calls : List ServiceCall)
    (reads : List HeaderRead) : Prop where
  reads : reads.map HeaderRead.bytes = found.reads
  sends : calls.countP ServiceCall.isSend = found.forwarded.length
  waits :
    ∀ header rest,
      found.ending = .waiting header rest → db.header = header ∧ bytes = rest
  refuses :
    ∀ length rest,
      found.ending = .overlong length rest →
        if length < 2 ^ 31 ∧ length ≤ rest.length then
          db = .zero ∧ bytes = [] ∧ .socketClose id ∈ calls
        else
          db.header ≠ 0

/-- What a reader found before was sent and read before. -/
theorem LoopLeft.behind
    {found : Scan}
    {id : Int}
    {db : Databuffer}
    {bytes : List UInt8}
    {calls later : List ServiceCall}
    {reads laterReads : List HeaderRead}
    {bodies headers : List (List UInt8)}
    (left : LoopLeft found id db bytes later laterReads)
    (areReads : reads.map HeaderRead.bytes = headers)
    (sends : calls.countP ServiceCall.isSend = bodies.length) :
    LoopLeft (found.behind bodies headers) id db bytes (calls ++ later)
      (reads ++ laterReads) where
  reads := by
    rw [List.map_append, areReads, left.reads]
    rfl
  sends := by
    rw [List.countP_append, sends, left.sends, ← List.length_append]
    rfl
  waits := left.waits
  refuses := by
    intro length rest isEnding
    have refused := left.refuses length rest isEnding
    split at refused
    · next complete =>
        rw [if_pos complete]
        exact
          ⟨refused.1, refused.2.1, List.mem_append_right calls refused.2.2⟩
    · next incomplete =>
        rw [if_neg incomplete]
        exact refused

section Loop

variable
    {gate : Gate}
    {contents : Nat → List UInt8}
    {received c fuel header length : Nat}
    {db db' : Databuffer}
    {mp mp' : Messagepool}
    {size : Int}
    {rest : List UInt8}

/-- A traced round that refuses a frame of 16M and more. -/
theorem Gate.tracedMessageLoop_refuse
    (isRead :
      databufferReadheader (gate.bufs c) gate.mp gate.header_size =
        .ok (size, db, mp))
    (isLong : size ≥ 0x1000000)
    (cleared : databufferClear db mp = .ok (db', mp'))
    (id : Int) :
    Gate.tracedMessageLoop received c id (fuel + 1) gate =
      .ok (gate.setBuffer c db' mp',
        [.socketClose id, .skynetError "Recv socket message > 16M"],
        headerReads received (gate.bufs c) gate.mp gate.header_size) := by
  have isBuffer : ∀ other : Gate, (other.conn c).buffer = other.bufs c :=
    fun _ => rfl
  have notNegative : ¬ size < 0 := by omega
  have isPositive : size > 0 := by omega
  simp only [Gate.tracedMessageLoop, isBuffer, isRead, bind, Except.bind,
    if_neg notNegative, if_pos isPositive, if_pos isLong,
    Gate.setBuffer_bufs, Function.update_self, Gate.setBuffer_mp, cleared,
    Gate.setBuffer_setBuffer]

/-- A round behind which the loop goes on without a header. -/
structure GoesOn
    (gate : Gate)
    (contents : Nat → List UInt8)
    (received c : Nat)
    (id : Int)
    (fuel : Nat)
    (rest : List UInt8)
    (bodies : Nat)
    (db : Databuffer)
    (mp : Messagepool)
    (calls : List ServiceCall) : Prop where
  turn :
    Gate.tracedMessageLoop received c id (fuel + 1) gate =
      before calls
        (headerReads received (gate.bufs c) gate.mp gate.header_size)
        (Gate.tracedMessageLoop received c id fuel (gate.setBuffer c db mp))
  buffers :
    Buffers mp (Function.update gate.bufs c db)
      (Function.update contents c rest)
  noHeader : db.header = 0
  sends : calls.countP ServiceCall.isSend = bodies

variable
    (isRead :
      databufferReadheader (gate.bufs c) gate.mp gate.header_size =
        .ok ((length : Int), db, mp))
    (buffers :
      Buffers mp (Function.update gate.bufs c db)
        (Function.update contents c rest))

include isRead buffers

/-- A body that is taken is sent on, and is out of the buffer. -/
theorem GoesOn.forwards
    (takes : gate.takes c = true)
    (positive : 0 < length)
    (small : length < kFrameLimit)
    (whole : length ≤ rest.length)
    (id : Int) :
    ∃ db' mp' calls,
      GoesOn gate contents received c id fuel (rest.drop length) 1 db' mp'
        calls := by
  have below : length < 0x1000000 := small
  let read := gate.setBuffer c db mp
  have readBuffers :
      Buffers read.mp read.bufs (Function.update contents c rest) := by
    simpa [read] using buffers
  have readTakes : read.takes c = true := by
    simpa [read] using takes
  obtain ⟨isOpen, target⟩ := Gate.takes_iff.mp readTakes
  obtain ⟨db', mp', calls, isSent, buffersSent⟩ :=
    Gate.forward_takes readBuffers isOpen target positive (by simpa using whole)
  have sends := Gate.forward_sends readTakes isSent
  simp only [read, Gate.setBuffer_setBuffer] at isSent
  refine
    ⟨{ db' with header := 0 }, mp', calls,
      Gate.tracedMessageLoop_forward isRead (by omega) (by omega) isSent, ?_,
      rfl, sends⟩
  have reset := buffersSent.setHeader c 0
  simpa [read] using reset

/-- A body that is not taken stays, and its header is forgotten. -/
theorem GoesOn.leaves
    (leaves : ¬ (length ≠ 0 ∧ gate.takes c = true))
    (isField : db.header = length)
    (small : length < kFrameLimit)
    (id : Int) :
    ∃ db' mp', GoesOn gate contents received c id fuel rest 0 db' mp' [] := by
  by_cases isZero : length = 0
  · refine ⟨db, mp, ?_, buffers, by simp [isField, isZero], rfl⟩
    exact Gate.tracedMessageLoop_skip isRead (by simp [isZero])
  · have below : length < 0x1000000 := small
    have notTaken : ¬ (gate.setBuffer c db mp).takes c = true := by
      rw [Gate.setBuffer_takes]
      exact fun takes => leaves ⟨isZero, takes⟩
    refine
      ⟨{ db with header := 0 }, mp,
        Gate.tracedMessageLoop_forward isRead (by omega) (by omega)
          (Gate.forward_leaves notTaken length), ?_, rfl, rfl⟩
    simpa using buffers.setHeader c 0

end Loop

/-- The buffer of a connection holds what a reader of its stream holds. -/
structure HoldsStream
    (gate : Gate)
    (contents : Nat → List UInt8)
    (c : Nat)
    (header : Nat)
    (bytes : List UInt8) : Prop where
  header_size : gate.header_size = (4 : Nat)
  buffers : Buffers gate.mp gate.bufs contents
  small : header < kFrameLimit
  header : (gate.bufs c).header = header
  bytes : contents c = bytes

/-- The loop of `dispatch_message` returns with what a reader finds. -/
def ReturnsScan
    (gate : Gate)
    (contents : Nat → List UInt8)
    (received c : Nat)
    (id : Int)
    (fuel : Nat)
    (found : Scan) : Prop :=
  ∃ db mp calls reads bytes,
    Gate.tracedMessageLoop received c id fuel gate =
        .ok (gate.setBuffer c db mp, calls, reads) ∧
      Buffers mp (Function.update gate.bufs c db)
        (Function.update contents c bytes) ∧
      LoopLeft found id db bytes calls reads

section Refinement

variable
    {gate : Gate}
    {contents : Nat → List UInt8}
    {received c fuel header length n : Nat}
    {id : Int}
    {db : Databuffer}
    {mp : Messagepool}
    {bytes rest : List UInt8}
    {calls : List ServiceCall}
    {reads : List (List UInt8)}

/-- Less than a header is waited for. -/
theorem HoldsStream.returns_none
    (tracks : HoldsStream gate contents c header bytes)
    (noHeader : takeHeader header bytes = none) :
    ReturnsScan gate contents received c id (fuel + 1)
      { forwarded := [], reads := [], ending := .waiting 0 bytes } := by
  have isBytes := tracks.bytes
  subst isBytes
  obtain ⟨isRead, noReads, isZero⟩ :=
    databufferReadheader_none tracks.buffers tracks.header noHeader received
  rw [← tracks.header_size] at isRead noReads
  refine
    ⟨gate.bufs c, gate.mp, [], [], contents c, ?_,
      by simpa using tracks.buffers, rfl, rfl, ?_, nofun⟩
  · rw [Gate.tracedMessageLoop_wait isRead (by decide), noReads]
  · intro last unread isEnding
    cases isEnding
    exact ⟨isZero, rfl⟩

/-- A header of 16M and more is refused, or waited for. -/
theorem HoldsStream.returns_overlong
    (tracks : HoldsStream gate contents c header bytes)
    (taken : takeHeader header bytes = some (reads, length, rest))
    (isLong : kFrameLimit ≤ length) :
    ReturnsScan gate contents received c id (fuel + 1)
      { forwarded := [], reads := reads, ending := .overlong length rest } := by
  have isBytes := tracks.bytes
  subst isBytes
  obtain ⟨db, mp, isRead, buffersRead, isField, areReads⟩ :=
    databufferReadheader_some tracks.buffers tracks.header tracks.small taken
      received
  rw [← tracks.header_size] at isRead areReads
  have positive : 0x1000000 ≤ length := isLong
  have bound : length < 2 ^ 32 := by
    rcases takeHeader_eq_some_iff.mp taken with
      ⟨_, _, isLength, _⟩ | ⟨_, long, _, isLength, _⟩
    · rw [isLength] at isLong
      exact absurd isLong (Nat.not_le_of_lt tracks.small)
    · have lt := ofBytes_lt ((contents c).take 4)
      rw [List.length_take_of_le long, ← isLength] at lt
      exact lt
  have asInt := toInt32_long isLong bound
  by_cases complete : length < 2 ^ 31 ∧ length ≤ rest.length
  · rw [if_pos complete.1] at asInt
    rw [asInt, if_neg (by omega)] at isRead
    obtain ⟨mpCleared, cleared, buffersCleared⟩ :=
      databufferClear_spec buffersRead c
    rw [Function.update_self] at cleared
    refine
      ⟨.zero, mpCleared, _, _, [],
        Gate.tracedMessageLoop_refuse isRead (by omega) cleared id,
        by simpa using buffersCleared, areReads, rfl, nofun, ?_⟩
    intro other unread isEnding
    cases isEnding
    rw [if_pos complete]
    exact ⟨rfl, rfl, List.mem_cons_self⟩
  · -- The `int` is negative, or more than what is there.
    have isNegative :
        (if (rest.length : Int) < toInt32 length then -1
          else toInt32 length) < 0 := by
      split
      · decide
      · next notMore =>
          split at asInt
          · next fits =>
              have short := mt (And.intro fits) complete
              omega
          · exact asInt
    refine
      ⟨db, mp, [], _, rest, Gate.tracedMessageLoop_wait isRead isNegative,
        buffersRead, areReads, rfl, nofun, ?_⟩
    intro other unread isEnding
    cases isEnding
    rw [if_neg complete, isField]
    split at asInt <;> omega

/-- A header below the limit is taken out as it is. -/
theorem HoldsStream.readheader
    (tracks : HoldsStream gate contents c header bytes)
    (taken : takeHeader header bytes = some (reads, length, rest))
    (notLong : ¬ kFrameLimit ≤ length)
    (received : Nat) :
    ∃ db mp,
      databufferReadheader (gate.bufs c) gate.mp gate.header_size =
          .ok (if rest.length < length then -1 else (length : Int), db, mp) ∧
        Buffers mp (Function.update gate.bufs c db)
          (Function.update contents c rest) ∧
        db.header = length ∧
        (headerReads received (gate.bufs c) gate.mp gate.header_size).map
          HeaderRead.bytes = reads := by
  have isBytes := tracks.bytes
  subst isBytes
  obtain ⟨db, mp, isRead, buffersRead, isField, areReads⟩ :=
    databufferReadheader_some tracks.buffers tracks.header tracks.small taken
      received
  have below : length < 0x1000000 := Nat.lt_of_not_le notLong
  rw [toInt32_of_bounds (by omega) (by omega)] at isRead isField
  rw [← tracks.header_size] at isRead areReads
  simp only [Nat.cast_lt] at isRead
  exact ⟨db, mp, isRead, buffersRead, isField, areReads⟩

/-- A frame that is not complete is waited for. -/
theorem HoldsStream.returns_short
    (tracks : HoldsStream gate contents c header bytes)
    (taken : takeHeader header bytes = some (reads, length, rest))
    (notLong : ¬ kFrameLimit ≤ length)
    (short : rest.length < length) :
    ReturnsScan gate contents received c id (fuel + 1)
      { forwarded := [], reads := reads, ending := .waiting length rest } := by
  obtain ⟨db, mp, isRead, buffersRead, isField, areReads⟩ :=
    tracks.readheader taken notLong received
  rw [if_pos short] at isRead
  refine
    ⟨db, mp, [], _, rest, Gate.tracedMessageLoop_wait isRead (by decide),
      buffersRead, areReads, rfl, ?_, nofun⟩
  intro last unread isEnding
  cases isEnding
  exact ⟨isField, rfl⟩

/-- Behind a round without an end the buffer holds what a reader holds. -/
theorem GoesOn.tracks
    (goesOn : GoesOn gate contents received c id fuel rest n db mp calls)
    (header_size : gate.header_size = (4 : Nat)) :
    HoldsStream (gate.setBuffer c db mp) (Function.update contents c rest) c 0
      rest where
  header_size := header_size
  buffers := by simpa using goesOn.buffers
  small := by decide
  header := by simpa using goesOn.noHeader
  bytes := by simp

/-- The loop returns with the round and with what a reader finds behind it. -/
theorem GoesOn.returns
    {found : Scan}
    (bodies : List (List UInt8))
    (goesOn :
      GoesOn gate contents received c id fuel rest bodies.length db mp calls)
    (areReads :
      (headerReads received (gate.bufs c) gate.mp gate.header_size).map
        HeaderRead.bytes = reads)
    (later :
      ReturnsScan (gate.setBuffer c db mp) (Function.update contents c rest)
        received c id fuel found) :
    ReturnsScan gate contents received c id (fuel + 1)
      (found.behind bodies reads) := by
  obtain ⟨last, mpLast, more, traced, left, isDone, buffersLast, isLeft⟩ :=
    later
  refine
    ⟨last, mpLast, calls ++ more, _, left, ?_, by simpa using buffersLast,
      isLeft.behind areReads goesOn.sends⟩
  rw [goesOn.turn, isDone, Gate.setBuffer_setBuffer]
  rfl

/-- The loop of `dispatch_message` returns with what a reader finds. -/
theorem HoldsStream.returns
    {takes : Bool}
    (tracks : HoldsStream gate contents c header bytes)
    (areTaken : gate.takes c = takes)
    (fueled : scanRounds header bytes < fuel)
    (received : Nat)
    (id : Int) :
    ReturnsScan gate contents received c id fuel
      (scanLoop takes fuel header bytes) := by
  fun_induction scanLoop takes fuel header bytes generalizing gate contents with
  | case1 =>
      cases fueled
  | case2 fuel header bytes noHeader =>
      exact tracks.returns_none noHeader
  | case3 fuel header bytes reads length rest taken isLong =>
      exact tracks.returns_overlong taken isLong
  | case4 fuel header bytes reads length rest taken notLong short =>
      exact tracks.returns_short taken notLong short
  | case5 fuel header bytes reads length rest taken notLong whole forwards
      inductionHypothesis =>
      obtain ⟨db, mp, isRead, buffersRead, _, areReads⟩ :=
        tracks.readheader taken notLong received
      rw [if_neg whole] at isRead
      obtain ⟨db', mp', calls, goesOn⟩ :=
        GoesOn.forwards isRead buffersRead (areTaken.trans forwards.2)
          (Nat.pos_of_ne_zero forwards.1) (Nat.lt_of_not_le notLong)
          (Nat.le_of_not_lt whole) id
      have later := scanRounds_of_takeHeader taken
      refine
        GoesOn.returns [_] goesOn areReads
          (inductionHypothesis (goesOn.tracks tracks.header_size)
            (by simpa using areTaken) ?_)
      rw [scanRounds, if_pos rfl, List.length_drop]
      omega
  | case6 fuel header bytes reads length rest taken notLong whole keeps
      inductionHypothesis =>
      obtain ⟨db, mp, isRead, buffersRead, isField, areReads⟩ :=
        tracks.readheader taken notLong received
      rw [if_neg whole] at isRead
      obtain ⟨db', mp', goesOn⟩ :=
        GoesOn.leaves isRead buffersRead (by rw [areTaken]; exact keeps) isField
          (Nat.lt_of_not_le notLong) id
      have later := scanRounds_of_takeHeader taken
      refine
        GoesOn.returns [] goesOn areReads
          (inductionHypothesis (goesOn.tracks tracks.header_size)
            (by simpa using areTaken) ?_)
      rw [scanRounds, if_pos rfl]
      omega

end Refinement

/-- The header that a reader holds where it stops; an overlong one is dropped. -/
def ScanEnd.header : ScanEnd → Nat
  | .waiting header _ => header
  | .overlong _ _ => 0

/-- The bytes that a reader holds where it stops. -/
def ScanEnd.bytes : ScanEnd → List UInt8
  | .waiting _ bytes => bytes
  | .overlong _ _ => []

/-- The header announces 16M or more, as an unsigned number. -/
def HeaderRead.isLong (read : HeaderRead) : Bool :=
  kFrameLimit ≤ ofBytes read.bytes

/-- What `dispatch_message` did with a chunk. -/
structure GateLimitEntry where
  id : Int
  chunk : List UInt8
  /-- A header of 16M or more was read on the connection before. -/
  overlong : Bool
  reads : List HeaderRead
  calls : List ServiceCall
  /-- The buffer of the connection behind it. -/
  left : Databuffer

/--
Headers of 16M and more are refused in the call that reads them, little is
buffered, and nothing is sent on behind such a header.
-/
structure GateLimitEntry.Meets (entry : GateLimitEntry) : Prop where
  refuses :
    ∀ read ∈ entry.reads,
      read.isLong = true →
        entry.left = .zero ∧ .socketClose entry.id ∈ entry.calls
  bounded : entry.left.size ≤ kFrameLimit + entry.chunk.length
  quiet :
    entry.overlong = true → ∀ call ∈ entry.calls, call.isSend = false

/-- A gate, with what readers of its connections hold. -/
structure GateLimitRun where
  gate : Gate
  header : Nat → Nat
  unread : Nat → List UInt8
  /-- A header of 16M or more was read on the connection since it came. -/
  overlong : Nat → Bool
  entries : List GateLimitEntry

namespace GateLimitRun

/-- What a reader of a connection finds when a chunk arrives. -/
def found
    (t : GateLimitRun)
    (c : Nat)
    (chunk : List UInt8) : Scan :=
  scan (t.gate.takes c) (t.header c) (t.unread c ++ chunk)

/-- The state behind an event that the gate handled. -/
def after
    (t : GateLimitRun)
    (next : Gate)
    (calls : List ServiceCall) : GateEvent → GateLimitRun
  | .data c chunk =>
      let ending := (t.found c chunk).ending
      let reads :=
        GateEntry.headersRead
          { gate := t.gate, event := .data c chunk, calls := calls } c 0
      { gate := next
        header := Function.update t.header c ending.header
        unread := Function.update t.unread c ending.bytes
        overlong :=
          Function.update t.overlong c
            (t.overlong c || reads.any HeaderRead.isLong)
        entries :=
          { id := (t.gate.conn c).id
            chunk := chunk
            overlong := t.overlong c
            reads := reads
            calls := calls
            left := next.bufs c } :: t.entries }
  | .forward _ _ _ | .broker _ =>
      { t with gate := next }
  | .accept c _ =>
      { t with gate := next, overlong := Function.update t.overlong c false }
  | .close c =>
      { t with
        gate := next
        header := Function.update t.header c 0
        unread := Function.update t.unread c []
        overlong := Function.update t.overlong c false }

/-- The gate handles an event. -/
def Step
    (t : GateLimitRun)
    (event : GateEvent)
    (t' : GateLimitRun) : Prop :=
  ∃ next calls,
    t.gate.handle event = .ok (next, calls) ∧ t' = t.after next calls event

/-- A gate that got no data yet. -/
def start (gate : Gate) : GateLimitRun where
  gate := gate
  header := fun _ => 0
  unread := fun _ => []
  overlong := fun _ => false
  entries := []

/-- What the gate promises of a state. -/
def Meets (t : GateLimitRun) : Prop :=
  ∀ entry ∈ t.entries, entry.Meets

/--
An overlong header is below 2^31 and comes with all the bytes that it
announces, and no body that is sent on comes behind one.
-/
def Admits (t : GateLimitRun) : GateEvent → Prop
  | .data c chunk =>
      (∀ length rest,
          (t.found c chunk).ending = .overlong length rest →
            length < 2 ^ 31 ∧ length ≤ rest.length) ∧
        (t.overlong c = true → (t.found c chunk).forwarded = [])
  | _ => True

/-- The buffers of the gate hold what the readers of its connections hold. -/
structure Mirrors (t : GateLimitRun) : Prop where
  header_size : t.gate.header_size = (4 : Nat)
  buffers : Buffers t.gate.mp t.gate.bufs t.unread
  header : ∀ c, (t.gate.bufs c).header = t.header c
  holdsLess : ∀ c, HoldsLess (t.header c) (t.unread c)

variable
    {t next : GateLimitRun}
    {c : Nat}

/-- What `dispatch_message` does with a chunk is what a reader finds. -/
theorem Mirrors.dispatch
    (mirrors : t.Mirrors)
    (c : Nat)
    (chunk : List UInt8) :
    ∃ db mp calls reads bytes,
      t.gate.tracedMessage chunk.length c (t.gate.conn c).id chunk
            chunk.length =
          .ok (t.gate.setBuffer c db mp, calls, reads) ∧
        Buffers mp (Function.update t.gate.bufs c db)
          (Function.update t.unread c bytes) ∧
        LoopLeft (t.found c chunk) (t.gate.conn c).id db bytes calls reads := by
  obtain ⟨db, mp, isPushed, buffersPushed, sameHeader⟩ :=
    databufferPush_spec mirrors.buffers c chunk
  let bytes := t.unread c ++ chunk
  have isSize : db.size = bytes.length := by
    simpa [bytes] using buffersPushed.size c
  have holds :
      HoldsStream (t.gate.setBuffer c db mp)
        (Function.update t.unread c bytes) c (t.header c) bytes :=
    { header_size := mirrors.header_size
      buffers := by simpa using buffersPushed
      small := (mirrors.holdsLess c).1
      header := by simpa using sameHeader.trans (mirrors.header c)
      bytes := by simp }
  have fueled : scanRounds (t.header c) bytes < bytes.length + 2 := by
    unfold scanRounds
    split <;> omega
  obtain ⟨last, mpLast, calls, reads, left, isDone, buffersLast, isLeft⟩ :=
    holds.returns (Gate.setBuffer_takes db mp) fueled chunk.length
      (t.gate.conn c).id
  rw [Gate.setBuffer_setBuffer] at isDone
  refine
    ⟨last, mpLast, calls, reads, left, ?_, by simpa using buffersLast, isLeft⟩
  rw [Gate.tracedMessage_eq isPushed, isSize, Int.toNat_natCast]
  exact isDone

/-- A reader that waits behind a chunk holds less than the next frame. -/
theorem found_waiting
    {chunk rest : List UInt8}
    {header : Nat}
    (isEnding : (t.found c chunk).ending = .waiting header rest) :
    HoldsLess header rest := by
  refine scanLoop_holdsLess ?_ isEnding
  unfold scanRounds
  split <;> omega

/-- An overlong header stands behind a chunk that it came with. -/
theorem Mirrors.found_overlong
    (mirrors : t.Mirrors)
    {chunk rest : List UInt8}
    {length : Nat}
    (isEnding : (t.found c chunk).ending = .overlong length rest) :
    ∃ read ∈ (t.found c chunk).reads, kFrameLimit ≤ ofBytes read := by
  obtain ⟨isLong, _, read, member, isLength⟩ :=
    scanLoop_overlong (mirrors.holdsLess c).1 isEnding
  exact ⟨read, member, isLength ▸ isLong⟩

section Left

variable
    {chunk bytes : List UInt8}
    {db : Databuffer}
    {calls : List ServiceCall}
    {reads : List HeaderRead}
    (left :
      LoopLeft (t.found c chunk) (t.gate.conn c).id db bytes calls reads)

include left

/-- Overlong headers are refused exactly when they come below 2^31 and whole. -/
theorem Mirrors.refuses_iff
    (mirrors : t.Mirrors) :
    (∀ read ∈ reads,
        read.isLong = true →
          db = .zero ∧ .socketClose (t.gate.conn c).id ∈ calls) ↔
      ∀ length rest,
        (t.found c chunk).ending = .overlong length rest →
          length < 2 ^ 31 ∧ length ≤ rest.length := by
  constructor
  · intro refuses length rest isEnding
    obtain ⟨bytes, member, isLong⟩ := mirrors.found_overlong isEnding
    rw [← left.reads] at member
    obtain ⟨read, isRead, isBytes⟩ := List.mem_map.mp member
    subst isBytes
    obtain ⟨isZero, _⟩ := refuses read isRead (decide_eq_true isLong)
    have refused := left.refuses length rest isEnding
    split at refused
    · assumption
    · rw [isZero] at refused
      exact absurd rfl refused
  · intro complete read isRead isLong
    have member : read.bytes ∈ (t.found c chunk).reads := by
      rw [← left.reads]
      exact List.mem_map_of_mem isRead
    obtain ⟨length, rest, isEnding⟩ :=
      scanLoop_of_long_read member (of_decide_eq_true isLong)
    have refused := left.refuses length rest isEnding
    rw [if_pos (complete length rest isEnding)] at refused
    exact ⟨refused.1, refused.2.2⟩

/-- Nothing is sent on exactly when a reader finds nothing to send on. -/
theorem noSend_iff :
    (∀ call ∈ calls, call.isSend = false) ↔
      (t.found c chunk).forwarded = [] := by
  have sends := left.sends
  constructor
  · intro quiet
    have noSend : calls.countP ServiceCall.isSend = 0 := by
      rw [List.countP_eq_zero]
      intro call member
      simp [quiet call member]
    rw [sends] at noSend
    exact List.eq_nil_of_length_eq_zero noSend
  · intro noBody call member
    rw [noBody, List.length_nil, List.countP_eq_zero] at sends
    exact Bool.eq_false_of_not_eq_true (sends call member)

/-- What stays in the buffer is below 16M when overlong headers are refused. -/
theorem left_le_limit
    (complete :
      ∀ length rest,
        (t.found c chunk).ending = .overlong length rest →
          length < 2 ^ 31 ∧ length ≤ rest.length) :
    bytes.length ≤ kFrameLimit := by
  cases isEnding : (t.found c chunk).ending with
  | waiting header rest =>
      obtain ⟨small, short⟩ := found_waiting isEnding
      rw [(left.waits header rest isEnding).2]
      unfold kFrameLimit at *
      split at short <;> omega
  | overlong length rest =>
      have refused := left.refuses length rest isEnding
      rw [if_pos (complete length rest isEnding)] at refused
      rw [refused.2.1]
      exact Nat.zero_le _

/-- What is done with a chunk is as promised exactly when it is admitted. -/
theorem Mirrors.meets_iff
    (mirrors : t.Mirrors)
    (isSize : db.size = bytes.length) :
    GateLimitEntry.Meets
        { id := (t.gate.conn c).id
          chunk := chunk
          overlong := t.overlong c
          reads := reads
          calls := calls
          left := db } ↔
      t.Admits (.data c chunk) := by
  constructor
  · intro meets
    exact
      ⟨(mirrors.refuses_iff left).mp meets.refuses,
        fun overlong => (noSend_iff left).mp (meets.quiet overlong)⟩
  · rintro ⟨complete, quiet⟩
    constructor
    · exact (mirrors.refuses_iff left).mpr complete
    · show db.size ≤ kFrameLimit + chunk.length
      have atMost := left_le_limit left complete
      omega
    · exact fun overlong => (noSend_iff left).mpr (quiet overlong)

end Left

/-- A chunk is recorded, and is as promised exactly when it is admitted. -/
theorem Mirrors.data
    (mirrors : t.Mirrors)
    {chunk : List UInt8}
    (taken : Step t (.data c chunk) next) :
    ∃ entry,
      next.entries = entry :: t.entries ∧
        (entry.Meets ↔ t.Admits (.data c chunk)) ∧
        (t.Admits (.data c chunk) → next.Mirrors) := by
  obtain ⟨db, mp, calls, reads, bytes, isDone, buffers, left⟩ :=
    mirrors.dispatch c chunk
  obtain ⟨gate, made, returned, isNext⟩ := taken
  rw [Gate.handle_of_traced isDone] at returned
  cases returned
  have areReads :
      GateEntry.headersRead
          { gate := t.gate, event := .data c chunk, calls := calls } c 0 =
        reads :=
    headersRead_data (by rw [Nat.zero_add]; exact isDone)
  have isSize : db.size = bytes.length := by
    simpa using buffers.size c
  subst isNext
  refine ⟨_, rfl, ?_, ?_⟩
  · rw [areReads, Gate.setBuffer_bufs, Function.update_self]
    exact mirrors.meets_iff left isSize
  · rintro ⟨complete, _⟩
    -- What the buffer holds is what the reader holds, in either end.
    obtain ⟨isHeader, areBytes, holdsLess⟩ :
        db.header = (t.found c chunk).ending.header ∧
          bytes = (t.found c chunk).ending.bytes ∧
          HoldsLess (t.found c chunk).ending.header
            (t.found c chunk).ending.bytes := by
      cases isEnding : (t.found c chunk).ending with
      | waiting header rest =>
          obtain ⟨isHeader, areBytes⟩ := left.waits header rest isEnding
          exact ⟨isHeader, areBytes, found_waiting isEnding⟩
      | overlong length rest =>
          have refused := left.refuses length rest isEnding
          rw [if_pos (complete length rest isEnding)] at refused
          exact
            ⟨by rw [refused.1]; rfl, refused.2.1, holdsLess_nil⟩
    refine ⟨mirrors.header_size, ?_, ?_, ?_⟩
    · rw [areBytes] at buffers
      simpa [after] using buffers
    · intro k
      simp only [after, Gate.setBuffer_bufs]
      by_cases same : k = c
      · subst same
        simpa using isHeader
      · simpa [same] using mirrors.header k
    · intro k
      simp only [after]
      by_cases same : k = c
      · subst same
        simpa using holdsLess
      · simpa [same] using mirrors.holdsLess k

/-- An event that brings no data is not recorded. -/
theorem Mirrors.other
    (mirrors : t.Mirrors)
    {event : GateEvent}
    (notData : ∀ c chunk, event ≠ .data c chunk)
    (taken : Step t event next) :
    next.entries = t.entries ∧ next.Mirrors := by
  obtain ⟨gate, calls, returned, isNext⟩ := taken
  subst isNext
  have unchanged
      (sameSize : gate.header_size = t.gate.header_size)
      (sameMp : gate.mp = t.gate.mp)
      (sameBufs : gate.bufs = t.gate.bufs)
      (overlong : Nat → Bool) :
      Mirrors { t with gate := gate, overlong := overlong } := by
    refine ⟨sameSize.trans mirrors.header_size, ?_, ?_, mirrors.holdsLess⟩
    · simpa only [sameMp, sameBufs] using mirrors.buffers
    · simpa only [sameBufs] using mirrors.header
  cases event with
  | data c chunk =>
      exact absurd rfl (notData c chunk)
  | forward k agentaddr clientaddr =>
      cases returned
      exact ⟨rfl, unchanged rfl rfl (Gate.modify_bufs k rfl) _⟩
  | broker handle =>
      cases returned
      exact ⟨rfl, unchanged rfl rfl rfl _⟩
  | accept k ud =>
      cases returned
      exact ⟨rfl, unchanged rfl rfl (Gate.modify_bufs k rfl) _⟩
  | close k =>
      obtain ⟨mp, closed, closedBufs, buffers⟩ :=
        Gate.handle_close mirrors.buffers k
      rw [closed] at returned
      cases returned
      refine ⟨rfl, mirrors.header_size, ?_, ?_, ?_⟩
      · rw [← closedBufs] at buffers
        exact buffers
      · intro c
        simp only [after, closedBufs]
        by_cases same : c = k
        · subst same
          simp [Databuffer.zero]
        · simpa [same] using mirrors.header c
      · intro c
        simp only [after]
        by_cases same : c = k
        · subst same
          simpa using holdsLess_nil
        · simpa [same] using mirrors.holdsLess c

/-- Every event of a run is handled. -/
theorem Mirrors.returns
    (mirrors : t.Mirrors)
    (event : GateEvent) :
    ∃ next, Step t event next := by
  obtain ⟨gate, calls, _, handled, _⟩ :=
    Gate.handle_returns isHeaderSize_four mirrors.header_size mirrors.buffers
      event
  exact ⟨_, gate, calls, handled, rfl⟩

/-- An event that is admitted keeps the buffers and the promise. -/
theorem Mirrors.step
    (mirrors : t.Mirrors)
    (meets : t.Meets)
    {event : GateEvent}
    (admits : t.Admits event)
    (taken : Step t event next) :
    next.Mirrors ∧ next.Meets := by
  by_cases isData : ∃ c chunk, event = .data c chunk
  · obtain ⟨c, chunk, isEvent⟩ := isData
    subst isEvent
    obtain ⟨entry, areEntries, meets_iff, mirrors'⟩ := mirrors.data taken
    refine ⟨mirrors' admits, ?_⟩
    rw [Meets, areEntries]
    exact List.forall_mem_cons.mpr ⟨meets_iff.mpr admits, meets⟩
  · obtain ⟨areEntries, mirrors'⟩ :=
      mirrors.other (fun c chunk isEvent => isData ⟨c, chunk, isEvent⟩) taken
    refine ⟨mirrors', ?_⟩
    rw [Meets, areEntries]
    exact meets

/-- An event that keeps the promise is admitted. -/
theorem Mirrors.admits
    (mirrors : t.Mirrors)
    {event : GateEvent}
    (taken : Step t event next)
    (meets : next.Meets) :
    t.Admits event := by
  cases event with
  | data c chunk =>
      obtain ⟨entry, areEntries, meets_iff, _⟩ := mirrors.data taken
      rw [Meets, areEntries] at meets
      exact meets_iff.mp (List.forall_mem_cons.mp meets).1
  | forward | broker | accept | close =>
      trivial

/-- A gate that `gate_init` left has empty buffers. -/
theorem start_mirrors
    {gate : Gate}
    (fresh : gate.Fresh 4) :
    (start gate).Mirrors where
  header_size := fresh.header_size
  buffers := by
    have areZero : gate.bufs = fun _ => .zero := funext fresh.bufs
    simp only [start, fresh.mp, areZero]
    exact .zero
  header := by
    intro c
    simp [start, fresh.bufs c, Databuffer.zero]
  holdsLess := fun _ => holdsLess_nil

/-- Nothing is promised of a gate that got no data yet. -/
theorem start_mirrors_meets
    {gate : Gate}
    (fresh : gate.Fresh 4) :
    (start gate).Mirrors ∧ (start gate).Meets :=
  ⟨start_mirrors fresh, nofun⟩

variable
    {gate : Gate}
    {past : List (GateLimitRun × GateEvent)}
    {final : GateLimitRun}

/--
Along a run headers of 16M and more are refused when they are read, little is
buffered and nothing is sent on behind them exactly when they all are below
2^31 and come with all that they announce, and no frame that is sent on comes
behind them.
-/
theorem frameLimit_meets_iff
    (fresh : gate.Fresh 4)
    (run : Run Step (start gate) past final) :
    (∀ t ∈ Run.visited past final, t.Meets) ↔
      ∀ t event, (t, event) ∈ past → t.Admits event :=
  Run.property_visited_iff run (start_mirrors_meets fresh)
    (fun holds admits taken => holds.1.step holds.2 admits taken) And.right
    (fun holds taken meets => holds.1.admits taken meets)

/-- A gate with four-byte headers that sends to its broker. -/
def wideGate : Gate :=
  { brokerGate with header_size := 4 }

theorem wideGate_fresh : wideGate.Fresh 4 :=
  ⟨rfl, rfl, fun _ => rfl⟩

/-- Chunks without an overlong header are admitted. -/
theorem admits_of_waiting
    {chunk : List UInt8}
    (header : Nat)
    (rest : List UInt8)
    (isEnding : (t.found c chunk).ending = .waiting header rest)
    (notOverlong : t.overlong c = false) :
    t.Admits (.data c chunk) := by
  constructor
  · intro length unread isOverlong
    rw [isEnding] at isOverlong
    cases isOverlong
  · intro overlong
    rw [notOverlong] at overlong
    cases overlong

/-- A frame in two chunks is sent on, as promised. -/
theorem wideGate_meets :
    ∃ past final,
      Run Step (start wideGate) past final ∧
        past.map Prod.snd = [.data 0 [2, 65, 66], .data 0 [0, 0, 0]] ∧
        (final.entries.flatMap GateLimitEntry.calls).map ServiceCall.payload =
          [some [65, 66]] ∧
        ∀ t ∈ Run.visited past final, t.Meets := by
  obtain ⟨middle, final, first, second, admitted, isSent⟩ :
      ∃ middle final,
        Step (start wideGate) (.data 0 [0, 0, 0]) middle ∧
          Step middle (.data 0 [2, 65, 66]) final ∧
          middle.Admits (.data 0 [2, 65, 66]) ∧
          (final.entries.flatMap GateLimitEntry.calls).map
              ServiceCall.payload = [some [65, 66]] :=
    ⟨_, _, ⟨_, _, rfl, rfl⟩, ⟨_, _, rfl, rfl⟩,
      admits_of_waiting 0 [] rfl rfl, rfl⟩
  have run := (Run.nil.snoc first).snoc second
  refine
    ⟨_, final, run, rfl, isSent, (frameLimit_meets_iff wideGate_fresh run).mpr ?_⟩
  intro t event member
  simp only [List.mem_cons, List.not_mem_nil, or_false] at member
  rcases member with isSecond | isFirst
  · cases isSecond
    exact admitted
  · cases isFirst
    exact admits_of_waiting 0 [0, 0, 0] rfl rfl

/-- An overlong header with nothing behind it is not refused. -/
theorem not_meets_of_header
    (fresh : gate.Fresh 4)
    (bytes : List UInt8)
    {length : Nat}
    (isEnding : ((start gate).found c bytes).ending = .overlong length [])
    (positive : 0 < length) :
    ∃ final,
      Run Step (start gate) [(start gate, .data c bytes)] final ∧
        ¬ ∀ t ∈ Run.visited [(start gate, GateEvent.data c bytes)] final,
          t.Meets := by
  obtain ⟨final, taken⟩ := (start_mirrors fresh).returns (.data c bytes)
  refine ⟨final, Run.nil.snoc taken, fun meets => ?_⟩
  obtain ⟨complete, _⟩ :=
    (start_mirrors fresh).admits taken (meets final (List.mem_cons_self ..))
  exact absurd (complete length [] isEnding).2 (Nat.not_le_of_lt positive)

/-- The headers of a frame of 16M and of the largest one are not refused. -/
theorem wideGate_not_meets :
    (∃ final,
        Run Step (start wideGate)
            [(start wideGate, .data 0 [1, 0, 0, 0])] final ∧
          ¬ ∀ t ∈
              Run.visited
                [(start wideGate, GateEvent.data 0 [1, 0, 0, 0])] final,
            t.Meets) ∧
      ∃ final,
        Run Step (start wideGate)
            [(start wideGate, .data 0 [255, 255, 255, 255])] final ∧
          ¬ ∀ t ∈
              Run.visited
                [(start wideGate, GateEvent.data 0 [255, 255, 255, 255])]
                final,
            t.Meets :=
  ⟨not_meets_of_header wideGate_fresh [1, 0, 0, 0] rfl (by decide),
    not_meets_of_header wideGate_fresh [255, 255, 255, 255] rfl (by decide)⟩

end GateLimitRun

end SkynetCpp
