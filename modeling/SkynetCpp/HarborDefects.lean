import SkynetCpp.HarborCuts

namespace SkynetCpp

open Foundation

/-!
# Where the way of cutting shows

For every defect that a stream can have there are two ways of cutting it that
leave different slaves behind, or one that hands on other bytes than the
frames'.
-/

variable
    {h h' : Harbor}
    {id : Nat}
    {fd : Int}
    {stream : List UInt8}
    {frames : List HarborFrame}

section Results

variable
    {actions all : List HarborAction}

/-- A result with what was done before it. -/
theorem after_eq_ok
    {result : Except Fault (Harbor × List HarborAction)}
    (isDone : after actions result = .ok (h', all)) :
    ∃ later, result = .ok (h', later) ∧ all = actions ++ later := by
  unfold after at isDone
  split at isDone
  · cases isDone
    exact ⟨_, rfl, rfl⟩
  · cases isDone

/-- A chunk goes to the slave, and the next chunks to what it becomes. -/
theorem feed_cons
    (found : findSlave h fd = some id)
    (receipt : HarborReceipt)
    (later : List HarborReceipt) :
    feed fd h (receipt :: later) =
      thenFeed fd
        (pushSocketDataLoop id receipt.unknown (receipt.bytes.length + 2) h
          receipt.bytes receipt.bytes.length) later := by
  rw [feed, pushSocketData_eq found]
  rfl

/-- What is handed on are the bodies of the frames up to a bad header. -/
theorem CompleteBodies.eq
    {rest : List UInt8}
    {bodies : List (List UInt8)}
    (complete : CompleteBodies stream bodies)
    (splits : harborFraming.Splits stream frames rest) :
    bodies =
      (frames.takeWhile fun frame => frame.header.getD 0 0 = 0).map
        WireFrame.body := by
  obtain ⟨others, otherRest, otherSplits, isBodies⟩ := complete
  obtain ⟨sameFrames, _⟩ := splits.unique otherSplits
  rw [isBodies, sameFrames]

/-- What a cut hands on when the way of cutting does not matter. -/
theorem IndependentOfCuts.bodies
    {receipts : List HarborReceipt}
    (independent : IndependentOfCuts h id stream)
    (isCut : IsCut receipts stream)
    {rest : List UInt8}
    (splits : harborFraming.Splits stream frames rest) :
    ∃ h' actions,
      feed (h.s id).fd h receipts = .ok (h', actions) ∧
        forwarded actions =
          (frames.takeWhile fun frame => frame.header.getD 0 0 = 0).map
            WireFrame.body := by
  obtain ⟨h', actions, _, _, isFed, _, complete, _, _⟩ :=
    independent receipts receipts isCut isCut
  exact ⟨h', actions, isFed, complete.eq splits⟩

end Results

section Headers

/-- A refused header leaves the count of the bytes that were there before. -/
theorem read_of_refused
    {rest chunk : List UInt8}
    (holding : Holding (h.s id) fd rest)
    (connected : fd ≠ 0)
    (short : rest.length < 4)
    (whole : 4 ≤ (rest ++ chunk).length)
    (notZero : ¬ ZeroFirst ((rest ++ chunk).take 4))
    {unknown : HarborUnknown}
    {round : Nat}
    {later : List HarborReceipt}
    {actions : List HarborAction}
    (isFed :
      thenFeed fd
          (pushSocketDataLoop id unknown (round + 1) h chunk chunk.length)
          later =
        .ok (h', actions)) :
    (h'.s id).read = rest.length := by
  obtain ⟨s, closed, isCase, _, noFd, _, isRead⟩ :=
    headerCase_refused holding short whole notZero unknown round
  rw [pushSocketDataLoop_header (holding.status_header short), isCase] at isFed
  obtain ⟨more, isLater, _⟩ := after_eq_ok isFed
  have notIts : ((h.set id s).s id).fd ≠ fd := by
    rw [Harbor.set_s, noFd]
    exact connected.symm
  rw [feed_s_of_ne notIts isLater, Harbor.set_s, isRead]

/-- Independence needs headers that start with zero. -/
theorem zeroFirst_of_independent
    (ready : Ready h id)
    (independent : IndependentOfCuts h id stream)
    (passes : ∀ frame ∈ frames, Passes frame)
    {head behind : List UInt8}
    (isHead : head.length = 4)
    (isStream :
      stream = frames.flatMap WireFrame.bytes ++ (head ++ behind)) :
    ZeroFirst head := by
  by_contra notZero
  have isTaken : head.take 4 = head :=
    List.take_of_length_le (Nat.le_of_eq isHead)
  have firstSized : (head.take 1).length = 1 := by
    rw [List.length_take, isHead]
    rfl
  have secondSized : (head.drop 1).length = 3 := by
    rw [List.length_drop, isHead]
  have nonempty : head ≠ [] := List.ne_nil_of_length_pos (by omega)
  have firstNonempty : head.take 1 ≠ [] :=
    List.ne_nil_of_length_pos (by omega)
  have secondNonempty : head.drop 1 ≠ [] :=
    List.ne_nil_of_length_pos (by omega)
  let whole : HarborReceipt := { bytes := head, unknown := .zero }
  let first : HarborReceipt := { bytes := head.take 1, unknown := .zero }
  let second : HarborReceipt := { bytes := head.drop 1, unknown := .zero }
  let earlier := receiptsOf (frames.map WireFrame.bytes)
  let later := receiptsOf (singles behind)
  -- The header comes in one message, or in two.
  have cutWhole : IsCut (earlier ++ ([whole] ++ later)) stream := by
    refine isCut_append ?_ ?_
    · intro receipt member
      cases List.mem_singleton.mp member
      exact ⟨nonempty, by show head.length < 2 ^ 31; omega⟩
    · simpa [whole] using isStream
  have cutParts : IsCut (earlier ++ ([first, second] ++ later)) stream := by
    refine isCut_append ?_ ?_
    · intro receipt member
      rcases List.mem_pair.mp member with isFirst | isSecond
      · subst isFirst
        exact ⟨firstNonempty, by show (head.take 1).length < 2 ^ 31; omega⟩
      · subst isSecond
        exact ⟨secondNonempty, by show (head.drop 1).length < 2 ^ 31; omega⟩
    · have isJoined :
          (([first, second] : List HarborReceipt).map
            HarborReceipt.bytes).flatten = head := by
        simp only [List.map_cons, List.map_nil, List.flatten_cons,
          List.flatten_nil, List.append_nil, first, second]
        exact List.take_append_drop 1 head
      rw [isJoined]
      exact isStream
  obtain ⟨h₁, actions₁, h₂, actions₂, isFed₁, isFed₂, _, _, sameObserved⟩ :=
    independent _ _ cutWhole cutParts
  have read₁ : (h₁.s id).read = 0 := by
    obtain ⟨s, sent, round, held, _, enough, fed⟩ :=
      exists_clean ready.holding ready.found passes whole nonempty
    obtain ⟨round, rfl⟩ := Nat.exists_eq_succ_of_ne_zero (by omega : round ≠ 0)
    obtain ⟨_, isLater, _⟩ := after_eq_ok ((fed later).symm.trans isFed₁)
    have heldSet : Holding ((h.set id s).s id) (h.s id).fd [] := by
      simpa using held
    exact
      read_of_refused heldSet ready.connected (by decide)
        (Nat.le_of_eq isHead.symm)
        (by rw [List.nil_append, isTaken]; exact notZero) isLater
  have read₂ : (h₂.s id).read = 1 := by
    obtain ⟨s, sent, round, held, _, enough, fed⟩ :=
      exists_clean ready.holding ready.found passes first firstNonempty
    obtain ⟨round, rfl⟩ := Nat.exists_eq_succ_of_ne_zero (by omega : round ≠ 0)
    obtain ⟨_, isLater, _⟩ :=
      after_eq_ok ((fed (second :: later)).symm.trans isFed₂)
    have heldSet : Holding ((h.set id s).s id) (h.s id).fd [] := by
      simpa using held
    have stillShort : ([] ++ first.bytes).length < 4 := by
      show (head.take 1).length < 4
      omega
    obtain ⟨s', isKept, held'⟩ :=
      pushSocketDataLoop_rest_of_lt heldSet (by decide)
        (Or.inl (Nat.le_of_lt stillShort))
        (fun long => absurd long (Nat.not_le_of_lt stillShort)) first.unknown
        round
    rw [isKept, Harbor.set_set] at isLater
    obtain ⟨_, isSecond, _⟩ := after_eq_ok isLater
    have sameFd : s'.fd = (h.s id).fd := held'.fd
    have foundSet : findSlave (h.set id s') (h.s id).fd = some id := by
      rw [findSlave_set sameFd]
      exact ready.found
    rw [feed_cons foundSet] at isSecond
    have heldSet' :
        Holding ((h.set id s').s id) (h.s id).fd (head.take 1) := by
      simpa using held'
    have isJoined : head.take 1 ++ head.drop 1 = head :=
      List.take_append_drop 1 head
    have isWhole : 4 ≤ (head.take 1 ++ head.drop 1).length := by
      rw [isJoined, isHead]
    have isRefused : ¬ ZeroFirst ((head.take 1 ++ head.drop 1).take 4) := by
      rw [isJoined, isTaken]
      exact notZero
    have isRead :=
      read_of_refused heldSet' ready.connected (by omega) isWhole isRefused
        isSecond
    rw [isRead, firstSized]
    rfl
  have sameRead : (h₁.s id).read = (h₂.s id).read :=
    congrArg (fun observed => observed.2.1) sameObserved
  rw [read₁, read₂] at sameRead
  exact absurd sameRead (by decide)

end Headers

section Bodies

/-- A list of frames up to a bad header, when the first ones have none. -/
theorem takeWhile_zeroFirst
    (passes : ∀ frame ∈ frames, Passes frame)
    (later : List HarborFrame) :
    ((frames ++ later).takeWhile
        fun frame => frame.header.getD 0 0 = 0) =
      frames ++ later.takeWhile fun frame => frame.header.getD 0 0 = 0 :=
  List.takeWhile_append_of_pos fun frame member =>
    decide_eq_true (passes frame member).zeroFirst

/-- Independence needs bodies without an early zero byte. -/
theorem zeroLastOnly_of_independent
    (ready : Ready h id)
    (independent : IndependentOfCuts h id stream)
    (passes : ∀ frame ∈ frames, Passes frame)
    {frame : HarborFrame}
    {others : List HarborFrame}
    {rest : List UInt8}
    (zeroFirst : ZeroFirst frame.header)
    (splits : harborFraming.Splits stream (frames ++ frame :: others) rest) :
    ZeroLastOnly frame.body := by
  by_contra earlierZero
  obtain ⟨filler, notSame⟩ := exists_stringBytes_ne earlierZero []
  rw [List.append_nil] at notSame
  let behind := others.flatMap WireFrame.bytes ++ rest
  -- The memory behind the string is filled with one byte.
  let receipt : HarborReceipt :=
    { bytes := frame.bytes
      unknown := { HarborUnknown.zero with memory := fun _ _ => filler } }
  have isStream :
      stream = frames.flatMap WireFrame.bytes ++ (frame.bytes ++ behind) := by
    rw [splits.stream_eq, List.flatMap_append, List.flatMap_cons,
      List.append_assoc, List.append_assoc]
  have isCut :
      IsCut
        (receiptsOf (frames.map WireFrame.bytes) ++
          ([receipt] ++ receiptsOf (singles behind))) stream := by
    refine isCut_append ?_ ?_
    · intro other member
      cases List.mem_singleton.mp member
      exact HarborFrame.isPiece frame
    · simpa [receipt] using isStream
  obtain ⟨h', actions, isFed, areForwarded⟩ := independent.bodies isCut splits
  obtain ⟨s, sent, round, held, sentForwarded, enough, fed⟩ :=
    exists_clean ready.holding ready.found passes receipt frame.bytes_ne_nil
  obtain ⟨round, rfl⟩ := Nat.exists_eq_succ_of_ne_zero (by omega : round ≠ 0)
  obtain ⟨all, isLater, isActions⟩ := after_eq_ok ((fed _).symm.trans isFed)
  have heldSet : Holding ((h.set id s).s id) (h.s id).fd [] := by
    simpa using held
  have hasBody : frame.body ≠ [] := by
    intro noBody
    apply earlierZero
    simp [ZeroLastOnly, noBody]
  have isData : [] ++ receipt.bytes = frame.bytes ++ [] := by
    rw [List.nil_append, List.append_nil]
  obtain ⟨s', handed, isRound, isHanded, _⟩ :=
    pushSocketDataLoop_frame heldSet isData (Or.inl (by simp))
      (Or.inl hasBody) zeroFirst receipt.unknown round
  rw [isRound, if_pos rfl] at isLater
  obtain ⟨more, _, isAll⟩ := after_eq_ok isLater
  have takes :
      forwarded actions =
        frames.map WireFrame.body ++ frame.body ::
          (others.takeWhile fun frame => frame.header.getD 0 0 = 0).map
            WireFrame.body := by
    have isZero : frame.header.getD 0 0 = 0 := zeroFirst
    rw [areForwarded, takeWhile_zeroFirst passes,
      List.takeWhile_cons, if_pos (decide_eq_true isZero), List.map_append,
      List.map_cons]
  rw [isActions, isAll, forwarded_append, forwarded_append, sentForwarded,
    isHanded (by simp), List.append_nil, List.singleton_append] at takes
  obtain ⟨same, _⟩ := List.cons.inj (List.append_cancel_left takes)
  exact notSame same

/-- A rest that is cut in front of a byte that is not zero. -/
theorem exists_cut_of_not_zerosTrail
    {bytes : List UInt8}
    (notTrail : ¬ ZerosTrail bytes) :
    ∃ earlier byte later,
      bytes = earlier ++ byte :: later ∧ 0 ∈ earlier ∧ byte ≠ 0 := by
  simp only [ZerosTrail, Classical.not_forall] at notTrail
  obtain ⟨earlier, later, isSplit, hasZero, byte, member, notZero⟩ := notTrail
  obtain ⟨first, second, rfl⟩ := List.append_of_mem member
  refine
    ⟨earlier ++ first, byte, second, ?_, List.mem_append_left first hasZero,
      notZero⟩
  rw [isSplit, List.append_assoc]

/-- A longer string is copied when a part that does not start with zero follows. -/
theorem cString_append_cString_ne
    {earlier later : List UInt8}
    {byte : UInt8}
    (hasZero : 0 ∈ earlier)
    (notZero : byte ≠ 0) :
    cString earlier ++ cString (byte :: later) ≠
      cString (earlier ++ byte :: later) := by
  rw [cString_append_of_mem hasZero]
  intro same
  have noneCopied : cString (byte :: later) = [] := by
    simpa using same
  simp [cString, notZero] at noneCopied

/-- Independence needs a rest with zero bytes at its end only. -/
theorem zerosTrail_of_independent
    (ready : Ready h id)
    (independent : IndependentOfCuts h id stream)
    (passes : ∀ frame ∈ frames, Passes frame)
    {rest : List UInt8}
    (splits : harborFraming.Splits stream frames rest)
    (zeroFirst : 4 ≤ rest.length → ZeroFirst (rest.take 4)) :
    ZerosTrail (rest.drop 4) := by
  by_contra notTrail
  obtain ⟨earlier, byte, later, isBody, hasZero, notZero⟩ :=
    exists_cut_of_not_zerosTrail notTrail
  have long : 4 ≤ rest.length := by
    by_contra short
    rw [List.drop_eq_nil_of_le (by omega)] at isBody
    simp at isBody
  let head := rest.take 4
  have isHead : head.length = 4 := List.length_take_of_le long
  have isRest : head ++ earlier ++ (byte :: later) = rest := by
    rw [List.append_assoc, ← isBody]
    exact List.take_append_drop 4 rest
  have inBody := splits.incomplete long
  have isShort := harborFraming_bodyLength_lt (rest.take 4)
  have sized : rest.length < 2 ^ 31 := by
    have fourBytes : harborFraming.headerSize = 4 := rfl
    rw [fourBytes] at inBody
    omega
  have lengths := congrArg List.length isRest
  rw [List.length_append] at lengths
  let whole : HarborReceipt := { bytes := rest, unknown := .zero }
  let first : HarborReceipt := { bytes := head ++ earlier, unknown := .zero }
  let second : HarborReceipt := { bytes := byte :: later, unknown := .zero }
  have nonempty : rest ≠ [] := List.ne_nil_of_length_pos (by omega)
  have firstNonempty : head ++ earlier ≠ [] := by
    apply List.ne_nil_of_length_pos
    rw [List.length_append]
    omega
  have isStream :
      ∀ middle : List HarborReceipt,
        (middle.map HarborReceipt.bytes).flatten = rest →
        stream =
          frames.flatMap WireFrame.bytes ++
            ((middle.map HarborReceipt.bytes).flatten ++ []) := by
    intro middle isMiddle
    rw [isMiddle, List.append_nil]
    exact splits.stream_eq
  -- The rest comes in one message, or in two behind the zero byte.
  have cutWhole :
      IsCut (receiptsOf (frames.map WireFrame.bytes) ++ [whole]) stream := by
    refine isCut_append ?_ (isStream [whole] (by simp [whole]))
    intro receipt member
    cases List.mem_singleton.mp member
    exact ⟨nonempty, sized⟩
  have cutParts :
      IsCut (receiptsOf (frames.map WireFrame.bytes) ++ [first, second])
        stream := by
    refine isCut_append ?_ (isStream [first, second] ?_)
    · intro receipt member
      rcases List.mem_pair.mp member with isFirst | isSecond
      · subst isFirst
        exact
          ⟨firstNonempty, by show (head ++ earlier).length < 2 ^ 31; omega⟩
      · subst isSecond
        exact
          ⟨List.cons_ne_nil _ _, by
            show (byte :: later).length < 2 ^ 31; omega⟩
    · simp only [List.map_cons, List.map_nil, List.flatten_cons,
        List.flatten_nil, List.append_nil, first, second]
      exact isRest
  obtain ⟨h₁, actions₁, h₂, actions₂, isFed₁, isFed₂, _, _, sameObserved⟩ :=
    independent _ _ cutWhole cutParts
  have unfinished : Unfinished rest := Or.inr inBody
  have buffer₁ : (h₁.s id).recv_buffer = cString (rest.drop 4) := by
    obtain ⟨s, sent, round, held, _, enough, fed⟩ :=
      exists_clean ready.holding ready.found passes whole nonempty
    obtain ⟨round, rfl⟩ := Nat.exists_eq_succ_of_ne_zero (by omega : round ≠ 0)
    obtain ⟨_, isLater, _⟩ := after_eq_ok ((fed []).symm.trans isFed₁)
    have heldSet : Holding ((h.set id s).s id) (h.s id).fd [] := by
      simpa using held
    obtain ⟨s', isKept, held'⟩ :=
      pushSocketDataLoop_rest_of_lt heldSet (by decide) unfinished zeroFirst
        whole.unknown round
    have isKept' :
        pushSocketDataLoop id whole.unknown (round + 1) (h.set id s)
          whole.bytes whole.bytes.length = .ok ((h.set id s).set id s', []) :=
      isKept
    rw [isKept'] at isLater
    cases isLater
    have parser := held'.parser
    rw [if_neg (by exact Nat.not_lt_of_le long)] at parser
    simpa using parser.2.2.2.2
  have buffer₂ :
      (h₂.s id).recv_buffer = cString earlier ++ cString (byte :: later) := by
    obtain ⟨s, sent, round, held, _, enough, fed⟩ :=
      exists_clean ready.holding ready.found passes first firstNonempty
    obtain ⟨round, rfl⟩ := Nat.exists_eq_succ_of_ne_zero (by omega : round ≠ 0)
    obtain ⟨_, isLater, _⟩ := after_eq_ok ((fed [second]).symm.trans isFed₂)
    have heldSet : Holding ((h.set id s).s id) (h.s id).fd [] := by
      simpa using held
    have isTaken : (head ++ earlier).take 4 = rest.take 4 :=
      List.take_left' isHead
    have isDropped : (head ++ earlier).drop 4 = earlier :=
      List.drop_left' isHead
    have partUnfinished : Unfinished (head ++ earlier) := by
      rw [← isRest] at unfinished
      exact unfinished.part
    obtain ⟨s', isKept, held'⟩ :=
      pushSocketDataLoop_rest_of_lt heldSet (by decide) partUnfinished
        (fun _ => by
          show ZeroFirst ((head ++ earlier).take 4)
          rw [isTaken]
          exact zeroFirst long)
        first.unknown round
    have isKept' :
        pushSocketDataLoop id first.unknown (round + 1) (h.set id s)
          first.bytes first.bytes.length = .ok ((h.set id s).set id s', []) :=
      isKept
    rw [isKept', Harbor.set_set] at isLater
    obtain ⟨_, isSecond, _⟩ := after_eq_ok isLater
    have sameFd : s'.fd = (h.s id).fd := held'.fd
    have foundSet : findSlave (h.set id s') (h.s id).fd = some id := by
      rw [findSlave_set sameFd]
      exact ready.found
    rw [feed_cons foundSet] at isSecond
    have heldSet' :
        Holding ((h.set id s').s id) (h.s id).fd (head ++ earlier) := by
      simpa using held'
    have hasHeader : 4 ≤ (head ++ earlier).length := by
      rw [List.length_append]
      omega
    have stillShort :
        (head ++ earlier).length - 4 + (byte :: later).length <
          harborFraming.bodyLength ((head ++ earlier).take 4) := by
      have fourBytes : harborFraming.headerSize = 4 := rfl
      rw [isTaken]
      rw [fourBytes] at inBody
      omega
    obtain ⟨s'', isCase, isBuffer, _⟩ :=
      contentCase_short heldSet' hasHeader rfl stillShort second.unknown
        (second.bytes.length + 1)
    have isLast :
        pushSocketDataLoop id second.unknown (second.bytes.length + 2)
            (h.set id s') second.bytes second.bytes.length =
          .ok ((h.set id s').set id s'', []) := by
      rw [pushSocketDataLoop_content (heldSet'.status_content hasHeader)]
      exact congrArg _ isCase
    rw [isLast] at isSecond
    cases isSecond
    rw [Harbor.set_s, isBuffer, isDropped]
  have sameBuffer : (h₁.s id).recv_buffer = (h₂.s id).recv_buffer :=
    congrArg (fun observed => observed.2.2.2) sameObserved
  rw [buffer₁, buffer₂, isBody] at sameBuffer
  exact cString_append_cString_ne hasZero notZero sameBuffer.symm

/-- Independence needs a byte behind a last frame without a body. -/
theorem body_ne_nil_of_independent
    (ready : Ready h id)
    (independent : IndependentOfCuts h id stream)
    (passes : ∀ frame ∈ frames, Passes frame)
    (splits : harborFraming.Splits stream frames [])
    {frame : HarborFrame}
    (isLast : frame ∈ frames.getLast?) :
    frame.body ≠ [] := by
  intro noBody
  obtain ⟨done, isFrames⟩ := List.getLast?_eq_some_iff.mp isLast
  have isCut :
      IsCut
        (receiptsOf (frames.map WireFrame.bytes) ++ ([] ++ receiptsOf (singles [])))
        stream := by
    refine isCut_append (fun _ member => absurd member List.not_mem_nil) ?_
    simpa using splits.stream_eq
  obtain ⟨h', actions, isFed, areForwarded⟩ := independent.bodies isCut splits
  have allZero := takeWhile_zeroFirst passes []
  rw [List.append_nil, List.takeWhile_nil, List.append_nil] at allZero
  let receipts :=
    receiptsOf (frames.map WireFrame.bytes) ++ ([] ++ receiptsOf (singles []))
  have deferred :
      Deferred ([] ++ (receipts.map HarborReceipt.bytes).flatten) done
        frame.bytes := by
    have isWhole : (receipts.map HarborReceipt.bytes).flatten = stream :=
      isCut.whole
    rw [List.nil_append, isWhole, splits.stream_eq, List.append_nil, isFrames]
    exact deferred_of_noBody done noBody
  obtain ⟨s, sent, isDone, sentForwarded, _⟩ :=
    feed_spec ready.holding ready.found
      (fun receipt member => (isCut.pieces receipt member).1)
      (Or.inl (by simp)) deferred
      (fun other member => passes other (by simp [isFrames, member]))
      ((passes frame (by simp [isFrames])).keepsWell noBody)
  have isSame := isDone.symm.trans isFed
  simp only [Except.ok.injEq, Prod.mk.injEq] at isSame
  -- One frame fewer is handed on than there are.
  have counted := congrArg List.length areForwarded
  rw [← isSame.2, sentForwarded, allZero, isFrames, List.length_map,
    List.length_map, List.length_append] at counted
  simp at counted

/-- The way of cutting does not matter exactly without defects. -/
theorem independentOfCuts_iff_freeOfDefects
    (ready : Ready h id) :
    IndependentOfCuts h id stream ↔ FreeOfDefects stream := by
  constructor
  · intro independent
    obtain ⟨frames, rest, splits⟩ := harborFraming.exists_splits stream
    have passes : ∀ frame ∈ frames, Passes frame := by
      by_contra somePasses
      obtain ⟨done, frame, others, isFrames, donePasses, notPasses⟩ :=
        exists_first_not somePasses
      subst isFrames
      have isStream := splits.stream_eq
      rw [List.flatMap_append, List.flatMap_cons, List.append_assoc,
        WireFrame.bytes, List.append_assoc, List.append_assoc] at isStream
      have zeroFirst :=
        zeroFirst_of_independent ready independent donePasses
          (HarborFrame.length_header frame) isStream
      exact
        notPasses
          ⟨zeroFirst,
            zeroLastOnly_of_independent ready independent donePasses zeroFirst
              splits⟩
    have zeroFirst : 4 ≤ rest.length → ZeroFirst (rest.take 4) := by
      intro long
      apply
        zeroFirst_of_independent ready independent passes
          (List.length_take_of_le long)
      rw [List.take_append_drop]
      exact splits.stream_eq
    refine ⟨frames, rest, splits, passes, ⟨zeroFirst, ?_⟩, ?_⟩
    · exact
        zerosTrail_of_independent ready independent passes splits zeroFirst
    · intro noRest frame isLast
      subst noRest
      exact body_ne_nil_of_independent ready independent passes splits isLast
  · exact independentOfCuts_of_free ready

end Bodies

section Examples

/-- A harbor that is connected to the harbor with the given id. -/
def connectedHarbor
    (id : Nat) : Harbor where
  id := 1
  slave := 0
  s := fun i =>
    { fd := if i = id then 7 else 0
      queue := none
      status := if i = id then .header else .wait
      length := 0
      read := 0
      size := [0, 0, 0, 0]
      recv_buffer := [] }

/-- The slave of a new connection is ready. -/
theorem connectedHarbor_ready :
    Ready (connectedHarbor 5) 5 := by
  refine ⟨?_, by decide, rfl, rfl, rfl, rfl, rfl⟩
  have isFound : ((connectedHarbor 5).s 5).fd = 7 := rfl
  rw [isFound]
  decide

/-- A frame with three bytes. -/
def textFrame
    (a b c : UInt8) : HarborFrame where
  header := [0, 0, 0, 3]
  body := [a, b, c]
  header_length := rfl
  body_length := by
    simp [harborFraming]

/-- A stream with one frame and a rest without one splits into these. -/
theorem textFrame_splits
    (a b c : UInt8) :
    harborFraming.Splits (textFrame a b c).bytes [textFrame a b c] [] :=
  ⟨by simp, Framing.incomplete_nil⟩

/-- A text in one frame may be cut in any way. -/
theorem textFrame_independentOfCuts :
    IndependentOfCuts (connectedHarbor 5) 5 [0, 0, 0, 3, 97, 98, 99] := by
  apply (independentOfCuts_iff_freeOfDefects connectedHarbor_ready).mpr
  refine ⟨_, _, textFrame_splits 97 98 99, ?_, ?_, ?_⟩
  · intro frame member
    cases List.mem_singleton.mp member
    exact ⟨by simp [ZeroFirst, textFrame], by simp [ZeroLastOnly, textFrame]⟩
  · exact ⟨fun long => by simp at long, zerosTrail_nil⟩
  · intro _ frame isLast
    cases isLast
    simp [textFrame]

/-- A zero byte inside of a frame changes what is handed on. -/
theorem zeroInside_not_independentOfCuts :
    ¬ IndependentOfCuts (connectedHarbor 5) 5 [0, 0, 0, 3, 97, 0, 98] := by
  intro independent
  have noFrames :
      ∀ frame ∈ ([] : List HarborFrame), Passes frame := by
    simp
  have zeroLastOnly : ZeroLastOnly (textFrame 97 0 98).body :=
    zeroLastOnly_of_independent connectedHarbor_ready independent noFrames
      (by simp [ZeroFirst, textFrame]) (textFrame_splits 97 0 98)
  exact zeroLastOnly (by decide)

end Examples

end SkynetCpp
