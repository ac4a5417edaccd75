import SkynetCpp.HarborFrames

namespace SkynetCpp

open Foundation

/-!
# Streams from another harbor

The bytes of one connection arrive in chunks.  The frames handed on and the
state left behind are the same for all ways of cutting the stream exactly when
no frame in it meets one of the places where the code goes by the chunk or by
a zero byte instead of the announced length.
-/

/-- A stream is these frames, handed on already, and this rest. -/
structure Deferred
    (stream : List UInt8)
    (frames : List HarborFrame)
    (rest : List UInt8) : Prop where
  stream_eq : stream = frames.flatMap WireFrame.bytes ++ rest
  unfinished : Unfinished rest
  /-- A frame without a body waits for the byte behind it. -/
  arrived : rest = [] → ∀ frame ∈ frames.getLast?, frame.body ≠ []

/-- A first part of a rest without a frame has none. -/
theorem Unfinished.part
    {first second : List UInt8}
    (unfinished : Unfinished (first ++ second)) :
    Unfinished first := by
  unfold Unfinished at unfinished ⊢
  by_cases long : 4 ≤ first.length
  · rw [List.length_append, List.take_append_of_le_length long] at unfinished
    omega
  · omega

/-- A first part of a rest that is kept well is kept well. -/
theorem KeepsWell.part
    {first second : List UInt8}
    (keepsWell : KeepsWell (first ++ second)) :
    KeepsWell first := by
  refine ⟨?_, ?_⟩
  · intro long
    have isZero := keepsWell.zeroFirst (by rw [List.length_append]; omega)
    rw [List.take_append_of_le_length long] at isZero
    exact isZero
  · intro earlier later isSplit hasZero byte member
    by_cases long : 4 ≤ first.length
    · apply keepsWell.zerosTrail earlier (later ++ second) ?_ hasZero byte
        (by simp [member])
      rw [List.drop_append_of_le_length long, isSplit, List.append_assoc]
    · rw [List.drop_eq_nil_of_le (by omega)] at isSplit
      obtain ⟨isNil, _⟩ := List.append_eq_nil_iff.mp isSplit.symm
      rw [isNil] at hasZero
      simp at hasZero

/-- No frame takes no bytes. -/
theorem frames_eq_nil
    {frames : List HarborFrame}
    (noBytes : frames.flatMap WireFrame.bytes = []) :
    frames = [] := by
  cases frames with
  | nil =>
      rfl
  | cons frame later =>
      rw [List.flatMap_cons, List.append_eq_nil_iff] at noBytes
      exact (frame.bytes_ne_nil noBytes.1).elim

/-- A rest with a header has that of the frame it is part of. -/
theorem take_header
    {rest chunk behind : List UInt8}
    {frame : HarborFrame}
    (isData : rest ++ chunk = frame.bytes ++ behind)
    (long : 4 ≤ rest.length) :
    rest.take 4 = frame.header := by
  have same := congrArg (List.take 4) isData
  rw [List.take_append_of_le_length long, WireFrame.bytes, List.append_assoc,
    List.take_left' frame.length_header] at same
  exact same

/-- A rest without a frame ends inside the frame it is part of. -/
theorem Unfinished.inFrame
    {rest chunk behind : List UInt8}
    {frame : HarborFrame}
    (unfinished : Unfinished rest)
    (isData : rest ++ chunk = frame.bytes ++ behind) :
    rest.length ≤ 4 ∨ rest.length - 4 < frame.body.length := by
  by_cases long : 4 ≤ rest.length
  · have isBodyLength :
        harborFraming.bodyLength frame.header = frame.body.length :=
      frame.body_length.symm
    unfold Unfinished at unfinished
    rw [take_header isData long, isBodyLength] at unfinished
    exact unfinished
  · exact Or.inl (by omega)

/-- A stream that starts with a frame, and what is behind the frame. -/
theorem Deferred.cons_eq
    {stream rest : List UInt8}
    {frame : HarborFrame}
    {frames : List HarborFrame}
    (deferred : Deferred stream (frame :: frames) rest) :
    stream = frame.bytes ++ (frames.flatMap WireFrame.bytes ++ rest) := by
  rw [deferred.stream_eq, List.flatMap_cons, List.append_assoc]

/-- What is behind the first frame is a stream of its own. -/
theorem Deferred.behind
    {stream behind rest : List UInt8}
    {frame : HarborFrame}
    {frames : List HarborFrame}
    (deferred : Deferred stream (frame :: frames) rest)
    (isBehind : behind = frames.flatMap WireFrame.bytes ++ rest) :
    Deferred behind frames rest := by
  refine ⟨isBehind, deferred.unfinished, ?_⟩
  intro isNil other isLast
  apply deferred.arrived isNil other
  cases frames with
  | nil =>
      simp at isLast
  | cons second frames =>
      simpa using isLast

/-- A rest without a frame is a stream without frames. -/
theorem Deferred.eq_nil
    {stream rest : List UInt8}
    {frames : List HarborFrame}
    (unfinished : Unfinished stream)
    (deferred : Deferred stream frames rest) :
    frames = [] ∧ stream = rest := by
  cases frames with
  | nil =>
      exact ⟨rfl, deferred.stream_eq⟩
  | cons frame frames =>
      have isData := deferred.cons_eq
      have inFrame := unfinished.inFrame (by rw [List.append_nil]; exact isData)
      have total := congrArg List.length isData
      rw [WireFrame.bytes, List.length_append, List.length_append,
        frame.length_header] at total
      -- Only a frame without a body can be all there is.
      have noMore : (frames.flatMap WireFrame.bytes ++ rest).length = 0 := by
        omega
      have noBody : frame.body.length = 0 := by
        omega
      obtain ⟨noBytes, noRest⟩ :=
        List.append_eq_nil_iff.mp (List.length_eq_zero_iff.mp noMore)
      refine (deferred.arrived noRest frame ?_ ?_).elim
      · rw [frames_eq_nil noBytes]
        rfl
      · exact List.length_eq_zero_iff.mp noBody

/-- A stream of which a first part has arrived. -/
theorem Deferred.split
    {first second rest : List UInt8}
    {frames : List HarborFrame}
    (deferred : Deferred (first ++ second) frames rest) :
    ∃ done middle later,
      frames = done ++ later ∧ Deferred first done middle ∧
        Deferred (middle ++ second) later rest := by
  induction frames generalizing first with
  | nil =>
      have isRest : first ++ second = rest := deferred.stream_eq
      have unfinished := deferred.unfinished
      rw [← isRest] at unfinished
      exact
        ⟨[], first, [], rfl,
          ⟨rfl, unfinished.part, fun _ => by simp⟩, deferred⟩
  | cons frame frames inductionHypothesis =>
      have isStream := deferred.cons_eq
      by_cases handedOn :
          frame.bytes.length ≤ first.length ∧
            (first.length = frame.bytes.length → frame.body ≠ [])
      · obtain ⟨enough, arrived⟩ := handedOn
        obtain ⟨first', isFirst, isSecond⟩ :
            ∃ first', first = frame.bytes ++ first' ∧
              first' ++ second = frames.flatMap WireFrame.bytes ++ rest := by
          refine ⟨first.drop frame.bytes.length, ?_, ?_⟩
          · have same := congrArg (List.take frame.bytes.length) isStream
            rw [List.take_append_of_le_length enough, List.take_left] at same
            conv => lhs; rw [← List.take_append_drop frame.bytes.length first]
            rw [same]
          · have same := congrArg (List.drop frame.bytes.length) isStream
            rw [List.drop_append_of_le_length enough, List.drop_left] at same
            exact same
        obtain ⟨done, middle, later, isFrames, doneDeferred, restDeferred⟩ :=
          inductionHypothesis (deferred.behind isSecond)
        refine
          ⟨frame :: done, middle, later, by rw [isFrames]; rfl, ?_,
            restDeferred⟩
        refine ⟨?_, doneDeferred.unfinished, ?_⟩
        · rw [isFirst, doneDeferred.stream_eq, List.flatMap_cons,
            List.append_assoc]
        · intro isNil other isLast
          cases done with
          | nil =>
              have isFrame : frame = other := by simpa using isLast
              subst isFrame
              apply arrived
              have noMore : first' = [] := by
                rw [doneDeferred.stream_eq, isNil]
                rfl
              rw [isFirst, noMore, List.append_nil]
          | cons second done =>
              exact doneDeferred.arrived isNil other (by simpa using isLast)
      · refine ⟨[], first, frame :: frames, rfl, ?_, deferred⟩
        refine ⟨rfl, ?_, fun _ => by simp⟩
        have headerSized := frame.length_header
        have isBodyLength :
            harborFraming.bodyLength frame.header = frame.body.length :=
          frame.body_length.symm
        have isLength : frame.bytes.length = 4 + frame.body.length := by
          rw [WireFrame.bytes, List.length_append, headerSized]
        by_cases long : 4 ≤ first.length
        · unfold Unfinished
          rw [take_header isStream long, isBodyLength]
          by_cases enough : frame.bytes.length ≤ first.length
          · -- Only a frame without a body is complete and not handed on.
            simp only [enough, true_and, Classical.not_imp,
              Classical.not_not] at handedOn
            obtain ⟨sameLength, noBody⟩ := handedOn
            rw [isLength, noBody] at sameLength
            exact Or.inl (Nat.le_of_eq sameLength)
          · omega
        · exact Or.inl (by omega)

section Feed

/-- A chunk of the stream, and what the code meets while it works on it. -/
structure HarborReceipt where
  bytes : List UInt8
  unknown : HarborUnknown

/-- The socket message that brings a chunk. -/
def HarborReceipt.message
    (receipt : HarborReceipt)
    (fd : Int) : SkynetSocketMessage where
  type := 1
  id := fd
  ud := receipt.bytes.length
  buffer := receipt.bytes

/-- `push_socket_data` on one chunk after the other. -/
def feed
    (fd : Int) :
    Harbor → List HarborReceipt → Except Fault (Harbor × List HarborAction)
  | h, [] => .ok (h, [])
  | h, receipt :: receipts =>
      match pushSocketData h (receipt.message fd) receipt.unknown with
      | .ok (h, actions) => after actions (feed fd h receipts)
      | .error fault => .error fault

variable
    {h : Harbor}
    {id : Nat}
    {fd : Int}
    {rest rest' : List UInt8}
    {frames : List HarborFrame}

/-- The loop hands on the frames that are complete and keeps the rest. -/
theorem pushSocketDataLoop_spec
    {chunk : List UInt8}
    (holding : Holding (h.s id) fd rest)
    (nonempty : chunk ≠ [])
    (unfinished : Unfinished rest)
    (deferred : Deferred (rest ++ chunk) frames rest')
    (passes : ∀ frame ∈ frames, Passes frame)
    (keepsWell : KeepsWell rest')
    (unknown : HarborUnknown)
    {round : Nat}
    (enough : frames.length < round) :
    ∃ s actions,
      pushSocketDataLoop id unknown round h chunk chunk.length =
          .ok (h.set id s, actions) ∧
        forwarded actions = frames.map WireFrame.body ∧ Holding s fd rest' := by
  induction frames generalizing h rest chunk round with
  | nil =>
      obtain ⟨round, rfl⟩ := Nat.exists_eq_succ_of_ne_zero (by omega : round ≠ 0)
      have isRest : rest ++ chunk = rest' := deferred.stream_eq
      subst isRest
      obtain ⟨s, isDone, held⟩ :=
        pushSocketDataLoop_rest holding nonempty deferred.unfinished keepsWell
          unknown round
      exact ⟨s, [], isDone, rfl, held⟩
  | cons frame frames inductionHypothesis =>
      obtain ⟨round, rfl⟩ := Nat.exists_eq_succ_of_ne_zero (by omega : round ≠ 0)
      let behind := frames.flatMap WireFrame.bytes ++ rest'
      have isData : rest ++ chunk = frame.bytes ++ behind := deferred.cons_eq
      have inFrame := unfinished.inFrame isData
      have arrived : frame.body ≠ [] ∨ behind ≠ [] := by
        by_cases noMore : behind = []
        · obtain ⟨noBytes, noRest⟩ := List.append_eq_nil_iff.mp noMore
          refine Or.inl (deferred.arrived noRest frame ?_)
          rw [frames_eq_nil noBytes]
          rfl
        · exact Or.inr noMore
      have isPassing := passes frame (by simp)
      obtain ⟨s, actions, isRound, areForwarded, held⟩ :=
        pushSocketDataLoop_frame holding isData inFrame arrived
          isPassing.zeroFirst unknown round
      have isForwarded : forwarded actions = [frame.body] := by
        rw [areForwarded (isPassing.not_mem_part isData inFrame),
          stringBytes_cString isPassing.zeroLastOnly]
      by_cases noMore : behind = []
      · obtain ⟨noBytes, noRest⟩ := List.append_eq_nil_iff.mp noMore
        have noFrames := frames_eq_nil noBytes
        subst noFrames
        subst noRest
        rw [if_pos noMore] at isRound
        exact ⟨s, actions, isRound, by simpa using isForwarded, held⟩
      · rw [if_neg noMore] at isRound
        have heldSet : Holding ((h.set id s).s id) fd [] := by
          simpa using held
        have laterDeferred : Deferred ([] ++ behind) frames rest' :=
          deferred.behind rfl
        obtain ⟨s', later, isDone, laterForwarded, held'⟩ :=
          inductionHypothesis heldSet noMore (Or.inl (by simp)) laterDeferred
            (fun other member => passes other (by simp [member]))
            (by simpa using enough)
        refine ⟨s', actions ++ later, ?_, ?_, held'⟩
        · rw [isRound, follow, isDone, after, Harbor.set_set]
        · rw [forwarded_append, isForwarded, laterForwarded]
          rfl

/-- Frames take at least four bytes each. -/
theorem harborFrames_length_le
    (frames : List HarborFrame) :
    frames.length * 4 ≤ (frames.flatMap WireFrame.bytes).length := by
  induction frames with
  | nil =>
      simp
  | cons frame frames inductionHypothesis =>
      rw [List.length_cons, List.flatMap_cons, List.length_append,
        WireFrame.bytes, List.length_append, frame.length_header, Nat.succ_mul]
      omega

/-- A chunk completes fewer frames than there are rounds for it. -/
theorem frames_length_lt
    {chunk behind : List UInt8}
    (unfinished : Unfinished rest)
    (isData : rest ++ chunk = frames.flatMap WireFrame.bytes ++ behind) :
    frames.length < chunk.length + 2 := by
  cases frames with
  | nil =>
      simp
  | cons frame frames =>
      rw [List.flatMap_cons, List.append_assoc] at isData
      have total := congrArg List.length isData
      have later := harborFrames_length_le frames
      have isLength : frame.bytes.length = 4 + frame.body.length := by
        rw [WireFrame.bytes, List.length_append, frame.length_header]
      simp only [List.length_append, isLength] at total
      have inFrame := unfinished.inFrame isData
      simp only [List.length_cons]
      omega

/-- The rounds that a chunk needs. -/
theorem Deferred.rounds
    {chunk : List UInt8}
    (unfinished : Unfinished rest)
    (deferred : Deferred (rest ++ chunk) frames rest') :
    frames.length < chunk.length + 2 :=
  frames_length_lt unfinished deferred.stream_eq

/-- Replacing the slave does not change whose descriptor it is. -/
theorem findSlave_set
    {s : Slave}
    (sameFd : s.fd = (h.s id).fd) :
    findSlave (h.set id s) fd = findSlave h fd := by
  have same : ∀ i, ((h.set id s).s i).fd = (h.s i).fd := by
    intro i
    by_cases isSame : i = id
    · subst isSame
      simpa using sameFd
    · rw [Harbor.set_s_of_ne h id isSame]
  simp only [findSlave, same]

/-- `push_socket_data` goes to the slave with the descriptor. -/
theorem pushSocketData_eq
    (found : findSlave h fd = some id)
    (receipt : HarborReceipt) :
    pushSocketData h (receipt.message fd) receipt.unknown =
      pushSocketDataLoop id receipt.unknown (receipt.bytes.length + 2) h
        receipt.bytes receipt.bytes.length := by
  simp [pushSocketData, HarborReceipt.message, found]

/-- What is known of a rest in the middle of a stream without defects. -/
theorem Deferred.keepsWell
    {middle second : List UInt8}
    (unfinished : Unfinished middle)
    (deferred : Deferred (middle ++ second) frames rest)
    (passes : ∀ frame ∈ frames, Passes frame)
    (keepsWell : KeepsWell rest) :
    KeepsWell middle := by
  cases frames with
  | nil =>
      have isRest : middle ++ second = rest := deferred.stream_eq
      rw [← isRest] at keepsWell
      exact keepsWell.part
  | cons frame frames =>
      have isPassing := passes frame (by simp)
      have isData := deferred.cons_eq
      have inFrame := unfinished.inFrame isData
      refine
        ⟨fun long => by
          rw [take_header isData long]
          exact isPassing.zeroFirst, ?_⟩
      intro earlier later isSplit hasZero
      have noZero := isPassing.not_mem_part isData inFrame
      rw [isSplit] at noZero
      exact (noZero (List.mem_append_left later hasZero)).elim

/-- Any way of cutting a stream without defects leads to the same. -/
theorem feed_spec
    {receipts : List HarborReceipt}
    (holding : Holding (h.s id) fd rest)
    (found : findSlave h fd = some id)
    (nonempty : ∀ receipt ∈ receipts, receipt.bytes ≠ [])
    (unfinished : Unfinished rest)
    (deferred :
      Deferred (rest ++ (receipts.map HarborReceipt.bytes).flatten) frames
        rest')
    (passes : ∀ frame ∈ frames, Passes frame)
    (keepsWell : KeepsWell rest') :
    ∃ s actions,
      feed fd h receipts = .ok (h.set id s, actions) ∧
        forwarded actions = frames.map WireFrame.body ∧ Holding s fd rest' := by
  induction receipts generalizing h rest frames with
  | nil =>
      simp only [List.map_nil, List.flatten_nil, List.append_nil] at deferred
      obtain ⟨noFrames, isRest⟩ := Deferred.eq_nil unfinished deferred
      subst noFrames
      subst isRest
      exact ⟨h.s id, [], by simp [feed], rfl, holding⟩
  | cons receipt receipts inductionHypothesis =>
      have isStream :
          rest ++ ((receipt :: receipts).map HarborReceipt.bytes).flatten =
            (rest ++ receipt.bytes) ++
              (receipts.map HarborReceipt.bytes).flatten := by
        simp
      rw [isStream] at deferred
      obtain ⟨done, middle, later, isFrames, doneDeferred, laterDeferred⟩ :=
        deferred.split
      subst isFrames
      have middleKeepsWell : KeepsWell middle :=
        laterDeferred.keepsWell doneDeferred.unfinished
          (fun frame member => passes frame (by simp [member])) keepsWell
      obtain ⟨s, actions, isDone, areForwarded, held⟩ :=
        pushSocketDataLoop_spec holding (nonempty receipt (by simp))
          unfinished doneDeferred
          (fun frame member => passes frame (by simp [member]))
          middleKeepsWell receipt.unknown (doneDeferred.rounds unfinished)
      have sameFd : s.fd = (h.s id).fd := held.fd.trans holding.fd.symm
      have heldSet : Holding ((h.set id s).s id) fd middle := by
        simpa using held
      obtain ⟨s', more, isFed, moreForwarded, held'⟩ :=
        inductionHypothesis heldSet
          (by rw [findSlave_set sameFd]; exact found)
          (fun other member => nonempty other (by simp [member]))
          doneDeferred.unfinished laterDeferred
          (fun frame member => passes frame (by simp [member]))
      refine ⟨s', actions ++ more, ?_, ?_, held'⟩
      · simp only [feed, pushSocketData_eq found, isDone, isFed, after,
          Harbor.set_set]
      · rw [forwarded_append, areForwarded, moreForwarded, List.map_append]

end Feed

end SkynetCpp
