import SkynetCpp.Foundation.BigEndian
import SkynetCpp.HarborParser

namespace SkynetCpp

open Foundation

/-!
# When the way of cutting does not matter

The property that two ways of cutting a stream into socket messages lead to the
same, with one call of `forward_local_messsage` for every frame, and the exact
condition on the stream under which it holds.
-/

/-- A way of cutting a stream; no message is empty, and its `ud` is an `int`. -/
structure IsCut
    (receipts : List HarborReceipt)
    (stream : List UInt8) : Prop where
  pieces :
    ∀ receipt ∈ receipts,
      receipt.bytes ≠ [] ∧ receipt.bytes.length < 2 ^ 31
  whole : (receipts.map HarborReceipt.bytes).flatten = stream

/-- The status, the read count and the part of a frame that is buffered. -/
def Slave.observed
    (s : Slave) : HarborStatus × Int × List UInt8 × List UInt8 :=
  (s.status, s.read,
    if s.status = .header then s.size.take s.read.toNat else s.size,
    s.recv_buffer)

/-- The bodies of the complete frames, as far as the first bytes are zero. -/
def CompleteBodies
    (stream : List UInt8)
    (bodies : List (List UInt8)) : Prop :=
  ∃ frames rest,
    harborFraming.Splits stream frames rest ∧
      bodies =
        (frames.takeWhile fun frame => frame.header.getD 0 0 = 0).map
          WireFrame.body

/-- Two ways of cutting a stream hand on the same and leave the same behind. -/
def IndependentOfCuts
    (h : Harbor)
    (id : Nat)
    (stream : List UInt8) : Prop :=
  ∀ first second, IsCut first stream → IsCut second stream →
    ∃ h₁ actions₁ h₂ actions₂,
      feed (h.s id).fd h first = .ok (h₁, actions₁) ∧
        feed (h.s id).fd h second = .ok (h₂, actions₂) ∧
        CompleteBodies stream (forwarded actions₁) ∧
        CompleteBodies stream (forwarded actions₂) ∧
        (h₁.s id).observed = (h₂.s id).observed

/--
No header starts with another byte than zero, no body has a zero byte before
its last one, behind a zero byte in the last, incomplete body there are only
zero bytes, and the stream does not end with a frame without a body.
-/
def FreeOfDefects (stream : List UInt8) : Prop :=
  ∃ frames rest,
    harborFraming.Splits stream frames rest ∧
      (∀ frame ∈ frames, Passes frame) ∧ KeepsWell rest ∧
      (rest = [] → ∀ frame ∈ frames.getLast?, frame.body ≠ [])

/-- A connected slave in status `kStatusHeader` with a clean parser. -/
structure Ready
    (h : Harbor)
    (id : Nat) : Prop where
  found : findSlave h (h.s id).fd = some id
  connected : (h.s id).fd ≠ 0
  status : (h.s id).status = .header
  read : (h.s id).read = 0
  length : (h.s id).length = 0
  size_length : (h.s id).size.length = 4
  recv_buffer : (h.s id).recv_buffer = []

/-- A clean parser holds nothing. -/
theorem Ready.holding
    {h : Harbor}
    {id : Nat}
    (ready : Ready h id) :
    Holding (h.s id) (h.s id).fd [] := by
  refine ⟨rfl, ready.size_length, ?_⟩
  rw [if_pos (by decide)]
  exact ⟨ready.status, ready.read, ready.length, ready.recv_buffer, rfl⟩

/-- What is held determines what is observed. -/
theorem Holding.observed_eq
    {s s' : Slave}
    {fd fd' : Int}
    {rest : List UInt8}
    (holding : Holding s fd rest)
    (other : Holding s' fd' rest) :
    s.observed = s'.observed := by
  have first := holding.parser
  have second := other.parser
  by_cases short : rest.length < 4
  · rw [if_pos short] at first second
    obtain ⟨isStatus, isRead, _, isBuffer, isSize⟩ := first
    obtain ⟨isStatus', isRead', _, isBuffer', isSize'⟩ := second
    simp only [Slave.observed, isStatus, isRead, isBuffer, isStatus',
      isRead', isBuffer', Int.toNat_natCast, isSize, isSize', if_true]
  · rw [if_neg short] at first second
    obtain ⟨isStatus, _, isRead, isSize, isBuffer⟩ := first
    obtain ⟨isStatus', _, isRead', isSize', isBuffer'⟩ := second
    simp only [Slave.observed, isStatus, isRead, isBuffer, isSize, isStatus',
      isRead', isBuffer', isSize']

/-- A stream without defects leads to the same however it is cut. -/
theorem independentOfCuts_of_free
    {h : Harbor}
    {id : Nat}
    {stream : List UInt8}
    (ready : Ready h id)
    (free : FreeOfDefects stream) :
    IndependentOfCuts h id stream := by
  obtain ⟨frames, rest, splits, passes, keepsWell, arrived⟩ := free
  have unfinished : Unfinished rest := by
    by_cases long : 4 ≤ rest.length
    · exact Or.inr (splits.incomplete long)
    · exact Or.inl (by omega)
  have complete : CompleteBodies stream (frames.map WireFrame.body) := by
    refine ⟨frames, rest, splits, ?_⟩
    congr 1
    refine (List.takeWhile_eq_self_iff.mpr ?_).symm
    intro frame member
    exact decide_eq_true (passes frame member).zeroFirst
  have fed :
      ∀ receipts, IsCut receipts stream →
        ∃ s actions,
          feed (h.s id).fd h receipts = .ok (h.set id s, actions) ∧
            forwarded actions = frames.map WireFrame.body ∧
            Holding s (h.s id).fd rest := by
    intro receipts isCut
    refine
      feed_spec ready.holding ready.found
        (fun receipt member => (isCut.pieces receipt member).1)
        (Or.inl (by simp)) ?_ passes keepsWell
    refine ⟨?_, unfinished, arrived⟩
    rw [List.nil_append, isCut.whole, splits.stream_eq]
  intro first second isFirst isSecond
  obtain ⟨s₁, actions₁, isFed₁, areForwarded₁, held₁⟩ := fed first isFirst
  obtain ⟨s₂, actions₂, isFed₂, areForwarded₂, held₂⟩ := fed second isSecond
  refine ⟨_, _, _, _, isFed₁, isFed₂, ?_, ?_, ?_⟩
  · rw [areForwarded₁]
    exact complete
  · rw [areForwarded₂]
    exact complete
  · rw [Harbor.set_s, Harbor.set_s]
    exact held₁.observed_eq held₂

section Others

variable
    {h h' : Harbor}
    {id other : Nat}
    {actions : List HarborAction}

/-- `close_harbor` leaves the other slaves. -/
theorem closeHarbor_s_of_ne
    (different : other ≠ id) :
    (closeHarbor h id).1.s other = h.s other := by
  simp [closeHarbor, Harbor.modify, different]

/-- The content of a slave leaves the other slaves. -/
theorem contentCase_s_of_ne
    (different : other ≠ id)
    (unknown : HarborUnknown)
    (round : Nat)
    (buffer : List UInt8)
    (size : Int) :
    (contentCase h id unknown round buffer size).1.s other = h.s other := by
  unfold contentCase
  dsimp only
  split
  · simp [Harbor.modify, different]
  · split <;> simp [Harbor.modify, different]

/-- The header of a slave leaves the other slaves. -/
theorem headerCase_s_of_ne
    (different : other ≠ id)
    (unknown : HarborUnknown)
    (round : Nat)
    (buffer : List UInt8)
    (size : Int) :
    (headerCase h id unknown round buffer size).1.s other = h.s other := by
  unfold headerCase
  dsimp only
  split
  · simp [Harbor.modify, different]
  · split
    · rw [closeHarbor_s_of_ne different]
      simp [Harbor.modify, different]
    · split
      · simp [Harbor.modify, different]
      · rw [contentCase_s_of_ne different]
        simp [Harbor.modify, different]

/-- `dispatch_queue` leaves the other slaves. -/
theorem dispatchQueue_s_of_ne
    (different : other ≠ id)
    {stack : List UInt8}
    (done : h.dispatchQueue id stack = .ok (h', actions)) :
    h'.s other = h.s other := by
  unfold Harbor.dispatchQueue at done
  dsimp only at done
  split at done
  · cases done
  · split at done
    · cases done
      rfl
    · obtain ⟨sent, _, isDone⟩ := bind_eq_ok_iff.mp done
      cases isDone
      simp [Harbor.modify, different]

/-- The handshake of a slave leaves the other slaves. -/
theorem handshakeCase_s_of_ne
    (different : other ≠ id)
    {unknown : HarborUnknown}
    {round : Nat}
    {buffer : List UInt8}
    {size : Int}
    {flow : PushFlow}
    (done :
      handshakeCase h id unknown round buffer size =
        .ok (h', actions, flow)) :
    h'.s other = h.s other := by
  unfold handshakeCase at done
  dsimp only at done
  split at done
  · cases done
    exact closeHarbor_s_of_ne different
  · obtain ⟨⟨queued, sent⟩, isQueued, isDone⟩ := bind_eq_ok_iff.mp done
    have sameQueued := dispatchQueue_s_of_ne different isQueued
    have sameModified :
        (h.modify id fun s => { s with status := .header }).s other =
          h.s other := by
      simp [Harbor.modify, different]
    dsimp only at isDone
    split at isDone
    · cases isDone
      rw [sameQueued, sameModified]
    · cases isDone
      rw [headerCase_s_of_ne different, sameQueued, sameModified]

/-- What holds of every case of the switch holds of the whole loop. -/
theorem pushSocketDataLoop_relates
    {Relates : Harbor → List HarborAction → Harbor → Prop}
    (nothing : ∀ h, Relates h [] h)
    (inTurn :
      ∀ h first h' second h'',
        Relates h first h' → Relates h' second h'' →
          Relates h (first ++ second) h'')
    {unknown : HarborUnknown}
    (handshake :
      ∀ h round buffer size h' actions flow,
        handshakeCase h id unknown round buffer size =
            .ok (h', actions, flow) →
          Relates h actions h')
    (header :
      ∀ h round buffer size,
        Relates h (headerCase h id unknown round buffer size).2.1
          (headerCase h id unknown round buffer size).1)
    (content :
      ∀ h round buffer size,
        Relates h (contentCase h id unknown round buffer size).2.1
          (contentCase h id unknown round buffer size).1)
    {round : Nat}
    {buffer : List UInt8}
    {size : Int}
    (done :
      pushSocketDataLoop id unknown round h buffer size = .ok (h', actions)) :
    Relates h actions h' := by
  induction round generalizing h h' actions buffer size with
  | zero =>
      cases done
  | succ round inductionHypothesis =>
      have followed :
          ∀ result : PushResult,
            Relates h result.2.1 result.1 →
            follow id unknown round result = .ok (h', actions) →
            Relates h actions h' := by
        rintro ⟨next, sent, flow⟩ isRelated isDone
        cases flow with
        | returned =>
            cases isDone
            exact isRelated
        | next buffer size =>
            simp only [follow, after] at isDone
            split at isDone
            · next last later isLater =>
                cases isDone
                exact
                  inTurn h sent next _ _ isRelated
                    (inductionHypothesis isLater)
            · cases isDone
      cases isStatus : (h.s id).status with
      | header =>
          rw [pushSocketDataLoop_header isStatus] at done
          exact followed _ (header h round buffer size) done
      | content =>
          rw [pushSocketDataLoop_content isStatus] at done
          exact followed _ (content h round buffer size) done
      | handshake =>
          have whole := done
          simp only [pushSocketDataLoop, isStatus] at done
          obtain ⟨⟨next, sent, flow⟩, isCase, _⟩ := bind_eq_ok_iff.mp done
          rw [pushSocketDataLoop_handshake isStatus isCase] at whole
          exact
            followed (next, sent, flow)
              (handshake h round buffer size next sent flow isCase) whole
      | wait =>
          simp only [pushSocketDataLoop, isStatus] at done
          cases done
          exact nothing h
      | down =>
          simp only [pushSocketDataLoop, isStatus] at done
          cases done
          exact nothing h

/-- The loop for a slave leaves the other slaves. -/
theorem pushSocketDataLoop_s_of_ne
    (different : other ≠ id)
    {unknown : HarborUnknown}
    {round : Nat}
    {buffer : List UInt8}
    {size : Int}
    (done :
      pushSocketDataLoop id unknown round h buffer size = .ok (h', actions)) :
    h'.s other = h.s other := by
  let Leaves : Harbor → List HarborAction → Harbor → Prop :=
    fun h _ h' => h'.s other = h.s other
  have leaves : Leaves h actions h' := by
    refine
      pushSocketDataLoop_relates (fun _ => rfl)
        (fun _ _ _ _ _ first second => second.trans first) ?_ ?_ ?_ done
    · intro h round buffer size h' actions flow isCase
      exact handshakeCase_s_of_ne different isCase
    · intro h round buffer size
      exact headerCase_s_of_ne different unknown round buffer size
    · intro h round buffer size
      exact contentCase_s_of_ne different unknown round buffer size
  exact leaves

/-- Data from another descriptor leaves a slave as it is. -/
theorem feed_s_of_ne
    {fd : Int}
    {receipts : List HarborReceipt}
    (notIts : (h.s other).fd ≠ fd)
    (done : feed fd h receipts = .ok (h', actions)) :
    h'.s other = h.s other := by
  induction receipts generalizing h h' actions with
  | nil =>
      cases done
      rfl
  | cons receipt receipts inductionHypothesis =>
      simp only [feed] at done
      split at done
      · next next sent isPushed =>
          have samePushed : next.s other = h.s other := by
            unfold pushSocketData at isPushed
            split at isPushed
            · cases isPushed
            · split at isPushed
              · cases isPushed
                rfl
              · next id found =>
                  have isSlave := List.find?_some found
                  have different : other ≠ id := by
                    rintro rfl
                    apply notIts
                    simpa [HarborReceipt.message] using
                      (of_decide_eq_true isSlave).2
                  exact pushSocketDataLoop_s_of_ne different isPushed
          unfold after at done
          split at done
          · next last later isFed =>
              cases done
              rw [inductionHypothesis (by rw [samePushed]; exact notIts) isFed,
                samePushed]
          · cases done
      · cases done

end Others

section Cuts

/-- Nothing unknown matters. -/
def HarborUnknown.zero : HarborUnknown where
  memory := fun _ _ => 0
  answer := fun _ => 0
  stack := []

/-- Receipts of given pieces. -/
def receiptsOf (pieces : List (List UInt8)) : List HarborReceipt :=
  pieces.map fun bytes => { bytes := bytes, unknown := .zero }

@[simp] theorem bytes_receiptsOf
    (pieces : List (List UInt8)) :
    (receiptsOf pieces).map HarborReceipt.bytes = pieces := by
  simp [receiptsOf, Function.comp_def]

/-- A stream cut into single bytes. -/
def singles (bytes : List UInt8) : List (List UInt8) :=
  bytes.map fun byte => [byte]

@[simp] theorem flatten_singles
    (bytes : List UInt8) :
    (singles bytes).flatten = bytes := by
  induction bytes with
  | nil =>
      rfl
  | cons byte bytes inductionHypothesis =>
      simp only [singles, List.map_cons, List.flatten_cons] at *
      rw [inductionHypothesis]
      rfl

/-- A piece that may be a socket message. -/
def IsPiece (bytes : List UInt8) : Prop :=
  bytes ≠ [] ∧ bytes.length < 2 ^ 31

/-- A body is shorter than 2^24. -/
theorem harborFraming_bodyLength_lt
    (head : List UInt8) :
    harborFraming.bodyLength head < 2 ^ 24 := by
  have bound := ofBytes_lt [head.getD 1 0, head.getD 2 0, head.getD 3 0]
  simp only [harborFraming]
  rw [ofBytes_triple]
  simpa using bound

/-- A frame may be a socket message. -/
theorem HarborFrame.isPiece
    (frame : HarborFrame) :
    IsPiece frame.bytes := by
  have isBodyLength :
      harborFraming.bodyLength frame.header = frame.body.length :=
    frame.body_length.symm
  have bound := harborFraming_bodyLength_lt frame.header
  refine ⟨frame.bytes_ne_nil, ?_⟩
  rw [WireFrame.bytes, List.length_append, frame.length_header]
  omega

/-- Pieces of frames, then one receipt, then pieces, as a cut. -/
theorem isCut_append
    {frames : List HarborFrame}
    {middle : List HarborReceipt}
    {behind stream : List UInt8}
    (arePieces : ∀ receipt ∈ middle, IsPiece receipt.bytes)
    (isStream :
      stream =
        frames.flatMap WireFrame.bytes ++
          ((middle.map HarborReceipt.bytes).flatten ++ behind)) :
    IsCut
      (receiptsOf (frames.map WireFrame.bytes) ++
        (middle ++ receiptsOf (singles behind))) stream := by
  refine ⟨?_, ?_⟩
  · intro receipt member
    rcases List.mem_append.mp member with inFrames | inRest
    · simp only [receiptsOf, List.mem_map] at inFrames
      obtain ⟨_, ⟨frame, _, rfl⟩, rfl⟩ := inFrames
      exact HarborFrame.isPiece frame
    · rcases List.mem_append.mp inRest with inMiddle | inSingles
      · exact arePieces receipt inMiddle
      · simp only [receiptsOf, singles, List.mem_map] at inSingles
        obtain ⟨_, ⟨byte, _, rfl⟩, rfl⟩ := inSingles
        exact ⟨List.cons_ne_nil _ _, by simp⟩
  · rw [isStream]
    simp [List.flatMap_def]

variable
    {h : Harbor}
    {id : Nat}
    {fd : Int}

/-- Results of the receipts before and behind. -/
theorem feed_append
    {first second : List HarborReceipt}
    {h' : Harbor}
    {actions : List HarborAction}
    (isFed : feed fd h first = .ok (h', actions)) :
    feed fd h (first ++ second) = after actions (feed fd h' second) := by
  induction first generalizing h h' actions with
  | nil =>
      cases isFed
      rw [List.nil_append]
      unfold after
      split
      · next isLater =>
          rw [isLater]
          rfl
      · next isLater =>
          rw [isLater]
  | cons receipt first inductionHypothesis =>
      simp only [feed, List.cons_append] at isFed ⊢
      split at isFed
      · next next sent isPushed =>
          unfold after at isFed
          split at isFed
          · next last later isLater =>
              cases isFed
              rw [inductionHypothesis isLater]
              unfold after
              cases feed fd h' second with
              | error fault =>
                  rfl
              | ok result =>
                  simp [List.append_assoc]
          · cases isFed
      · cases isFed

/-- Nothing has no zero byte. -/
theorem zerosTrail_nil :
    ZerosTrail [] := by
  intro earlier later isSplit hasZero
  obtain ⟨isNil, _⟩ := List.append_eq_nil_iff.mp isSplit.symm
  rw [isNil] at hasZero
  simp at hasZero

/-- A frame without a body is kept well. -/
theorem Passes.keepsWell
    {frame : HarborFrame}
    (passes : Passes frame)
    (noBody : frame.body = []) :
    KeepsWell frame.bytes := by
  have isBytes : frame.bytes = frame.header := by
    rw [WireFrame.bytes, noBody, List.append_nil]
  have headerSized := Nat.le_of_eq frame.length_header
  rw [isBytes]
  refine ⟨?_, ?_⟩
  · intro _
    rw [List.take_of_length_le headerSized]
    exact passes.zeroFirst
  · rw [List.drop_eq_nil_of_le headerSized]
    exact zerosTrail_nil

/-- A frame without a body at the end of a stream waits. -/
theorem deferred_of_noBody
    (done : List HarborFrame)
    {frame : HarborFrame}
    (noBody : frame.body = []) :
    Deferred ((done ++ [frame]).flatMap WireFrame.bytes) done frame.bytes := by
  have isBytes : frame.bytes = frame.header := by
    rw [WireFrame.bytes, noBody, List.append_nil]
  refine ⟨by simp, ?_, ?_⟩
  · rw [isBytes]
    exact Or.inl (Nat.le_of_eq frame.length_header)
  · intro isNil
    exact (frame.bytes_ne_nil isNil).elim

/-- Frames that pass, each in a message of its own, and one that waits. -/
theorem exists_settled
    (holding : Holding (h.s id) fd [])
    (found : findSlave h fd = some id)
    {frames : List HarborFrame}
    (passes : ∀ frame ∈ frames, Passes frame) :
    ∃ s actions idle,
      feed fd h (receiptsOf (frames.map WireFrame.bytes)) =
          .ok (h.set id s, actions) ∧
        forwarded actions ++ idle.map WireFrame.body = frames.map WireFrame.body ∧
        Holding s fd (idle.flatMap WireFrame.bytes) ∧
        (idle = [] ∨
          ∃ frame : HarborFrame,
            idle = [frame] ∧ frame.body = [] ∧ Passes frame) := by
  have nonempty :
      ∀ receipt ∈ receiptsOf (frames.map WireFrame.bytes),
        receipt.bytes ≠ [] := by
    intro receipt member
    simp only [receiptsOf, List.mem_map] at member
    obtain ⟨_, ⟨frame, _, rfl⟩, rfl⟩ := member
    exact frame.bytes_ne_nil
  have fed :
      ∀ done idle : List HarborFrame,
        frames = done ++ idle →
        Deferred (frames.flatMap WireFrame.bytes) done
          (idle.flatMap WireFrame.bytes) →
        KeepsWell (idle.flatMap WireFrame.bytes) →
        ∃ s actions,
          feed fd h (receiptsOf (frames.map WireFrame.bytes)) =
              .ok (h.set id s, actions) ∧
            forwarded actions = done.map WireFrame.body ∧
            Holding s fd (idle.flatMap WireFrame.bytes) := by
    intro done idle isFrames deferred keepsWell
    refine
      feed_spec holding found nonempty (Or.inl (by simp)) ?_
        (fun frame member => passes frame (by simp [isFrames, member]))
        keepsWell
    simpa [List.flatMap_def] using deferred
  have keepsNil : KeepsWell [] :=
    ⟨fun long => by simp at long, zerosTrail_nil⟩
  by_cases waits :
      ∃ done frame, frames = done ++ [frame] ∧ frame.body = []
  · obtain ⟨done, frame, isFrames, noBody⟩ := waits
    have isPassing := passes frame (by simp [isFrames])
    have isIdle : [frame].flatMap WireFrame.bytes = frame.bytes := by
      simp
    have deferred :
        Deferred (frames.flatMap WireFrame.bytes) done
          ([frame].flatMap WireFrame.bytes) := by
      rw [isIdle, isFrames]
      exact deferred_of_noBody done noBody
    have keepsWell : KeepsWell ([frame].flatMap WireFrame.bytes) := by
      rw [isIdle]
      exact isPassing.keepsWell noBody
    obtain ⟨s, actions, isFed, areForwarded, held⟩ :=
      fed done [frame] isFrames deferred keepsWell
    refine
      ⟨s, actions, [frame], isFed, ?_, held,
        Or.inr ⟨frame, rfl, noBody, isPassing⟩⟩
    rw [areForwarded, isFrames, List.map_append]
  · have deferred :
        Deferred (frames.flatMap WireFrame.bytes) frames
          (([] : List HarborFrame).flatMap WireFrame.bytes) := by
      refine ⟨by simp, Or.inl (by simp), ?_⟩
      intro _ frame isLast noBody
      obtain ⟨done, isFrames⟩ := List.getLast?_eq_some_iff.mp isLast
      exact waits ⟨done, frame, isFrames, noBody⟩
    obtain ⟨s, actions, isFed, areForwarded, held⟩ :=
      fed frames [] (by simp) deferred keepsNil
    exact ⟨s, actions, [], isFed, by simp [areForwarded], held, Or.inl rfl⟩

/-- What the receipts behind a piece make of its result. -/
def thenFeed
    (fd : Int)
    (result : Except Fault (Harbor × List HarborAction))
    (later : List HarborReceipt) : Except Fault (Harbor × List HarborAction) :=
  match result with
  | .ok (h, actions) => after actions (feed fd h later)
  | .error fault => .error fault

/-- Behind frames that pass, a message meets a clean parser. -/
theorem exists_clean
    (holding : Holding (h.s id) fd [])
    (found : findSlave h fd = some id)
    {frames : List HarborFrame}
    (passes : ∀ frame ∈ frames, Passes frame)
    (receipt : HarborReceipt)
    (nonempty : receipt.bytes ≠ []) :
    ∃ s actions round,
      Holding s fd [] ∧ forwarded actions = frames.map WireFrame.body ∧
        receipt.bytes.length < round ∧
        ∀ later,
          feed fd h
              (receiptsOf (frames.map WireFrame.bytes) ++ receipt :: later) =
            after actions
              (thenFeed fd
                (pushSocketDataLoop id receipt.unknown round (h.set id s)
                  receipt.bytes receipt.bytes.length) later) := by
  obtain ⟨s, actions, idle, isFed, areForwarded, held, isIdle⟩ :=
    exists_settled holding found passes
  have sameFd : s.fd = (h.s id).fd := held.fd.trans holding.fd.symm
  have foundSet : findSlave (h.set id s) fd = some id := by
    rw [findSlave_set sameFd]
    exact found
  have fedFirst :
      ∀ later,
        feed fd h (receiptsOf (frames.map WireFrame.bytes) ++ receipt :: later) =
          after actions
            (thenFeed fd
              (pushSocketDataLoop id receipt.unknown
                (receipt.bytes.length + 2) (h.set id s) receipt.bytes
                receipt.bytes.length) later) := by
    intro later
    rw [feed_append isFed]
    simp only [feed, pushSocketData_eq foundSet]
    rfl
  rcases isIdle with noIdle | ⟨frame, isFrame, noBody, isPassing⟩
  · subst noIdle
    exact
      ⟨s, actions, receipt.bytes.length + 2, held,
        by simpa using areForwarded, by omega, fedFirst⟩
  · -- The frame without a body is handed on in the first round.
    subst isFrame
    have heldSet :
        Holding ((h.set id s).s id) fd ([frame].flatMap WireFrame.bytes) := by
      simpa using held
    have isBytes : [frame].flatMap WireFrame.bytes = frame.bytes := by
      simp
    have isLength : frame.bytes.length ≤ 4 := by
      rw [WireFrame.bytes, List.length_append, frame.length_header, noBody]
      simp
    have isData :
        [frame].flatMap WireFrame.bytes ++ receipt.bytes =
          frame.bytes ++ receipt.bytes := by
      rw [isBytes]
    obtain ⟨s', handed, isRound, handedForwarded, held'⟩ :=
      pushSocketDataLoop_frame heldSet isData
        (Or.inl (by rw [isBytes]; exact isLength))
        (Or.inr nonempty) isPassing.zeroFirst receipt.unknown
        (receipt.bytes.length + 1)
    have noPart : (([frame].flatMap WireFrame.bytes).drop 4) = [] := by
      rw [isBytes]
      exact List.drop_eq_nil_of_le isLength
    have isHanded : forwarded handed = [frame.body] := by
      rw [handedForwarded (by rw [noPart]; simp), noBody]
      rfl
    refine
      ⟨s', actions ++ handed, receipt.bytes.length + 1, held', ?_, by omega,
        ?_⟩
    · rw [forwarded_append, isHanded]
      simpa using areForwarded
    · intro later
      rw [fedFirst, isRound, if_neg nonempty, follow, Harbor.set_set]
      cases pushSocketDataLoop id receipt.unknown (receipt.bytes.length + 1)
          (h.set id s') receipt.bytes receipt.bytes.length with
      | error fault =>
          rfl
      | ok result =>
          obtain ⟨next, sent⟩ := result
          simp only [after, thenFeed]
          cases feed fd next later with
          | error fault =>
              rfl
          | ok last =>
              simp [List.append_assoc]

end Cuts

end SkynetCpp
