import SkynetCpp.HarborDefects

namespace SkynetCpp

open Foundation

/-!
# A message from one harbor to another

`send_remote` builds the frame in an array and turns the array into a
`std::string`, which ends before the first byte: the length of a frame is
below 2^24, so that its first byte is zero.  The socket layer is still told
the length of the frame, and what it reads behind the empty string is not the
frame.
-/

/-- The bytes that a buffer hands to the socket layer. -/
def Sendbuffer.handed
    (buffer : Sendbuffer)
    (memory : Int → UInt8) : List UInt8 :=
  stringBytes buffer.buffer memory 0 buffer.sz.toNat

/-- The calls of `ServiceSend`. -/
def serviceSends (actions : List HarborAction) : List ServiceCall :=
  actions.filterMap fun
    | .call (.serviceSend source destination type session data sz) =>
        some (.serviceSend source destination type session data sz)
    | _ => none

/--
What `remote_send_handle` hands to the socket layer of one harbor makes the
other harbor send exactly the message, however the bytes are cut.
-/
def Delivers
    (h receiver : Harbor)
    (id : Nat)
    (source destination type : UInt32)
    (session : Int)
    (msg : List UInt8) : Prop :=
  ∀ stack memory buffer receipts,
    (remoteSendHandle h source destination type session msg msg.length
        stack).2.2 =
      [.call (.socketSendBuffer buffer)] →
    IsCut receipts (buffer.handed memory) →
    (∀ receipt ∈ receipts, ∀ round, 0 ≤ receipt.unknown.answer round) →
    ∃ receiver' actions,
      feed (receiver.s id).fd receiver receipts = .ok (receiver', actions) ∧
        serviceSends actions =
          [.serviceSend source
            ((destination &&& kHandleMask) |||
              (UInt32.ofInt receiver.id <<< kHandleRemoteShift))
            (type ||| kPtypeTagDontcopy) session (some msg)
            (UInt64.ofNat msg.length)]

/-- A slave that takes a message of the given length into its socket. -/
structure Reaches
    (h : Harbor)
    (destination type : UInt32)
    (msg : List UInt8) : Prop where
  remote : ((destination >>> kHandleRemoteShift).toNat : Int) ≠ h.id
  connected : (h.s (destination >>> kHandleRemoteShift).toNat).fd ≠ 0
  shaken :
    (h.s (destination >>> kHandleRemoteShift).toNat).status ≠ .handshake
  type_lt : type < 256
  short : msg.length + 12 < 2 ^ 24

section Sent

/-- The first byte of a length below 2^24 is zero. -/
theorem cString_toBigendian
    {length : Nat}
    (short : length < 2 ^ 24)
    (behind : List UInt8) :
    cString (toBigendian (UInt32.ofNat length) ++ behind) = [] := by
  have isZero : (UInt32.ofNat length >>> 24).toUInt8 = 0 := by
    apply UInt8.toNat_inj.mp
    have isSmall : (UInt32.ofNat length).toNat = length := by
      rw [UInt32.toNat_ofNat']
      exact Nat.mod_eq_of_lt (by omega)
    rw [UInt32.toNat_toUInt8, UInt32.toNat_shiftRight, isSmall,
      Nat.shiftRight_eq_div_pow]
    have noneLeft : length / 16777216 = 0 := Nat.div_eq_of_lt short
    simp [noneLeft]
  simp [cString, toBigendian, isZero]

/-- The buffer that goes to the socket of a slave. -/
def remoteBuffer
    (fd : Int)
    (msg : List UInt8) : Sendbuffer where
  id := fd
  type := .rawPointer
  buffer := []
  sz := UInt64.ofNat (msg.length + 16)

/-- An empty string goes out for every message, with the length of its frame. -/
theorem remoteSendHandle_eq
    {h : Harbor}
    {destination type : UInt32}
    {msg : List UInt8}
    (reaches : Reaches h destination type msg)
    (source : UInt32)
    (session : Int)
    (stack : List UInt8) :
    (remoteSendHandle h source destination type session msg msg.length
        stack).2.2 =
      [.call (.socketSendBuffer
        (remoteBuffer (h.s (destination >>> kHandleRemoteShift).toNat).fd
          msg))] := by
  have fits : ¬ msg.length + 12 > 0xffffffff := by
    have short := reaches.short
    omega
  have waits :
      ¬ ((h.s (destination >>> kHandleRemoteShift).toNat).fd = 0 ∨
        (h.s (destination >>> kHandleRemoteShift).toNat).status =
          .handshake) := by
    rintro (noFd | isHandshake)
    · exact reaches.connected noFd
    · exact reaches.shaken isHandshake
  simp only [remoteSendHandle, if_neg reaches.remote, if_neg waits,
    sendRemote, if_neg fits]
  rw [List.append_assoc, List.append_assoc, cString_toBigendian reaches.short]
  rfl

/-- In zero memory, zero bytes are handed out for a message. -/
theorem remoteBuffer_handed
    {msg : List UInt8}
    (short : msg.length + 12 < 2 ^ 24)
    (fd : Int) :
    (remoteBuffer fd msg).handed (fun _ => 0) =
      List.replicate (msg.length + 16) 0 := by
  have isLength : (UInt64.ofNat (msg.length + 16)).toNat = msg.length + 16 := by
    rw [UInt64.toNat_ofNat']
    exact Nat.mod_eq_of_lt (by omega)
  apply List.eq_replicate_iff.mpr
  simp only [Sendbuffer.handed, remoteBuffer, isLength, length_stringBytes,
    true_and]
  intro byte member
  simp only [stringBytes, List.mem_map] at member
  obtain ⟨index, _, rfl⟩ := member
  simp [stringAt]

end Sent

section Received

variable
    {h h' : Harbor}
    {id : Nat}

@[simp] theorem serviceSends_append
    (first second : List HarborAction) :
    serviceSends (first ++ second) =
      serviceSends first ++ serviceSends second := by
  simp [serviceSends]

/-- `forward_local_messsage` sends before anything else. -/
theorem forwardLocalMessage_sends
    (content : List UInt8)
    (memory : Int → UInt8)
    (answer sz : Int) :
    1 ≤ (serviceSends
      (forwardLocalMessage h content memory answer sz)).length := by
  unfold forwardLocalMessage
  dsimp only
  split <;> simp [serviceSends]

/-- Not more is handed on than is sent. -/
def SendsAll (actions : List HarborAction) : Prop :=
  (forwarded actions).length ≤ (serviceSends actions).length

theorem SendsAll.append
    {first second : List HarborAction}
    (isFirst : SendsAll first)
    (isSecond : SendsAll second) :
    SendsAll (first ++ second) := by
  unfold SendsAll at isFirst isSecond ⊢
  rw [forwarded_append, serviceSends_append, List.length_append,
    List.length_append]
  exact Nat.add_le_add isFirst isSecond

/-- Actions that hand nothing on. -/
theorem sendsAll_of_forwarded
    {actions : List HarborAction}
    (nothing : forwarded actions = []) :
    SendsAll actions := by
  rw [SendsAll, nothing]
  exact Nat.zero_le _

/-- The content of a frame is sent when it is handed on. -/
theorem contentCase_sendsAll
    (unknown : HarborUnknown)
    (round : Nat)
    (buffer : List UInt8)
    (size : Int) :
    SendsAll (contentCase h id unknown round buffer size).2.1 := by
  have sends :
      ∀ msg content memory answer sz,
        SendsAll
          (.forwardLocal msg ::
            forwardLocalMessage h content memory answer sz) := by
    intro msg content memory answer sz
    rw [SendsAll, forwarded_forwardLocal, forwarded_forwardLocalMessage]
    exact forwardLocalMessage_sends content memory answer sz
  unfold contentCase
  dsimp only
  split
  · exact sendsAll_of_forwarded rfl
  · split
    · exact sends _ _ _ _ _
    · exact sends _ _ _ _ _

/-- The header of a frame sends what its content sends. -/
theorem headerCase_sendsAll
    (unknown : HarborUnknown)
    (round : Nat)
    (buffer : List UInt8)
    (size : Int) :
    SendsAll (headerCase h id unknown round buffer size).2.1 := by
  unfold headerCase
  dsimp only
  split
  · exact sendsAll_of_forwarded rfl
  · split
    · exact sendsAll_of_forwarded (forwarded_closeHarbor _ id)
    · split
      · exact sendsAll_of_forwarded rfl
      · exact contentCase_sendsAll unknown round _ _

/-- `send_remote` hands nothing on. -/
theorem sendRemote_forwarded
    (fd : Int)
    (buffer : List UInt8)
    (sz : Nat)
    (cookie : RemoteMessageHeader)
    (stack : List UInt8) :
    forwarded (sendRemote fd buffer sz cookie stack) = [] := by
  unfold sendRemote
  dsimp only
  split <;> rfl

/-- The queue of a slave hands nothing on. -/
theorem dispatchQueueLoop_forwarded
    {fd : Int}
    {stack : List UInt8}
    {fuel : Nat}
    {queue : HarborMsgQueue}
    {actions : List HarborAction}
    (done : Harbor.dispatchQueueLoop fd stack fuel queue = .ok actions) :
    forwarded actions = [] := by
  induction fuel generalizing queue actions with
  | zero =>
      cases done
  | succ fuel inductionHypothesis =>
      unfold Harbor.dispatchQueueLoop at done
      split at done
      · cases done
        rfl
      · obtain ⟨later, isLater, isDone⟩ := bind_eq_ok_iff.mp done
        cases isDone
        rw [forwarded_append, sendRemote_forwarded, inductionHypothesis isLater]
        rfl

/-- `dispatch_queue` hands nothing on. -/
theorem dispatchQueue_forwarded
    {stack : List UInt8}
    {actions : List HarborAction}
    (done : h.dispatchQueue id stack = .ok (h', actions)) :
    forwarded actions = [] := by
  unfold Harbor.dispatchQueue at done
  dsimp only at done
  split at done
  · cases done
  · split at done
    · cases done
      rfl
    · obtain ⟨sent, isSent, isDone⟩ := bind_eq_ok_iff.mp done
      cases isDone
      exact dispatchQueueLoop_forwarded isSent

/-- The handshake sends what the header behind it sends. -/
theorem handshakeCase_sendsAll
    {unknown : HarborUnknown}
    {round : Nat}
    {buffer : List UInt8}
    {size : Int}
    {actions : List HarborAction}
    {flow : PushFlow}
    (done :
      handshakeCase h id unknown round buffer size =
        .ok (h', actions, flow)) :
    SendsAll actions := by
  unfold handshakeCase at done
  dsimp only at done
  split at done
  · cases done
    exact sendsAll_of_forwarded (forwarded_closeHarbor h id)
  · obtain ⟨⟨queued, sent⟩, isQueued, isDone⟩ := bind_eq_ok_iff.mp done
    have nothing := dispatchQueue_forwarded isQueued
    dsimp only at isDone
    split at isDone
    · cases isDone
      exact sendsAll_of_forwarded nothing
    · cases isDone
      exact
        (sendsAll_of_forwarded nothing).append
          (headerCase_sendsAll unknown round _ _)

/-- Every message handed on is sent. -/
theorem pushSocketDataLoop_sendsAll
    {unknown : HarborUnknown}
    {round : Nat}
    {buffer : List UInt8}
    {size : Int}
    {actions : List HarborAction}
    (done :
      pushSocketDataLoop id unknown round h buffer size = .ok (h', actions)) :
    SendsAll actions := by
  let Sends : Harbor → List HarborAction → Harbor → Prop :=
    fun _ actions _ => SendsAll actions
  have sends : Sends h actions h' := by
    refine
      pushSocketDataLoop_relates (fun _ => sendsAll_of_forwarded rfl)
        (fun _ _ _ _ _ first second => SendsAll.append first second) ?_ ?_ ?_
        done
    · intro h round buffer size h' actions flow isCase
      exact handshakeCase_sendsAll isCase
    · intro h round buffer size
      exact headerCase_sendsAll unknown round buffer size
    · intro h round buffer size
      exact contentCase_sendsAll unknown round buffer size
  exact sends

/-- A single chunk. -/
theorem feed_singleton
    {fd : Int}
    (found : findSlave h fd = some id)
    (receipt : HarborReceipt) :
    feed fd h [receipt] =
      pushSocketDataLoop id receipt.unknown (receipt.bytes.length + 2) h
        receipt.bytes receipt.bytes.length := by
  rw [feed_cons found]
  cases pushSocketDataLoop id receipt.unknown (receipt.bytes.length + 2) h
      receipt.bytes receipt.bytes.length with
  | error fault =>
      rfl
  | ok result =>
      obtain ⟨next, actions⟩ := result
      simp [thenFeed, after, feed]

/-- The frame that four zero bytes are. -/
def zeroFrame : HarborFrame where
  header := [0, 0, 0, 0]
  body := []
  header_length := rfl
  body_length := by
    simp [harborFraming]

/-- Zero bytes as frames without a body. -/
theorem zeroFrames_bytes
    (count : Nat) :
    (List.replicate count zeroFrame).flatMap WireFrame.bytes =
      List.replicate (4 * count) 0 := by
  induction count with
  | zero =>
      rfl
  | succ count inductionHypothesis =>
      rw [List.replicate_succ, List.flatMap_cons, inductionHypothesis,
        Nat.mul_succ, Nat.add_comm (4 * count) 4, List.replicate_add]
      rfl

/-- Zero bytes make a ready slave send for every four of them. -/
theorem feed_zeros
    (ready : Ready h id)
    (count left : Nat)
    (some : 0 < left)
    (few : left ≤ 4) :
    ∃ h' actions,
      feed (h.s id).fd h
          [{ bytes := List.replicate (4 * count + left) 0
             unknown := .zero }] =
        .ok (h', actions) ∧
      count ≤ (serviceSends actions).length := by
  let rest : List UInt8 := List.replicate left 0
  let chunk : List UInt8 := List.replicate (4 * count + left) 0
  have isRest : rest ≠ [] := by
    apply List.ne_nil_of_length_pos
    simpa [rest] using some
  have unfinished : Unfinished ([] : List UInt8) := Or.inl (by simp)
  have deferred :
      Deferred ([] ++ chunk) (List.replicate count zeroFrame) rest := by
    refine ⟨?_, Or.inl (by simpa [rest] using few), ?_⟩
    · rw [zeroFrames_bytes, List.nil_append]
      exact List.replicate_add _ _ _
    · intro isNil
      exact (isRest isNil).elim
  have passes :
      ∀ frame ∈ List.replicate count zeroFrame, Passes frame := by
    intro frame member
    rw [List.eq_of_mem_replicate member]
    exact
      ⟨by simp [ZeroFirst, zeroFrame], by simp [ZeroLastOnly, zeroFrame]⟩
  have keepsWell : KeepsWell rest := by
    refine ⟨?_, ?_⟩
    · intro long
      have isFour : left = 4 := by
        rw [List.length_replicate] at long
        omega
      subst isFour
      rfl
    · rw [List.drop_eq_nil_of_le (by simpa [rest] using few)]
      exact zerosTrail_nil
  have nonempty : chunk ≠ [] := by
    apply List.ne_nil_of_length_pos
    rw [List.length_replicate]
    omega
  obtain ⟨s, actions, isDone, areForwarded, _⟩ :=
    pushSocketDataLoop_spec ready.holding nonempty unfinished deferred passes
      keepsWell .zero (deferred.rounds unfinished)
  refine ⟨h.set id s, actions, ?_, ?_⟩
  · have isFed :
        pushSocketDataLoop id .zero (chunk.length + 2) h chunk chunk.length =
          .ok (h.set id s, actions) := isDone
    rw [feed_singleton ready.found]
    exact isFed
  · have sendsAll := pushSocketDataLoop_sendsAll isDone
    rw [SendsAll, areForwarded] at sendsAll
    simpa using sendsAll

end Received

section Round

variable
    {h receiver : Harbor}
    {id : Nat}
    {destination type : UInt32}
    {msg : List UInt8}

/-- Zero memory behind the string makes the receiver send more than once. -/
theorem exists_manySends
    (reaches : Reaches h destination type msg)
    (ready : Ready receiver id)
    (fd : Int) :
    ∃ receipt receiver' actions,
      IsCut [receipt] ((remoteBuffer fd msg).handed fun _ => 0) ∧
        (∀ round, 0 ≤ receipt.unknown.answer round) ∧
        feed (receiver.s id).fd receiver [receipt] =
          .ok (receiver', actions) ∧
        3 ≤ (serviceSends actions).length := by
  have short := reaches.short
  -- At least sixteen bytes, and the last one to four of them wait.
  let count := (msg.length + 15) / 4
  let left := (msg.length + 15) % 4 + 1
  have isTotal : 4 * count + left = msg.length + 16 := by
    simp only [count, left]
    omega
  obtain ⟨receiver', actions, isFed, atLeast⟩ :=
    feed_zeros ready count left (Nat.succ_pos _) (Nat.mod_lt _ (by decide))
  refine ⟨_, receiver', actions, ⟨?_, ?_⟩, ?_, isFed, ?_⟩
  · intro receipt member
    cases List.mem_singleton.mp member
    have sized : (List.replicate (4 * count + left) (0 : UInt8)).length =
        4 * count + left :=
      List.length_replicate
    exact
      ⟨List.ne_nil_of_length_pos (by rw [sized]; omega), by
        rw [sized]; omega⟩
  · rw [remoteBuffer_handed short, isTotal]
    simp
  · exact fun _ => Int.le_refl 0
  · have many : 3 ≤ count := by
      simp only [count]
      omega
    exact Nat.le_trans many atLeast

/-- A delivered message is sent once, whatever is behind the string. -/
theorem Delivers.sendsOnce
    {source : UInt32}
    {session : Int}
    (delivers : Delivers h receiver id source destination type session msg)
    (reaches : Reaches h destination type msg)
    {receipt : HarborReceipt}
    {memory : Int → UInt8}
    (isCut :
      IsCut [receipt]
        ((remoteBuffer (h.s (destination >>> kHandleRemoteShift).toNat).fd
          msg).handed memory))
    (answers : ∀ round, 0 ≤ receipt.unknown.answer round)
    {receiver' : Harbor}
    {actions : List HarborAction}
    (isFed :
      feed (receiver.s id).fd receiver [receipt] =
        .ok (receiver', actions)) :
    (serviceSends actions).length = 1 := by
  have answersAll :
      ∀ other ∈ [receipt], ∀ round, 0 ≤ other.unknown.answer round := by
    intro other member
    cases List.mem_singleton.mp member
    exact answers
  obtain ⟨last, sent, isLast, isSent⟩ :=
    delivers [] memory _ [receipt] (remoteSendHandle_eq reaches source session [])
      isCut answersAll
  have isSame := isFed.symm.trans isLast
  simp only [Except.ok.injEq, Prod.mk.injEq] at isSame
  rw [isSame.2, isSent]
  rfl

/-- No message is delivered whatever is behind the string. -/
theorem remoteSendHandle_not_delivers
    (reaches : Reaches h destination type msg)
    (ready : Ready receiver id)
    (source : UInt32)
    (session : Int) :
    ¬ Delivers h receiver id source destination type session msg := by
  intro delivers
  obtain ⟨receipt, receiver', actions, isCut, answers, isFed, many⟩ :=
    exists_manySends reaches ready
      (h.s (destination >>> kHandleRemoteShift).toNat).fd
  have once := delivers.sendsOnce reaches isCut answers isFed
  omega

/-- A message to a service of the connected harbor. -/
theorem connectedHarbor_reaches
    {msg : List UInt8}
    (short : msg.length + 12 < 2 ^ 24) :
    Reaches (connectedHarbor 5) 0x05000002 0 msg :=
  ⟨by decide, by decide, by decide, by decide, short⟩

theorem empty_not_delivered :
    ¬ Delivers (connectedHarbor 5) (connectedHarbor 5) 5 0x01000001
      0x05000002 0 7 [] :=
  remoteSendHandle_not_delivers (connectedHarbor_reaches (by decide))
    connectedHarbor_ready 0x01000001 7

/-- Two bytes from one service to another are sent more than once. -/
theorem hello_not_delivered :
    ¬ Delivers (connectedHarbor 5) (connectedHarbor 5) 5 0x01000001
      0x05000002 0 7 [104, 105] := by
  intro delivers
  have reaches : Reaches (connectedHarbor 5) 0x05000002 0 [104, 105] :=
    connectedHarbor_reaches (by decide)
  obtain ⟨receipt, receiver', actions, isCut, answers, isFed, many⟩ :=
    exists_manySends reaches connectedHarbor_ready _
  have once := delivers.sendsOnce reaches isCut answers isFed
  omega

end Round

end SkynetCpp
