import SkynetCpp.HarborAlike
import SkynetCpp.HarborCookies

namespace SkynetCpp

open Foundation

/-!
# The memory around the strings

`forward_local_messsage` reads the announced length out of `recv_buffer`, and
the twelve bytes in front of its end.  Where the frames of a connection carry
cookies, what is forwarded of them does not depend on the memory around that
string, however they are cut.
-/

/-- What `forward_local_messsage` is handed, and the messages that it sends. -/
def forwardings (actions : List HarborAction) : List HarborAction :=
  actions.filter fun
    | .forwardLocal _ => true
    | .call (.serviceSend ..) => true
    | .call _ => false

@[simp] theorem forwardings_append
    (first second : List HarborAction) :
    forwardings (first ++ second) = forwardings first ++ forwardings second := by
  simp [forwardings]

/-- The same round, in another memory around the strings. -/
structure HarborUnknown.SameButMemory (unknown other : HarborUnknown) : Prop where
  answer : other.answer = unknown.answer
  stack : other.stack = unknown.stack

/-- The same bytes, received in another memory around the strings. -/
structure HarborReceipt.SameBytes (receipt other : HarborReceipt) : Prop where
  bytes : other.bytes = receipt.bytes
  unknown : receipt.unknown.SameButMemory other.unknown

/-- The same bytes are some bytes. -/
theorem bytes_ne_nil_of_same
    {receipts others : List HarborReceipt}
    (same : List.Forall₂ HarborReceipt.SameBytes receipts others)
    (nonempty : ∀ receipt ∈ receipts, receipt.bytes ≠ []) :
    ∀ receipt ∈ others, receipt.bytes ≠ [] := by
  induction same with
  | nil =>
      exact nonempty
  | cons sameBytes _ inductionHypothesis =>
      intro receipt member
      rcases List.mem_cons.mp member with rfl | isLater
      · rw [sameBytes.bytes]
        exact nonempty _ List.mem_cons_self
      · exact
          inductionHypothesis
            (fun other isOther =>
              nonempty other (List.mem_cons_of_mem _ isOther))
            receipt isLater

section Strings

variable
    {frame : HarborFrame}
    {behind : List UInt8}

/-- The bytes of a message with a cookie are read out of its string. -/
theorem CarriesCookie.stringAt_eq
    (carries : CarriesCookie frame)
    (behind : List UInt8)
    (memory : Int → UInt8)
    {index : Nat}
    (inside : index < frame.body.length) :
    stringAt (cString (frame.body ++ behind)) memory index =
      frame.body.getD index 0 := by
  have whole := stringBytes_cString carries.zeroLastOnly behind memory
  have same := congrArg (fun bytes => bytes[index]?) whole
  simp only [getElem?_stringBytes inside] at same
  rw [List.getD_eq_getElem?_getD, ← same]
  rfl

/-- A message with a cookie is forwarded without a look at other memory. -/
theorem CarriesCookie.forwardLocalMessage_eq
    (carries : CarriesCookie frame)
    (h : Harbor)
    (behind : List UInt8)
    (memory other : Int → UInt8)
    (answer : Int) :
    forwardLocalMessage h (cString (frame.body ++ behind)) other answer
        frame.body.length =
      forwardLocalMessage h (cString (frame.body ++ behind)) memory answer
        frame.body.length := by
  have cookie := carries.cookie
  have isTwelve : kHeaderCookieLength = 12 := rfl
  rw [isTwelve] at cookie
  have sameCookie :
      stringBytes (cString (frame.body ++ behind)) other
          ((frame.body.length : Int) - 12) 12 =
        stringBytes (cString (frame.body ++ behind)) memory
          ((frame.body.length : Int) - 12) 12 := by
    refine List.map_congr_left fun i member => ?_
    have bounded := List.mem_range.mp member
    have isIndex :
        (frame.body.length : Int) - 12 + (i : Int) =
          (frame.body.length - 12 + i : Nat) := by
      omega
    rw [isIndex, carries.stringAt_eq behind other (by omega),
      carries.stringAt_eq behind memory (by omega)]
  have sameMessage :
      stringBytes (cString (frame.body ++ behind)) other 0
          ((frame.body.length : Int) - 12).toNat =
        stringBytes (cString (frame.body ++ behind)) memory 0
          ((frame.body.length : Int) - 12).toNat := by
    refine List.map_congr_left fun i member => ?_
    have bounded := List.mem_range.mp member
    rw [Int.zero_add, carries.stringAt_eq behind other (by omega),
      carries.stringAt_eq behind memory (by omega)]
  unfold forwardLocalMessage
  rw [isTwelve, sameCookie, sameMessage]

/-- Reading in front of a string reads other memory. -/
theorem stringAt_of_neg
    {content : List UInt8}
    {memory : Int → UInt8}
    {index : Int}
    (before : index < 0) :
    stringAt content memory index = memory index := by
  rw [stringAt, if_neg (by omega), if_neg (by omega)]

/-- Four bytes are read back from their number. -/
theorem fromBigendian_injective
    {bytes others : List UInt8}
    (sized : bytes.length = 4)
    (otherSized : others.length = 4)
    (same : fromBigendian bytes = fromBigendian others) :
    bytes = others := by
  have isNumber (bytes : List UInt8) (sized : bytes.length = 4) :
      toBytes 4 (fromBigendian bytes).toNat = bytes := by
    match bytes, sized with
    | [first, second, third, fourth], _ =>
        have small := ofBytes_lt [first, second, third, fourth]
        have isWhole : fromBigendian [first, second, third, fourth] =
            UInt32.ofNat (ofBytes [first, second, third, fourth]) := by
          rw [← ofBytes_quadruple]
          rfl
        rw [isWhole, UInt32.toNat_ofNat_of_lt' (by simpa using small)]
        exact toBytes_ofBytes [first, second, third, fourth]
  rw [← isNumber bytes sized, ← isNumber others otherSized, same]

/-- The first thing that `forward_local_messsage` does is to send. -/
theorem forwardings_forwardLocalMessage
    (h : Harbor)
    (content : List UInt8)
    (memory : Int → UInt8)
    (answer sz : Int) :
    ∃ destination type session msg size more,
      forwardings (forwardLocalMessage h content memory answer sz) =
        .call (.serviceSend
            (messageToHeader
              (stringBytes content memory (sz - kHeaderCookieLength) 12)).source
            destination type session msg size) ::
          more := by
  unfold forwardLocalMessage
  dsimp only
  split
  · exact ⟨_, _, _, _, _, _, rfl⟩
  · exact ⟨_, _, _, _, _, _, rfl⟩

/-- What is forwarded of a whole body. -/
def forwardedBody
    (h : Harbor)
    (content : List UInt8)
    (unknown : HarborUnknown)
    (round length : Nat) : List HarborAction :=
  .forwardLocal (stringBytes content (unknown.memory round) 0 length) ::
    forwardings
      (forwardLocalMessage h content (unknown.memory round)
        (unknown.answer round) length)

/-- A message without a cookie shows the memory around its string. -/
theorem exists_memory_shows
    (notCarries : ¬ CarriesCookie frame)
    (behind : List UInt8) :
    ∃ unknown other : HarborUnknown,
      unknown.SameButMemory other ∧
        ∀ h h' round round' more more',
          forwardedBody h (cString (frame.body ++ behind)) unknown round
                frame.body.length ++
              more ≠
            forwardedBody h' (cString (frame.body ++ behind)) other round'
                frame.body.length ++
              more' := by
  let filled (filler : UInt8) : HarborUnknown :=
    { HarborUnknown.zero with memory := fun _ _ => filler }
  refine ⟨filled 0, filled 1, ⟨rfl, rfl⟩, ?_⟩
  intro h h' round round' more more' same
  unfold forwardedBody at same
  simp only [List.cons_append] at same
  obtain ⟨sameMessage, sameSent⟩ := List.cons.inj same
  by_cases zeroLastOnly : ZeroLastOnly frame.body
  · have noCookie : ¬ kHeaderCookieLength ≤ (frame.body.length : Int) :=
      fun cookie => notCarries ⟨cookie, zeroLastOnly⟩
    obtain ⟨_, _, _, _, _, _, isSent⟩ :=
      forwardings_forwardLocalMessage h
        (cString (frame.body ++ behind)) ((filled 0).memory round)
        ((filled 0).answer round) frame.body.length
    obtain ⟨_, _, _, _, _, _, isSent'⟩ :=
      forwardings_forwardLocalMessage h'
        (cString (frame.body ++ behind)) ((filled 1).memory round')
        ((filled 1).answer round') frame.body.length
    rw [isSent, isSent', List.cons_append, List.cons_append] at sameSent
    have sameCall := (List.cons.inj sameSent).1
    simp only [HarborAction.call.injEq, ServiceCall.serviceSend.injEq]
      at sameCall
    have sameSource := sameCall.1
    have sameBytes :=
      fromBigendian_injective (by simp) (by simp) sameSource
    have firstByte (filler : UInt8) :
        ((stringBytes (cString (frame.body ++ behind)) (fun _ => filler)
            (frame.body.length - kHeaderCookieLength) 12).take 4)[0]? =
          some filler := by
      have isFirst : (List.range 12)[0]? = some 0 := rfl
      rw [List.getElem?_take_of_lt (by decide), stringBytes,
        List.getElem?_map, isFirst, Option.map_some]
      refine congrArg some (stringAt_of_neg ?_)
      omega
    have different := congrArg (fun bytes => bytes[0]?) sameBytes
    simp only [filled, firstByte] at different
    exact absurd different (by decide)
  · have sameBytes := HarborAction.forwardLocal.inj sameMessage
    have different :=
      congrArg (fun bytes => bytes[(cString frame.body).length + 1]?) sameBytes
    simp only [filled, getElem?_stringBytes_behind zeroLastOnly] at different
    exact absurd different (by decide)

end Strings

/-- What the body in the buffer has got to, in the middle of a frame. -/
structure Slave.InBody
    (s : Slave)
    (part : List UInt8) : Prop where
  zeroFirst : ZeroFirst s.size
  length : s.length = harborFraming.bodyLength s.size
  read : s.read = part.length
  inside : part = [] ∨ s.read < s.length
  recv_buffer : 0 ∉ part → s.recv_buffer = part

/-- The frames that a slave is to complete with the bytes to come. -/
def Slave.Expects
    (s : Slave)
    (id : Nat)
    (stream : List UInt8) : Prop :=
  match s.status with
  | .handshake =>
      s.fd ≠ 0 ∧ s.queue = none ∧
        ∀ first rest, stream = first :: rest → first.toNat = id →
          CarriesCookies (s.begunHeader ++ rest)
  | .header => CarriesCookies (s.begunHeader ++ stream)
  | .content =>
      ∃ part, s.InBody part ∧ CarriesCookies (s.size ++ (part ++ stream))
  | .wait => True
  | .down => True

/-- The rest of the data behind a case. -/
def PushFlow.rest : PushFlow → List UInt8
  | .returned => []
  | .next buffer _ => buffer

section Cases

variable
    {h : Harbor}
    {id : Nat}
    {buffer later : List UInt8}
    {size : Int}
    {unknown other : HarborUnknown}

/-- A body that the buffer does not complete is still one. -/
theorem Slave.InBody.received
    {s : Slave}
    {part : List UInt8}
    (inBody : s.InBody part)
    (short : (buffer.length : Int) < s.length - s.read) :
    { s with
      recv_buffer := s.recv_buffer ++ cString buffer
      read := s.read + buffer.length }.InBody (part ++ buffer) := by
  refine ⟨inBody.zeroFirst, inBody.length, ?_, ?_, ?_⟩
  · dsimp only
    rw [inBody.read, List.length_append]
    omega
  · dsimp only
    omega
  · intro noZero
    obtain ⟨notInPart, notInBuffer⟩ : 0 ∉ part ∧ 0 ∉ buffer := by
      simpa using noZero
    dsimp only
    rw [inBody.recv_buffer notInPart, cString_of_not_mem notInBuffer]

/-- A body that the buffer completes is found in the string that is kept of it. -/
theorem Slave.InBody.completed
    {s : Slave}
    {part : List UInt8}
    (inBody : s.InBody part)
    (framed : s.Framed)
    (isContent : s.status = .content)
    (nonempty : buffer ≠ [])
    (whole : s.length - s.read ≤ buffer.length)
    (carries : CarriesCookies (s.size ++ (part ++ (buffer ++ later)))) :
    ∃ frame : HarborFrame,
      s.length = frame.body.length ∧
        CarriesCookie frame ∧
        s.recv_buffer ++ cString buffer =
          cString (frame.body ++ buffer.drop (s.length - s.read).toNat) ∧
        CarriesCookies (buffer.drop (s.length - s.read).toNat ++ later) := by
  have isLength := inBody.length
  have isRead := inBody.read
  have positive := List.length_pos_iff.mpr nonempty
  let need := (s.length - s.read).toNat
  have needLe : need ≤ buffer.length := by omega
  have hasNeed : part = [] ∨ 0 < need := by
    rcases inBody.inside with noPart | inside
    · exact Or.inl noPart
    · omega
  let frame : HarborFrame :=
    { header := s.size
      body := part ++ buffer.take need
      header_length := framed.size
      body_length := by
        rw [List.length_append, List.length_take]
        have content := framed.content isContent
        rcases inBody.inside with noPart | inside
        · subst noPart
          simp only [List.length_nil] at isRead ⊢
          omega
        · omega }
  have isStream :
      s.size ++ (part ++ (buffer ++ later)) =
        frame.bytes ++ (buffer.drop need ++ later) := by
    have joined := List.take_append_drop need buffer
    rw [WireFrame.bytes, List.append_assoc, List.append_assoc,
      ← List.append_assoc (buffer.take need), joined]
  have arrived : frame.body ≠ [] ∨ buffer.drop need ++ later ≠ [] := by
    by_cases noNeed : need = 0
    · refine Or.inr ?_
      rw [noNeed, List.drop_zero]
      simp [nonempty]
    · refine Or.inl (List.append_ne_nil_of_right_ne_nil _ ?_)
      refine List.ne_nil_of_length_pos ?_
      rw [List.length_take]
      omega
  rw [isStream] at carries
  obtain ⟨carriesFirst, carriesBehind⟩ :=
    carries.behind inBody.zeroFirst arrived
  have notInPart : 0 ∉ part := by
    intro member
    rcases hasNeed with noPart | some
    · rw [noPart] at member
      simp at member
    · apply carriesFirst.zeroLastOnly
      rw [List.dropLast_append_of_ne_nil
        (List.ne_nil_of_length_pos (by rw [List.length_take]; omega))]
      exact List.mem_append_left _ member
  refine ⟨frame, ?_, carriesFirst, ?_, carriesBehind⟩
  · rw [isLength, ← frame.body_length]
  · rw [inBody.recv_buffer notInPart, ← cString_append_of_not_mem notInPart,
      List.append_assoc, List.take_append_drop]

/-- Content is received in the same way in another memory. -/
theorem contentCase_expects
    (framed : (h.s id).Framed)
    (isContent : (h.s id).status = .content)
    (expects : (h.s id).Expects id (buffer ++ later))
    (nonempty : buffer ≠ [])
    (measured : (buffer.length : Int) = size)
    (same : unknown.SameButMemory other)
    (round : Nat) :
    contentCase h id other round buffer size =
        contentCase h id unknown round buffer size ∧
      ((contentCase h id unknown round buffer size).1.s id).Expects id
        ((contentCase h id unknown round buffer size).2.2.rest ++ later) := by
  unfold Slave.Expects at expects
  rw [isContent] at expects
  obtain ⟨part, inBody, carries⟩ := expects
  subst measured
  by_cases short : (buffer.length : Int) < (h.s id).length - (h.s id).read
  · have isShort (unknown : HarborUnknown) :
        contentCase h id unknown round buffer buffer.length =
          (h.set id
              { h.s id with
                recv_buffer := (h.s id).recv_buffer ++ cString buffer
                read := (h.s id).read + buffer.length },
            [], .returned) := by
      unfold contentCase
      dsimp only
      rw [if_pos short, Harbor.modify_eq_set]
    rw [isShort, isShort]
    refine ⟨rfl, ?_⟩
    unfold Slave.Expects
    rw [Harbor.set_s, isContent]
    refine ⟨part ++ buffer, inBody.received short, ?_⟩
    rw [PushFlow.rest, List.nil_append, List.append_assoc]
    exact carries
  · -- The body is whole, and what it was kept as is its own string.
    obtain ⟨frame, isBodyLength, carriesFirst, isContentOf, carriesBehind⟩ :=
      inBody.completed framed isContent nonempty (Int.not_lt.mp short) carries
    have isWhole (unknown : HarborUnknown) :
        contentCase h id unknown round buffer buffer.length =
          (h.set id
              { h.s id with
                length := 0, read := 0, recv_buffer := [], status := .header },
            .forwardLocal frame.body ::
              forwardLocalMessage h
                (cString
                  (frame.body ++
                    buffer.drop ((h.s id).length - (h.s id).read).toNat))
                (unknown.memory round) (unknown.answer round)
                frame.body.length,
            if buffer.length - ((h.s id).length - (h.s id).read) = 0 then
              .returned
            else
              .next (buffer.drop ((h.s id).length - (h.s id).read).toNat)
                (buffer.length - ((h.s id).length - (h.s id).read))) := by
      unfold contentCase
      dsimp only
      rw [if_neg short, isContentOf, isBodyLength, Int.toNat_natCast,
        stringBytes_cString carriesFirst.zeroLastOnly, Harbor.modify_eq_set]
      rw [← isBodyLength]
      split <;> rfl
    rw [isWhole, isWhole, same.answer,
      carriesFirst.forwardLocalMessage_eq h _ (unknown.memory round)]
    refine ⟨rfl, ?_⟩
    unfold Slave.Expects
    rw [Harbor.set_s]
    dsimp only
    have isLeft :
        (if (buffer.length : Int) - ((h.s id).length - (h.s id).read) = 0 then
          PushFlow.returned
        else
          .next (buffer.drop ((h.s id).length - (h.s id).read).toNat)
            (buffer.length - ((h.s id).length - (h.s id).read))).rest =
          buffer.drop ((h.s id).length - (h.s id).read).toNat := by
      split
      · rw [List.drop_eq_nil_of_le (by omega)]
        rfl
      · rfl
    rw [isLeft]
    exact carriesBehind

/-- A whole header that is not refused starts a body. -/
theorem headerCase_started
    {round : Nat}
    (enough : ¬ size < 4 - (h.s id).read)
    (zeroFirst : ZeroFirst ((h.s id).received buffer (4 - (h.s id).read))) :
    headerCase h id unknown round buffer size =
      let head := (h.s id).received buffer (4 - (h.s id).read)
      let started :=
        h.set id
          { h.s id with
            size := head
            length := (harborFraming.bodyLength head : Int)
            read := 0
            status := .content }
      if size - (4 - (h.s id).read) = 0 then (started, [], .returned)
      else
        contentCase started id unknown round
          (buffer.drop (4 - (h.s id).read).toNat)
          (size - (4 - (h.s id).read)) := by
  have isZero :
      ¬ ((h.s id).received buffer (4 - (h.s id).read)).getD 0 0 ≠ 0 :=
    not_not_intro zeroFirst
  unfold Slave.received at isZero
  unfold headerCase
  dsimp only
  rw [if_neg enough, if_neg isZero, Harbor.modify_eq_set, Harbor.modify_eq_set,
    Harbor.set_set, Harbor.set_s]
  rfl

/-- A header is received in the same way in another memory. -/
theorem headerCase_expects
    (framed : (h.s id).Framed)
    (isHeader : (h.s id).status = .header)
    (expects : (h.s id).Expects id (buffer ++ later))
    (measured : (buffer.length : Int) = size)
    (same : unknown.SameButMemory other)
    (round : Nat) :
    headerCase h id other round buffer size =
        headerCase h id unknown round buffer size ∧
      ((headerCase h id unknown round buffer size).1.s id).Expects id
        ((headerCase h id unknown round buffer size).2.2.rest ++ later) := by
  unfold Slave.Expects at expects
  rw [isHeader] at expects
  have short := (framed.outside (by simp [isHeader])).1
  have positive := framed.positive
  by_cases tooFew : size < 4 - (h.s id).read
  · rw [headerCase_begun tooFew, headerCase_begun tooFew]
    refine ⟨rfl, ?_⟩
    have spec :=
      framed.received_spec (by omega) (by omega)
        (le_of_eq measured.symm : size ≤ buffer.length)
    have isTaken : buffer.take size.toNat = buffer :=
      List.take_of_length_le (by omega)
    unfold Slave.Expects
    rw [Harbor.set_s, isHeader]
    unfold Slave.begunHeader
    dsimp only
    rw [spec.2, isTaken, PushFlow.rest, List.nil_append, List.append_assoc]
    exact expects
  · let head := (h.s id).received buffer (4 - (h.s id).read)
    have spec :=
      framed.received_spec (by omega) (by omega)
        (by omega : 4 - (h.s id).read ≤ buffer.length)
    have isHead :
        head = (h.s id).begunHeader ++ buffer.take (4 - (h.s id).read).toNat := by
      have isTaken := spec.2
      rw [List.take_of_length_le (by rw [spec.1]; omega)] at isTaken
      exact isTaken
    by_cases zeroFirst : ZeroFirst head
    · rw [headerCase_started tooFew zeroFirst, headerCase_started tooFew zeroFirst]
      have started := Slave.framed_started (h.s id) spec.1
      have begun :
          ({ h.s id with
              size := head, length := (harborFraming.bodyLength head : Int)
              read := 0, status := .content } : Slave).Expects id
            (buffer.drop (4 - (h.s id).read).toNat ++ later) := by
        refine ⟨[], ⟨zeroFirst, rfl, rfl, Or.inl rfl, ?_⟩, ?_⟩
        · intro _
          exact (framed.outside (by simp [isHeader])).2.2
        · dsimp only
          rw [isHead, List.nil_append, List.append_assoc, ← List.append_assoc
            (buffer.take _), List.take_append_drop]
          exact expects
      split
      · next finished =>
          refine ⟨rfl, ?_⟩
          rw [List.drop_eq_nil_of_le (by omega)] at begun
          rw [Harbor.set_s]
          exact begun
      · next unfinished =>
          have content :=
            contentCase_expects
              (h :=
                h.set id
                  { h.s id with
                    size := head
                    length := (harborFraming.bodyLength head : Int)
                    read := 0
                    status := .content })
              (by rw [Harbor.set_s]; exact started)
              (by rw [Harbor.set_s])
              (by rw [Harbor.set_s]; exact begun)
              (List.ne_nil_of_length_pos (by rw [List.length_drop]; omega))
              (by rw [List.length_drop]; omega :
                ((buffer.drop (4 - (h.s id).read).toNat).length : Int) =
                  size - (4 - (h.s id).read))
              same round
          exact content
    · have isRefused (unknown : HarborUnknown) :
          headerCase h id unknown round buffer size =
            ((closeHarbor
                (h.modify id fun s => { s with size := head }) id).1,
              .call (.skynetError
                  ("Message is too long from harbor " ++ toString id)) ::
                (closeHarbor
                  (h.modify id fun s => { s with size := head }) id).2,
              .returned) := by
        unfold headerCase
        dsimp only
        rw [if_neg tooFew]
        exact if_pos zeroFirst
      rw [isRefused, isRefused]
      refine ⟨rfl, ?_⟩
      unfold closeHarbor Slave.Expects
      dsimp only
      rw [Harbor.modify_s_self]
      trivial

/-- The handshake is received in the same way in another memory. -/
theorem handshakeCase_expects
    {result : PushResult}
    (framed : (h.s id).Framed)
    (isHandshake : (h.s id).status = .handshake)
    (expects : (h.s id).Expects id (buffer ++ later))
    (nonempty : buffer ≠ [])
    (measured : (buffer.length : Int) = size)
    (same : unknown.SameButMemory other)
    (round : Nat)
    (done : handshakeCase h id unknown round buffer size = .ok result) :
    handshakeCase h id other round buffer size = .ok result ∧
      (result.1.s id).Expects id (result.2.2.rest ++ later) ∧
      ∀ rest left, result.2.2 = .next rest left →
        (result.1.s id).status = .header := by
  unfold Slave.Expects at expects
  rw [isHandshake] at expects
  obtain ⟨connected, nothing, expects⟩ := expects
  obtain ⟨first, buffer, rfl⟩ := List.exists_cons_of_ne_nil nonempty
  unfold handshakeCase at done ⊢
  dsimp only at done ⊢
  split at done
  · next wrong =>
      rw [if_pos wrong]
      cases done
      refine ⟨rfl, ?_, fun _ _ impossible => by cases impossible⟩
      unfold closeHarbor Slave.Expects
      dsimp only
      rw [Harbor.modify_s_self]
      trivial
  · next right =>
      rw [if_neg right]
      have carries :=
        expects first (buffer ++ later) rfl (by simpa using right)
      have slave :
          ((h.modify id fun s => { s with status := .header }).s id) =
            { h.s id with status := .header } :=
        Harbor.modify_s_self _
      have dispatched (stack : List UInt8) :
          (h.modify id fun s => { s with status := .header }).dispatchQueue id
              stack =
            .ok (h.modify id fun s => { s with status := .header }, []) := by
        unfold Harbor.dispatchQueue
        simp only [slave, if_neg connected, nothing]
      rw [dispatched] at done ⊢
      simp only [bind, Except.bind, List.drop_succ_cons, List.drop_zero]
        at done ⊢
      have begun :
          ((h.modify id fun s => { s with status := .header }).s id).Expects id
            (buffer ++ later) := by
        rw [slave]
        exact carries
      have measuredRest : (buffer.length : Int) = size - 1 := by
        rw [List.length_cons] at measured
        omega
      have framedNext :
          ((h.modify id fun s => { s with status := .header }).s id).Framed := by
        rw [slave]
        have same :
            (h.s id).SameParser { h.s id with status := .header } :=
          ⟨Or.inr ⟨by simp [isHandshake], by simp⟩, rfl, rfl, rfl, rfl⟩
        exact same.framed framed
      split at done
      · next finished =>
          rw [if_pos finished]
          cases done
          exact ⟨rfl, begun, fun _ _ _ => by rw [slave]⟩
      · next unfinished =>
          rw [if_neg unfinished]
          obtain ⟨sameCase, stillExpects⟩ :=
            headerCase_expects framedNext (by rw [slave]) begun measuredRest
              same round
          cases done
          rw [sameCase]
          refine ⟨rfl, stillExpects, fun rest left isNext => ?_⟩
          exact
            ((headerCase_counted framedNext.toCounted (by rw [slave]) unknown
              round buffer (size - 1)).2 rest left isNext).1

end Cases

section Loop

variable
    {h h' : Harbor}
    {id : Nat}
    {fd : Int}
    {later : List UInt8}
    {unknown other : HarborUnknown}
    {actions : List HarborAction}

/-- The loop receives the same in another memory. -/
theorem pushSocketDataLoop_expects
    {round : Nat}
    {buffer : List UInt8}
    {size : Int}
    (framed : (h.s id).Framed)
    (expects : (h.s id).Expects id (buffer ++ later))
    (arrived : (h.s id).status = .header ∨ buffer ≠ [])
    (measured : (buffer.length : Int) = size)
    (same : unknown.SameButMemory other)
    (done :
      pushSocketDataLoop id unknown round h buffer size = .ok (h', actions)) :
    pushSocketDataLoop id other round h buffer size = .ok (h', actions) ∧
      (h'.s id).Expects id later := by
  induction round generalizing h actions buffer size with
  | zero =>
      cases done
  | succ round inductionHypothesis =>
      have followed (result : PushResult)
          (nextFramed : (result.1.s id).Framed)
          (nextExpects :
            (result.1.s id).Expects id (result.2.2.rest ++ later))
          (nextArrived :
            ∀ rest left, result.2.2 = .next rest left →
              (result.1.s id).status = .header)
          (nextMeasured : result.2.2.Measured)
          (isDone : follow id unknown round result = .ok (h', actions)) :
          follow id other round result = .ok (h', actions) ∧
            (h'.s id).Expects id later := by
        obtain ⟨next, sent, flow⟩ := result
        cases flow with
        | returned =>
            cases isDone
            exact ⟨rfl, nextExpects⟩
        | next rest left =>
            obtain ⟨more, isLater, isActions⟩ := after_eq_ok isDone
            obtain ⟨isLater', lastExpects⟩ :=
              inductionHypothesis nextFramed nextExpects
                (Or.inl (nextArrived rest left rfl)) nextMeasured isLater
            refine ⟨?_, lastExpects⟩
            dsimp only [PushFlow.rest] at isLater'
            simp only [follow, isLater', after, isActions]
      cases isStatus : (h.s id).status with
      | header =>
          rw [pushSocketDataLoop_header isStatus] at done ⊢
          obtain ⟨sameCase, nextExpects⟩ :=
            headerCase_expects framed isStatus expects measured same round
          have nextFramed :=
            headerCase_framed framed isStatus measured unknown round
          rw [sameCase]
          refine
            followed _ nextFramed.1 nextExpects (fun rest left isNext => ?_)
              nextFramed.2 done
          exact
            ((headerCase_counted framed.toCounted isStatus unknown round buffer
              size).2 rest left isNext).1
      | content =>
          have nonempty : buffer ≠ [] :=
            arrived.resolve_left (by simp [isStatus])
          rw [pushSocketDataLoop_content isStatus] at done ⊢
          obtain ⟨sameCase, nextExpects⟩ :=
            contentCase_expects framed isStatus expects nonempty measured same
              round
          have nextFramed :=
            contentCase_framed framed isStatus measured unknown round
          rw [sameCase]
          refine
            followed _ nextFramed.1 nextExpects (fun rest left isNext => ?_)
              nextFramed.2 done
          exact
            ((contentCase_counted framed.toCounted isStatus unknown round
              buffer size).2 rest left isNext).1
      | handshake =>
          have nonempty : buffer ≠ [] :=
            arrived.resolve_left (by simp [isStatus])
          have whole := done
          simp only [pushSocketDataLoop, isStatus] at done
          obtain ⟨result, isCase, _⟩ := bind_eq_ok_iff.mp done
          obtain ⟨sameCase, nextExpects, nextHeader⟩ :=
            handshakeCase_expects framed isStatus expects nonempty measured
              same round isCase
          obtain ⟨_, _, nextAlike, nextMeasured, _⟩ :=
            handshakeCase_alike framed.alike isStatus measured
              (by rw [← measured]; exact_mod_cast List.length_pos_iff.mpr nonempty)
              isCase
          rw [pushSocketDataLoop_handshake isStatus isCase] at whole
          rw [pushSocketDataLoop_handshake isStatus sameCase]
          exact
            followed result nextAlike.toFramed nextExpects nextHeader
              nextMeasured whole
      | wait =>
          simp only [pushSocketDataLoop, isStatus] at done ⊢
          cases done
          unfold Slave.Expects
          rw [isStatus]
          exact ⟨rfl, trivial⟩
      | down =>
          simp only [pushSocketDataLoop, isStatus] at done ⊢
          cases done
          unfold Slave.Expects
          rw [isStatus]
          exact ⟨rfl, trivial⟩

/-- `push_socket_data` receives the same in another memory. -/
theorem pushSocketData_expects
    {receipt other : HarborReceipt}
    (framed : (h.s id).Framed)
    (expects :
      findSlave h fd = some id →
        (h.s id).Expects id (receipt.bytes ++ later))
    (alone :
      ∀ other < kRemoteMax, other ≠ id → (h.s other).fd ≠ fd)
    (nonempty : receipt.bytes ≠ [])
    (same : receipt.SameBytes other)
    (done :
      pushSocketData h (receipt.message fd) receipt.unknown =
        .ok (h', actions)) :
    pushSocketData h (other.message fd) other.unknown = .ok (h', actions) ∧
      (findSlave h' fd = some id → (h'.s id).Expects id later) := by
  have sameMessage : other.message fd = receipt.message fd := by
    unfold HarborReceipt.message
    rw [same.bytes]
  rw [sameMessage]
  unfold pushSocketData at done ⊢
  rw [if_neg (by simp [HarborReceipt.message])] at done ⊢
  have found : (receipt.message fd).id = fd := rfl
  rw [found] at done ⊢
  cases isFound : findSlave h fd with
  | none =>
      rw [isFound] at done
      cases done
      refine ⟨rfl, fun impossible => ?_⟩
      rw [isFound] at impossible
      cases impossible
  | some slave =>
      have isSlave : slave = id := by
        by_contra different
        have inRange := List.mem_range.mp (List.mem_of_find?_eq_some isFound)
        have hasFd := List.find?_some isFound
        exact alone slave inRange different (of_decide_eq_true hasFd).2
      subst isSlave
      rw [isFound] at done
      obtain ⟨isDone, lastExpects⟩ :=
        pushSocketDataLoop_expects framed (expects isFound) (Or.inr nonempty)
          rfl same.unknown done
      exact ⟨isDone, fun _ => lastExpects⟩

/-- A connection receives the same in another memory. -/
theorem feed_expects
    {receipts others : List HarborReceipt}
    (framed : (h.s id).Framed)
    (expects :
      findSlave h fd = some id →
        (h.s id).Expects id (receipts.map HarborReceipt.bytes).flatten)
    (alone :
      ∀ other < kRemoteMax, other ≠ id → (h.s other).fd ≠ fd)
    (nonempty : ∀ receipt ∈ receipts, receipt.bytes ≠ [])
    (same : List.Forall₂ HarborReceipt.SameBytes receipts others)
    (done : feed fd h receipts = .ok (h', actions)) :
    feed fd h others = .ok (h', actions) := by
  induction same generalizing h actions with
  | nil =>
      exact done
  | @cons receipt other receipts others sameBytes _ inductionHypothesis =>
      have hasBytes := nonempty receipt List.mem_cons_self
      simp only [feed] at done ⊢
      split at done
      · next next sent isPushed =>
          obtain ⟨⟨_, _, nextAlike⟩, others⟩ :=
            pushSocketData_alike framed.alike alone hasBytes isPushed
          obtain ⟨isPushed', nextExpects⟩ :=
            pushSocketData_expects framed expects alone hasBytes sameBytes
              isPushed
          obtain ⟨later, isFed, isActions⟩ := after_eq_ok done
          have isFed' :=
            inductionHypothesis nextAlike.toFramed nextExpects
              (fun other inRange different => by
                rw [others other different]
                exact alone other inRange different)
              (fun receipt member =>
                nonempty receipt (List.mem_cons_of_mem _ member))
              isFed
          simp only [isPushed', isFed', after, isActions]
      · cases done

/-- A slave in front of a header holds what has arrived of it. -/
theorem Slave.Framed.holding
    {s : Slave}
    (framed : s.Framed)
    (isHeader : s.status = .header) :
    Holding s s.fd s.begunHeader := by
  obtain ⟨short, noLength, noBuffer⟩ := framed.outside (by simp [isHeader])
  have positive := framed.positive
  have sized : s.begunHeader.length = s.read.toNat := by
    rw [Slave.begunHeader, List.length_take, framed.size]
    omega
  refine ⟨rfl, framed.size, ?_⟩
  rw [if_pos (by omega), sized]
  exact ⟨isHeader, by omega, noLength, noBuffer, rfl⟩

/-- A piece with a whole body is forwarded, right behind its header. -/
theorem pushSocketDataLoop_forwards
    {frame : HarborFrame}
    {extra : List UInt8}
    (round : Nat)
    (holding : Holding (h.s id) fd frame.header)
    (done :
      pushSocketDataLoop id unknown (round + 1) h (frame.body ++ extra)
          (frame.body ++ extra).length =
        .ok (h', actions)) :
    ∃ more,
      forwardings actions =
        forwardedBody h (cString (frame.body ++ extra)) unknown round
            frame.body.length ++
          more := by
  have headerSized := frame.length_header
  have parser := holding.parser
  rw [if_neg (by omega)] at parser
  obtain ⟨isContent, isLength, isRead, _, isBuffer⟩ := parser
  have noBody : frame.header.drop 4 = [] :=
    List.drop_eq_nil_of_le (Nat.le_of_eq headerSized)
  have isBody : (h.s id).length = (frame.body.length : Int) := by
    rw [isLength, List.take_of_length_le (Nat.le_of_eq headerSized),
      frame.body_length]
  have isString :
      (h.s id).recv_buffer ++ cString (frame.body ++ extra) =
        cString (frame.body ++ extra) := by
    rw [isBuffer, noBody]
    rfl
  have whole :
      ¬ ((frame.body ++ extra).length : Int) <
        (h.s id).length - (h.s id).read := by
    rw [isBody, isRead, List.length_append, headerSized]
    omega
  obtain ⟨next, flow, isCase⟩ :
      ∃ next flow,
        contentCase h id unknown round (frame.body ++ extra)
            (frame.body ++ extra).length =
          (next,
            .forwardLocal
                (stringBytes (cString (frame.body ++ extra))
                  (unknown.memory round) 0 frame.body.length) ::
              forwardLocalMessage h (cString (frame.body ++ extra))
                (unknown.memory round) (unknown.answer round)
                frame.body.length,
            flow) := by
    unfold contentCase
    dsimp only
    rw [if_neg whole, isString, isBody, Int.toNat_natCast]
    split
    · exact ⟨_, _, rfl⟩
    · exact ⟨_, _, rfl⟩
  rw [pushSocketDataLoop_content isContent, isCase] at done
  obtain ⟨later, isAll⟩ := follow_eq_ok done
  refine ⟨forwardings later, ?_⟩
  rw [isAll, forwardings_append]
  rfl

end Loop

section Connections

variable {id : Nat}

/-- The slave of a connection that has just begun. -/
def connectedSlave
    (s : Slave)
    (fd : Int)
    (accepted : Bool) : Slave :=
  { s with fd := fd, status := if accepted then .header else .handshake }

/-- A slave of a connection that has just begun is outside of a body. -/
theorem status_connectedSlave
    (s : Slave)
    (fd : Int)
    (accepted : Bool) :
    (connectedSlave s fd accepted).status ≠ .content := by
  cases accepted <;> simp [connectedSlave]

/-- The parser of a slave that is closed is that of its next connection. -/
theorem sameParser_connectedSlave
    {s : Slave}
    (closed : s.status = .down)
    (fd : Int)
    (accepted : Bool) :
    s.SameParser (connectedSlave s fd accepted) :=
  ⟨Or.inr ⟨by simp [closed], status_connectedSlave s fd accepted⟩, rfl, rfl,
    rfl, rfl⟩

/-- The bytes of a new connection behind a handshake that is right. -/
def framedBytes
    (id : Nat)
    (accepted : Bool)
    (bytes : List UInt8) : List UInt8 :=
  if accepted then bytes
  else
    match bytes with
    | [] => []
    | first :: rest => if first.toNat = id then rest else []

/-- A slave whose frames will carry cookies expects them. -/
theorem expects_connectedSlave
    {s : Slave}
    {fd : Int}
    {accepted : Bool}
    {bytes stream : List UInt8}
    (fresh : fd ≠ 0)
    (nothing : s.queue = none)
    (isPart : stream <+: bytes)
    (carries :
      CarriesCookies (s.begunHeader ++ framedBytes id accepted bytes)) :
    (connectedSlave s fd accepted).Expects id stream := by
  obtain ⟨more, rfl⟩ := isPart
  cases accepted with
  | true =>
      have isWhole : CarriesCookies (s.begunHeader ++ (stream ++ more)) :=
        carries
      rw [← List.append_assoc] at isWhole
      exact isWhole.part
  | false =>
      refine ⟨fresh, nothing, ?_⟩
      intro first rest isStream right
      rw [isStream] at carries
      have isWhole : CarriesCookies (s.begunHeader ++ (rest ++ more)) := by
        simpa [framedBytes, right] using carries
      rw [← List.append_assoc] at isWhole
      exact isWhole.part

/-- The data that brings the handshake of a connection, where there is one. -/
def shaking
    (id : Nat)
    (accepted : Bool) : List HarborReceipt :=
  if accepted then [] else receiptsOf [[UInt8.ofNat id]]

/-- The bytes that reach the frames come behind the handshake. -/
theorem bytes_eq_of_framedBytes
    (id : Nat)
    (accepted : Bool)
    {bytes : List UInt8}
    (some : framedBytes id accepted bytes ≠ []) :
    bytes =
      ((shaking id accepted).map HarborReceipt.bytes).flatten ++
        framedBytes id accepted bytes := by
  unfold framedBytes at some ⊢
  unfold shaking
  cases accepted with
  | true => rfl
  | false =>
      rw [if_neg Bool.false_ne_true] at some ⊢
      split at some
      · exact absurd rfl some
      · next first rest =>
          split at some
          · next right =>
              subst right
              simp
          · exact absurd rfl some

/-- The slave that has just been connected is found by its descriptor. -/
theorem findSlave_connected
    {h : Harbor}
    {s : Slave}
    {fd : Int}
    (isSlave : 0 < id ∧ id < kRemoteMax)
    (alone : ∀ other < kRemoteMax, (h.s other).fd ≠ fd)
    (hasFd : s.fd = fd) :
    findSlave (h.set id s) fd = some id := by
  cases isFound : findSlave (h.set id s) fd with
  | none =>
      have nobody := List.find?_eq_none.mp isFound id
        (List.mem_range.mpr isSlave.2)
      exact (nobody (by simp [hasFd]; omega)).elim
  | some other =>
      have inRange := List.mem_range.mp (List.mem_of_find?_eq_some isFound)
      have isFd := fd_of_findSlave isFound
      by_cases same : other = id
      · rw [same]
      · rw [Harbor.set_s_of_ne h id same] at isFd
        exact (alone other inRange isFd).elim

/-- Behind the handshake the slave holds the part of a header it had. -/
theorem feed_shaking
    {h : Harbor}
    {s : Slave}
    {fd : Int}
    (accepted : Bool)
    (isSlave : 0 < id ∧ id < kRemoteMax)
    (fresh : fd ≠ 0)
    (alone : ∀ other < kRemoteMax, (h.s other).fd ≠ fd)
    (framed : s.Framed)
    (closed : s.status = .down)
    (nothing : s.queue = none) :
    ∃ t actions,
      feed fd (h.set id (connectedSlave s fd accepted))
          (shaking id accepted) =
          .ok (h.set id t, actions) ∧
        Holding t fd s.begunHeader := by
  have held :
      Holding { s with fd := fd, status := .header } fd s.begunHeader :=
    ((sameParser_connectedSlave closed fd true).framed framed).holding rfl
  cases accepted with
  | true => exact ⟨_, _, rfl, held⟩
  | false =>
      have found :=
        findSlave_connected (h := h) (s := connectedSlave s fd false) isSlave
          alone rfl
      have isHandshake :
          ((h.set id (connectedSlave s fd false)).s id).status =
            .handshake := by
        rw [Harbor.set_s]
        rfl
      have right :
          ¬ ((([UInt8.ofNat id] : List UInt8).headD 0).toNat : Int) ≠ id := by
        have isByte : id < 256 := isSlave.2
        simp [Nat.mod_eq_of_lt isByte]
      have isCase (round : Nat) :
          handshakeCase (h.set id (connectedSlave s fd false)) id .zero round
              [UInt8.ofNat id] 1 =
            .ok
              (h.set id { s with fd := fd, status := .header }, [],
                .next [] 0) := by
        unfold handshakeCase
        dsimp only
        rw [if_neg right]
        unfold Harbor.dispatchQueue
        simp only [Harbor.modify_eq_set, Harbor.set_s, Harbor.set_set,
          connectedSlave, if_neg fresh, nothing, bind, Except.bind]
        rfl
      have heldSet :
          Holding
            ((h.set id { s with fd := fd, status := .header }).s id) fd
            s.begunHeader := by
        rw [Harbor.set_s]
        exact held
      have short : s.begunHeader.length < 4 := by
        have counts := framed.outside (by simp [closed])
        have positive := framed.positive
        rw [Slave.begunHeader, List.length_take]
        omega
      have stillShort : (s.begunHeader ++ []).length < 4 := by
        simpa using short
      obtain ⟨t, isKept, stillHeld⟩ :=
        headerCase_short heldSet stillShort .zero 1
      refine ⟨t, [], ?_, by simpa using stillHeld⟩
      have isHeader := heldSet.status_header short
      have isShaking :
          shaking id false = [{ bytes := [UInt8.ofNat id], unknown := .zero }] :=
        rfl
      rw [isShaking, feed_cons found]
      show thenFeed fd
        (pushSocketDataLoop id .zero 3 (h.set id (connectedSlave s fd false))
          [UInt8.ofNat id] 1) [] = _
      rw [pushSocketDataLoop_handshake isHandshake (isCase 2), follow,
        pushSocketDataLoop_header isHeader]
      rw [List.length_nil] at isKept
      rw [show ((0 : Nat) : Int) = 0 from rfl] at isKept
      rw [isKept, Harbor.set_set]
      rfl

/-- The good frames of a connection, and the header that is next. -/
theorem feed_opening
    {h : Harbor}
    {s : Slave}
    {fd : Int}
    (accepted : Bool)
    {done : List HarborFrame}
    {frame : HarborFrame}
    {opening : List UInt8}
    (isSlave : 0 < id ∧ id < kRemoteMax)
    (fresh : fd ≠ 0)
    (alone : ∀ other < kRemoteMax, (h.s other).fd ≠ fd)
    (framed : s.Framed)
    (closed : s.status = .down)
    (nothing : s.queue = none)
    (good : GoodFrames done)
    (zeroFirst : ZeroFirst frame.header)
    (nonempty : opening ≠ [])
    (isStream :
      s.begunHeader ++ opening =
        done.flatMap WireFrame.bytes ++ frame.header) :
    ∃ t actions,
      feed fd (h.set id (connectedSlave s fd accepted))
          (shaking id accepted ++ receiptsOf [opening]) =
          .ok (h.set id t, actions) ∧
        Holding t fd frame.header := by
  obtain ⟨t, actions, isFed, held⟩ :=
    feed_shaking accepted isSlave fresh alone framed closed nothing
  have headerSized := frame.length_header
  have heldSet : Holding ((h.set id t).s id) fd s.begunHeader := by
    rw [Harbor.set_s]
    exact held
  have found : findSlave (h.set id t) fd = some id :=
    findSlave_connected isSlave alone held.fd
  have short : s.begunHeader.length ≤ 4 :=
    (List.length_take_le _ _).trans (by
      have counts := framed.outside (by simp [closed])
      have positive := framed.positive
      omega)
  have deferred :
      Deferred
        (s.begunHeader ++
          ((receiptsOf [opening]).map HarborReceipt.bytes).flatten) done
        frame.header := by
    refine ⟨by simpa using isStream, Or.inl (Nat.le_of_eq headerSized), ?_⟩
    intro noHeader
    rw [noHeader] at headerSized
    cases headerSized
  have keepsWell : KeepsWell frame.header := by
    refine ⟨fun _ => ?_, ?_⟩
    · rw [List.take_of_length_le (Nat.le_of_eq headerSized)]
      exact zeroFirst
    · rw [List.drop_eq_nil_of_le (Nat.le_of_eq headerSized)]
      exact zerosTrail_nil
  obtain ⟨t', more, isOpened, _, held'⟩ :=
    feed_spec heldSet found
      (by
        intro receipt member
        cases List.mem_singleton.mp member
        exact nonempty)
      (Or.inl short) deferred good.passes keepsWell
  refine ⟨t', actions ++ more, ?_, held'⟩
  rw [feed_append isFed, isOpened, Harbor.set_set]
  rfl

/-- A body that comes in one piece is what is forwarded first of the piece. -/
theorem feed_forwards
    {h h' : Harbor}
    {fd : Int}
    {frame : HarborFrame}
    {extra : List UInt8}
    {unknown : HarborUnknown}
    {actions : List HarborAction}
    (found : findSlave h fd = some id)
    (holding : Holding (h.s id) fd frame.header)
    (done :
      feed fd h [{ bytes := frame.body ++ extra, unknown := unknown }] =
        .ok (h', actions)) :
    ∃ round more,
      forwardings actions =
        forwardedBody h (cString (frame.body ++ extra)) unknown round
            frame.body.length ++
          more := by
  rw [feed_cons found] at done
  obtain ⟨next, first, later, isDone, isActions⟩ := thenFeed_eq_ok done
  obtain ⟨more, areForwarded⟩ :=
    pushSocketDataLoop_forwards ((frame.body ++ extra).length + 1) holding
      isDone
  refine ⟨(frame.body ++ extra).length + 1, more ++ forwardings later, ?_⟩
  rw [isActions, forwardings_append, areForwarded, List.append_assoc]

end Connections

end SkynetCpp
