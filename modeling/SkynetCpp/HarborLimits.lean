import SkynetCpp.HarborRoundTrip

namespace SkynetCpp

open Foundation

/-!
# How long a frame between harbors may be

`send_remote` refuses messages whose length does not fit in 32 bits, and
`push_socket_data` refuses headers whose first byte is not zero.
-/

variable
    {h h' : Harbor}
    {id : Nat}

section Headers

/-- The header that `send_remote` puts in front of a message. -/
def remoteHeader (sz : Nat) : List UInt8 :=
  toBigendian (UInt32.ofNat (sz + 12))

/-- `send_remote` hands a frame to the socket layer. -/
def SendsRemote
    (fd : Int)
    (buffer : List UInt8)
    (sz : Nat)
    (cookie : RemoteMessageHeader)
    (stack : List UInt8) : Prop :=
  ∃ sent,
    .call (.socketSendBuffer sent) ∈ sendRemote fd buffer sz cookie stack

/--
However the header arrives, it is not reported as too long, and the connection
stays.
-/
def AcceptsHeader
    (h : Harbor)
    (id : Nat)
    (head : List UInt8) : Prop :=
  ∀ receipts, IsCut receipts head →
    ∃ s,
      feed (h.s id).fd h receipts = .ok (h.set id s, []) ∧
        s.fd = (h.s id).fd

/-- A message is sent unless its length needs more than 32 bits. -/
theorem sendsRemote_iff
    (fd : Int)
    (buffer : List UInt8)
    (sz : Nat)
    (cookie : RemoteMessageHeader)
    (stack : List UInt8) :
    SendsRemote fd buffer sz cookie stack ↔ sz + 12 < 2 ^ 32 := by
  unfold SendsRemote sendRemote
  dsimp only
  split
  · next tooLarge =>
      simp only [List.mem_singleton, HarborAction.call.injEq, reduceCtorEq,
        exists_false, false_iff]
      omega
  · next fits =>
      simp only [List.mem_singleton, HarborAction.call.injEq,
        ServiceCall.socketSendBuffer.injEq, exists_eq, true_iff]
      omega

/-- What `send_remote` sends starts with the header, up to a zero byte. -/
theorem sendRemote_eq
    {sz : Nat}
    (fits : sz + 12 < 2 ^ 32)
    (fd : Int)
    (buffer : List UInt8)
    (cookie : RemoteMessageHeader)
    (stack : List UInt8) :
    sendRemote fd buffer sz cookie stack =
      [.call (.socketSendBuffer
        { id := fd
          type := .rawPointer
          buffer :=
            cString
              (remoteHeader sz ++ buffer.take sz ++ headerToMessage cookie ++
                stack)
          sz := UInt64.ofNat (sz + 12 + 4) })] := by
  unfold sendRemote
  dsimp only
  rw [if_neg (by omega)]
  rfl

theorem length_remoteHeader
    (sz : Nat) :
    (remoteHeader sz).length = 4 :=
  rfl

/-- The first byte of the header is zero when the length needs three bytes. -/
theorem zeroFirst_remoteHeader
    {sz : Nat}
    (fits : sz + 12 < 2 ^ 32) :
    ZeroFirst (remoteHeader sz) ↔ sz + 12 < 2 ^ 24 := by
  have isSmall : (UInt32.ofNat (sz + 12)).toNat = sz + 12 := by
    rw [UInt32.toNat_ofNat']
    exact Nat.mod_eq_of_lt fits
  have isByte :
      ((UInt32.ofNat (sz + 12) >>> 24).toUInt8).toNat = (sz + 12) / 2 ^ 24 := by
    rw [UInt32.toNat_toUInt8, UInt32.toNat_shiftRight, isSmall,
      Nat.shiftRight_eq_div_pow]
    exact Nat.mod_eq_of_lt (by simp; omega)
  have isFirst :
      ZeroFirst (remoteHeader sz) ↔
        (UInt32.ofNat (sz + 12) >>> 24).toUInt8 = 0 :=
    Iff.rfl
  rw [isFirst, ← UInt8.toNat_inj, isByte]
  simp only [UInt8.toNat_zero, Nat.div_eq_zero_iff]
  omega

/-- The bytes of an unfinished frame are kept, and nothing else happens. -/
theorem feed_rest
    {fd : Int}
    {rest : List UInt8}
    {receipts : List HarborReceipt}
    (holding : Holding (h.s id) fd rest)
    (found : findSlave h fd = some id)
    (nonempty : ∀ receipt ∈ receipts, receipt.bytes ≠ [])
    (unfinished :
      Unfinished (rest ++ (receipts.map HarborReceipt.bytes).flatten))
    (keepsWell :
      KeepsWell (rest ++ (receipts.map HarborReceipt.bytes).flatten)) :
    ∃ s,
      feed fd h receipts = .ok (h.set id s, []) ∧
        Holding s fd (rest ++ (receipts.map HarborReceipt.bytes).flatten) := by
  induction receipts generalizing h rest with
  | nil =>
      exact ⟨h.s id, by simp [feed], by simpa using holding⟩
  | cons receipt receipts inductionHypothesis =>
      have isStream :
          rest ++ ((receipt :: receipts).map HarborReceipt.bytes).flatten =
            (rest ++ receipt.bytes) ++
              (receipts.map HarborReceipt.bytes).flatten := by
        simp
      rw [isStream] at unfinished keepsWell ⊢
      obtain ⟨s, isDone, held⟩ :=
        pushSocketDataLoop_rest holding (nonempty receipt (by simp))
          unfinished.part keepsWell.part receipt.unknown
          (receipt.bytes.length + 1)
      have sameFd : s.fd = (h.s id).fd := held.fd.trans holding.fd.symm
      have heldSet : Holding ((h.set id s).s id) fd (rest ++ receipt.bytes) := by
        simpa using held
      obtain ⟨s', isFed, held'⟩ :=
        inductionHypothesis heldSet
          (by rw [findSlave_set sameFd]; exact found)
          (fun other member => nonempty other (by simp [member]))
          unfinished keepsWell
      refine ⟨s', ?_, held'⟩
      rw [feed_cons found, isDone, thenFeed, isFed, Harbor.set_set]
      rfl

/-- A header that starts with zero is accepted. -/
theorem acceptsHeader_of_zeroFirst
    {head : List UInt8}
    (ready : Ready h id)
    (isHead : head.length = 4)
    (zeroFirst : ZeroFirst head) :
    AcceptsHeader h id head := by
  intro receipts isCut
  have isTaken : head.take 4 = head :=
    List.take_of_length_le (Nat.le_of_eq isHead)
  have noBody : head.drop 4 = [] :=
    List.drop_eq_nil_of_le (Nat.le_of_eq isHead)
  have keepsWell : KeepsWell head := by
    refine ⟨fun _ => by rw [isTaken]; exact zeroFirst, ?_⟩
    rw [noBody]
    exact zerosTrail_nil
  have isStream :
      [] ++ (receipts.map HarborReceipt.bytes).flatten = head :=
    isCut.whole
  obtain ⟨s, isFed, held⟩ :=
    feed_rest ready.holding ready.found
      (fun receipt member => (isCut.pieces receipt member).1)
      (by rw [isStream]; exact Or.inl (Nat.le_of_eq isHead))
      (by rw [isStream]; exact keepsWell)
  exact ⟨s, isFed, held.fd⟩

/-- A header that starts with another byte takes the connection down. -/
theorem not_acceptsHeader
    {head : List UInt8}
    (ready : Ready h id)
    (isHead : head.length = 4)
    (notZero : ¬ ZeroFirst head) :
    ¬ AcceptsHeader h id head := by
  intro accepts
  have isCut : IsCut (receiptsOf [head]) head := by
    refine ⟨fun receipt member => ?_, by simp⟩
    cases List.mem_singleton.mp member
    have nonempty : 0 < head.length := by omega
    have small : head.length < 2 ^ 31 := by omega
    exact ⟨List.ne_nil_of_length_pos nonempty, small⟩
  obtain ⟨s, isFed, sameFd⟩ := accepts _ isCut
  have isTaken : ([] ++ head).take 4 = head :=
    List.take_of_length_le (Nat.le_of_eq isHead)
  obtain ⟨s', actions, isCase, _, noFd, _⟩ :=
    headerCase_refused ready.holding (Nat.zero_lt_succ 3)
      (Nat.le_of_eq isHead.symm) (by rw [isTaken]; exact notZero) .zero
      (head.length + 1)
  rw [receiptsOf, List.map_singleton, feed_cons ready.found,
    pushSocketDataLoop_header ready.status, isCase] at isFed
  change Except.ok (h.set id s', actions ++ []) = _ at isFed
  simp only [Except.ok.injEq, Prod.mk.injEq] at isFed
  have isSame : s' = s := by
    have atId := congrArg (fun h : Harbor => h.s id) isFed.1
    simpa using atId
  rw [← isSame, noFd] at sameFd
  exact ready.connected sameFd.symm

/--
A message that `send_remote` sends has a header that `push_socket_data` accepts,
exactly when its length needs no more than three bytes.
-/
theorem remoteHeader_accepted_iff
    (ready : Ready h id)
    (fd : Int)
    (buffer : List UInt8)
    (sz : Nat)
    (cookie : RemoteMessageHeader)
    (stack : List UInt8) :
    (SendsRemote fd buffer sz cookie stack →
        AcceptsHeader h id (remoteHeader sz)) ↔
      (sz + 12 < 2 ^ 24 ∨ 2 ^ 32 ≤ sz + 12) := by
  rw [sendsRemote_iff]
  constructor
  · intro accepted
    by_contra between
    have fits : sz + 12 < 2 ^ 32 := by omega
    have notZero : ¬ ZeroFirst (remoteHeader sz) := by
      rw [zeroFirst_remoteHeader fits]
      omega
    exact
      not_acceptsHeader ready (length_remoteHeader sz) notZero (accepted fits)
  · intro bounds fits
    have short : sz + 12 < 2 ^ 24 := by omega
    exact
      acceptsHeader_of_zeroFirst ready (length_remoteHeader sz)
        ((zeroFirst_remoteHeader fits).mpr short)

/-- The longest message that is sent and whose header is accepted. -/
theorem longestMessage_accepted :
    SendsRemote 7 (List.replicate (2 ^ 24 - 13) 1) (2 ^ 24 - 13) ⟨1, 2, 3⟩ [] ∧
      AcceptsHeader (connectedHarbor 5) 5 (remoteHeader (2 ^ 24 - 13)) := by
  have sends :
      SendsRemote 7 (List.replicate (2 ^ 24 - 13) 1) (2 ^ 24 - 13) ⟨1, 2, 3⟩
        [] :=
    (sendsRemote_iff 7 _ _ ⟨1, 2, 3⟩ []).mpr (by decide)
  have accepted :=
    (remoteHeader_accepted_iff connectedHarbor_ready 7
      (List.replicate (2 ^ 24 - 13) 1) (2 ^ 24 - 13) ⟨1, 2, 3⟩ []).mpr
      (Or.inl (by decide))
  exact ⟨sends, accepted sends⟩

/-- The smallest message that is sent and takes the connection down. -/
theorem longMessage_refused :
    ¬ ∀ buffer : List UInt8,
      SendsRemote 7 buffer (2 ^ 24 - 12) ⟨1, 2, 3⟩ [] →
        AcceptsHeader (connectedHarbor 5) 5 (remoteHeader (2 ^ 24 - 12)) := by
  intro holds
  have sends : SendsRemote 7 [] (2 ^ 24 - 12) ⟨1, 2, 3⟩ [] :=
    (sendsRemote_iff 7 [] _ ⟨1, 2, 3⟩ []).mpr (by decide)
  have notZero : ¬ ZeroFirst (remoteHeader (2 ^ 24 - 12)) := by
    rw [zeroFirst_remoteHeader (by decide)]
    decide
  exact
    not_acceptsHeader connectedHarbor_ready (length_remoteHeader _) notZero
      (holds [] sends)

end Headers

end SkynetCpp
