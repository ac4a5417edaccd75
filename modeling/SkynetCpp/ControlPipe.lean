import Mathlib.Data.List.TakeWhile
import SkynetCpp.Foundation.Run
import SkynetCpp.SocketRequest

namespace SkynetCpp

open Foundation

/-!
# The control pipe

`SendRequest` is to write the last two bytes of the header and the beginning of
the union, but it advances a pointer to whole packages by the offset of
`header[6]`.  What is written lies six packages further on in memory.
-/

/-- `&request_package + offsetof(struct RequestPackage, header[6])`, in bytes. -/
def requestOffset : Nat := 6 * kRequestPackageSize

/--
The bytes that `SendRequest` writes; the memory is given by the distance from
the package.
-/
def sendRequest
    (request : SocketRequest UInt64)
    (memory : Nat → UInt8) : List UInt8 :=
  (List.range (request.len + 2)).map fun i => memory (requestOffset + i)

/-- `BlockReadpipe`, on what is in the pipe. -/
def blockReadpipe
    (pipe : List UInt8)
    (sz : Nat) : Except Fault (List UInt8 × List UInt8) :=
  if (pipe.take sz).length = sz then
    .ok (pipe.take sz, pipe.drop sz)
  else
    .error (.assertion "n == sz")

/--
How `CtrlCmd` reads a request; behind the received bytes its array keeps what
was on the stack.
-/
def readRequest
    (pipe stack : List UInt8) :
    Except Fault (SocketRequest UInt64 × List UInt8) := do
  let (header, pipe) ← blockReadpipe pipe 2
  let type := header.getD 0 0
  let len := (header.getD 1 0).toNat
  let (received, pipe) ← blockReadpipe pipe len
  .ok (.ofBuffer type (received ++ stack), pipe)

namespace SocketRequest

/-- The bytes at which `SendRequest` looks are those of the request. -/
structure Found
    (request : SocketRequest UInt64)
    (memory : Nat → UInt8) : Prop where
  type : memory requestOffset = request.type
  len : memory (requestOffset + 1) = UInt8.ofNat request.len
  fields :
    ∀ field ∈ request.fields, ∀ i < field.bytes.length,
      memory (requestOffset + 2 + field.offset + i) = field.bytes.getD i 0

section Fields

@[simp] theorem length_intBytes
    (value : Int32) :
    (intBytes value).length = 4 := by
  simp [intBytes]

@[simp] theorem length_wordBytes
    (value : UInt64) :
    (wordBytes value).length = 8 := by
  simp [wordBytes]

variable {buffer : List UInt8}

/-- The bytes of a member that lies in the array. -/
theorem length_fieldAt
    {offset count : Nat}
    (inside : offset + count ≤ buffer.length) :
    (fieldAt offset count buffer).length = count := by
  simp only [fieldAt, List.length_take, List.length_drop]
  omega

/-- An `int` is read from its four bytes. -/
theorem intAt_eq_iff
    (offset : Nat)
    (inside : offset + 4 ≤ buffer.length)
    (value : Int32) :
    intAt offset buffer = value ↔
      fieldAt offset 4 buffer = intBytes value := by
  have sized := length_fieldAt inside
  constructor
  · rintro rfl
    have small := ofBytes_lt (fieldAt offset 4 buffer).reverse
    rw [List.length_reverse, sized] at small
    have number :
        (intAt offset buffer).toUInt32.toNat =
          ofBytes (fieldAt offset 4 buffer).reverse :=
      Nat.mod_eq_of_lt small
    have written := toBytes_ofBytes (fieldAt offset 4 buffer).reverse
    rw [List.length_reverse, sized] at written
    rw [intBytes, number, written, List.reverse_reverse]
  · intro isBytes
    have small : value.toUInt32.toNat < 256 ^ 4 := value.toUInt32.toNat_lt
    simp only [intAt, isBytes, intBytes, List.reverse_reverse,
      ofBytes_toBytes, Nat.mod_eq_of_lt small]
    simp

/-- A word is read from its eight bytes. -/
theorem wordAt_eq_iff
    (offset : Nat)
    (inside : offset + 8 ≤ buffer.length)
    (value : UInt64) :
    wordAt offset buffer = value ↔
      fieldAt offset 8 buffer = wordBytes value := by
  have sized := length_fieldAt inside
  constructor
  · rintro rfl
    have small := ofBytes_lt (fieldAt offset 8 buffer).reverse
    rw [List.length_reverse, sized] at small
    have number :
        (wordAt offset buffer).toNat =
          ofBytes (fieldAt offset 8 buffer).reverse :=
      Nat.mod_eq_of_lt small
    have written := toBytes_ofBytes (fieldAt offset 8 buffer).reverse
    rw [List.length_reverse, sized] at written
    rw [wordBytes, number, written, List.reverse_reverse]
  · intro isBytes
    have small : value.toNat < 256 ^ 8 := value.toNat_lt
    simp only [wordAt, isBytes, wordBytes, List.reverse_reverse,
      ofBytes_toBytes, Nat.mod_eq_of_lt small]
    simp

/-- A send request is read from its three members. -/
theorem sendAt_eq_iff
    (inside : 24 ≤ buffer.length)
    (request : RequestSend UInt64) :
    sendAt buffer = request ↔
      ∀ field ∈ sendFields request,
        fieldAt field.offset field.bytes.length buffer = field.bytes := by
  obtain ⟨id, sz, pointer⟩ := request
  simp only [sendAt, sendFields, RequestSend.mk.injEq, List.forall_mem_cons,
    List.not_mem_nil, IsEmpty.forall_iff, implies_true, and_true,
    length_intBytes, length_wordBytes, intAt_eq_iff 0 (Nat.le_trans (by decide) inside),
    wordAt_eq_iff 8 (Nat.le_trans (by decide) inside),
    wordAt_eq_iff 16 inside]

/-- A C string is read from its bytes and the zero behind them. -/
theorem stringAt_eq_iff
    {host : List UInt8}
    (noZero : 0 ∉ host)
    (offset : Nat)
    (inside : offset + (host.length + 1) ≤ buffer.length) :
    stringAt offset buffer = host ↔
      fieldAt offset (host ++ [0]).length buffer = host ++ [0] := by
  have longer : host.length + 1 ≤ (buffer.drop offset).length := by
    rw [List.length_drop]
    omega
  have sized : (host ++ [(0 : UInt8)]).length = host.length + 1 := by
    simp
  simp only [stringAt, fieldAt, sized]
  generalize buffer.drop offset = bytes at longer
  have passes : ∀ byte ∈ host, decide (byte ≠ 0) = true := by
    intro byte member
    have different : byte ≠ 0 := by
      rintro rfl
      exact noZero member
    simpa using different
  constructor
  · intro isHost
    have isSplit :
        (bytes.takeWhile fun byte => decide (byte ≠ 0)) ++
          (bytes.dropWhile fun byte => decide (byte ≠ 0)) = bytes :=
      List.takeWhile_append_dropWhile
    rw [isHost] at isSplit
    cases isRest : bytes.dropWhile fun byte => decide (byte ≠ 0) with
    | nil =>
        rw [isRest, List.append_nil] at isSplit
        rw [← isSplit] at longer
        omega
    | cons first rest =>
        have isZero : first = 0 := by
          have stops :=
            List.head?_dropWhile_not (fun byte : UInt8 => decide (byte ≠ 0))
              bytes
          rw [isRest] at stops
          simpa using stops
        rw [isRest, isZero] at isSplit
        rw [← isSplit]
        have joined : host ++ 0 :: rest = (host ++ [0]) ++ rest := by
          simp
        rw [joined, List.take_left' sized]
  · intro isTaken
    have isSplit := List.take_append_drop (host.length + 1) bytes
    rw [isTaken] at isSplit
    rw [← isSplit, List.append_assoc, List.takeWhile_append_of_pos passes]
    simp

/-- An address is read from the bytes that it announces. -/
theorem addressAt_eq_iff
    {address : List UInt8}
    (sized : address.length = udpAddressSize (address.getD 0 0))
    (offset : Nat) :
    addressAt offset buffer = address ↔
      fieldAt offset address.length buffer = address := by
  have firstByte :
      ∀ count, 0 < count →
        (fieldAt offset count buffer).getD 0 0 = buffer.getD offset 0 := by
    intro count positive
    simp [fieldAt, List.getD_eq_getElem?_getD, positive]
  have positive : ∀ type, 0 < udpAddressSize type := by
    intro type
    unfold udpAddressSize
    split
    · decide
    · split <;> decide
  unfold addressAt
  constructor
  · intro isAddress
    have same := firstByte _ (positive (buffer.getD offset 0))
    rw [isAddress] at same
    rw [sized, same]
    exact isAddress
  · intro isAddress
    have same := firstByte address.length (by rw [sized]; exact positive _)
    rw [isAddress] at same
    rw [← same, ← sized]
    exact isAddress

/-- A cast gives a request exactly when all its members are in the array. -/
theorem ofBuffer_eq_iff
    {request : SocketRequest UInt64}
    (built : request.Built)
    (inside : request.len ≤ buffer.length) :
    ofBuffer request.type buffer = request ↔
      ∀ field ∈ request.fields,
        fieldAt field.offset field.bytes.length buffer = field.bytes := by
  have intAtIff :
      ∀ offset, offset + 4 ≤ request.len → ∀ value,
        intAt offset buffer = value ↔
          fieldAt offset 4 buffer = intBytes value :=
    fun offset fits => intAt_eq_iff offset (Nat.le_trans fits inside)
  have wordAtIff :
      ∀ offset, offset + 8 ≤ request.len → ∀ value,
        wordAt offset buffer = value ↔
          fieldAt offset 8 buffer = wordBytes value :=
    fun offset fits => wordAt_eq_iff offset (Nat.le_trans fits inside)
  cases request with
  | exit =>
      simp [ofBuffer, type, fields]
  | send request =>
      have isRequest := sendAt_eq_iff inside request
      simpa [ofBuffer, type, fields] using isRequest
  | sendLow request =>
      have isRequest := sendAt_eq_iff inside request
      simpa [ofBuffer, type, fields] using isRequest
  | sendUdp request address =>
      have isLen : (sendUdp request address).len = 24 + address.length := rfl
      have isRequest :=
        sendAt_eq_iff (show 24 ≤ buffer.length by omega) request
      have isAddress : addressAt 24 buffer = address ↔ _ :=
        addressAt_eq_iff built.2 24
      simp only [fields, List.forall_mem_append, ← isRequest]
      simp [ofBuffer, type, isAddress]
  | setUdp id address =>
      have isLen :
          (setUdp id address : SocketRequest UInt64).len =
            24 - kUdpAddressSize + address.length := rfl
      have isId :=
        intAtIff 0 (by rw [isLen, kUdpAddressSize]; omega) id
      have isAddress : addressAt 4 buffer = address ↔ _ :=
        addressAt_eq_iff built.2 4
      simp [ofBuffer, type, fields, isId, isAddress]
  | connect id port opaqueValue host =>
      have isLen :
          (connect id port opaqueValue host : SocketRequest UInt64).len =
            24 + host.length := rfl
      have isHost :=
        stringAt_eq_iff built.1 16
          (show 16 + (host.length + 1) ≤ buffer.length by omega)
      simp (disch := (simp only [len]; omega))
        [ofBuffer, type, fields, intAtIff, wordAtIff, isHost]
  | unknown letter =>
      exact built.elim
  | resume | pause | bind | listen | close | triggerWrite | setOpt | udp =>
      simp (disch := (simp only [len]; omega))
        [ofBuffer, type, fields, intAtIff, wordAtIff]

/-- One case of the cast keeps the letter when the rest does. -/
theorem type_ite
    {letter case : UInt8}
    {request rest : SocketRequest UInt64}
    (ofCase : request.type = case)
    (ofRest : rest.type = letter) :
    (if letter = case then request else rest).type = letter := by
  split
  · rename_i isCase
    rw [ofCase, isCase]
  · exact ofRest

/-- A cast keeps the letter. -/
theorem type_ofBuffer
    (letter : UInt8)
    (buffer : List UInt8) :
    (ofBuffer letter buffer).type = letter := by
  unfold ofBuffer
  iterate 14 refine type_ite rfl ?_
  rfl

/-- The members of a request lie in the bytes that are written. -/
theorem fields_inside
    {request : SocketRequest UInt64}
    {field : Field}
    (member : field ∈ request.fields) :
    field.offset + field.bytes.length ≤ request.len := by
  cases request with
  | exit | unknown =>
      simp [fields] at member
  | send | sendLow =>
      simp only [fields, sendFields, List.mem_cons, List.not_mem_nil,
        or_false] at member
      rcases member with rfl | rfl | rfl <;> simp [len]
  | sendUdp request address =>
      simp only [fields, sendFields, List.mem_cons, List.cons_append,
        List.nil_append, List.not_mem_nil, or_false] at member
      rcases member with rfl | rfl | rfl | rfl <;> simp [len] <;> omega
  | setUdp id address =>
      simp only [fields, List.mem_cons, List.not_mem_nil, or_false] at member
      rcases member with rfl | rfl
      · simp only [len, kUdpAddressSize, length_intBytes]
        omega
      · simp only [len, kUdpAddressSize]
        omega
  | connect id port opaqueValue host =>
      simp only [fields, List.mem_cons, List.not_mem_nil, or_false] at member
      rcases member with rfl | rfl | rfl | rfl <;> simp [len] <;> omega
  | resume | pause | triggerWrite =>
      simp only [fields, List.mem_cons, List.not_mem_nil, or_false] at member
      rcases member with rfl | rfl <;> simp [len]
  | bind | listen | close | setOpt | udp =>
      simp only [fields, List.mem_cons, List.not_mem_nil, or_false] at member
      rcases member with rfl | rfl | rfl | rfl <;> simp [len]

/-- The length of a built request fits the one byte of the header. -/
theorem Built.len_lt
    {request : SocketRequest UInt64}
    (built : request.Built) :
    request.len < 256 := by
  have announced : ∀ type, udpAddressSize type ≤ 19 := by
    intro type
    unfold udpAddressSize
    split
    · decide
    · split <;> decide
  cases request with
  | connect id port opaqueValue host =>
      have short := built.2
      simp only [len]
      omega
  | sendUdp request address =>
      have short := announced (address.getD 0 0)
      have sized := built.2
      simp only [len]
      omega
  | setUdp id address =>
      have short := announced (address.getD 0 0)
      have sized := built.2
      simp only [len, kUdpAddressSize]
      omega
  | unknown letter =>
      exact built.elim
  | _ =>
      simp [len]

/-- A member is found when the bytes of its place are its own. -/
theorem fieldAt_eq_iff
    {field : Field}
    (inside : field.offset + field.bytes.length ≤ buffer.length) :
    fieldAt field.offset field.bytes.length buffer = field.bytes ↔
      ∀ i < field.bytes.length,
        buffer.getD (field.offset + i) 0 = field.bytes.getD i 0 := by
  have sized := length_fieldAt inside
  have byteAt :
      ∀ i < field.bytes.length,
        (fieldAt field.offset field.bytes.length buffer)[i]? =
          some (buffer.getD (field.offset + i) 0) := by
    intro i small
    have inBuffer : field.offset + i < buffer.length := by omega
    simp [fieldAt, small, List.getElem?_eq_getElem inBuffer]
  constructor
  · intro isField i small
    have found := byteAt i small
    rw [isField, List.getElem?_eq_getElem small] at found
    rw [List.getD_eq_getElem _ _ small]
    exact (Option.some.inj found).symm
  · intro found
    apply List.ext_getElem?
    intro i
    rcases lt_or_ge i field.bytes.length with small | large
    · rw [byteAt i small, found i small, List.getD_eq_getElem _ _ small,
        List.getElem?_eq_getElem small]
    · rw [List.getElem?_eq_none large,
        List.getElem?_eq_none (by rw [sized]; exact large)]

end Fields

section Package

variable {request : SocketRequest UInt64}

@[simp] theorem length_sendRequest
    (request : SocketRequest UInt64)
    (memory : Nat → UInt8) :
    (sendRequest request memory).length = request.len + 2 := by
  simp [sendRequest]

/-- The bytes of a package, by their place. -/
theorem getD_sendRequest
    (memory : Nat → UInt8)
    {i : Nat}
    (small : i < request.len + 2) :
    (sendRequest request memory).getD i 0 = memory (requestOffset + i) := by
  simp [sendRequest, List.getD_eq_getElem?_getD, small]

/-- What `SendRequest` looks at is the request when its bytes are. -/
theorem found_iff
    (memory : Nat → UInt8) :
    request.Found memory ↔
      (sendRequest request memory).getD 0 0 = request.type ∧
        (sendRequest request memory).getD 1 0 = UInt8.ofNat request.len ∧
        ∀ field ∈ request.fields,
          fieldAt field.offset field.bytes.length
            ((sendRequest request memory).drop 2) = field.bytes := by
  have letterAt := getD_sendRequest memory (Nat.zero_lt_succ (request.len + 1))
  have lenAt :=
    getD_sendRequest memory
      (Nat.succ_lt_succ (Nat.zero_lt_succ request.len))
  have fieldIff :
      ∀ field ∈ request.fields,
        fieldAt field.offset field.bytes.length
            ((sendRequest request memory).drop 2) = field.bytes ↔
          ∀ i < field.bytes.length,
            memory (requestOffset + 2 + field.offset + i) =
              field.bytes.getD i 0 := by
    intro field member
    have inside := fields_inside member
    rw [fieldAt_eq_iff (by simpa using inside)]
    refine forall₂_congr fun i small => ?_
    have byteAt :=
      getD_sendRequest memory
        (show 2 + (field.offset + i) < request.len + 2 by omega)
    rw [List.getD_eq_getElem?_getD, List.getElem?_drop,
      ← List.getD_eq_getElem?_getD, byteAt]
    simp only [Nat.add_assoc]
  rw [letterAt, lenAt]
  constructor
  · intro found
    exact ⟨found.type, found.len,
      fun field member => (fieldIff field member).mpr (found.fields field member)⟩
  · rintro ⟨type, len, fields⟩
    exact ⟨type, len,
      fun field member => (fieldIff field member).mp (fields field member)⟩

/-- A read request does not depend on what is written behind it. -/
theorem readRequest_append
    {pipe stack rest : List UInt8}
    (behind : List UInt8)
    (isRead : readRequest pipe stack = .ok (request, rest)) :
    readRequest (pipe ++ behind) stack = .ok (request, rest ++ behind) := by
  have grows :
      ∀ {pipe taken rest : List UInt8} {sz : Nat},
        blockReadpipe pipe sz = .ok (taken, rest) →
          blockReadpipe (pipe ++ behind) sz = .ok (taken, rest ++ behind) := by
    intro pipe taken rest sz isRead
    unfold blockReadpipe at isRead
    split at isRead
    · rename_i sized
      have enough : sz ≤ pipe.length := by
        rw [List.length_take] at sized
        omega
      simp only [Except.ok.injEq, Prod.mk.injEq] at isRead
      obtain ⟨rfl, rfl⟩ := isRead
      rw [blockReadpipe, List.take_append_of_le_length enough,
        List.drop_append_of_le_length enough, if_pos sized]
    · cases isRead
  unfold readRequest at isRead ⊢
  cases isHeader : blockReadpipe pipe 2 with
  | error fault =>
      simp [isHeader, Bind.bind, Except.bind] at isRead
  | ok headed =>
      obtain ⟨header, afterHeader⟩ := headed
      simp only [isHeader, grows isHeader, Bind.bind, Except.bind] at isRead ⊢
      cases isBody : blockReadpipe afterHeader (header.getD 1 0).toNat with
      | error fault =>
          simp only [isBody, reduceCtorEq] at isRead
      | ok received =>
          obtain ⟨body, afterBody⟩ := received
          simp only [isBody, grows isBody, Except.ok.injEq,
            Prod.mk.injEq] at isRead ⊢
          exact ⟨isRead.1, by rw [isRead.2]⟩

/--
A package is read back as its request, whatever is on the stack, exactly when
`SendRequest` finds the request.
-/
theorem readRequest_sendRequest_iff
    (built : request.Built)
    (memory : Nat → UInt8) :
    (∀ stack, readRequest (sendRequest request memory) stack =
        .ok (request, [])) ↔
      request.Found memory := by
  have short := built.len_lt
  have sized := length_sendRequest request memory
  rw [found_iff]
  generalize sendRequest request memory = package at sized
  have isHeader :
      blockReadpipe package 2 = .ok (package.take 2, package.drop 2) := by
    rw [blockReadpipe, if_pos]
    rw [List.length_take]
    omega
  have bodySized : (package.drop 2).length = request.len := by
    rw [List.length_drop]
    omega
  have letterAt : (package.take 2).getD 0 0 = package.getD 0 0 := by
    simp [List.getD_eq_getElem?_getD]
  have lenAt : (package.take 2).getD 1 0 = package.getD 1 0 := by
    simp [List.getD_eq_getElem?_getD]
  simp only [readRequest, isHeader, Bind.bind, Except.bind, letterAt, lenAt]
  constructor
  · intro readBack
    have isRead := readBack []
    by_cases enough :
        ((package.drop 2).take (package.getD 1 0).toNat).length =
          (package.getD 1 0).toNat
    · simp only [blockReadpipe, if_pos enough, Except.ok.injEq,
        Prod.mk.injEq, List.append_nil] at isRead
      obtain ⟨isRequest, isRest⟩ := isRead
      have isLen : (package.getD 1 0).toNat = request.len := by
        have noRest := List.drop_eq_nil_iff.mp isRest
        rw [List.length_take] at enough
        omega
      have isLetter : package.getD 0 0 = request.type := by
        rw [← type_ofBuffer (package.getD 0 0), isRequest]
      rw [List.take_of_length_le (by omega), isLetter] at isRequest
      refine ⟨isLetter, ?_, ?_⟩
      · apply UInt8.toNat_inj.mp
        rw [isLen]
        simp [Nat.mod_eq_of_lt short]
      · exact (ofBuffer_eq_iff built bodySized.ge).mp isRequest
    · simp only [blockReadpipe, if_neg enough, reduceCtorEq] at isRead
  · rintro ⟨isLetter, isLen, found⟩ stack
    have lenNumber : (package.getD 1 0).toNat = request.len := by
      rw [isLen]
      simp [Nat.mod_eq_of_lt short]
    have isBody :
        blockReadpipe (package.drop 2) request.len =
          .ok (package.drop 2, []) := by
      rw [blockReadpipe, List.take_of_length_le bodySized.le,
        if_pos bodySized, List.drop_of_length_le bodySized.le]
    have isRequest :
        ofBuffer request.type (package.drop 2 ++ stack) = request := by
      rw [ofBuffer_eq_iff built (by rw [List.length_append]; omega)]
      intro field member
      have inside := fields_inside member
      rw [← bodySized] at inside
      rw [← found field member, fieldAt, fieldAt, List.length_take,
        List.length_drop, List.drop_append_of_le_length (by omega)]
      rw [List.take_append_of_le_length
        (by rw [List.length_drop (i := field.offset)]; omega)]
      congr 1
      omega
    simp only [lenNumber, isBody, isLetter, isRequest]

end Package

end SocketRequest

/-- Bytes from which `CtrlCmd` reads these requests, one a call. -/
def ReadsBack : List (SocketRequest UInt64) → List UInt8 → Prop
  | [], bytes => bytes = []
  | request :: later, bytes =>
      ∃ rest,
        (∀ stack, readRequest bytes stack = .ok (request, rest)) ∧
          ReadsBack later rest

/-- What is written behind readable bytes has to be readable itself. -/
theorem readsBack_append_iff
    {requests later : List (SocketRequest UInt64)}
    {bytes behind : List UInt8}
    (readsBack : ReadsBack requests bytes) :
    ReadsBack (requests ++ later) (bytes ++ behind) ↔
      ReadsBack later behind := by
  induction requests generalizing bytes with
  | nil =>
      change bytes = [] at readsBack
      rw [readsBack, List.nil_append, List.nil_append]
  | cons request requests inductionHypothesis =>
      obtain ⟨rest, isRead, restReads⟩ := readsBack
      have isReadBefore :
          ∀ stack,
            readRequest (bytes ++ behind) stack =
              .ok (request, rest ++ behind) :=
        fun stack => SocketRequest.readRequest_append behind (isRead stack)
      rw [← inductionHypothesis restReads]
      constructor
      · rintro ⟨after, isReadAfter, afterReads⟩
        have same := (isReadAfter []).symm.trans (isReadBefore [])
        simp only [Except.ok.injEq, Prod.mk.injEq, true_and] at same
        rwa [same] at afterReads
      · intro restReadsBefore
        exact ⟨rest ++ behind, isReadBefore, restReadsBefore⟩

/-- One package reads back as its request exactly when it was found. -/
theorem readsBack_sendRequest_iff
    {request : SocketRequest UInt64}
    (built : request.Built)
    (memory : Nat → UInt8) :
    ReadsBack [request] (sendRequest request memory) ↔
      request.Found memory := by
  rw [← SocketRequest.readRequest_sendRequest_iff built memory]
  constructor
  · rintro ⟨rest, isRead, noRest⟩
    change rest = [] at noRest
    rwa [noRest] at isRead
  · intro isRead
    exact ⟨[], isRead, rfl⟩

/-- The pipe, with the requests that were written to it and read from it. -/
structure ControlPipe where
  bytes : List UInt8
  written : List (SocketRequest UInt64)
  handled : List (SocketRequest UInt64)
  deriving DecidableEq

namespace ControlPipe

/-- An empty pipe. -/
def initial : ControlPipe where
  bytes := []
  written := []
  handled := []

/--
A step on the pipe.  A package is short enough to be written whole, whichever
thread writes it.
-/
inductive Action where
  /-- `SendRequest`, with the memory that lies around the package. -/
  | sendRequest
      (request : { request : SocketRequest UInt64 // request.Built })
      (memory : Nat → UInt8)
  /-- `CtrlCmd`, with what is on its stack. -/
  | ctrlCmd (stack : List UInt8)

/-- One step of the threads that share the pipe. -/
def next? (s : ControlPipe) : Action → Option ControlPipe
  | .sendRequest request memory =>
      some
        { s with
          bytes := s.bytes ++ SkynetCpp.sendRequest request memory
          written := s.written ++ [request.1] }
  | .ctrlCmd stack =>
      match readRequest s.bytes stack with
      | .ok (request, rest) =>
          some { s with bytes := rest, handled := s.handled ++ [request] }
      | .error _ => none

/--
The reader is in step: it handled what was written first, in that order, and
the bytes in the pipe give it the other requests, one a call.
-/
def InStep (s : ControlPipe) : Prop :=
  ∃ unread,
    s.written = s.handled ++ unread ∧ ReadsBack unread s.bytes

/-- A request that is written is found. -/
def Finds
    (_ : ControlPipe)
    (action : Action) : Prop :=
  match action with
  | .sendRequest request memory => request.1.Found memory
  | .ctrlCmd _ => True

/-- A reader stays in step over a write exactly when the request is found. -/
theorem inStep_sendRequest_iff
    {s : ControlPipe}
    (inStep : s.InStep)
    (request : { request : SocketRequest UInt64 // request.Built })
    (memory : Nat → UInt8) :
    InStep
        { s with
          bytes := s.bytes ++ SkynetCpp.sendRequest request memory
          written := s.written ++ [request.1] } ↔
      request.1.Found memory := by
  obtain ⟨unread, isWritten, readsBack⟩ := inStep
  rw [← readsBack_sendRequest_iff request.2 memory,
    ← readsBack_append_iff readsBack]
  constructor
  · rintro ⟨unreadAfter, isWrittenAfter, readsBackAfter⟩
    have same : unreadAfter = unread ++ [request.1] := by
      rw [isWritten, List.append_assoc] at isWrittenAfter
      exact (List.append_cancel_left isWrittenAfter).symm
    rwa [same] at readsBackAfter
  · intro readsBackAfter
    refine ⟨unread ++ [request.1], ?_, readsBackAfter⟩
    change s.written ++ [request.1] = s.handled ++ (unread ++ [request.1])
    rw [isWritten, List.append_assoc]

/-- A reader stays in step over its own calls. -/
theorem inStep_ctrlCmd
    {s next : ControlPipe}
    {stack : List UInt8}
    (inStep : s.InStep)
    (taken : next? s (.ctrlCmd stack) = some next) :
    next.InStep := by
  obtain ⟨unread, isWritten, readsBack⟩ := inStep
  cases unread with
  | nil =>
      change s.bytes = [] at readsBack
      unfold next? at taken
      rw [readsBack] at taken
      cases taken
  | cons first later =>
      obtain ⟨rest, isFirst, laterReads⟩ := readsBack
      simp only [next?, isFirst stack, Option.some.injEq] at taken
      subst taken
      refine ⟨later, ?_, laterReads⟩
      change s.written = s.handled ++ [first] ++ later
      rw [isWritten, List.append_assoc, List.singleton_append]

/-- A step that finds its request keeps the reader in step. -/
theorem InStep.step
    {s next : ControlPipe}
    {action : Action}
    (inStep : s.InStep)
    (finds : s.Finds action)
    (taken : Run.Steps next? s action next) :
    next.InStep := by
  cases action with
  | sendRequest request memory =>
      cases taken
      exact (inStep_sendRequest_iff inStep request memory).mpr finds
  | ctrlCmd stack =>
      exact inStep_ctrlCmd inStep taken

/-- A step that keeps the reader in step finds its request. -/
theorem finds_of_inStep
    {s next : ControlPipe}
    {action : Action}
    (inStep : s.InStep)
    (taken : Run.Steps next? s action next)
    (inStepNext : next.InStep) :
    s.Finds action := by
  cases action with
  | sendRequest request memory =>
      cases taken
      exact (inStep_sendRequest_iff inStep request memory).mp inStepNext
  | ctrlCmd stack =>
      trivial

theorem inStep_initial : initial.InStep :=
  ⟨[], rfl, rfl⟩

variable
    {final : ControlPipe}
    {past : List (ControlPipe × Action)}

/--
The reader is in step in every state of a run exactly when `SendRequest` finds
every request that is written in the run.
-/
theorem inStep_visited_iff_finds
    (run : Run (Run.Steps next?) initial past final) :
    (∀ s ∈ Run.visited past final, s.InStep) ↔
      ∀ s action, (s, action) ∈ past → s.Finds action :=
  Run.property_visited_iff run inStep_initial InStep.step
    (fun inStep => inStep) finds_of_inStep

section Close

/-- `Close` of the socket with id 1. -/
def closeRequest : { request : SocketRequest UInt64 // request.Built } :=
  ⟨.close 1 0, trivial⟩

/-- A memory with the package of `closeRequest` at the address that is read. -/
def closeMemory (i : Nat) : UInt8 :=
  if i = requestOffset then 75
  else if i = requestOffset + 1 then 16
  else if i = requestOffset + 2 then 1
  else 0

/-- The pipe after `closeRequest`. -/
def afterClose (memory : Nat → UInt8) : ControlPipe where
  bytes := sendRequest closeRequest.1 memory
  written := [closeRequest.1]
  handled := []

theorem run_afterClose
    (memory : Nat → UInt8) :
    Run (Run.Steps next?) initial
      [(initial, .sendRequest closeRequest memory)] (afterClose memory) :=
  Run.nil.snoc rfl

theorem closeMemory_inStep :
    Run (Run.Steps next?) initial
        [(initial, .sendRequest closeRequest closeMemory)]
        (afterClose closeMemory) ∧
      ∀ s ∈
        Run.visited [(initial, Action.sendRequest closeRequest closeMemory)]
          (afterClose closeMemory),
        s.InStep := by
  refine ⟨run_afterClose closeMemory, ?_⟩
  refine (inStep_visited_iff_finds (run_afterClose closeMemory)).mpr ?_
  intro s action member
  cases List.mem_singleton.mp member
  exact
    { type := by decide
      len := by decide
      fields := by decide }

/-- Memory without the request: the reader takes a package of no bytes. -/
theorem zeroMemory_not_inStep :
    ∃ past final,
      Run (Run.Steps next?) initial past final ∧
        ¬ ∀ s ∈ Run.visited past final, s.InStep := by
  refine ⟨_, _, run_afterClose fun _ => 0, fun inStep => ?_⟩
  have isLast := inStep (afterClose fun _ => 0) (List.mem_cons_self ..)
  have finds :=
    (inStep_sendRequest_iff inStep_initial closeRequest fun _ => 0).mp isLast
  exact absurd finds.type (by decide)

end Close

end ControlPipe

end SkynetCpp
