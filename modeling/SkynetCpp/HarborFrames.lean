import Mathlib.Data.List.GetD
import Mathlib.Data.List.TakeWhile
import SkynetCpp.Foundation.Framing
import SkynetCpp.Harbor

namespace SkynetCpp

open Foundation

/-!
# Frames from another harbor

What `push_socket_data` keeps of an unfinished frame, and how one round of its
loop takes a frame out of the data.  A frame without a body is only handed on
when the byte behind it arrives, and the body goes through a string that ends
at a zero byte.
-/

/-- The frames between harbors: the first byte of a header is not a length. -/
def harborFraming : Framing UInt8 where
  headerSize := 4
  bodyLength := fun head =>
    (head.getD 1 0).toNat <<< 16 ||| (head.getD 2 0).toNat <<< 8 |||
      (head.getD 3 0).toNat
  positive := by decide

/-- A frame between harbors. -/
abbrev HarborFrame := WireFrame harborFraming

/-- The first byte of a header is zero, as the code requires. -/
def ZeroFirst (head : List UInt8) : Prop :=
  head.getD 0 0 = 0

/-- A zero byte stands at most at the end. -/
def ZeroLastOnly (body : List UInt8) : Prop :=
  0 ∉ body.dropLast

/-- Behind a zero byte there are only zero bytes. -/
def ZerosTrail (bytes : List UInt8) : Prop :=
  ∀ earlier later, bytes = earlier ++ later → 0 ∈ earlier →
    ∀ byte ∈ later, byte = 0

/-- A frame that comes through `push_socket_data` as it is. -/
structure Passes (frame : HarborFrame) : Prop where
  zeroFirst : ZeroFirst frame.header
  zeroLastOnly : ZeroLastOnly frame.body

section Strings

/-- A string without a zero byte is copied whole. -/
theorem cString_append_of_not_mem
    {first : List UInt8}
    (noZero : 0 ∉ first)
    (second : List UInt8) :
    cString (first ++ second) = first ++ cString second := by
  apply List.takeWhile_append_of_pos
  intro byte member
  have different : byte ≠ 0 := by
    intro isZero
    subst isZero
    exact noZero member
  simpa using different

/-- Bytes without a zero are copied whole. -/
theorem cString_of_not_mem
    {bytes : List UInt8}
    (noZero : 0 ∉ bytes) :
    cString bytes = bytes := by
  have copied := cString_append_of_not_mem noZero []
  simpa [cString] using copied

/-- What stands behind a zero byte is not copied. -/
theorem cString_append_of_mem
    {first : List UInt8}
    (hasZero : 0 ∈ first)
    (second : List UInt8) :
    cString (first ++ second) = cString first := by
  induction first with
  | nil =>
      simp at hasZero
  | cons byte rest inductionHypothesis =>
      by_cases isZero : byte = 0
      · simp [cString, isZero]
      · have later : 0 ∈ rest := by
          rcases List.mem_cons.mp hasZero with isFirst | isLater
          · exact (isZero isFirst.symm).elim
          · exact isLater
        have keeps :
            ∀ bytes, cString (byte :: bytes) = byte :: cString bytes := by
          intro bytes
          simp [cString, isZero]
        rw [List.cons_append, keeps, keeps, inductionHypothesis later]

/-- Copying in parts copies the whole when zero bytes only trail. -/
theorem cString_append
    {first second : List UInt8}
    (zerosTrail : ZerosTrail (first ++ second)) :
    cString first ++ cString second = cString (first ++ second) := by
  by_cases hasZero : 0 ∈ first
  · have allZero := zerosTrail first second rfl hasZero
    have noneCopied : cString second = [] := by
      cases second with
      | nil =>
          rfl
      | cons byte rest =>
          have isZero : byte = 0 := allZero byte (by simp)
          simp [cString, isZero]
    rw [noneCopied, List.append_nil, cString_append_of_mem hasZero]
  · rw [cString_of_not_mem hasZero, cString_append_of_not_mem hasZero]

/-- Reading a string at the index of one of its characters. -/
theorem stringAt_of_lt
    {content : List UInt8}
    {memory : Int → UInt8}
    {index : Nat}
    (inside : index < content.length) :
    stringAt content memory index = content.getD index 0 := by
  have isInside :
      (0 : Int) ≤ (index : Int) ∧ (index : Int) < content.length := by
    omega
  rw [stringAt, if_pos isInside]
  rfl

/-- Reading a string right behind its characters gives the ending zero. -/
theorem stringAt_length
    {content : List UInt8}
    {memory : Int → UInt8} :
    stringAt content memory content.length = 0 := by
  simp [stringAt]

/-- Reading behind the ending zero reads other memory. -/
theorem stringAt_of_gt
    {content : List UInt8}
    {memory : Int → UInt8}
    {index : Nat}
    (outside : content.length < index) :
    stringAt content memory index = memory index := by
  have notInside :
      ¬ ((0 : Int) ≤ (index : Int) ∧ (index : Int) < content.length) := by
    omega
  have notEnd : ¬ ((index : Int) = content.length) := by
    omega
  rw [stringAt, if_neg notInside, if_neg notEnd]

/-- The length of what is read. -/
@[simp] theorem length_stringBytes
    (content : List UInt8)
    (memory : Int → UInt8)
    (start : Int)
    (count : Nat) :
    (stringBytes content memory start count).length = count := by
  simp [stringBytes]

/-- A byte of what is read from the first character on. -/
theorem getElem?_stringBytes
    {content : List UInt8}
    {memory : Int → UInt8}
    {count index : Nat}
    (inside : index < count) :
    (stringBytes content memory 0 count)[index]? =
      some (stringAt content memory index) := by
  simp [stringBytes, inside]

/-- A body comes back out of its string when a zero byte is its last at most. -/
theorem stringBytes_cString
    {body : List UInt8}
    (zeroLastOnly : ZeroLastOnly body)
    (behind : List UInt8)
    (memory : Int → UInt8) :
    stringBytes (cString (body ++ behind)) memory 0 body.length = body := by
  apply List.ext_getElem?
  intro index
  by_cases inside : index < body.length
  · rw [getElem?_stringBytes inside, List.getElem?_eq_getElem inside]
    congr 1
    by_cases hasZero : 0 ∈ body
    · -- The zero is the last byte, and it is read as the end of the string.
      have nonempty : body ≠ [] := List.ne_nil_of_mem hasZero
      have isSplit := List.dropLast_append_getLast nonempty
      have isLast : body.getLast nonempty = 0 := by
        rw [← isSplit, List.mem_append] at hasZero
        rcases hasZero with isEarlier | isLast
        · exact (zeroLastOnly isEarlier).elim
        · exact (List.mem_singleton.mp isLast).symm
      have isString : cString (body ++ behind) = body.dropLast := by
        rw [cString_append_of_mem hasZero]
        conv => lhs; rw [← isSplit, isLast]
        rw [cString_append_of_not_mem zeroLastOnly]
        simp [cString]
      rw [isString]
      by_cases isEarlier : index < body.dropLast.length
      · rw [stringAt_of_lt isEarlier, List.getD_eq_getElem _ _ isEarlier]
        simp
      · have isEnd : index = body.dropLast.length := by
          rw [List.length_dropLast] at isEarlier ⊢
          omega
        subst isEnd
        rw [stringAt_length]
        have atLast : body[body.dropLast.length] = body.getLast nonempty := by
          rw [List.getLast_eq_getElem]
          simp
        rw [atLast, isLast]
    · rw [cString_append_of_not_mem hasZero,
        stringAt_of_lt (by rw [List.length_append]; omega),
        List.getD_eq_getElem _ _ (by rw [List.length_append]; omega),
        List.getElem_append_left inside]
  · rw [List.getElem?_eq_none (by simpa using inside),
      List.getElem?_eq_none (by simpa using inside)]

/-- A body with an earlier zero byte goes beyond the end of its string. -/
theorem length_cString_lt
    {body : List UInt8}
    (earlierZero : ¬ ZeroLastOnly body) :
    (cString body).length + 1 < body.length := by
  simp only [ZeroLastOnly, Classical.not_not] at earlierZero
  have hasZero : 0 ∈ body := List.dropLast_subset body earlierZero
  have nonempty : body ≠ [] := List.ne_nil_of_mem hasZero
  have isSplit := List.dropLast_append_getLast nonempty
  have isDropped : cString body = cString body.dropLast := by
    conv => lhs; rw [← isSplit]
    exact cString_append_of_mem earlierZero _
  have shorter : (cString body).length < body.dropLast.length := by
    rw [isDropped]
    have notLonger :
        (cString body.dropLast).length ≤ body.dropLast.length :=
      (List.takeWhile_sublist _).length_le
    refine Nat.lt_of_le_of_ne notLonger ?_
    intro sameLength
    have same : cString body.dropLast = body.dropLast :=
      (List.takeWhile_sublist _).eq_of_length sameLength
    have copied : 0 ∈ cString body.dropLast := by
      rw [same]
      exact earlierZero
    have notZero := List.mem_takeWhile_imp copied
    simp at notZero
  rw [List.length_dropLast] at shorter
  omega

/-- A byte behind the string of a body is a byte of the memory there. -/
theorem getElem?_stringBytes_behind
    {body : List UInt8}
    (earlierZero : ¬ ZeroLastOnly body)
    (behind : List UInt8)
    (filler : UInt8) :
    (stringBytes (cString (body ++ behind)) (fun _ => filler) 0
        body.length)[(cString body).length + 1]? = some filler := by
  have hasZero : 0 ∈ body := by
    simp only [ZeroLastOnly, Classical.not_not] at earlierZero
    exact List.dropLast_subset body earlierZero
  rw [cString_append_of_mem hasZero,
    getElem?_stringBytes (length_cString_lt earlierZero),
    stringAt_of_gt (Nat.lt_succ_self _)]

/-- A body with an earlier zero byte depends on the memory behind the string. -/
theorem exists_stringBytes_ne
    {body : List UInt8}
    (earlierZero : ¬ ZeroLastOnly body)
    (behind : List UInt8) :
    ∃ filler : UInt8,
      stringBytes (cString (body ++ behind)) (fun _ => filler) 0
        body.length ≠ body := by
  have isShort := length_cString_lt earlierZero
  refine ⟨body[(cString body).length + 1] + 1, ?_⟩
  intro same
  have sameByte :=
    congrArg (fun bytes => bytes[(cString body).length + 1]?) same
  simp only [getElem?_stringBytes_behind earlierZero,
    List.getElem?_eq_getElem isShort, Option.some.injEq] at sameByte
  simp at sameByte

end Strings

/-- What a slave has kept of the bytes since the last frame it handed on. -/
structure Holding
    (s : Slave)
    (fd : Int)
    (rest : List UInt8) : Prop where
  fd : s.fd = fd
  size_length : s.size.length = 4
  parser :
    if rest.length < 4 then
      s.status = .header ∧ s.read = rest.length ∧ s.length = 0 ∧
        s.recv_buffer = [] ∧ s.size.take rest.length = rest
    else
      s.status = .content ∧
        s.length = harborFraming.bodyLength (rest.take 4) ∧
        s.read = (rest.length - 4 : Nat) ∧ s.size = rest.take 4 ∧
        s.recv_buffer = cString (rest.drop 4)

/-- Replace one slave. -/
def Harbor.set
    (h : Harbor)
    (id : Nat)
    (s : Slave) : Harbor :=
  { h with s := Function.update h.s id s }

/-- The messages handed to `forward_local_messsage`. -/
def forwarded (actions : List HarborAction) : List (List UInt8) :=
  actions.filterMap fun
    | .forwardLocal msg => some msg
    | .call _ => none

section Slaves

variable
    (h : Harbor)
    (id : Nat)

theorem Harbor.modify_eq_set
    (change : Slave → Slave) :
    h.modify id change = h.set id (change (h.s id)) :=
  rfl

@[simp] theorem Harbor.set_s
    (s : Slave) :
    (h.set id s).s id = s := by
  simp [Harbor.set]

@[simp] theorem Harbor.set_set
    (s s' : Slave) :
    (h.set id s).set id s' = h.set id s' := by
  simp [Harbor.set]

@[simp] theorem Harbor.set_self :
    h.set id (h.s id) = h := by
  simp [Harbor.set]

@[simp] theorem Harbor.set_id
    (s : Slave) :
    (h.set id s).id = h.id :=
  rfl

/-- The other slaves stay as they are. -/
theorem Harbor.set_s_of_ne
    {other : Nat}
    (different : other ≠ id)
    (s : Slave) :
    (h.set id s).s other = h.s other := by
  simp [Harbor.set, different]

@[simp] theorem forwarded_append
    (first second : List HarborAction) :
    forwarded (first ++ second) = forwarded first ++ forwarded second := by
  simp [forwarded]

@[simp] theorem forwarded_forwardLocal
    (msg : List UInt8)
    (actions : List HarborAction) :
    forwarded (.forwardLocal msg :: actions) = msg :: forwarded actions := by
  simp [forwarded]

/-- `forward_local_messsage` itself hands nothing on. -/
@[simp] theorem forwarded_forwardLocalMessage
    (content : List UInt8)
    (memory : Int → UInt8)
    (answer sz : Int) :
    forwarded (forwardLocalMessage h content memory answer sz) = [] := by
  unfold forwardLocalMessage
  dsimp only
  split
  · split <;> rfl
  · rfl

/-- `close_harbor` hands nothing on. -/
@[simp] theorem forwarded_closeHarbor :
    forwarded (closeHarbor h id).2 = [] := by
  unfold closeHarbor
  dsimp only
  split <;> rfl

end Slaves

section Cases

variable
    {h : Harbor}
    {id : Nat}
    {fd : Int}
    {rest chunk : List UInt8}

/-- A part of a header is kept. -/
theorem headerCase_short
    (holding : Holding (h.s id) fd rest)
    (short : (rest ++ chunk).length < 4)
    (unknown : HarborUnknown)
    (round : Nat) :
    ∃ s,
      headerCase h id unknown round chunk chunk.length =
          (h.set id s, [], .returned) ∧
        Holding s fd (rest ++ chunk) := by
  rw [List.length_append] at short
  have parser := holding.parser
  rw [if_pos (by omega)] at parser
  obtain ⟨isStatus, isRead, isLength, isBuffer, isSize⟩ := parser
  have isPart : (chunk.length : Int) < 4 - (h.s id).read := by
    rw [isRead]
    omega
  let size :=
    rest ++ chunk ++ (h.s id).size.drop (rest.length + chunk.length)
  refine
    ⟨{ h.s id with
        size := size
        read := (h.s id).read + chunk.length }, ?_, ?_⟩
  · have isReceived :
        (h.s id).size.take (h.s id).read.toNat ++
            chunk.take (chunk.length : Int).toNat ++
            (h.s id).size.drop ((h.s id).read + chunk.length).toNat =
          size := by
      rw [isRead]
      have counted :
          ((rest.length : Int) + chunk.length).toNat =
            rest.length + chunk.length := by
        omega
      rw [counted, Int.toNat_natCast, Int.toNat_natCast, isSize,
        List.take_length]
    simp only [headerCase, if_pos isPart, isReceived, Harbor.modify_eq_set]
  · refine ⟨holding.fd, ?_, ?_⟩
    · have isFour := holding.size_length
      simp only [size, List.length_append, List.length_drop, isFour]
      omega
    · rw [if_pos (by rw [List.length_append]; exact short)]
      refine ⟨isStatus, ?_, isLength, isBuffer, ?_⟩
      · simp [isRead]
      · simp only [size]
        rw [← List.length_append, List.take_left]

/-- The bytes of a header are complete. -/
theorem headerCase_received
    (holding : Holding (h.s id) fd rest)
    (short : rest.length < 4)
    (whole : 4 ≤ (rest ++ chunk).length) :
    (h.s id).size.take (h.s id).read.toNat ++
          chunk.take (4 - (h.s id).read).toNat ++
          (h.s id).size.drop ((h.s id).read + (4 - (h.s id).read)).toNat =
        (rest ++ chunk).take 4 ∧
      chunk.drop (4 - (h.s id).read).toNat = (rest ++ chunk).drop 4 ∧
      (chunk.length : Int) - (4 - (h.s id).read) =
        ((rest ++ chunk).drop 4).length ∧
      ¬ (chunk.length : Int) < 4 - (h.s id).read := by
  rw [List.length_append] at whole
  have parser := holding.parser
  rw [if_pos short] at parser
  obtain ⟨_, isRead, _, _, isSize⟩ := parser
  have needed : (4 - (rest.length : Int)).toNat = 4 - rest.length := by
    omega
  have all : ((rest.length : Int) + (4 - rest.length)).toNat = 4 := by
    omega
  rw [isRead, needed, all]
  refine ⟨?_, ?_, ?_, by omega⟩
  · have noMore : (h.s id).size.drop 4 = [] :=
      List.drop_eq_nil_of_le (by rw [holding.size_length])
    rw [noMore, List.append_nil, Int.toNat_natCast, isSize,
      List.take_append, List.take_of_length_le (Nat.le_of_lt short)]
  · rw [List.drop_append, List.drop_eq_nil_of_le (Nat.le_of_lt short),
      List.nil_append]
  · rw [List.length_drop, List.length_append]
    omega

/-- A header of a frame is taken; what is behind it goes to the content. -/
theorem headerCase_whole
    (holding : Holding (h.s id) fd rest)
    (short : rest.length < 4)
    (whole : 4 ≤ (rest ++ chunk).length)
    (zeroFirst : ZeroFirst ((rest ++ chunk).take 4))
    (unknown : HarborUnknown)
    (round : Nat) :
    ∃ s,
      headerCase h id unknown round chunk chunk.length =
          (let behind := (rest ++ chunk).drop 4
          if behind = [] then
            (h.set id s, [], .returned)
          else
            contentCase (h.set id s) id unknown round behind behind.length) ∧
        Holding s fd ((rest ++ chunk).take 4) := by
  obtain ⟨isReceived, isBehind, isLeft, notShort⟩ :=
    headerCase_received holding short whole
  have parser := holding.parser
  rw [if_pos short] at parser
  obtain ⟨isStatus, isRead, isLength, isBuffer, isSize⟩ := parser
  let head := (rest ++ chunk).take 4
  refine
    ⟨{ h.s id with
        size := head
        length := harborFraming.bodyLength head
        read := 0
        status := .content }, ?_, ?_⟩
  · have isZero : ¬ (head.getD 0 0 ≠ 0) := fun notZero => notZero zeroFirst
    simp only [headerCase, if_neg notShort, isReceived, isBehind, isLeft,
      Harbor.modify_eq_set, Harbor.set_s, Harbor.set_set]
    rw [if_neg isZero]
    by_cases isEmpty : (rest ++ chunk).drop 4 = []
    · rw [if_pos isEmpty, isEmpty, if_pos (by rfl)]
      rfl
    · have notZero : ¬ (((rest ++ chunk).drop 4).length : Int) = 0 := by
        intro isZero
        exact isEmpty (List.length_eq_zero_iff.mp (by exact_mod_cast isZero))
      rw [if_neg isEmpty, if_neg notZero]
      rfl
  · have isFour : head.length = 4 := List.length_take_of_le whole
    refine ⟨holding.fd, isFour, ?_⟩
    rw [if_neg (by rw [isFour]; omega)]
    refine ⟨rfl, ?_, ?_, ?_, ?_⟩
    · rw [List.take_take]
      rfl
    · rw [isFour]
      rfl
    · rw [List.take_take]
      rfl
    · rw [List.drop_eq_nil_of_le (Nat.le_of_eq isFour)]
      exact isBuffer

/-- A header that does not start with zero closes the connection. -/
theorem headerCase_refused
    (holding : Holding (h.s id) fd rest)
    (short : rest.length < 4)
    (whole : 4 ≤ (rest ++ chunk).length)
    (notZero : ¬ ZeroFirst ((rest ++ chunk).take 4))
    (unknown : HarborUnknown)
    (round : Nat) :
    ∃ s actions,
      headerCase h id unknown round chunk chunk.length =
          (h.set id s, actions, .returned) ∧
        forwarded actions = [] ∧ s.fd = 0 ∧ s.status = .down ∧
        s.read = rest.length := by
  obtain ⟨isReceived, isBehind, isLeft, notShort⟩ :=
    headerCase_received holding short whole
  have parser := holding.parser
  rw [if_pos short] at parser
  obtain ⟨_, isRead, _⟩ := parser
  have isNotZero : ((rest ++ chunk).take 4).getD 0 0 ≠ 0 := notZero
  refine
    ⟨{ h.s id with
        size := (rest ++ chunk).take 4
        status := .down
        fd := 0
        queue := none },
      .call (.skynetError
          ("Message is too long from harbor " ++ toString id)) ::
        (closeHarbor h id).2,
      ?_, ?_, rfl, rfl, isRead⟩
  · simp only [headerCase, if_neg notShort, isReceived, Harbor.modify_eq_set,
      closeHarbor, Harbor.set_s, Harbor.set_set]
    rw [if_pos isNotZero]
  · exact forwarded_closeHarbor h id

/-- A part of a body is kept, as far as the strings go. -/
theorem contentCase_short
    (holding : Holding (h.s id) fd rest)
    (hasHeader : 4 ≤ rest.length)
    {length : Nat}
    (isBodyLength : harborFraming.bodyLength (rest.take 4) = length)
    (short : rest.length - 4 + chunk.length < length)
    (unknown : HarborUnknown)
    (round : Nat) :
    ∃ s,
      contentCase h id unknown round chunk chunk.length =
          (h.set id s, [], .returned) ∧
        s.recv_buffer = cString (rest.drop 4) ++ cString chunk ∧
        (s.recv_buffer = cString ((rest ++ chunk).drop 4) →
          Holding s fd (rest ++ chunk)) := by
  have parser := holding.parser
  rw [if_neg (by omega)] at parser
  obtain ⟨isStatus, isLength, isRead, isSize, isBuffer⟩ := parser
  have isPart : (chunk.length : Int) < (h.s id).length - (h.s id).read := by
    rw [isLength, isRead, isBodyLength]
    omega
  have isHeader : (rest ++ chunk).take 4 = rest.take 4 :=
    List.take_append_of_le_length hasHeader
  refine
    ⟨{ h.s id with
        recv_buffer := (h.s id).recv_buffer ++ cString chunk
        read := (h.s id).read + chunk.length }, ?_, ?_, ?_⟩
  · simp only [contentCase, if_pos isPart, Harbor.modify_eq_set]
  · rw [isBuffer]
  · intro isWhole
    refine ⟨holding.fd, holding.size_length, ?_⟩
    rw [if_neg (by rw [List.length_append]; omega), isHeader]
    refine ⟨isStatus, isLength, ?_, isSize, isWhole⟩
    show (h.s id).read + (chunk.length : Int) = _
    rw [isRead, List.length_append]
    omega

/-- A whole body is handed on, as the string in the buffer has it. -/
theorem contentCase_whole
    (holding : Holding (h.s id) fd rest)
    (hasHeader : 4 ≤ rest.length)
    {length : Nat}
    (isBodyLength : harborFraming.bodyLength (rest.take 4) = length)
    (kept : rest.length - 4 ≤ length)
    (whole : length ≤ rest.length - 4 + chunk.length)
    (unknown : HarborUnknown)
    (round : Nat) :
    ∃ s actions,
      contentCase h id unknown round chunk chunk.length =
          (let behind := (rest ++ chunk).drop (4 + length)
          (h.set id s, actions,
            if behind = [] then .returned
            else .next behind behind.length)) ∧
        forwarded actions =
          [stringBytes (cString (rest.drop 4) ++ cString chunk)
            (unknown.memory round) 0 length] ∧
        Holding s fd [] := by
  have parser := holding.parser
  rw [if_neg (by omega)] at parser
  obtain ⟨isStatus, isLength, isRead, isSize, isBuffer⟩ := parser
  have notPart : ¬ (chunk.length : Int) < (h.s id).length - (h.s id).read := by
    rw [isLength, isRead, isBodyLength]
    omega
  have isNeed :
      (h.s id).length - (h.s id).read =
        (length - (rest.length - 4) : Nat) := by
    rw [isLength, isRead, isBodyLength]
    omega
  have isBehind :
      chunk.drop (length - (rest.length - 4)) =
        (rest ++ chunk).drop (4 + length) := by
    have isDropped : rest.drop (4 + length) = [] :=
      List.drop_eq_nil_of_le (by omega)
    have sameCount :
        length - (rest.length - 4) = 4 + length - rest.length := by
      omega
    rw [List.drop_append, isDropped, List.nil_append, sameCount]
  have isLeft :
      (chunk.length : Int) - (length - (rest.length - 4) : Nat) =
        ((rest ++ chunk).drop (4 + length)).length := by
    rw [List.length_drop, List.length_append]
    omega
  refine
    ⟨{ h.s id with
        length := 0, read := 0, recv_buffer := [], status := .header },
      .forwardLocal
          (stringBytes ((h.s id).recv_buffer ++ cString chunk)
            (unknown.memory round) 0 (h.s id).length.toNat) ::
        forwardLocalMessage h ((h.s id).recv_buffer ++ cString chunk)
          (unknown.memory round) (unknown.answer round) (h.s id).length,
      ?_, ?_, ?_⟩
  · simp only [contentCase, if_neg notPart, Harbor.modify_eq_set]
    rw [isNeed, Int.toNat_natCast, isBehind, isLeft]
    by_cases isEmpty : (rest ++ chunk).drop (4 + length) = []
    · rw [isEmpty]
      rfl
    · have notZero :
          ¬ (((rest ++ chunk).drop (4 + length)).length : Int) = 0 := by
        intro isZero
        exact isEmpty (List.length_eq_zero_iff.mp (by exact_mod_cast isZero))
      rw [if_neg notZero, if_neg isEmpty]
  · rw [forwarded_forwardLocal, forwarded_forwardLocalMessage, isBuffer,
      isLength, isBodyLength, Int.toNat_natCast]
  · refine ⟨holding.fd, holding.size_length, ?_⟩
    rw [if_pos (by decide)]
    exact ⟨rfl, rfl, rfl, rfl, rfl⟩

end Cases

/-- A rest without a frame that is handed on already. -/
def Unfinished (rest : List UInt8) : Prop :=
  rest.length ≤ 4 ∨
    rest.length - 4 < harborFraming.bodyLength (rest.take 4)

/-- A rest that is kept the same however it is cut. -/
structure KeepsWell (rest : List UInt8) : Prop where
  zeroFirst : 4 ≤ rest.length → ZeroFirst (rest.take 4)
  zerosTrail : ZerosTrail (rest.drop 4)

section Loop

variable
    {h : Harbor}
    {id : Nat}
    {fd : Int}
    {rest chunk : List UInt8}
    {unknown : HarborUnknown}
    {round : Nat}

/-- Add what was done before to the result of the later rounds. -/
def after
    (actions : List HarborAction)
    (result : Except Fault (Harbor × List HarborAction)) :
    Except Fault (Harbor × List HarborAction) :=
  match result with
  | .ok (h, later) => .ok (h, actions ++ later)
  | .error fault => .error fault

/-- What follows a case of the switch. -/
def follow
    (id : Nat)
    (unknown : HarborUnknown)
    (round : Nat)
    (result : PushResult) : Except Fault (Harbor × List HarborAction) :=
  match result with
  | (h, actions, .returned) => .ok (h, actions)
  | (h, actions, .next buffer size) =>
      after actions (pushSocketDataLoop id unknown round h buffer size)

/-- A round in status `kStatusHeader`. -/
theorem pushSocketDataLoop_header
    (isStatus : (h.s id).status = .header)
    (buffer : List UInt8)
    (size : Int) :
    pushSocketDataLoop id unknown (round + 1) h buffer size =
      follow id unknown round (headerCase h id unknown round buffer size) := by
  simp only [pushSocketDataLoop, isStatus, bind, Except.bind]
  generalize headerCase h id unknown round buffer size = result
  obtain ⟨next, actions, flow⟩ := result
  cases flow with
  | returned =>
      rfl
  | next buffer size =>
      simp only [follow, after]
      cases pushSocketDataLoop id unknown round next buffer size <;> rfl

/-- A round in status `kStatusContent`. -/
theorem pushSocketDataLoop_content
    (isStatus : (h.s id).status = .content)
    (buffer : List UInt8)
    (size : Int) :
    pushSocketDataLoop id unknown (round + 1) h buffer size =
      follow id unknown round (contentCase h id unknown round buffer size) := by
  simp only [pushSocketDataLoop, isStatus, bind, Except.bind]
  generalize contentCase h id unknown round buffer size = result
  obtain ⟨next, actions, flow⟩ := result
  cases flow with
  | returned =>
      rfl
  | next buffer size =>
      simp only [follow, after]
      cases pushSocketDataLoop id unknown round next buffer size <;> rfl

/-- A round in status `kStatusHandshake`. -/
theorem pushSocketDataLoop_handshake
    (isStatus : (h.s id).status = .handshake)
    {buffer : List UInt8}
    {size : Int}
    {result : PushResult}
    (isCase : handshakeCase h id unknown round buffer size = .ok result) :
    pushSocketDataLoop id unknown (round + 1) h buffer size =
      follow id unknown round result := by
  obtain ⟨next, actions, flow⟩ := result
  simp only [pushSocketDataLoop, isStatus, isCase, bind, Except.bind]
  cases flow with
  | returned =>
      rfl
  | next buffer size =>
      simp only [follow, after]
      cases pushSocketDataLoop id unknown round next buffer size <;> rfl

/-- The status that goes with a part of a header. -/
theorem Holding.status_header
    {s : Slave}
    (holding : Holding s fd rest)
    (short : rest.length < 4) :
    s.status = .header := by
  have parser := holding.parser
  rw [if_pos short] at parser
  exact parser.1

/-- The status that goes with a whole header. -/
theorem Holding.status_content
    {s : Slave}
    (holding : Holding s fd rest)
    (long : 4 ≤ rest.length) :
    s.status = .content := by
  have parser := holding.parser
  rw [if_neg (by omega)] at parser
  exact parser.1

/-- The header of a harbor frame has four bytes. -/
theorem HarborFrame.length_header
    (frame : HarborFrame) :
    frame.header.length = 4 :=
  frame.header_length

/-- A round of the loop hands on the frame that the data completes. -/
theorem pushSocketDataLoop_frame
    (holding : Holding (h.s id) fd rest)
    {frame : HarborFrame}
    {behind : List UInt8}
    (isData : rest ++ chunk = frame.bytes ++ behind)
    (unfinished : rest.length ≤ 4 ∨ rest.length - 4 < frame.body.length)
    (arrived : frame.body ≠ [] ∨ behind ≠ [])
    (zeroFirst : ZeroFirst frame.header)
    (unknown : HarborUnknown)
    (round : Nat) :
    ∃ s actions,
      pushSocketDataLoop id unknown (round + 1) h chunk chunk.length =
          follow id unknown round
            (h.set id s, actions,
              if behind = [] then .returned
              else .next behind behind.length) ∧
        (0 ∉ rest.drop 4 →
          forwarded actions =
            [stringBytes (cString (frame.body ++ behind))
              (unknown.memory round) 0 frame.body.length]) ∧
        Holding s fd [] := by
  have headerSized := frame.length_header
  have isBodyLength :
      harborFraming.bodyLength frame.header = frame.body.length :=
    frame.body_length.symm
  have isHeader : (rest ++ chunk).take 4 = frame.header := by
    rw [isData, WireFrame.bytes, List.append_assoc, List.take_left' headerSized]
  have isContent : (rest ++ chunk).drop 4 = frame.body ++ behind := by
    rw [isData, WireFrame.bytes, List.append_assoc, List.drop_left' headerSized]
  have isBehind :
      (rest ++ chunk).drop (4 + frame.body.length) = behind := by
    rw [isData, List.drop_left']
    rw [WireFrame.bytes, List.length_append, headerSized]
  have total := congrArg List.length isData
  rw [WireFrame.bytes, List.length_append, List.length_append,
    List.length_append, headerSized] at total
  by_cases short : rest.length < 4
  · have hasHeader : 4 ≤ (rest ++ chunk).length := by
      rw [List.length_append]
      omega
    obtain ⟨s, isCase, held⟩ :=
      headerCase_whole holding short hasHeader
        (by rw [isHeader]; exact zeroFirst) unknown round
    rw [isHeader] at held
    have nonempty : frame.body ++ behind ≠ [] := by
      rcases arrived with hasBody | hasMore
      · simp [hasBody]
      · simp [hasMore]
    rw [isContent] at isCase
    simp only [if_neg nonempty] at isCase
    have heldSet : Holding ((h.set id s).s id) fd frame.header := by
      simpa using held
    have isTaken : frame.header.take 4 = frame.header :=
      List.take_of_length_le (Nat.le_of_eq headerSized)
    have noBody : frame.header.drop 4 = [] :=
      List.drop_eq_nil_of_le (Nat.le_of_eq headerSized)
    have isWhole :
        frame.body.length ≤
          frame.header.length - 4 + (frame.body ++ behind).length := by
      rw [List.length_append]
      omega
    obtain ⟨s', actions, isDone, areForwarded, held'⟩ :=
      contentCase_whole heldSet (Nat.le_of_eq headerSized.symm)
        (by rw [isTaken]; exact isBodyLength)
        (by rw [headerSized]; omega) isWhole unknown round
    have isRest :
        (frame.header ++ (frame.body ++ behind)).drop
          (4 + frame.body.length) = behind := by
      rw [← List.append_assoc, List.drop_left']
      rw [List.length_append, headerSized]
    rw [isRest, Harbor.set_set] at isDone
    refine ⟨s', actions, ?_, ?_, held'⟩
    · rw [pushSocketDataLoop_header (holding.status_header short), isCase,
        isDone]
    · intro _
      rw [areForwarded, noBody]
      rfl
  · have long := Nat.le_of_not_lt short
    have isRestHeader : rest.take 4 = frame.header := by
      rw [← isHeader, List.take_append_of_le_length long]
    have isWhole : frame.body.length ≤ rest.length - 4 + chunk.length := by
      omega
    obtain ⟨s, actions, isCase, areForwarded, held⟩ :=
      contentCase_whole holding long
        (by rw [isRestHeader]; exact isBodyLength) (by omega) isWhole
        unknown round
    rw [isBehind] at isCase
    refine ⟨s, actions, ?_, ?_, held⟩
    · rw [pushSocketDataLoop_content (holding.status_content long), isCase]
    · intro noZero
      rw [areForwarded, cString_of_not_mem noZero,
        ← cString_append_of_not_mem noZero,
        ← List.drop_append_of_le_length long, isContent]

/-- A part of a frame that passes has no zero byte in its part of the body. -/
theorem Passes.not_mem_part
    {frame : HarborFrame}
    {behind : List UInt8}
    (passes : Passes frame)
    (isData : rest ++ chunk = frame.bytes ++ behind)
    (unfinished : rest.length ≤ 4 ∨ rest.length - 4 < frame.body.length) :
    0 ∉ rest.drop 4 := by
  rcases unfinished with short | inBody
  · simp [List.drop_eq_nil_of_le short]
  · have long : 4 ≤ rest.length ∨ rest.length < 4 := by omega
    rcases long with long | short
    · have isContent : rest.drop 4 ++ chunk = frame.body ++ behind := by
        rw [← List.drop_append_of_le_length long, isData, WireFrame.bytes,
          List.append_assoc, List.drop_left' frame.length_header]
      have isPart :
          rest.drop 4 = frame.body.take (rest.length - 4) := by
        have same := congrArg (List.take (rest.drop 4).length) isContent
        rw [List.take_left, List.length_drop,
          List.take_append_of_le_length (Nat.le_of_lt inBody)] at same
        exact same
      intro member
      rw [isPart] at member
      apply passes.zeroLastOnly
      rw [List.dropLast_eq_take]
      exact List.take_subset_take_left _ (by omega) member
    · simp [List.drop_eq_nil_of_le (Nat.le_of_lt short)]

/-- The end of the data is kept while the header is being read. -/
theorem pushSocketDataLoop_rest_of_lt
    (holding : Holding (h.s id) fd rest)
    (short : rest.length < 4)
    (unfinished : Unfinished (rest ++ chunk))
    (zeroFirst :
      4 ≤ (rest ++ chunk).length → ZeroFirst ((rest ++ chunk).take 4))
    (unknown : HarborUnknown)
    (round : Nat) :
    ∃ s,
      pushSocketDataLoop id unknown (round + 1) h chunk chunk.length =
          .ok (h.set id s, []) ∧
        Holding s fd (rest ++ chunk) := by
  rw [pushSocketDataLoop_header (holding.status_header short)]
  by_cases stillShort : (rest ++ chunk).length < 4
  · obtain ⟨s, isCase, held⟩ :=
      headerCase_short holding stillShort unknown round
    exact ⟨s, by rw [isCase]; rfl, held⟩
  · have whole := Nat.le_of_not_lt stillShort
    obtain ⟨s, isCase, held⟩ :=
      headerCase_whole holding short whole (zeroFirst whole)
        unknown round
    have headLength : ((rest ++ chunk).take 4).length = 4 :=
      List.length_take_of_le whole
    by_cases isEmpty : (rest ++ chunk).drop 4 = []
    · simp only [if_pos isEmpty] at isCase
      have isWhole : (rest ++ chunk).take 4 = rest ++ chunk :=
        List.take_of_length_le (List.drop_eq_nil_iff.mp isEmpty)
      rw [isWhole] at held
      exact ⟨s, by rw [isCase]; rfl, held⟩
    · simp only [if_neg isEmpty] at isCase
      have inBody :
          (rest ++ chunk).length - 4 <
            harborFraming.bodyLength ((rest ++ chunk).take 4) := by
        rcases unfinished with atMost | inBody
        · exact (isEmpty (List.drop_eq_nil_of_le atMost)).elim
        · exact inBody
      have heldSet :
          Holding ((h.set id s).s id) fd ((rest ++ chunk).take 4) := by
        simpa using held
      have stillInBody :
          ((rest ++ chunk).take 4).length - 4 +
              ((rest ++ chunk).drop 4).length <
            harborFraming.bodyLength (((rest ++ chunk).take 4).take 4) := by
        rw [headLength, List.take_take, List.length_drop]
        simpa using inBody
      obtain ⟨s', isDone, isBuffer, held'⟩ :=
        contentCase_short heldSet (Nat.le_of_eq headLength.symm) rfl
          stillInBody unknown round
      have isJoined :
          (rest ++ chunk).take 4 ++ (rest ++ chunk).drop 4 =
            rest ++ chunk :=
        List.take_append_drop 4 (rest ++ chunk)
      have noBody : ((rest ++ chunk).take 4).drop 4 = [] :=
        List.drop_eq_nil_of_le (Nat.le_of_eq headLength)
      rw [isJoined, isBuffer, noBody] at held'
      rw [Harbor.set_set] at isDone
      exact ⟨s', by rw [isCase, isDone]; rfl, held' rfl⟩

/-- The end of the data is kept. -/
theorem pushSocketDataLoop_rest
    (holding : Holding (h.s id) fd rest)
    (nonempty : chunk ≠ [])
    (unfinished : Unfinished (rest ++ chunk))
    (keepsWell : KeepsWell (rest ++ chunk))
    (unknown : HarborUnknown)
    (round : Nat) :
    ∃ s,
      pushSocketDataLoop id unknown (round + 1) h chunk chunk.length =
          .ok (h.set id s, []) ∧
        Holding s fd (rest ++ chunk) := by
  have positive := List.length_pos_iff.mpr nonempty
  by_cases short : rest.length < 4
  · exact
      pushSocketDataLoop_rest_of_lt holding short unfinished
        keepsWell.zeroFirst unknown round
  · have long := Nat.le_of_not_lt short
    have isHeader : (rest ++ chunk).take 4 = rest.take 4 :=
      List.take_append_of_le_length long
    have inBody :
        rest.length - 4 + chunk.length <
          harborFraming.bodyLength (rest.take 4) := by
      rcases unfinished with atMost | inBody
      · rw [List.length_append] at atMost
        omega
      · rw [isHeader, List.length_append] at inBody
        omega
    obtain ⟨s, isCase, isBuffer, held⟩ :=
      contentCase_short holding long rfl inBody unknown round
    have isContent : (rest ++ chunk).drop 4 = rest.drop 4 ++ chunk :=
      List.drop_append_of_le_length long
    have isJoined :
        s.recv_buffer = cString ((rest ++ chunk).drop 4) := by
      have zerosTrail := keepsWell.zerosTrail
      rw [isContent] at zerosTrail ⊢
      rw [isBuffer, cString_append zerosTrail]
    refine ⟨s, ?_, held isJoined⟩
    rw [pushSocketDataLoop_content (holding.status_content long), isCase]
    rfl

end Loop

end SkynetCpp
