import SkynetCpp.HarborStates

namespace SkynetCpp

open Foundation

/-!
# Slaves that are alike

A parser in the middle of a header does not look at the bytes of `size` that
are still to come.  Slaves that differ in these only do the same with the same
data.
-/

namespace Slave

/-- The bytes of a header that have arrived. -/
def begunHeader (s : Slave) : List UInt8 :=
  s.size.take s.read.toNat

/-- What the parser of a slave goes by. -/
def parser
    (s : Slave) : HarborStatus × Int × Int × List UInt8 × List UInt8 :=
  (s.status, s.read, s.length, s.begunHeader, s.recv_buffer)

/-- The counters of a slave, with its array of four bytes. -/
structure Framed (s : Slave) : Prop extends Counted s where
  positive : 0 ≤ s.read
  size : s.size.length = 4

/-- Two slaves that only differ in bytes of `size` that are still to come. -/
structure Alike (s s' : Slave) : Prop extends Framed s where
  same : s' = { s with size := s'.size }
  size' : s'.size.length = 4
  begun : s'.begunHeader = s.begunHeader
  begunContent : s.status = .content → s' = s

variable {s s' : Slave}

theorem Framed.alike
    (framed : s.Framed) :
    s.Alike s :=
  { framed with
    same := rfl
    size' := framed.size
    begun := rfl
    begunContent := fun _ => rfl }

/-- What a parser goes by is the same in two slaves that are alike. -/
theorem Alike.parser_eq
    (alike : s.Alike s') :
    s'.parser = s.parser := by
  unfold parser
  rw [alike.begun, alike.same]

/-- The other slave is framed, too. -/
theorem Alike.framed'
    (alike : s.Alike s') :
    s'.Framed := by
  rw [alike.same]
  exact
    { outside := alike.outside
      content := alike.content
      positive := alike.positive
      size := alike.size' }

/-- A parser that is left as it is stays framed. -/
theorem SameParser.framed
    (same : s.SameParser s')
    (framed : s.Framed) :
    s'.Framed :=
  { same.counted framed.toCounted with
    positive := by rw [same.read]; exact framed.positive
    size := by rw [same.size]; exact framed.size }

/-- The array after some more bytes of a header. -/
def received
    (s : Slave)
    (buffer : List UInt8)
    (count : Int) : List UInt8 :=
  s.size.take s.read.toNat ++ buffer.take count.toNat ++
    s.size.drop (s.read + count).toNat

/-- The array keeps its four bytes, and the bytes that have arrived are known. -/
theorem Framed.received_spec
    (framed : s.Framed)
    {buffer : List UInt8}
    {count : Int}
    (some : 0 ≤ count)
    (fits : s.read + count ≤ 4)
    (given : count ≤ buffer.length) :
    (s.received buffer count).length = 4 ∧
      (s.received buffer count).take (s.read + count).toNat =
        s.begunHeader ++ buffer.take count.toNat := by
  have positive := framed.positive
  have size := framed.size
  have isLength :
      (s.size.take s.read.toNat ++ buffer.take count.toNat).length =
        (s.read + count).toNat := by
    simp only [List.length_append, List.length_take]
    omega
  refine ⟨?_, ?_⟩
  · unfold received
    rw [List.length_append, isLength, List.length_drop]
    omega
  · unfold received begunHeader
    exact List.take_left' isLength

/-- A slave that has got a whole header is framed in its body. -/
theorem framed_started
    (s : Slave)
    {head : List UInt8}
    (isHead : head.length = 4) :
    ({ s with
        size := head
        length := (harborFraming.bodyLength head : Int)
        read := 0
        status := .content } : Slave).Framed := by
  have bound : (harborFraming.bodyLength head : Int) < 2 ^ 24 := by
    exact_mod_cast harborFraming_bodyLength_lt head
  exact
    { outside := fun outside => absurd rfl outside
      content := fun _ => ⟨Int.natCast_nonneg _, bound⟩
      positive := le_refl _
      size := isHead }

/-- A whole header is the same in slaves that are alike. -/
theorem Alike.received_eq
    (alike : s.Alike s')
    {buffer : List UInt8}
    {count : Int}
    (whole : s.read + count = 4) :
    s'.received buffer count = s.received buffer count := by
  have begun := alike.begun
  have size := alike.size
  have size' := alike.size'
  have sameRead : s'.read = s.read := by rw [alike.same]
  unfold begunHeader at begun
  unfold received
  rw [begun, sameRead, whole, List.drop_eq_nil_of_le (by omega),
    List.drop_eq_nil_of_le (by omega)]

end Slave

section Cases

variable
    {h : Harbor}
    {id : Nat}
    {s' : Slave}
    {buffer : List UInt8}
    {size : Int}

/-- The rest of the data has the size that goes with it. -/
def PushFlow.Measured : PushFlow → Prop
  | .returned => True
  | .next buffer size => (buffer.length : Int) = size

/-- A slave that receives content stays framed. -/
theorem contentCase_framed
    (framed : (h.s id).Framed)
    (isContent : (h.s id).status = .content)
    (measured : (buffer.length : Int) = size)
    (unknown : HarborUnknown)
    (round : Nat) :
    ((contentCase h id unknown round buffer size).1.s id).Framed ∧
      (contentCase h id unknown round buffer size).2.2.Measured := by
  have counts := framed.content isContent
  have counted :=
    (contentCase_counted framed.toCounted isContent unknown round buffer
      size).1
  refine ⟨⟨counted, ?_, ?_⟩, ?_⟩
  · have positive := framed.positive
    unfold contentCase
    dsimp only
    split
    · rw [Harbor.modify_s_self]
      dsimp only
      omega
    · split
      · rw [Harbor.modify_s_self]
      · rw [Harbor.modify_s_self]
  · have array := framed.size
    unfold contentCase
    dsimp only
    split
    · rw [Harbor.modify_s_self]
      exact array
    · split
      · rw [Harbor.modify_s_self]
        exact array
      · rw [Harbor.modify_s_self]
        exact array
  · unfold contentCase
    dsimp only
    split
    · trivial
    · split
      · trivial
      · simp only [PushFlow.Measured, List.length_drop]
        omega

/-- A slave that receives a header stays framed. -/
theorem headerCase_framed
    (framed : (h.s id).Framed)
    (isHeader : (h.s id).status = .header)
    (measured : (buffer.length : Int) = size)
    (unknown : HarborUnknown)
    (round : Nat) :
    ((headerCase h id unknown round buffer size).1.s id).Framed ∧
      (headerCase h id unknown round buffer size).2.2.Measured := by
  have counted :=
    (headerCase_counted framed.toCounted isHeader unknown round buffer size).1
  have short := (framed.outside (by simp [isHeader])).1
  have positive := framed.positive
  have array (count : Int) (some : 0 ≤ count)
      (fits : (h.s id).read + count ≤ 4) (given : count ≤ buffer.length) :
      ((h.s id).received buffer count).length = 4 :=
    (framed.received_spec some fits given).1
  suffices rest :
      (0 ≤ ((headerCase h id unknown round buffer size).1.s id).read ∧
        ((headerCase h id unknown round buffer size).1.s id).size.length = 4) ∧
        (headerCase h id unknown round buffer size).2.2.Measured by
    exact ⟨⟨counted, rest.1.1, rest.1.2⟩, rest.2⟩
  clear counted
  unfold headerCase
  dsimp only
  split
  · next tooFew =>
      refine ⟨⟨?_, ?_⟩, trivial⟩
      · rw [Harbor.modify_s_self]
        dsimp only
        omega
      · rw [Harbor.modify_s_self]
        exact array size (by omega) (by omega) (by omega)
  · next enough =>
      have isWhole :=
        array (4 - (h.s id).read) (by omega) (by omega) (by omega)
      unfold Slave.received at isWhole
      split
      · refine ⟨⟨?_, ?_⟩, trivial⟩
        · unfold closeHarbor
          rw [Harbor.modify_s_self, Harbor.modify_s_self]
          exact positive
        · unfold closeHarbor
          rw [Harbor.modify_s_self, Harbor.modify_s_self]
          exact isWhole
      · split
        · refine ⟨⟨?_, ?_⟩, trivial⟩
          · rw [Harbor.modify_s_self]
          · rw [Harbor.modify_s_self, Harbor.modify_s_self]
            exact isWhole
        · have begun := Slave.framed_started (h.s id) isWhole
          have received :=
            contentCase_framed
              (h :=
                (h.modify id fun s =>
                  { s with
                    size := (h.s id).received buffer (4 - (h.s id).read) }).modify
                  id fun s =>
                    { s with
                      length :=
                        (harborFraming.bodyLength
                          ((h.s id).received buffer (4 - (h.s id).read)) : Int)
                      read := 0
                      status := .content })
              (by rw [Harbor.modify_s_self, Harbor.modify_s_self]; exact begun)
              (by rw [Harbor.modify_s_self])
              (by rw [List.length_drop]; omega :
                ((buffer.drop (4 - (h.s id).read).toNat).length : Int) =
                  size - (4 - (h.s id).read))
              unknown round
          exact ⟨⟨received.1.positive, received.1.size⟩, received.2⟩

/-- A header of which too few bytes have arrived is kept as it is. -/
theorem headerCase_begun
    {unknown : HarborUnknown}
    {round : Nat}
    (tooFew : size < 4 - (h.s id).read) :
    headerCase h id unknown round buffer size =
      (h.set id
          { h.s id with
            size := (h.s id).received buffer size
            read := (h.s id).read + size },
        [], .returned) := by
  unfold headerCase
  dsimp only
  rw [if_pos tooFew]
  rfl

/-- A whole header is received in the same way by slaves that are alike. -/
theorem headerCase_alike
    (alike : (h.s id).Alike s')
    (isHeader : (h.s id).status = .header)
    (measured : (buffer.length : Int) = size)
    (unknown : HarborUnknown)
    (round : Nat) :
    ∃ t',
      headerCase (h.set id s') id unknown round buffer size =
          ((headerCase h id unknown round buffer size).1.set id t',
            (headerCase h id unknown round buffer size).2) ∧
        ((headerCase h id unknown round buffer size).1.s id).Alike t' := by
  have framed :=
    (headerCase_framed alike.toFramed isHeader measured unknown round).1
  have short := (alike.outside (by simp [isHeader])).1
  have sameRead : s'.read = (h.s id).read := by rw [alike.same]
  by_cases tooFew : size < 4 - (h.s id).read
  · have spec :=
      alike.received_spec (by omega) (by omega)
        (le_of_eq measured.symm : size ≤ buffer.length)
    have spec' :=
      alike.framed'.received_spec (by omega) (by omega)
        (le_of_eq measured.symm : size ≤ buffer.length)
    refine
      ⟨{ s' with
          size := s'.received buffer size, read := (h.s id).read + size },
        ?_, ?_⟩
    · have tooFew' : size < 4 - ((h.set id s').s id).read := by
        rw [Harbor.set_s, sameRead]
        exact tooFew
      rw [headerCase_begun tooFew, headerCase_begun tooFew', Harbor.set_set,
        Harbor.set_set, Harbor.set_s, sameRead]
    · have outside : (h.s id).status ≠ .content := by simp [isHeader]
      rw [headerCase_begun tooFew] at framed ⊢
      rw [Harbor.set_s] at framed ⊢
      rw [sameRead] at spec'
      refine
        { framed with
          same := ?_
          size' := spec'.1
          begun := ?_
          begunContent := ?_ }
      · rw [alike.same]
      · unfold Slave.begunHeader
        dsimp only
        rw [spec.2, spec'.2, alike.begun]
      · intro isContent
        exact absurd isContent outside
  · have modified :
        ((h.set id s').modify id fun s =>
            { s with size := s'.received buffer (4 - (h.s id).read) }) =
          h.modify id fun s =>
            { s with size := (h.s id).received buffer (4 - (h.s id).read) } := by
      rw [Harbor.modify_eq_set, Harbor.modify_eq_set, Harbor.set_set,
        Harbor.set_s, alike.received_eq (by omega), alike.same]
    have sameCase :
        headerCase (h.set id s') id unknown round buffer size =
          headerCase h id unknown round buffer size := by
      unfold headerCase
      dsimp only
      rw [Harbor.set_s, sameRead, if_neg tooFew, if_neg tooFew]
      unfold Slave.received at modified
      rw [sameRead] at modified
      rw [modified]
      have same := @alike.received_eq _ _ buffer (4 - (h.s id).read) (by omega)
      unfold Slave.received at same
      rw [sameRead] at same
      simp only [same]
    refine ⟨_, ?_, framed.alike⟩
    rw [sameCase, Harbor.set_self]

/-- A change of other fields, outside of a body. -/
theorem Slave.Alike.changed
    {s t : Slave}
    (alike : s.Alike s')
    (same : s.SameParser t)
    (outside : t.status ≠ .content) :
    t.Alike { t with size := s'.size } := by
  have sameRead : s'.read = s.read := by rw [alike.same]
  have begun := alike.begun
  unfold begunHeader at begun
  refine
    { same.framed alike.toFramed with
      same := rfl
      size' := alike.size'
      begun := ?_
      begunContent := fun isContent => absurd isContent outside }
  unfold begunHeader
  rw [same.read, same.size, ← begun, sameRead]

/-- `dispatch_queue` does not look at the parser. -/
theorem dispatchQueue_alike
    {h' : Harbor}
    {stack : List UInt8}
    {actions : List HarborAction}
    (alike : (h.s id).Alike s')
    (outside : (h.s id).status ≠ .content)
    (done : h.dispatchQueue id stack = .ok (h', actions)) :
    ∃ t',
      (h.set id s').dispatchQueue id stack = .ok (h'.set id t', actions) ∧
        (h'.s id).Alike t' ∧ (h'.s id).status = (h.s id).status := by
  unfold Harbor.dispatchQueue at done ⊢
  dsimp only at done ⊢
  have sameFd : s'.fd = (h.s id).fd := by rw [alike.same]
  have sameQueue : s'.queue = (h.s id).queue := by rw [alike.same]
  rw [Harbor.set_s, sameFd, sameQueue]
  split at done
  · cases done
  · next connected =>
      rw [if_neg connected]
      split at done
      · next nothing =>
          cases done
          exact ⟨s', rfl, alike, rfl⟩
      · next queue isQueue =>
          obtain ⟨made, looped, isDone⟩ := bind_eq_ok_iff.mp done
          cases isDone
          rw [looped]
          refine ⟨{ { h.s id with queue := none } with size := s'.size }, ?_, ?_, ?_⟩
          · simp only [bind, Except.bind, Harbor.modify_eq_set, Harbor.set_set,
              Harbor.set_s]
            rw [alike.same]
          · rw [Harbor.modify_s_self]
            exact
              alike.changed ⟨Or.inl rfl, rfl, rfl, rfl, rfl⟩ outside
          · rw [Harbor.modify_s_self]

/-- The handshake does not look at the header that has begun. -/
theorem handshakeCase_alike
    {unknown : HarborUnknown}
    {round : Nat}
    {result : PushResult}
    (alike : (h.s id).Alike s')
    (isHandshake : (h.s id).status = .handshake)
    (measured : (buffer.length : Int) = size)
    (arrived : 0 < size)
    (done : handshakeCase h id unknown round buffer size = .ok result) :
    ∃ t',
      handshakeCase (h.set id s') id unknown round buffer size =
          .ok (result.1.set id t', result.2) ∧
        (result.1.s id).Alike t' ∧ result.2.2.Measured ∧
        ((result.1.s id).status = .handshake →
          ∀ rest left, result.2.2 = .next rest left → 0 < left) := by
  have outside : (h.s id).status ≠ .content := by simp [isHandshake]
  have sameFd : s'.fd = (h.s id).fd := by rw [alike.same]
  unfold handshakeCase at done ⊢
  dsimp only at done ⊢
  split at done
  · next wrong =>
      cases done
      refine
        ⟨{ { h.s id with status := .down, fd := 0, queue := none } with
            size := s'.size }, ?_, ?_, trivial,
          fun _ _ _ impossible => by cases impossible⟩
      · rw [if_pos wrong, Harbor.set_s, sameFd]
        unfold closeHarbor
        rw [Harbor.set_s, sameFd, Harbor.modify_eq_set, Harbor.modify_eq_set,
          Harbor.set_set, Harbor.set_set, Harbor.set_s, alike.same]
      · unfold closeHarbor
        rw [Harbor.modify_s_self]
        exact
          alike.changed ⟨Or.inr ⟨outside, by simp⟩, rfl, rfl, rfl, rfl⟩
            (by simp)
  · next right =>
      rw [if_neg right]
      have begun :
          ((h.modify id fun s => { s with status := .header }).s id).Alike
            { { h.s id with status := .header } with size := s'.size } := by
        rw [Harbor.modify_s_self]
        exact
          alike.changed ⟨Or.inr ⟨outside, by simp⟩, rfl, rfl, rfl, rfl⟩
            (by simp)
      have sameModified :
          ((h.set id s').modify id fun s => { s with status := .header }) =
            (h.modify id fun s => { s with status := .header }).set id
              { { h.s id with status := .header } with size := s'.size } := by
        rw [Harbor.modify_eq_set, Harbor.modify_eq_set, Harbor.set_set,
          Harbor.set_set, Harbor.set_s, alike.same]
      obtain ⟨⟨flushed, sent⟩, dispatched, isDone⟩ := bind_eq_ok_iff.mp done
      obtain ⟨t', dispatched', flushedAlike, sameStatus⟩ :=
        dispatchQueue_alike begun (by rw [Harbor.modify_s_self]; simp)
          dispatched
      rw [sameModified, dispatched']
      have isHeader : (flushed.s id).status = .header := by
        rw [sameStatus, Harbor.modify_s_self]
      dsimp only at isDone
      by_cases finished : size - 1 = 0
      · rw [if_pos finished] at isDone
        cases isDone
        refine ⟨t', ?_, flushedAlike, ?_, ?_⟩
        · simp only [bind, Except.bind, if_pos finished]
        · simp only [PushFlow.Measured, List.length_drop]
          omega
        · intro shaking
          rw [isHeader] at shaking
          cases shaking
      · rw [if_neg finished] at isDone
        cases isDone
        have short : ((buffer.drop 1).length : Int) = size - 1 := by
          rw [List.length_drop]
          omega
        obtain ⟨u', sameCase, headerAlike⟩ :=
          headerCase_alike flushedAlike isHeader short unknown round
        refine ⟨u', ?_, headerAlike, ?_, ?_⟩
        · simp only [bind, Except.bind, if_neg finished, sameCase]
        · exact
            (headerCase_framed flushedAlike.toFramed isHeader short unknown
              round).2
        · intro _ rest left isNext
          exact
            ((headerCase_counted flushedAlike.toCounted isHeader unknown round
              (buffer.drop 1) (size - 1)).2 rest left isNext).2.1

end Cases

section Loop

variable
    {h h' : Harbor}
    {id : Nat}
    {s' : Slave}
    {unknown : HarborUnknown}
    {actions : List HarborAction}

/-- The loop does the same with slaves that are alike. -/
theorem pushSocketDataLoop_alike
    {round : Nat}
    {buffer : List UInt8}
    {size : Int}
    (alike : (h.s id).Alike s')
    (measured : (buffer.length : Int) = size)
    (arrived : (h.s id).status = .handshake → 0 < size)
    (done :
      pushSocketDataLoop id unknown round h buffer size = .ok (h', actions)) :
    ∃ t',
      pushSocketDataLoop id unknown round (h.set id s') buffer size =
          .ok (h'.set id t', actions) ∧
        (h'.s id).Alike t' := by
  induction round generalizing h s' actions buffer size with
  | zero =>
      cases done
  | succ round inductionHypothesis =>
      have sameStatus : ((h.set id s').s id).status = (h.s id).status := by
        rw [Harbor.set_s, alike.same]
      have followed (result : PushResult) (t' : Slave)
          (nextAlike : (result.1.s id).Alike t')
          (nextMeasured : result.2.2.Measured)
          (nextArrived :
            (result.1.s id).status = .handshake →
              ∀ rest left, result.2.2 = .next rest left → 0 < left)
          (isDone : follow id unknown round result = .ok (h', actions)) :
          ∃ u',
            follow id unknown round (result.1.set id t', result.2) =
                .ok (h'.set id u', actions) ∧
              (h'.s id).Alike u' := by
        obtain ⟨next, sent, flow⟩ := result
        cases flow with
        | returned =>
            cases isDone
            exact ⟨t', rfl, nextAlike⟩
        | next rest left =>
            simp only [follow, after] at isDone
            split at isDone
            · next last later isLater =>
                cases isDone
                obtain ⟨u', isLater', lastAlike⟩ :=
                  inductionHypothesis nextAlike nextMeasured
                    (fun shaking => nextArrived shaking rest left rfl) isLater
                exact ⟨u', by simp only [follow, after, isLater'], lastAlike⟩
            · cases isDone
      cases isStatus : (h.s id).status with
      | header =>
          rw [pushSocketDataLoop_header isStatus] at done
          obtain ⟨t', sameCase, nextAlike⟩ :=
            headerCase_alike alike isStatus measured unknown round
          rw [pushSocketDataLoop_header (sameStatus.trans isStatus), sameCase]
          refine
            followed _ t' nextAlike
              (headerCase_framed alike.toFramed isStatus measured unknown
                round).2
              (fun _ rest left isNext => ?_) done
          exact
            ((headerCase_counted alike.toCounted isStatus unknown round buffer
              size).2 rest left isNext).2.1
      | content =>
          have same := alike.begunContent isStatus
          subst same
          rw [Harbor.set_self]
          rw [pushSocketDataLoop_content isStatus] at done ⊢
          have framed :=
            contentCase_framed alike.toFramed isStatus measured unknown round
          have onwards :=
            followed _ _ framed.1.alike framed.2
              (fun _ rest left isNext =>
                ((contentCase_counted alike.toCounted isStatus unknown round
                  buffer size).2 rest left isNext).2.1)
              done
          rwa [Harbor.set_self] at onwards
      | handshake =>
          have whole := done
          simp only [pushSocketDataLoop, isStatus] at done
          obtain ⟨result, isCase, _⟩ := bind_eq_ok_iff.mp done
          obtain ⟨t', sameCase, nextAlike, nextMeasured, nextArrived⟩ :=
            handshakeCase_alike alike isStatus measured (arrived isStatus) isCase
          rw [pushSocketDataLoop_handshake isStatus isCase] at whole
          rw [pushSocketDataLoop_handshake (sameStatus.trans isStatus) sameCase]
          exact followed result t' nextAlike nextMeasured nextArrived whole
      | wait =>
          simp only [pushSocketDataLoop, isStatus] at done
          cases done
          refine ⟨s', ?_, alike⟩
          simp only [pushSocketDataLoop, sameStatus.trans isStatus]
          rfl
      | down =>
          simp only [pushSocketDataLoop, isStatus] at done
          cases done
          refine ⟨s', ?_, alike⟩
          simp only [pushSocketDataLoop, sameStatus.trans isStatus]
          rfl

/-- `push_socket_data` does the same with slaves that are alike. -/
theorem pushSocketData_alike
    {fd : Int}
    {receipt : HarborReceipt}
    (alike : (h.s id).Alike s')
    (alone :
      ∀ other < kRemoteMax, other ≠ id → (h.s other).fd ≠ fd)
    (nonempty : receipt.bytes ≠ [])
    (done :
      pushSocketData h (receipt.message fd) receipt.unknown =
        .ok (h', actions)) :
    (∃ t',
        pushSocketData (h.set id s') (receipt.message fd) receipt.unknown =
            .ok (h'.set id t', actions) ∧
          (h'.s id).Alike t') ∧
      ∀ other, other ≠ id → h'.s other = h.s other := by
  have sameFd : s'.fd = (h.s id).fd := by rw [alike.same]
  have arrived : 0 < (receipt.bytes.length : Int) := by
    exact_mod_cast List.length_pos_iff.mpr nonempty
  unfold pushSocketData at done ⊢
  rw [if_neg (by simp [HarborReceipt.message])] at done ⊢
  have found : (receipt.message fd).id = fd := rfl
  rw [found] at done ⊢
  rw [findSlave_set sameFd]
  cases isFound : findSlave h fd with
  | none =>
      rw [isFound] at done
      cases done
      exact ⟨⟨s', rfl, alike⟩, fun _ _ => rfl⟩
  | some slave =>
      have same : slave = id := by
        by_contra different
        have inRange := List.mem_range.mp (List.mem_of_find?_eq_some isFound)
        have isSlave := List.find?_some isFound
        exact alone slave inRange different (of_decide_eq_true isSlave).2
      subst same
      rw [isFound] at done
      exact
        ⟨pushSocketDataLoop_alike alike rfl (fun _ => arrived) done,
          fun other different => pushSocketDataLoop_s_of_ne different done⟩

/-- `push_socket_data` keeps the slaves framed. -/
theorem pushSocketData_framed
    {message : SkynetSocketMessage}
    (framed : ∀ id, (h.s id).Framed)
    (nonempty : message.buffer ≠ [])
    (whole : message.ud = message.buffer.length)
    (done : pushSocketData h message unknown = .ok (h', actions))
    (id : Nat) :
    (h'.s id).Framed := by
  have arrived : 0 < message.ud := by
    rw [whole]
    exact_mod_cast List.length_pos_iff.mpr nonempty
  unfold pushSocketData at done
  split at done
  · cases done
  · split at done
    · cases done
      exact framed id
    · next slave found =>
        by_cases same : id = slave
        · subst same
          obtain ⟨_, _, alike⟩ :=
            pushSocketDataLoop_alike (framed id).alike whole.symm
              (fun _ => arrived) done
          exact alike.toFramed
        · rw [pushSocketDataLoop_s_of_ne same done]
          exact framed id

/-- A connection does the same with slaves that are alike. -/
theorem feed_alike
    {fd : Int}
    {receipts : List HarborReceipt}
    (alike : (h.s id).Alike s')
    (alone :
      ∀ other < kRemoteMax, other ≠ id → (h.s other).fd ≠ fd)
    (nonempty : ∀ receipt ∈ receipts, receipt.bytes ≠ [])
    (done : feed fd h receipts = .ok (h', actions)) :
    ∃ t',
      feed fd (h.set id s') receipts = .ok (h'.set id t', actions) ∧
        (h'.s id).Alike t' := by
  induction receipts generalizing h s' actions with
  | nil =>
      cases done
      exact ⟨s', rfl, alike⟩
  | cons receipt receipts inductionHypothesis =>
      simp only [feed] at done ⊢
      split at done
      · next next sent isPushed =>
          obtain ⟨⟨t', isPushed', nextAlike⟩, others⟩ :=
            pushSocketData_alike alike alone
              (nonempty receipt List.mem_cons_self) isPushed
          rw [isPushed']
          unfold after at done
          split at done
          · next last later isFed =>
              cases done
              obtain ⟨u', isFed', lastAlike⟩ :=
                inductionHypothesis nextAlike
                  (fun other inRange different => by
                    rw [others other different]
                    exact alone other inRange different)
                  (fun receipt member =>
                    nonempty receipt (List.mem_cons_of_mem _ member))
                  isFed
              exact ⟨u', by simp only [after, isFed'], lastAlike⟩
          · cases done
      · cases done

end Loop

end SkynetCpp
