import SkynetCpp.HarborDefects

namespace SkynetCpp

open Foundation

/-!
# Frames too short for a cookie

`push_socket_data` looks at the first byte of the announced length only.  What
it hands to `forward_local_messsage` has the twelve bytes of a cookie, and was
received as it is, exactly when the remote sends such frames only.
-/

/--
Every message handed on is a frame of the stream with a cookie in it, whatever
the memory around the strings holds.
-/
def HandsOnFrames
    (h : Harbor)
    (id : Nat)
    (stream : List UInt8) : Prop :=
  ∀ receipts, IsCut receipts stream →
    ∃ h' actions frames rest,
      feed (h.s id).fd h receipts = .ok (h', actions) ∧
        harborFraming.Splits stream frames rest ∧
        forwarded actions <+: frames.map WireFrame.body ∧
        ∀ msg ∈ forwarded actions,
          kHeaderCookieLength ≤ (msg.length : Int)

/-- A frame with a cookie that comes through a string as it is. -/
structure CarriesCookie (frame : HarborFrame) : Prop where
  cookie : kHeaderCookieLength ≤ (frame.body.length : Int)
  zeroLastOnly : ZeroLastOnly frame.body

/--
The frames that are handed on, up to a refused header, all carry a cookie.
-/
def CarriesCookies (stream : List UInt8) : Prop :=
  ∃ frames rest,
    Deferred stream frames rest ∧
      ∀ frame ∈ frames.takeWhile fun frame => frame.header.getD 0 0 = 0,
        CarriesCookie frame

variable
    {h h' : Harbor}
    {id : Nat}
    {fd : Int}
    {stream rest tail more chunk : List UInt8}
    {frames : List HarborFrame}

section End

/-- A part of the stream with no further frame: unfinished, or refused. -/
def Ends (tail : List UInt8) : Prop :=
  Unfinished tail ∨ 4 ≤ tail.length ∧ ¬ ZeroFirst (tail.take 4)

/-- No other slave has the descriptor. -/
def Alone
    (h : Harbor)
    (id : Nat)
    (fd : Int) : Prop :=
  ∀ other, other ≠ id → (h.s other).fd ≠ fd

/-- A slave that hands nothing on in the bytes to come. -/
inductive Ended
    (h : Harbor)
    (id : Nat)
    (fd : Int)
    (more : List UInt8) : Prop where
  | closed (nobody : findSlave h fd = none)
  | body
      (found : findSlave h fd = some id)
      (isStatus : (h.s id).status = .content)
      (lacks :
        more = [] ∨
          (more.length : Int) < (h.s id).length - (h.s id).read)
  | header
      (rest : List UInt8)
      (found : findSlave h fd = some id)
      (holding : Holding (h.s id) fd rest)
      (short : rest.length < 4)
      (ends : Ends (rest ++ more))

/-- The slave that is found has the descriptor. -/
theorem fd_of_findSlave
    (found : findSlave h fd = some id) :
    (h.s id).fd = fd := by
  have isSlave := List.find?_some found
  exact (of_decide_eq_true isSlave).2

/-- Nobody has the descriptor once its slave has given it up. -/
theorem findSlave_eq_none
    (alone : Alone h id fd)
    {s : Slave}
    (notIts : s.fd ≠ fd) :
    findSlave (h.set id s) fd = none := by
  rw [findSlave, List.find?_eq_none]
  intro other _ isSlave
  obtain ⟨_, isFd⟩ := of_decide_eq_true isSlave
  by_cases isSame : other = id
  · subst isSame
    exact notIts (by simpa using isFd)
  · rw [Harbor.set_s_of_ne h id isSame] at isFd
    exact alone other isSame isFd

/-- Replacing the slave leaves it alone with its descriptor. -/
theorem Alone.set
    (alone : Alone h id fd)
    (s : Slave) :
    Alone (h.set id s) id fd := by
  intro other different
  rw [Harbor.set_s_of_ne h id different]
  exact alone other different

/-- A slave that holds bytes without a further frame behind them. -/
theorem Ended.of_holding
    (holding : Holding (h.s id) fd rest)
    (found : findSlave h fd = some id)
    (zeroFirst : 4 ≤ rest.length → ZeroFirst (rest.take 4))
    (ends : Ends (rest ++ more)) :
    Ended h id fd more := by
  by_cases short : rest.length < 4
  · exact Ended.header rest found holding short ends
  · have long := Nat.le_of_not_lt short
    have isHeader : (rest ++ more).take 4 = rest.take 4 :=
      List.take_append_of_le_length long
    have parser := holding.parser
    rw [if_neg short] at parser
    obtain ⟨isStatus, isLength, isRead, _⟩ := parser
    refine Ended.body found isStatus ?_
    rcases ends with unfinished | ⟨_, notZero⟩
    · rw [Unfinished, isHeader, List.length_append] at unfinished
      rw [isLength, isRead, ← List.length_eq_zero_iff]
      omega
    · rw [isHeader] at notZero
      exact (notZero (zeroFirst long)).elim

/-- A part of a body is kept and nothing is handed on. -/
theorem contentCase_lacks
    (unknown : HarborUnknown)
    (round : Nat)
    (lacks :
      (chunk.length : Int) < (h.s id).length - (h.s id).read) :
    ∃ s,
      contentCase h id unknown round chunk chunk.length =
          (h.set id s, [], .returned) ∧
        s.fd = (h.s id).fd ∧ s.status = (h.s id).status ∧
        s.length = (h.s id).length ∧
        s.read = (h.s id).read + chunk.length := by
  refine
    ⟨{ h.s id with
        recv_buffer := (h.s id).recv_buffer ++ cString chunk
        read := (h.s id).read + chunk.length }, ?_, rfl, rfl, rfl, rfl⟩
  simp only [contentCase, if_pos lacks, Harbor.modify_eq_set]

/-- A round of the loop hands nothing on at the end of the frames. -/
theorem pushSocketDataLoop_ended
    (alone : Alone h id fd)
    (connected : fd ≠ 0)
    (nonempty : chunk ≠ [])
    (found : findSlave h fd = some id)
    (ended : Ended h id fd (chunk ++ more))
    (unknown : HarborUnknown)
    (round : Nat) :
    ∃ s actions,
      pushSocketDataLoop id unknown (round + 1) h chunk chunk.length =
          .ok (h.set id s, actions) ∧
        forwarded actions = [] ∧ Ended (h.set id s) id fd more := by
  have positive := List.length_pos_iff.mpr nonempty
  cases ended with
  | closed nobody =>
      rw [found] at nobody
      cases nobody
  | body _ isStatus lacks =>
      have isPart :
          (chunk.length : Int) + more.length <
            (h.s id).length - (h.s id).read := by
        rcases lacks with isEmpty | lacks
        · exact (nonempty (List.append_eq_nil_iff.mp isEmpty).1).elim
        · rw [List.length_append] at lacks
          omega
      have chunkLacks :
          (chunk.length : Int) < (h.s id).length - (h.s id).read := by
        omega
      obtain ⟨s, isCase, sameFd, sameStatus, sameLength, isRead⟩ :=
        contentCase_lacks unknown round chunkLacks
      refine ⟨s, [], ?_, rfl, ?_⟩
      · rw [pushSocketDataLoop_content isStatus, isCase]
        rfl
      · refine Ended.body ?_ ?_ (Or.inr ?_)
        · rw [findSlave_set sameFd]
          exact found
        · rw [Harbor.set_s, sameStatus, isStatus]
        · rw [Harbor.set_s, sameLength, isRead]
          omega
  | header rest _ holding short ends =>
      rw [← List.append_assoc] at ends
      have keepsEnd :
          ∀ s, Holding s fd (rest ++ chunk) →
            (4 ≤ (rest ++ chunk).length →
              ZeroFirst ((rest ++ chunk).take 4)) →
            Ended (h.set id s) id fd more := by
        intro s held zeroFirst
        have heldSet : Holding ((h.set id s).s id) fd (rest ++ chunk) := by
          simpa using held
        refine Ended.of_holding heldSet ?_ zeroFirst ends
        rw [findSlave_set (held.fd.trans (fd_of_findSlave found).symm)]
        exact found
      by_cases stillShort : (rest ++ chunk).length < 4
      · obtain ⟨s, isCase, held⟩ :=
          headerCase_short holding stillShort unknown round
        refine ⟨s, [], ?_, rfl, keepsEnd s held (fun long => by omega)⟩
        rw [pushSocketDataLoop_header (holding.status_header short), isCase]
        rfl
      · have whole := Nat.le_of_not_lt stillShort
        have isHeader :
            (rest ++ chunk ++ more).take 4 = (rest ++ chunk).take 4 :=
          List.take_append_of_le_length whole
        by_cases zeroFirst : ZeroFirst ((rest ++ chunk).take 4)
        · have unfinished : Unfinished (rest ++ chunk ++ more) := by
            rcases ends with unfinished | ⟨_, notZero⟩
            · exact unfinished
            · rw [isHeader] at notZero
              exact (notZero zeroFirst).elim
          obtain ⟨s, isDone, held⟩ :=
            pushSocketDataLoop_rest_of_lt holding short unfinished.part
              (fun _ => zeroFirst) unknown round
          exact ⟨s, [], isDone, rfl, keepsEnd s held (fun _ => zeroFirst)⟩
        · obtain ⟨s, actions, isCase, noneForwarded, noFd, _⟩ :=
            headerCase_refused holding short whole zeroFirst unknown round
          refine ⟨s, actions, ?_, noneForwarded, Ended.closed ?_⟩
          · rw [pushSocketDataLoop_header (holding.status_header short), isCase]
            rfl
          · apply findSlave_eq_none alone
            rw [noFd]
            exact connected.symm

/-- Nothing is handed on at the end of the frames, however the bytes arrive. -/
theorem feed_ended
    {receipts : List HarborReceipt}
    (alone : Alone h id fd)
    (connected : fd ≠ 0)
    (nonempty : ∀ receipt ∈ receipts, receipt.bytes ≠ [])
    (ended :
      Ended h id fd (receipts.map HarborReceipt.bytes).flatten) :
    ∃ h' actions,
      feed fd h receipts = .ok (h', actions) ∧ forwarded actions = [] := by
  induction receipts generalizing h with
  | nil =>
      exact ⟨h, [], rfl, rfl⟩
  | cons receipt receipts inductionHypothesis =>
      have laterNonempty :
          ∀ other ∈ receipts, other.bytes ≠ [] :=
        fun other member => nonempty other (by simp [member])
      cases isSlave : findSlave h fd with
      | none =>
          obtain ⟨last, later, isFed, noneForwarded⟩ :=
            inductionHypothesis alone laterNonempty (Ended.closed isSlave)
          let report : List HarborAction :=
            [.call (.skynetError
              ("Invalid socket fd (" ++ toString fd ++ ") data"))]
          have isPushed :
              pushSocketData h (receipt.message fd) receipt.unknown =
                .ok (h, report) := by
            simp [pushSocketData, HarborReceipt.message, isSlave, report]
          refine ⟨last, report ++ later, ?_, ?_⟩
          · simp only [feed, isPushed, isFed, after]
          · rw [forwarded_append, noneForwarded]
            rfl
      | some slave =>
          have isId : slave = id := by
            by_contra different
            exact alone slave different (fd_of_findSlave isSlave)
          subst isId
          simp only [List.map_cons, List.flatten_cons] at ended
          obtain ⟨s, actions, isDone, noneForwarded, laterEnded⟩ :=
            pushSocketDataLoop_ended alone connected
              (nonempty receipt (by simp)) isSlave ended receipt.unknown
              (receipt.bytes.length + 1)
          obtain ⟨last, later, isFed, noneLater⟩ :=
            inductionHypothesis (alone.set s) laterNonempty laterEnded
          refine ⟨last, actions ++ later, ?_, ?_⟩
          · rw [feed_cons isSlave, isDone, thenFeed, isFed]
            rfl
          · rw [forwarded_append, noneForwarded, noneLater]
            rfl

end End

section Cookies

/-- A frame with a cookie has a body. -/
theorem CarriesCookie.body_ne_nil
    {frame : HarborFrame}
    (carries : CarriesCookie frame) :
    frame.body ≠ [] := by
  intro noBody
  have cookie := carries.cookie
  rw [noBody] at cookie
  exact absurd cookie (by decide)

/-- The frames up to a refused header start with zero. -/
theorem zeroFirst_of_mem_takeWhile
    {frame : HarborFrame}
    (member :
      frame ∈ frames.takeWhile fun frame => frame.header.getD 0 0 = 0) :
    ZeroFirst frame.header := by
  have isZero := List.mem_takeWhile_imp member
  simpa [ZeroFirst] using isZero

/-- Frames with a cookie behind a header that is not refused. -/
def GoodFrames (frames : List HarborFrame) : Prop :=
  ∀ frame ∈ frames, ZeroFirst frame.header ∧ CarriesCookie frame

theorem GoodFrames.passes
    (good : GoodFrames frames) :
    ∀ frame ∈ frames, Passes frame :=
  fun frame member => ⟨(good frame member).1, (good frame member).2.zeroLastOnly⟩

/-- Good frames alone are a stream that hands on all of them. -/
theorem GoodFrames.deferred
    (good : GoodFrames frames) :
    Deferred (frames.flatMap WireFrame.bytes) frames [] := by
  refine ⟨by simp, Or.inl (by simp), ?_⟩
  intro _ frame isLast
  exact (good frame (List.mem_of_getLast? isLast)).2.body_ne_nil

/-- The loop hands on the good frames that a chunk completes, up to the end. -/
theorem pushSocketDataLoop_good
    (alone : Alone h id fd)
    (connected : fd ≠ 0)
    (holding : Holding (h.s id) fd rest)
    (found : findSlave h fd = some id)
    (zeroFirst : 4 ≤ rest.length → ZeroFirst (rest.take 4))
    (unfinished : Unfinished rest)
    (nonempty : chunk ≠ [])
    (good : GoodFrames frames)
    (isData : rest ++ chunk = frames.flatMap WireFrame.bytes ++ tail)
    (ends : Ends (tail ++ more))
    (unknown : HarborUnknown)
    {round : Nat}
    (enough : frames.length < round) :
    ∃ s actions,
      pushSocketDataLoop id unknown round h chunk chunk.length =
          .ok (h.set id s, actions) ∧
        forwarded actions = frames.map WireFrame.body ∧
        Ended (h.set id s) id fd more := by
  obtain ⟨round, rfl⟩ := Nat.exists_eq_succ_of_ne_zero (by omega : round ≠ 0)
  induction frames generalizing h rest chunk round with
  | nil =>
      have isTail : rest ++ chunk = tail := isData
      rw [← isTail, List.append_assoc] at ends
      exact
        pushSocketDataLoop_ended alone connected nonempty found
          (Ended.of_holding holding found zeroFirst ends) unknown round
  | cons frame frames inductionHypothesis =>
      obtain ⟨isZero, carries⟩ := good frame (by simp)
      have goodLater : GoodFrames frames :=
        fun other member => good other (by simp [member])
      let behind := frames.flatMap WireFrame.bytes ++ tail
      have isFirst : rest ++ chunk = frame.bytes ++ behind := by
        rw [isData, List.flatMap_cons, List.append_assoc]
      have inFrame := unfinished.inFrame isFirst
      obtain ⟨s, actions, isRound, areForwarded, held⟩ :=
        pushSocketDataLoop_frame holding isFirst inFrame
          (Or.inl carries.body_ne_nil) isZero unknown round
      have isForwarded : forwarded actions = [frame.body] := by
        have passes : Passes frame := ⟨isZero, carries.zeroLastOnly⟩
        rw [areForwarded (passes.not_mem_part isFirst inFrame),
          stringBytes_cString carries.zeroLastOnly]
      have heldSet : Holding ((h.set id s).s id) fd [] := by
        simpa using held
      have foundSet : findSlave (h.set id s) fd = some id := by
        rw [findSlave_set (held.fd.trans holding.fd.symm)]
        exact found
      by_cases noMore : behind = []
      · obtain ⟨noBytes, noTail⟩ := List.append_eq_nil_iff.mp noMore
        have noFrames := frames_eq_nil noBytes
        subst noFrames
        subst noTail
        rw [if_pos noMore] at isRound
        exact
          ⟨s, actions, isRound, by simpa using isForwarded,
            Ended.of_holding heldSet foundSet (fun long => by simp at long)
              ends⟩
      · rw [if_neg noMore] at isRound
        obtain ⟨round, rfl⟩ :=
          Nat.exists_eq_succ_of_ne_zero
            (by rw [List.length_cons] at enough; omega : round ≠ 0)
        obtain ⟨s', later, isDone, laterForwarded, ended⟩ :=
          inductionHypothesis (alone.set s) heldSet foundSet
            (fun long => by simp at long) (Or.inl (by simp)) noMore goodLater
            (List.nil_append behind) round (by simpa using enough)
        rw [Harbor.set_set] at isDone ended
        refine ⟨s', actions ++ later, ?_, ?_, ended⟩
        · rw [isRound, follow, isDone, after]
        · rw [forwarded_append, isForwarded, laterForwarded]
          rfl

/-- The good frames of a stream are handed on, and nothing behind them. -/
theorem feed_good
    {receipts : List HarborReceipt}
    (alone : Alone h id fd)
    (connected : fd ≠ 0)
    (holding : Holding (h.s id) fd rest)
    (found : findSlave h fd = some id)
    (nonempty : ∀ receipt ∈ receipts, receipt.bytes ≠ [])
    (keepsWell : KeepsWell rest)
    (unfinished : Unfinished rest)
    (good : GoodFrames frames)
    (isData :
      rest ++ (receipts.map HarborReceipt.bytes).flatten =
        frames.flatMap WireFrame.bytes ++ tail)
    (ends : Ends tail) :
    ∃ h' actions,
      feed fd h receipts = .ok (h', actions) ∧
        forwarded actions = frames.map WireFrame.body := by
  induction receipts generalizing h rest frames with
  | nil =>
      cases frames with
      | nil =>
          exact ⟨h, [], rfl, rfl⟩
      | cons frame frames =>
          have isRest :
              rest ++ [] =
                frame.bytes ++ (frames.flatMap WireFrame.bytes ++ tail) := by
            rw [← List.append_assoc, ← List.flatMap_cons]
            exact isData
          have inFrame := unfinished.inFrame isRest
          have hasBody :=
            List.length_pos_iff.mpr (good frame (by simp)).2.body_ne_nil
          have total := congrArg List.length isRest
          simp only [WireFrame.bytes, List.length_append,
            frame.length_header, List.length_nil] at total
          omega
  | cons receipt receipts inductionHypothesis =>
      have laterNonempty :
          ∀ other ∈ receipts, other.bytes ≠ [] :=
        fun other member => nonempty other (by simp [member])
      have hasBytes := nonempty receipt (by simp)
      simp only [List.map_cons, List.flatten_cons] at isData
      rw [← List.append_assoc] at isData
      rcases List.append_eq_append_iff.mp isData with
        ⟨left, isFrames, isMore⟩ | ⟨part, isChunk, isTail⟩
      · -- The chunk ends inside of the frames.
        have deferred := good.deferred
        rw [isFrames] at deferred
        obtain ⟨done, middle, later, isSplit, doneDeferred, laterDeferred⟩ :=
          deferred.split
        subst isSplit
        have goodDone : GoodFrames done :=
          fun frame member => good frame (by simp [member])
        have goodLater : GoodFrames later :=
          fun frame member => good frame (by simp [member])
        have keepsNil : KeepsWell [] :=
          ⟨fun long => by simp at long, zerosTrail_nil⟩
        have middleKeepsWell : KeepsWell middle :=
          laterDeferred.keepsWell doneDeferred.unfinished goodLater.passes
            keepsNil
        obtain ⟨s, actions, isDone, areForwarded, held⟩ :=
          pushSocketDataLoop_spec holding hasBytes unfinished doneDeferred
            goodDone.passes middleKeepsWell receipt.unknown
            (doneDeferred.rounds unfinished)
        have heldSet : Holding ((h.set id s).s id) fd middle := by
          simpa using held
        have isLater :
            middle ++ (receipts.map HarborReceipt.bytes).flatten =
              later.flatMap WireFrame.bytes ++ tail := by
          rw [isMore, ← List.append_assoc, laterDeferred.stream_eq,
            List.append_nil]
        obtain ⟨last, more, isFed, moreForwarded⟩ :=
          inductionHypothesis (alone.set s) heldSet
            (by
              rw [findSlave_set (held.fd.trans holding.fd.symm)]
              exact found)
            laterNonempty middleKeepsWell doneDeferred.unfinished goodLater
            isLater
        refine ⟨last, actions ++ more, ?_, ?_⟩
        · rw [feed_cons found, isDone, thenFeed, isFed]
          rfl
        · rw [forwarded_append, areForwarded, moreForwarded, List.map_append]
      · -- The chunk completes the last good frame.
        rw [isTail] at ends
        have enough := frames_length_lt unfinished isChunk
        obtain ⟨s, actions, isDone, areForwarded, ended⟩ :=
          pushSocketDataLoop_good alone connected holding found
            keepsWell.zeroFirst unfinished hasBytes good isChunk ends
            receipt.unknown enough
        obtain ⟨last, later, isFed, noneForwarded⟩ :=
          feed_ended (alone.set s) connected laterNonempty ended
        refine ⟨last, actions ++ later, ?_, ?_⟩
        · rw [feed_cons found, isDone, thenFeed, isFed]
          rfl
        · rw [forwarded_append, areForwarded, noneForwarded, List.append_nil]

/-- Every stream has frames that are handed on and a rest. -/
theorem exists_deferred
    (stream : List UInt8) :
    ∃ frames rest, Deferred stream frames rest := by
  obtain ⟨frames, rest, isStream, incomplete⟩ :=
    harborFraming.exists_splits stream
  have unfinished : Unfinished rest := by
    by_cases long : 4 ≤ rest.length
    · exact Or.inr (incomplete long)
    · exact Or.inl (by omega)
  by_cases waits :
      rest = [] ∧ ∃ done frame, frames = done ++ [frame] ∧ frame.body = []
  · obtain ⟨noRest, done, frame, isFrames, noBody⟩ := waits
    refine ⟨done, frame.bytes, ?_⟩
    rw [isStream, noRest, isFrames, List.append_nil]
    exact deferred_of_noBody done noBody
  · refine ⟨frames, rest, isStream, unfinished, ?_⟩
    intro noRest frame isLast noBody
    obtain ⟨done, isFrames⟩ := List.getLast?_eq_some_iff.mp isLast
    exact waits ⟨noRest, done, frame, isFrames, noBody⟩

/-- The frames with a good header end at a refused one, or with the stream. -/
theorem Deferred.exists_tail
    (deferred : Deferred stream frames rest) :
    ∃ tail,
      stream =
          (frames.takeWhile
            fun frame => frame.header.getD 0 0 = 0).flatMap WireFrame.bytes ++
            tail ∧
        Ends tail := by
  have isStream := deferred.stream_eq
  have isSplit :=
    List.takeWhile_append_dropWhile
      (p := fun frame : HarborFrame => frame.header.getD 0 0 = 0) (l := frames)
  rw [← isSplit, List.flatMap_append, List.append_assoc] at isStream
  refine ⟨_, isStream, ?_⟩
  cases isDropped :
      frames.dropWhile fun frame => frame.header.getD 0 0 = 0 with
  | nil =>
      exact Or.inl deferred.unfinished
  | cons frame later =>
      have notZero : ¬ ZeroFirst frame.header := by
        have isFirst := List.head?_dropWhile_not
          (fun frame : HarborFrame => decide (frame.header.getD 0 0 = 0)) frames
        rw [isDropped] at isFirst
        simpa [ZeroFirst] using isFirst
      have headerSized := frame.length_header
      refine Or.inr ⟨?_, ?_⟩
      · simp only [List.flatMap_cons, WireFrame.bytes, List.length_append]
        omega
      · rw [List.flatMap_cons, WireFrame.bytes, List.append_assoc,
          List.append_assoc, List.take_left' headerSized]
        exact notZero

/-- Frames that all carry a cookie are what is handed on. -/
theorem handsOnFrames_of_carriesCookies
    (ready : Ready h id)
    (alone : Alone h id (h.s id).fd)
    (carries : CarriesCookies stream) :
    HandsOnFrames h id stream := by
  obtain ⟨frames, rest, deferred, haveCookies⟩ := carries
  let handed := frames.takeWhile fun frame => frame.header.getD 0 0 = 0
  have good : GoodFrames handed := by
    intro frame member
    exact ⟨zeroFirst_of_mem_takeWhile member, haveCookies frame member⟩
  obtain ⟨tail, isStream, ends⟩ := deferred.exists_tail
  intro receipts isCut
  have keepsNil : KeepsWell [] :=
    ⟨fun long => by simp at long, zerosTrail_nil⟩
  obtain ⟨h', actions, isFed, areForwarded⟩ :=
    feed_good alone ready.connected ready.holding ready.found
      (fun receipt member => (isCut.pieces receipt member).1) keepsNil
      (Or.inl (by simp)) good
      (by rw [List.nil_append, isCut.whole]; exact isStream) ends
  obtain ⟨more, others, tailSplits⟩ := harborFraming.exists_splits tail
  refine
    ⟨h', actions, handed ++ more, others, isFed,
      ⟨?_, tailSplits.incomplete⟩, ?_, ?_⟩
  · rw [isStream, tailSplits.stream_eq, List.flatMap_append, List.append_assoc]
  · rw [areForwarded, List.map_append]
    exact List.prefix_append _ _
  · intro msg member
    rw [areForwarded, List.mem_map] at member
    obtain ⟨frame, isHanded, rfl⟩ := member
    exact (good frame isHanded).2.cookie

/-- A stream with a frame that is handed on does not hold its bytes back. -/
theorem not_unfinished_frame
    {frame : HarborFrame}
    {behind : List UInt8}
    (arrived : frame.body ≠ [] ∨ behind ≠ []) :
    ¬ Unfinished (frame.bytes ++ behind) := by
  intro unfinished
  have inFrame :=
    unfinished.inFrame (List.append_nil (frame.bytes ++ behind))
  rw [List.length_append, WireFrame.bytes, List.length_append,
    frame.length_header] at inFrame
  rcases arrived with hasBody | hasMore
  · have positive := List.length_pos_iff.mpr hasBody
    omega
  · have positive := List.length_pos_iff.mpr hasMore
    omega

/-- A frame behind good ones is among those that are handed on. -/
theorem Deferred.mem_takeWhile
    {done : List HarborFrame}
    {frame : HarborFrame}
    {behind : List UInt8}
    (deferred : Deferred stream frames rest)
    (isStream :
      stream = done.flatMap WireFrame.bytes ++ (frame.bytes ++ behind))
    (areZero : ∀ other ∈ done, ZeroFirst other.header)
    (zeroFirst : ZeroFirst frame.header)
    (arrived : frame.body ≠ [] ∨ behind ≠ []) :
    frame ∈ frames.takeWhile fun frame => frame.header.getD 0 0 = 0 := by
  have started
      {first : HarborFrame}
      {others : List HarborFrame}
      {left stream : List UInt8}
      (deferred : Deferred stream others rest)
      (isStream : stream = first.bytes ++ left)
      (arrived : first.body ≠ [] ∨ left ≠ []) :
      ∃ later, others = first :: later ∧ Deferred left later rest := by
    cases others with
    | nil =>
        have isRest : stream = rest := deferred.stream_eq
        have unfinished := deferred.unfinished
        rw [← isRest, isStream] at unfinished
        exact (not_unfinished_frame arrived unfinished).elim
    | cons other later =>
        obtain ⟨same, isLeft⟩ :=
          Framing.frame_append_injective
            (isStream.symm.trans deferred.cons_eq)
        subst same
        exact ⟨later, rfl, deferred.behind isLeft⟩
  induction done generalizing stream frames with
  | nil =>
      obtain ⟨later, rfl, _⟩ := started deferred isStream arrived
      have isZero : frame.header.getD 0 0 = 0 := zeroFirst
      rw [List.takeWhile_cons, if_pos (decide_eq_true isZero)]
      exact List.mem_cons_self
  | cons first done inductionHypothesis =>
      rw [List.flatMap_cons, List.append_assoc] at isStream
      have isZero : first.header.getD 0 0 = 0 :=
        areZero first List.mem_cons_self
      obtain ⟨later, rfl, behindDeferred⟩ :=
        started deferred isStream
          (Or.inr (by simp [frame.bytes_ne_nil]))
      rw [List.takeWhile_cons, if_pos (decide_eq_true isZero)]
      exact
        List.mem_cons_of_mem _
          (inductionHypothesis behindDeferred rfl
            fun other member => areZero other (List.mem_cons_of_mem _ member))

/-- All frames that are handed on carry a cookie: each one behind good ones. -/
theorem carriesCookies_iff :
    CarriesCookies stream ↔
      ∀ (done : List HarborFrame) (frame : HarborFrame) (behind : List UInt8),
        stream = done.flatMap WireFrame.bytes ++ (frame.bytes ++ behind) →
          GoodFrames done → ZeroFirst frame.header →
            (frame.body ≠ [] ∨ behind ≠ []) → CarriesCookie frame := by
  constructor
  · intro ⟨frames, rest, deferred, haveCookies⟩ done frame behind isStream
      good zeroFirst arrived
    exact
      haveCookies frame
        (deferred.mem_takeWhile isStream
          (fun other member => (good other member).1) zeroFirst arrived)
  · intro eachCarries
    obtain ⟨frames, rest, deferred⟩ := exists_deferred stream
    refine ⟨frames, rest, deferred, ?_⟩
    by_contra someNot
    obtain ⟨done, frame, others, isTaken, haveCookies, notCarries⟩ :=
      exists_first_not someNot
    have areZero :
        ∀ other ∈ done ++ frame :: others, ZeroFirst other.header := by
      intro other member
      rw [← isTaken] at member
      exact zeroFirst_of_mem_takeWhile member
    have good : GoodFrames done :=
      fun other member =>
        ⟨areZero other (by simp [member]), haveCookies other member⟩
    -- The frame and what is behind it, in the stream.
    obtain ⟨later, isSplit⟩ :
        ∃ later, frames = done ++ frame :: later := by
      obtain ⟨behind, isBehind⟩ :=
        List.takeWhile_prefix (l := frames)
          fun frame : HarborFrame => frame.header.getD 0 0 = 0
      refine ⟨others ++ behind, ?_⟩
      rw [← isBehind, isTaken, List.append_assoc]
      rfl
    have isStream :
        stream =
          done.flatMap WireFrame.bytes ++
            (frame.bytes ++ (later.flatMap WireFrame.bytes ++ rest)) := by
      rw [deferred.stream_eq, isSplit, List.flatMap_append, List.flatMap_cons]
      simp only [List.append_assoc]
    have arrived :
        frame.body ≠ [] ∨ later.flatMap WireFrame.bytes ++ rest ≠ [] := by
      by_cases noMore : later.flatMap WireFrame.bytes ++ rest = []
      · obtain ⟨noBytes, noRest⟩ := List.append_eq_nil_iff.mp noMore
        refine Or.inl (deferred.arrived noRest frame ?_)
        rw [isSplit, frames_eq_nil noBytes]
        simp
      · exact Or.inr noMore
    exact
      notCarries
        (eachCarries done frame _ isStream good (areZero frame (by simp))
          arrived)

/-- A first part of a stream whose frames carry cookies. -/
theorem CarriesCookies.part
    {first second : List UInt8}
    (carries : CarriesCookies (first ++ second)) :
    CarriesCookies first := by
  rw [carriesCookies_iff] at carries ⊢
  intro done frame behind isStream good zeroFirst arrived
  refine
    carries done frame (behind ++ second) ?_ good zeroFirst
      (arrived.imp_right (by simp +contextual))
  rw [isStream]
  simp only [List.append_assoc]

/-- The first frame of a stream, and the stream behind it. -/
theorem CarriesCookies.behind
    {frame : HarborFrame}
    {behind : List UInt8}
    (carries : CarriesCookies (frame.bytes ++ behind))
    (zeroFirst : ZeroFirst frame.header)
    (arrived : frame.body ≠ [] ∨ behind ≠ []) :
    CarriesCookie frame ∧ CarriesCookies behind := by
  rw [carriesCookies_iff] at carries
  have carriesFirst : CarriesCookie frame :=
    carries [] frame behind rfl (by simp [GoodFrames]) zeroFirst arrived
  refine ⟨carriesFirst, carriesCookies_iff.mpr ?_⟩
  intro done other left isBehind good otherZero otherArrived
  refine
    carries (frame :: done) other left ?_ ?_ otherZero otherArrived
  · rw [isBehind, List.flatMap_cons, List.append_assoc]
  · intro first member
    rcases List.mem_cons.mp member with rfl | isLater
    · exact ⟨zeroFirst, carriesFirst⟩
    · exact good first isLater

end Cookies

section Short

variable
    {actions all : List HarborAction}

/-- What follows a case comes behind what the case did. -/
theorem follow_eq_ok
    {unknown : HarborUnknown}
    {round : Nat}
    {flow : PushFlow}
    (isDone : follow id unknown round (h, actions, flow) = .ok (h', all)) :
    ∃ later, all = actions ++ later := by
  cases flow with
  | returned =>
      cases isDone
      exact ⟨[], (List.append_nil actions).symm⟩
  | next buffer size =>
      obtain ⟨later, _, isAll⟩ := after_eq_ok isDone
      exact ⟨later, isAll⟩

/-- What later receipts do comes behind what the first one did. -/
theorem thenFeed_eq_ok
    {result : Except Fault (Harbor × List HarborAction)}
    {receipts : List HarborReceipt}
    (isDone : thenFeed fd result receipts = .ok (h', all)) :
    ∃ next first later, result = .ok (next, first) ∧ all = first ++ later := by
  cases result with
  | error fault =>
      cases isDone
  | ok result =>
      obtain ⟨next, first⟩ := result
      obtain ⟨later, _, isAll⟩ := after_eq_ok isDone
      exact ⟨next, first, later, rfl, isAll⟩

/-- A message that carries no cookie is handed on short, or is another one. -/
theorem exists_filler
    {frame : HarborFrame}
    (notCarries : ¬ CarriesCookie frame)
    (extra : List UInt8) :
    ∃ filler : UInt8,
      kHeaderCookieLength ≤ (frame.body.length : Int) →
        stringBytes (cString (frame.body ++ extra)) (fun _ => filler) 0
          frame.body.length ≠ frame.body := by
  by_cases zeroLastOnly : ZeroLastOnly frame.body
  · exact ⟨0, fun cookie => (notCarries ⟨cookie, zeroLastOnly⟩).elim⟩
  · obtain ⟨filler, notSame⟩ := exists_stringBytes_ne zeroLastOnly extra
    exact ⟨filler, fun _ => notSame⟩

/-- A frame that is handed on behind good ones carries a cookie. -/
theorem HandsOnFrames.carriesCookie
    (handsOn : HandsOnFrames h id stream)
    (ready : Ready h id)
    (good : GoodFrames frames)
    {frame : HarborFrame}
    {behind : List UInt8}
    (zeroFirst : ZeroFirst frame.header)
    (arrived : frame.body ≠ [] ∨ behind ≠ [])
    (isStream :
      stream =
        frames.flatMap WireFrame.bytes ++ (frame.bytes ++ behind)) :
    CarriesCookie frame := by
  by_contra notCarries
  -- The receipt has the byte that a frame without a body waits for.
  obtain ⟨extra, left, isBehind, isShort, isArrived⟩ :
      ∃ extra left, behind = extra ++ left ∧ extra.length ≤ 1 ∧
        (frame.body ≠ [] ∨ extra ≠ []) := by
    rcases arrived with hasBody | hasMore
    · exact ⟨[], behind, rfl, by simp, Or.inl hasBody⟩
    · obtain ⟨byte, left, isCons⟩ := List.exists_cons_of_ne_nil hasMore
      exact ⟨[byte], left, isCons, by simp, Or.inr (by simp)⟩
  obtain ⟨filler, notSame⟩ := exists_filler notCarries extra
  let receipt : HarborReceipt :=
    { bytes := frame.bytes ++ extra
      unknown := { HarborUnknown.zero with memory := fun _ _ => filler } }
  have nonempty : receipt.bytes ≠ [] := by
    simp [receipt, frame.bytes_ne_nil]
  have sized : receipt.bytes.length < 2 ^ 31 := by
    have bound := harborFraming_bodyLength_lt frame.header
    have isBodyLength :
        harborFraming.bodyLength frame.header = frame.body.length :=
      frame.body_length.symm
    simp only [receipt, List.length_append, WireFrame.bytes,
      frame.length_header]
    omega
  have isCut :
      IsCut
        (receiptsOf (frames.map WireFrame.bytes) ++
          ([receipt] ++ receiptsOf (singles left))) stream := by
    refine isCut_append ?_ ?_
    · intro other member
      cases List.mem_singleton.mp member
      exact ⟨nonempty, sized⟩
    · rw [isStream, isBehind]
      simp [receipt]
  obtain ⟨h', actions, all, rest, isFed, splits, isPart, haveCookies⟩ :=
    handsOn _ isCut
  obtain ⟨s, sent, round, held, sentForwarded, enough, fed⟩ :=
    exists_clean ready.holding ready.found good.passes receipt nonempty
  obtain ⟨round, rfl⟩ := Nat.exists_eq_succ_of_ne_zero (by omega : round ≠ 0)
  obtain ⟨behindSent, isLater, isActions⟩ :=
    after_eq_ok ((fed _).symm.trans isFed)
  have heldSet : Holding ((h.set id s).s id) (h.s id).fd [] := by
    simpa using held
  obtain ⟨s', handed, isRound, isHanded, _⟩ :=
    pushSocketDataLoop_frame heldSet
      (List.nil_append receipt.bytes) (Or.inl (by simp)) isArrived zeroFirst
      receipt.unknown round
  obtain ⟨next, first, later, isFirst, isBehindSent⟩ :=
    thenFeed_eq_ok isLater
  rw [isRound] at isFirst
  obtain ⟨more, isAll⟩ := follow_eq_ok isFirst
  let msg :=
    stringBytes (cString (frame.body ++ extra)) (fun _ => filler) 0
      frame.body.length
  have areForwarded :
      ∃ others,
        forwarded actions = frames.map WireFrame.body ++ msg :: others := by
    refine ⟨forwarded more ++ forwarded later, ?_⟩
    rw [isActions, isBehindSent, isAll, forwarded_append, forwarded_append,
      forwarded_append, sentForwarded, isHanded (by simp)]
    simp [msg, receipt]
  obtain ⟨others, areForwarded⟩ := areForwarded
  have cookie : kHeaderCookieLength ≤ (frame.body.length : Int) := by
    have isLong := haveCookies msg (by simp [areForwarded])
    simpa [msg] using isLong
  obtain ⟨framesBehind, restBehind, behindSplits⟩ :=
    harborFraming.exists_splits behind
  have wholeSplits :
      harborFraming.Splits stream (frames ++ frame :: framesBehind)
        restBehind := by
    refine ⟨?_, behindSplits.incomplete⟩
    rw [isStream, behindSplits.stream_eq, List.flatMap_append,
      List.flatMap_cons]
    simp only [List.append_assoc]
  obtain ⟨sameFrames, _⟩ := splits.unique wholeSplits
  rw [areForwarded, sameFrames, List.map_append, List.map_cons,
    List.prefix_append_right_inj, List.cons_prefix_cons] at isPart
  exact notSame cookie isPart.1

/--
What is handed on are frames with a cookie, exactly when all frames that are
handed on carry one.
-/
theorem handsOnFrames_iff
    (ready : Ready h id)
    (alone : Alone h id (h.s id).fd)
    (stream : List UInt8) :
    HandsOnFrames h id stream ↔ CarriesCookies stream := by
  constructor
  · intro handsOn
    refine carriesCookies_iff.mpr ?_
    intro done frame behind isStream good zeroFirst arrived
    exact handsOn.carriesCookie ready good zeroFirst arrived isStream
  · exact handsOnFrames_of_carriesCookies ready alone

end Short

section Examples

/-- A frame with a message of one byte and a cookie without a zero byte. -/
def cookieFrame : HarborFrame where
  header := [0, 0, 0, 13]
  body := List.replicate 13 1
  header_length := rfl
  body_length := by
    simp [harborFraming]

/-- No other slave has the descriptor of the connected harbor. -/
theorem connectedHarbor_alone :
    Alone (connectedHarbor 5) 5 ((connectedHarbor 5).s 5).fd := by
  intro other different
  simp [connectedHarbor, different]

/-- A message of one byte carries its cookie. -/
theorem cookieFrame_carriesCookies :
    CarriesCookies cookieFrame.bytes := by
  refine ⟨[cookieFrame], [], ?_, ?_⟩
  · refine ⟨by simp, Or.inl (by simp), ?_⟩
    intro _ frame isLast
    cases isLast
    simp [cookieFrame]
  · intro frame member
    cases List.mem_singleton.mp (List.takeWhile_subset _ member)
    exact ⟨by decide, by simp [ZeroLastOnly, cookieFrame]⟩

/-- A message of one byte with its cookie is handed on as it is. -/
theorem cookieFrame_handsOnFrames :
    HandsOnFrames (connectedHarbor 5) 5 cookieFrame.bytes :=
  (handsOnFrames_iff connectedHarbor_ready connectedHarbor_alone _).mpr
    cookieFrame_carriesCookies

/-- Three bytes are handed on as a message with a cookie. -/
theorem textFrame_not_handsOnFrames :
    ¬ HandsOnFrames (connectedHarbor 5) 5 [0, 0, 0, 3, 97, 98, 99] := by
  intro handsOn
  have noFrames : GoodFrames [] := by
    simp [GoodFrames]
  have isStream :
      ([0, 0, 0, 3, 97, 98, 99] : List UInt8) =
        ([] : List HarborFrame).flatMap WireFrame.bytes ++
          ((textFrame 97 98 99).bytes ++ []) :=
    rfl
  have carries : CarriesCookie (textFrame 97 98 99) :=
    handsOn.carriesCookie connectedHarbor_ready noFrames
      (by simp [ZeroFirst, textFrame]) (Or.inl (by simp [textFrame])) isStream
  exact absurd carries.cookie (by decide)

end Examples

end SkynetCpp
