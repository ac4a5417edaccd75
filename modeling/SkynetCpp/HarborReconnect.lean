import Mathlib.Order.Interval.Finset.Nat
import SkynetCpp.HarborMemory

namespace SkynetCpp

open Foundation

/-!
# A new connection of a slave

`close_harbor` leaves `read` and `size`, and the commands `S` and `A` do not
clear them either.  A new connection is parsed like any other exactly when the
connection before was not closed in the middle of a header, and every message
on the new one can be forwarded out of its own string.
-/

namespace HarborService

variable {h h' : HarborService} {calls : List HarborCall} {id : Nat}

section Framed

/-- The data of a socket message are the `ud` bytes that were read. -/
def IsWhole : HarborMessage → Prop
  | .socket message =>
      message.type = 1 →
        message.buffer ≠ [] ∧ message.ud = message.buffer.length
  | _ => True

/-- `mainloop` keeps the slaves framed. -/
theorem mainloop_framed
    (sound : h.Sound)
    (framed : ∀ id, (h.s id).Framed)
    {msg : HarborMessage}
    {session : Int}
    {source : UInt32}
    {unknown : HarborUnknown}
    (whole : IsWhole msg)
    (done : h.mainloop msg session source unknown = .ok (h', calls))
    (id : Nat) :
    (h'.s id).Framed := by
  rcases mainloop_returns sound msg session source unknown with
    ⟨last, made, returned, received | same⟩ | ⟨_, failed⟩
  · rw [done] at returned
    cases returned
    obtain ⟨message, isSocket, isData, pushed⟩ := received
    subst isSocket
    obtain ⟨nonempty, isWhole⟩ := whole isData
    have written := congrArg (Except.map (writtenOut unknown.stack)) pushed
    rw [pushSocketData_writtenOut] at written
    exact pushSocketData_framed framed nonempty isWhole written id
  · rw [done] at returned
    cases returned
    exact (same id).framed (framed id)
  · rw [done] at failed
    cases failed

/-- The slaves of a reachable service are sound and framed. -/
theorem framed_visited
    {harbor_id : Int}
    {slave : UInt32}
    {start : HarborService}
    {past : List (HarborService × HarborInput)}
    (initialised : harborInit harbor_id slave = some start)
    (run : Run (Run.Steps next?) start past h)
    (whole : ∀ h input, (h, input) ∈ past → IsWhole input.msg) :
    h.Sound ∧ ∀ id, (h.s id).Framed := by
  have initially : start.Sound ∧ ∀ id, (start.s id).Framed := by
    have sound := harborInit_sound initialised
    refine ⟨sound, fun id => ?_⟩
    obtain ⟨arrays, _⟩ :=
      HarborRun.harborInit_slaves (fun s => 0 ≤ s.read ∧ s.size.length = 4)
        (by decide) (fun _ holds => holds) initialised
    exact ⟨sound.counted id, (arrays id).1, (arrays id).2⟩
  have preserved {state next : HarborService} {input : HarborInput}
      (holds : state.Sound ∧ ∀ id, (state.s id).Framed)
      (isWhole : IsWhole input.msg)
      (taken : Run.Steps next? state input next) :
      next.Sound ∧ ∀ id, (next.s id).Framed := by
    obtain ⟨calls, done⟩ := next?_eq_some_iff.mp taken
    exact
      ⟨mainloop_sound holds.1 done,
        mainloop_framed holds.1 holds.2 isWhole done⟩
  have visited :
      ∀ state ∈ Run.visited past h,
        state.Sound ∧ ∀ id, (state.s id).Framed :=
    Run.invariant_visited run initially preserved
      (fun member => whole _ _ member)
  exact visited h (by simp)

end Framed

section Reconnect

/-- An accepted command `S` or `A` for a slave without a queue. -/
theorem connectCommand_eq
    {name : List UInt8}
    {fd : Int}
    (scanned : scanInts (cString name) = (fd, (id : Int)))
    (fresh : fd ≠ 0)
    (isSlave : 0 < id ∧ id < kRemoteMax)
    (unconnected : (h.s id).fd = 0)
    (nothing : (h.s id).queue = none)
    (accepted : Bool)
    (stack : List UInt8) :
    ∃ calls,
      h.connectCommand accepted name stack =
        .ok
          (h.modify id fun s =>
            { s with
              fd := fd
              status := if accepted then .header else .handshake },
            calls) := by
  have valid :
      ¬(fd = 0 ∨ (id : Int) ≤ 0 ∨ (kRemoteMax : Int) ≤ (id : Int)) := by
    obtain ⟨positive, bounded⟩ := isSlave
    omega
  have twice (status : HarborStatus) :
      (h.modify id fun s => { s with fd := fd }).modify id
          (fun s => { s with status := status }) =
        h.modify id fun s => { s with fd := fd, status := status } := by
    unfold modify Harbor.modify
    simp
  unfold connectCommand
  rw [scanned]
  dsimp only
  rw [if_neg valid]
  simp only [Int.toNat_natCast, unconnected, ne_eq, not_true_eq_false,
    ↓reduceIte]
  cases accepted with
  | false =>
      simp only [twice, Bool.false_eq_true, ↓reduceIte]
      exact ⟨_, rfl⟩
  | true =>
      have slave :
          (h.modify id fun s => { s with fd := fd, status := .header }).s id =
            { h.s id with fd := fd, status := .header } :=
        modify_s_self _
      have dispatched :
          (h.modify id fun s =>
              { s with fd := fd, status := .header }).dispatchQueue id =
            .ok (h.modify id fun s => { s with fd := fd, status := .header },
              []) := by
        unfold dispatchQueue
        simp only [slave, if_neg fresh, nothing]
      simp only [twice, dispatched, ↓reduceIte]
      exact ⟨_, rfl⟩

/--
What `push_socket_data` forwards of the data of a new connection, and the
parser that it leaves.
-/
def reconnect
    (h : HarborService)
    (id : Nat)
    (accepted : Bool)
    (name stack : List UInt8)
    (receipts : List HarborReceipt) :
    Except Fault
      (List HarborAction ×
        HarborStatus × Int × Int × List UInt8 × List UInt8) := do
  let (h, _) ← h.connectCommand accepted name stack
  let (slaves, actions) ← feed (h.s id).fd h.toHarbor receipts
  .ok (forwardings actions, (slaves.s id).parser)

/--
After the same command for a slave, with a descriptor that no slave has, and
the same bytes, two services have forwarded the same messages and reached the
same parser, at every point of the connection.  What the memory around the
strings of the two services holds may differ.
-/
def NothingLeaks
    (h₁ h₂ : HarborService)
    (id : Nat)
    (accepted : Bool)
    (bytes : List UInt8) : Prop :=
  ∀ name stack fd receipts₁ receipts₂,
    scanInts (cString name) = (fd, (id : Int)) →
      fd ≠ 0 →
        (∀ other < kRemoteMax, (h₁.s other).fd ≠ fd) →
          (∀ receipt ∈ receipts₁, receipt.bytes ≠ []) →
            (receipts₁.map HarborReceipt.bytes).flatten <+: bytes →
              List.Forall₂ HarborReceipt.SameBytes receipts₁ receipts₂ →
                ∃ result,
                  h₁.reconnect id accepted name stack receipts₁ =
                      .ok result ∧
                    h₂.reconnect id accepted name stack receipts₂ =
                      .ok result

/-- Two services differ at most in one slave. -/
structure DifferAt
    (id : Nat)
    (h₁ h₂ : HarborService) : Prop where
  harbor_id : h₂.id = h₁.id
  slave : h₂.slave = h₁.slave
  map : h₂.map = h₁.map
  others : ∀ other, other ≠ id → h₂.s other = h₁.s other

/-- The commands `S` and `A` keep the slaves sound. -/
theorem connectCommand_sound
    {accepted : Bool}
    {name stack : List UInt8}
    (sound : h.Sound)
    (done : h.connectCommand accepted name stack = .ok (h', calls)) :
    h'.Sound := by
  obtain ⟨last, made, returned, same⟩ :=
    connectCommand_returns sound.wellFormed accepted name stack
  rw [done] at returned
  cases returned
  exact
    ⟨(connectCommand_passive sound.wellFormed done).wellFormed sound.wellFormed,
      fun id => (same id).counted (sound.counted id)⟩

/-- `push_socket_data` returns from all the data of a connection. -/
theorem feed_returns
    (fd : Int)
    (sound : h.Sound)
    (receipts : List HarborReceipt) :
    ∃ slaves actions, feed fd h.toHarbor receipts = .ok (slaves, actions) := by
  induction receipts generalizing h with
  | nil =>
      exact ⟨_, _, rfl⟩
  | cons receipt receipts inductionHypothesis =>
      obtain ⟨next, made, pushed, stillSound⟩ :=
        pushSocketData_sound sound
          (show (receipt.message fd).type = 1 from rfl) receipt.unknown
      have written :=
        congrArg (Except.map (writtenOut receipt.unknown.stack)) pushed
      rw [pushSocketData_writtenOut] at written
      obtain ⟨slaves, later, isFed⟩ := inductionHypothesis stillSound
      refine
        ⟨slaves,
          made.flatMap (HarborCall.actions receipt.unknown.stack) ++ later, ?_⟩
      simp only [feed, written, Except.map, writtenOut, isFed, after]

/-- Services that differ in a slave are the same but for the slave. -/
theorem DifferAt.toHarbor_eq
    {h₁ h₂ : HarborService}
    (differ : DifferAt id h₁ h₂) :
    h₂.toHarbor = h₁.toHarbor.set id (h₂.s id) := by
  have slaves : h₂.s = Function.update h₁.s id (h₂.s id) := by
    funext other
    by_cases same : other = id
    · subst same
      simp
    · simp [same, differ.others other same]
  unfold Harbor.set
  rw [← slaves, ← differ.harbor_id, ← differ.slave]

/-- Closed slaves are alike when the same part of a header has arrived. -/
theorem alike_of_closed
    {s₁ s₂ : Slave}
    (wellFormed₁ : s₁.WellFormed)
    (wellFormed₂ : s₂.WellFormed)
    (framed₁ : s₁.Framed)
    (framed₂ : s₂.Framed)
    (closed₁ : s₁.status = .down)
    (closed₂ : s₂.status = .down)
    (begun : s₂.begunHeader = s₁.begunHeader) :
    s₁.Alike s₂ := by
  obtain ⟨short₁, length₁, buffer₁⟩ := framed₁.outside (by simp [closed₁])
  obtain ⟨short₂, length₂, buffer₂⟩ := framed₂.outside (by simp [closed₂])
  have sameRead : s₂.read = s₁.read := by
    have counts := congrArg List.length begun
    have positive₁ := framed₁.positive
    have positive₂ := framed₂.positive
    simp only [Slave.begunHeader, List.length_take, framed₁.size,
      framed₂.size] at counts
    omega
  have same : s₂ = { s₁ with size := s₂.size } := by
    have fd₁ := wellFormed₁.connected.mpr (Or.inr closed₁)
    have fd₂ := wellFormed₂.connected.mpr (Or.inr closed₂)
    have queue₁ := wellFormed₁.queue_eq_none_of_down closed₁
    have queue₂ := wellFormed₂.queue_eq_none_of_down closed₂
    cases s₁
    cases s₂
    simp_all
  exact
    { framed₁ with
      same := same
      size' := framed₂.size
      begun := begun
      begunContent := fun isContent => by simp [closed₁] at isContent }

/-- A new connection is one of the data that it brings. -/
theorem reconnect_eq
    {accepted : Bool}
    {name stack : List UInt8}
    {fd : Int}
    {receipts : List HarborReceipt}
    (wellFormed : (h.s id).WellFormed)
    (isSlave : 0 < id ∧ id < kRemoteMax)
    (closed : (h.s id).status = .down)
    (scanned : scanInts (cString name) = (fd, (id : Int)))
    (fresh : fd ≠ 0) :
    h.reconnect id accepted name stack receipts =
      (feed fd (h.toHarbor.set id (connectedSlave (h.s id) fd accepted))
          receipts).map
        fun (slaves, actions) =>
          (forwardings actions, (slaves.s id).parser) := by
  obtain ⟨calls, connected⟩ :=
    connectCommand_eq scanned fresh isSlave
      (wellFormed.connected.mpr (Or.inr closed))
      (wellFormed.queue_eq_none_of_down closed) accepted stack
  have slave :
      ((h.toHarbor.set id (connectedSlave (h.s id) fd accepted)).s id).fd =
        fd := by
    rw [Harbor.set_s]
    rfl
  have sameNext :
      (h.modify id fun s =>
          { s with
            fd := fd
            status := if accepted then .header else .handshake }).toHarbor =
        h.toHarbor.set id (connectedSlave (h.s id) fd accepted) :=
    rfl
  simp only [reconnect, connected, bind, Except.bind, sameNext, slave]
  cases feed fd (h.toHarbor.set id (connectedSlave (h.s id) fd accepted))
    receipts <;> rfl

/-- Slaves that are alike parse a new connection in the same way. -/
theorem nothingLeaks_of_alike
    {h₁ h₂ : HarborService}
    {accepted : Bool}
    {bytes : List UInt8}
    (sound₁ : h₁.Sound)
    (wellFormed₂ : (h₂.s id).WellFormed)
    (isSlave : 0 < id ∧ id < kRemoteMax)
    (differ : DifferAt id h₁ h₂)
    (closed₁ : (h₁.s id).status = .down)
    (alike : (h₁.s id).Alike (h₂.s id))
    (carries :
      CarriesCookies
        ((h₁.s id).begunHeader ++ framedBytes id accepted bytes)) :
    NothingLeaks h₁ h₂ id accepted bytes := by
  intro name stack fd receipts₁ receipts₂ scanned fresh alone nonempty isPart
    same
  have wellFormed₁ := sound₁.wellFormed.slaves id
  have closed₂ : (h₂.s id).status = .down := by
    rw [alike.same]
    exact closed₁
  have parsers := sameParser_connectedSlave closed₁ fd accepted
  have outside := status_connectedSlave (h₁.s id) fd accepted
  have begun :
      ((h₁.toHarbor.set id (connectedSlave (h₁.s id) fd accepted)).s id).Alike
        (connectedSlave (h₂.s id) fd accepted) := by
    have changed := alike.changed parsers outside
    rw [Harbor.set_s]
    rw [alike.same]
    exact changed
  have sameNext :
      h₂.toHarbor.set id (connectedSlave (h₂.s id) fd accepted) =
        (h₁.toHarbor.set id (connectedSlave (h₁.s id) fd accepted)).set id
          (connectedSlave (h₂.s id) fd accepted) := by
    rw [differ.toHarbor_eq, Harbor.set_set, Harbor.set_set]
  have expects :
      ((h₁.toHarbor.set id (connectedSlave (h₁.s id) fd accepted)).s
          id).Expects id (receipts₁.map HarborReceipt.bytes).flatten := by
    rw [Harbor.set_s]
    exact
      expects_connectedSlave fresh
        (wellFormed₁.queue_eq_none_of_down closed₁) isPart carries
  obtain ⟨calls, connected⟩ :=
    connectCommand_eq scanned fresh isSlave
      (wellFormed₁.connected.mpr (Or.inr closed₁))
      (wellFormed₁.queue_eq_none_of_down closed₁) accepted stack
  have soundNext := connectCommand_sound sound₁ connected
  obtain ⟨slaves, actions, isFed⟩ := feed_returns fd soundNext receipts₁
  have isFed₁ :
      feed fd (h₁.toHarbor.set id (connectedSlave (h₁.s id) fd accepted))
          receipts₁ =
        .ok (slaves, actions) :=
    isFed
  have aloneNext (other : Nat) (inRange : other < kRemoteMax)
      (different : other ≠ id) :
      ((h₁.toHarbor.set id (connectedSlave (h₁.s id) fd accepted)).s
        other).fd ≠ fd := by
    rw [Harbor.set_s_of_ne _ _ different]
    exact alone other inRange
  -- The first service in the memory of the second, then the second service.
  have isFedOther :=
    feed_expects begun.toFramed (fun _ => expects) aloneNext nonempty same
      isFed₁
  obtain ⟨t', isFed₂, lastAlike⟩ :=
    feed_alike begun aloneNext (bytes_ne_nil_of_same same nonempty)
      isFedOther
  rw [← sameNext] at isFed₂
  refine ⟨(forwardings actions, (slaves.s id).parser), ?_, ?_⟩
  · rw [reconnect_eq wellFormed₁ isSlave closed₁ scanned fresh, isFed₁]
    rfl
  · rw [reconnect_eq wellFormed₂ isSlave closed₂ scanned fresh, isFed₂]
    simp only [Except.map, Harbor.set_s, lastAlike.parser_eq]

end Reconnect

section Commands

/-- A decimal digit. -/
def digit (n : Nat) : UInt8 :=
  UInt8.ofNat (48 + n % 10)

/-- A number below 1000, in three digits. -/
def threeDigits (n : Nat) : List UInt8 :=
  [digit (n / 100), digit (n / 10), digit n]

theorem digit_spec
    (n : Nat) :
    48 ≤ digit n ∧ digit n ≤ 57 ∧ (digit n).toNat - 48 = n % 10 := by
  have bounded : n % 10 < 10 := Nat.mod_lt _ (by decide)
  have digits :
      ∀ m < 10,
        48 ≤ UInt8.ofNat (48 + m) ∧ UInt8.ofNat (48 + m) ≤ 57 ∧
          (UInt8.ofNat (48 + m)).toNat - 48 = m := by
    decide
  exact digits _ bounded

/-- A digit ends no text, is no space and is no sign. -/
theorem digit_ne
    (n : Nat) :
    digit n ≠ 0 ∧ isSpace (digit n) = false ∧ digit n ≠ 45 ∧ digit n ≠ 43 := by
  have bounded : n % 10 < 10 := Nat.mod_lt _ (by decide)
  have digits :
      ∀ m < 10,
        UInt8.ofNat (48 + m) ≠ 0 ∧ isSpace (UInt8.ofNat (48 + m)) = false ∧
          UInt8.ofNat (48 + m) ≠ 45 ∧ UInt8.ofNat (48 + m) ≠ 43 := by
    decide
  exact digits _ bounded

/-- A number is read up to what is no digit. -/
theorem scanDigits_threeDigits
    {n : Nat}
    (bounded : n < 1000)
    (rest : List UInt8) :
    scanDigits (threeDigits n ++ rest) 0 = scanDigits rest n := by
  obtain ⟨low₁, high₁, value₁⟩ := digit_spec (n / 100)
  obtain ⟨low₂, high₂, value₂⟩ := digit_spec (n / 10)
  obtain ⟨low₃, high₃, value₃⟩ := digit_spec n
  have value : ((0 * 10 + n / 100 % 10) * 10 + n / 10 % 10) * 10 + n % 10 = n := by
    omega
  simp only [threeDigits, List.cons_append, List.nil_append, scanDigits,
    low₁, high₁, low₂, high₂, low₃, high₃, and_self, ↓reduceIte, value₁,
    value₂, value₃, value]

/-- Two numbers are read from a text. -/
theorem scanInts_threeDigits
    {first second : Nat}
    (bounded₁ : first < 1000)
    (bounded₂ : second < 1000) :
    scanInts (cString (threeDigits first ++ 32 :: threeDigits second)) =
      ((first : Int), (second : Int)) := by
  have isText :
      cString (threeDigits first ++ 32 :: threeDigits second) =
        threeDigits first ++ 32 :: threeDigits second := by
    simp [cString, threeDigits, (digit_ne _).1]
  have number (n : Nat) (bounded : n < 1000) (rest : List UInt8)
      (stops : scanDigits rest n = (n, rest)) :
      scanNumber (threeDigits n ++ rest) = some (false, n, rest) := by
    have start : (threeDigits n ++ rest).dropWhile isSpace =
        threeDigits n ++ rest := by
      simp [threeDigits, (digit_ne _).2.1]
    have unsigned :
        (threeDigits n ++ rest).head? ≠ some 45 ∧
          (threeDigits n ++ rest).head? ≠ some 43 := by
      simp [threeDigits, (digit_ne _).2.2.1, (digit_ne _).2.2.2]
    have isDigit : startsWithDigit (threeDigits n ++ rest) = true := by
      simp [threeDigits, startsWithDigit, (digit_spec _).1,
        (digit_spec _).2.1]
    unfold scanNumber
    simp only [start, unsigned, decide_false, or_self, ↓reduceIte, isDigit,
      scanDigits_threeDigits bounded, stops]
  have scanned (n : Nat) (bounded : n < 1000) :
      scannedInt false n = (n : Int) := by
    unfold scannedInt
    rw [if_neg (by simp), toInt32_of_bounds (by omega) (by omega)]
    omega
  have behind : scanDigits (32 :: threeDigits second) first =
      (first, 32 :: threeDigits second) := by
    simp [scanDigits]
  have spaced : scanNumber (32 :: threeDigits second) =
      scanNumber (threeDigits second) := by
    have skipped :
        (32 :: threeDigits second).dropWhile isSpace =
          (threeDigits second).dropWhile isSpace := by
      rw [List.dropWhile_cons_of_pos (by decide)]
    unfold scanNumber
    rw [skipped]
  have last := number second bounded₂ [] rfl
  rw [List.append_nil] at last
  unfold scanInts
  rw [isText, number first bounded₁ _ behind]
  dsimp only
  rw [spaced, last]
  dsimp only
  rw [scanned first bounded₁, scanned second bounded₂]

/-- There is a descriptor that no slave has. -/
theorem exists_descriptor
    (h : HarborService) :
    ∃ fd : Nat,
      0 < fd ∧ fd < 1000 ∧ ∀ other < kRemoteMax, (h.s other).fd ≠ fd := by
  let taken : Finset Nat :=
    (Finset.range kRemoteMax).image fun other => (h.s other).fd.toNat
  have fewer : taken.card < (Finset.Ico 1 1000).card := by
    have bounded : taken.card ≤ (Finset.range kRemoteMax).card :=
      Finset.card_image_le
    have isRange : (Finset.range kRemoteMax).card = 256 := Finset.card_range _
    rw [Nat.card_Ico]
    omega
  obtain ⟨fd, inRange, free⟩ := Finset.exists_mem_notMem_of_card_lt_card fewer
  rw [Finset.mem_Ico] at inRange
  refine ⟨fd, inRange.1, inRange.2, fun other isSlave same => free ?_⟩
  refine Finset.mem_image.mpr ⟨other, Finset.mem_range.mpr isSlave, ?_⟩
  rw [same, Int.toNat_natCast]

end Commands

section Claims

/-- Where nothing leaks, the same part of a header has arrived. -/
theorem begunHeader_of_nothingLeaks
    {h₁ h₂ : HarborService}
    (wellFormed₁ : h₁.WellFormed)
    (wellFormed₂ : h₂.WellFormed)
    (isSlave : 0 < id ∧ id < kRemoteMax)
    (closed₁ : (h₁.s id).status = .down)
    (closed₂ : (h₂.s id).status = .down)
    {accepted : Bool}
    {bytes : List UInt8}
    (nothingLeaks : NothingLeaks h₁ h₂ id accepted bytes) :
    (h₂.s id).begunHeader = (h₁.s id).begunHeader := by
  obtain ⟨fd, positive, bounded, alone⟩ := exists_descriptor h₁
  have inRange : id < 1000 := by
    have limit : kRemoteMax = 256 := rfl
    omega
  have scanned := scanInts_threeDigits bounded inRange
  have fresh : (fd : Int) ≠ 0 := by omega
  obtain ⟨result, reconnected₁, reconnected₂⟩ :=
    nothingLeaks _ [] fd [] [] scanned fresh alone (by simp)
      List.nil_prefix List.Forall₂.nil
  rw [reconnect_eq (wellFormed₁.slaves id) isSlave closed₁ scanned fresh]
    at reconnected₁
  rw [reconnect_eq (wellFormed₂.slaves id) isSlave closed₂ scanned fresh,
    ← reconnected₁] at reconnected₂
  simp only [feed, Except.map, Harbor.set_s, Except.ok.injEq, Prod.mk.injEq,
    Slave.parser] at reconnected₂
  exact reconnected₂.2.2.2.2.1

/-- A descriptor that no slave has is one that no slave of the other service has. -/
theorem DifferAt.alone
    {h₁ h₂ : HarborService}
    {fd : Int}
    (differ : DifferAt id h₁ h₂)
    (wellFormed : (h₂.s id).WellFormed)
    (closed : (h₂.s id).status = .down)
    (fresh : fd ≠ 0)
    (alone : ∀ other < kRemoteMax, (h₁.s other).fd ≠ fd) :
    ∀ other < kRemoteMax, (h₂.s other).fd ≠ fd := by
  intro other isRemote
  by_cases isSame : other = id
  · rw [isSame, wellFormed.connected.mpr (Or.inr closed)]
    exact fresh.symm
  · rw [differ.others other isSame]
    exact alone other isRemote

/--
A closed slave holds less than a header, so that a frame's header ends in what
the new connection brings.
-/
theorem exists_opening
    {s : Slave}
    {stream : List UInt8}
    {done : List HarborFrame}
    {frame : HarborFrame}
    {behind : List UInt8}
    (framed : s.Framed)
    (closed : s.status = .down)
    (isStream :
      s.begunHeader ++ stream =
        done.flatMap WireFrame.bytes ++ (frame.bytes ++ behind)) :
    ∃ opening,
      opening ≠ [] ∧
        s.begunHeader ++ opening =
            done.flatMap WireFrame.bytes ++ frame.header ∧
          stream = opening ++ (frame.body ++ behind) := by
  have short := (framed.outside (by simp [closed])).1
  have positive := framed.positive
  have isWhole :
      s.begunHeader ++ stream =
        (done.flatMap WireFrame.bytes ++ frame.header) ++
          (frame.body ++ behind) := by
    rw [isStream, WireFrame.bytes]
    simp only [List.append_assoc]
  rcases List.append_eq_append_iff.mp isWhole with
    ⟨opening, isOpening, isRest⟩ | ⟨more, isBegun, _⟩
  · refine ⟨opening, ?_, isOpening.symm, isRest⟩
    intro noOpening
    have lengths := congrArg List.length isOpening
    simp only [noOpening, Slave.begunHeader, List.length_append,
      List.length_take, frame.length_header, List.length_nil] at lengths
    omega
  · have lengths := congrArg List.length isBegun
    simp only [Slave.begunHeader, List.length_append, List.length_take,
      frame.length_header] at lengths
    omega

/-- A frame that is completed, with the byte that a frame without a body waits for. -/
theorem exists_piece
    {frame : HarborFrame}
    {behind : List UInt8}
    (arrived : frame.body ≠ [] ∨ behind ≠ []) :
    ∃ extra left, behind = extra ++ left ∧ frame.body ++ extra ≠ [] := by
  rcases arrived with hasBody | hasMore
  · exact ⟨[], behind, rfl, by simp [hasBody]⟩
  · obtain ⟨byte, left, isCons⟩ := List.exists_cons_of_ne_nil hasMore
    exact ⟨[byte], left, isCons, by simp⟩

/-- What is forwarded in all, when a frame is completed behind other data. -/
theorem after_feed_forwards
    {h : Harbor}
    {t : Slave}
    {fd : Int}
    {frame : HarborFrame}
    {extra : List UInt8}
    {unknown : HarborUnknown}
    {acts : List HarborAction}
    {result :
      List HarborAction × HarborStatus × Int × Int × List UInt8 × List UInt8}
    (isSlave : 0 < id ∧ id < kRemoteMax)
    (alone : ∀ other < kRemoteMax, (h.s other).fd ≠ fd)
    (held : Holding t fd frame.header)
    (reconnected :
      (after acts
            (feed fd (h.set id t)
              [{ bytes := frame.body ++ extra, unknown := unknown }])).map
          (fun (slaves, actions) =>
            (forwardings actions, (slaves.s id).parser)) =
        .ok result) :
    ∃ round more,
      result.1 =
        forwardings acts ++
          (forwardedBody (h.set id t) (cString (frame.body ++ extra)) unknown
              round frame.body.length ++
            more) := by
  cases isFed :
      feed fd (h.set id t)
        [{ bytes := frame.body ++ extra, unknown := unknown }] with
  | error fault =>
      rw [isFed] at reconnected
      cases reconnected
  | ok last =>
      obtain ⟨next, actions⟩ := last
      rw [isFed] at reconnected
      cases reconnected
      obtain ⟨round, more, areForwarded⟩ :=
        feed_forwards (findSlave_connected isSlave alone held.fd)
          (by rw [Harbor.set_s]; exact held) isFed
      refine ⟨round, more, ?_⟩
      rw [← areForwarded]
      exact forwardings_append acts actions

/-- Where nothing leaks, the messages of the new connection carry cookies. -/
theorem carriesCookies_of_nothingLeaks
    {h₁ h₂ : HarborService}
    {accepted : Bool}
    {bytes : List UInt8}
    (wellFormed₁ : h₁.WellFormed)
    (wellFormed₂ : h₂.WellFormed)
    (framed₁ : (h₁.s id).Framed)
    (framed₂ : (h₂.s id).Framed)
    (isSlave : 0 < id ∧ id < kRemoteMax)
    (differ : DifferAt id h₁ h₂)
    (closed₁ : (h₁.s id).status = .down)
    (closed₂ : (h₂.s id).status = .down)
    (begun : (h₂.s id).begunHeader = (h₁.s id).begunHeader)
    (nothingLeaks : NothingLeaks h₁ h₂ id accepted bytes) :
    CarriesCookies
      ((h₁.s id).begunHeader ++ framedBytes id accepted bytes) := by
  rw [carriesCookies_iff]
  intro done frame behind isStream good zeroFirst arrived
  by_contra notCarries
  obtain ⟨extra, left, isBehind, hasPiece⟩ := exists_piece arrived
  obtain ⟨unknown, other, same, shows⟩ := exists_memory_shows notCarries extra
  obtain ⟨opening, hasOpening, isOpening, isFramed⟩ :=
    exists_opening framed₁ closed₁ isStream
  rw [isBehind, ← List.append_assoc frame.body] at isFramed
  -- A descriptor that no slave has, and what a connection with it brings.
  obtain ⟨fd, positive, bounded, alone₁⟩ := exists_descriptor h₁
  have inRange : id < 1000 := by
    have limit : kRemoteMax = 256 := rfl
    omega
  have scanned := scanInts_threeDigits bounded inRange
  have fresh : (fd : Int) ≠ 0 := by omega
  have alone₂ := differ.alone (wellFormed₂.slaves id) closed₂ fresh alone₁
  let front := shaking id accepted ++ receiptsOf [opening]
  let piece (unknown : HarborUnknown) : HarborReceipt :=
    { bytes := frame.body ++ extra, unknown := unknown }
  have frontNonempty : ∀ receipt ∈ front, receipt.bytes ≠ [] := by
    intro receipt member
    rcases List.mem_append.mp member with isShaking | isOpened
    · unfold shaking at isShaking
      split at isShaking
      · cases isShaking
      · cases List.mem_singleton.mp isShaking
        simp
    · cases List.mem_singleton.mp isOpened
      exact hasOpening
  have isBytes :
      bytes =
        (front.map HarborReceipt.bytes).flatten ++
          (frame.body ++ extra ++ left) := by
    have isShaken :=
      bytes_eq_of_framedBytes id accepted
        (show framedBytes id accepted bytes ≠ [] by
          rw [isFramed]
          simp [hasOpening])
    rw [isFramed] at isShaken
    rw [isShaken]
    simp [front]
  have sameFront : List.Forall₂ HarborReceipt.SameBytes front front :=
    List.forall₂_same.mpr fun _ _ => ⟨rfl, rfl, rfl⟩
  obtain ⟨t₁, acts₁, opened₁, held₁⟩ :=
    feed_opening accepted isSlave fresh alone₁ framed₁ closed₁
      ((wellFormed₁.slaves id).queue_eq_none_of_down closed₁) good zeroFirst
      hasOpening isOpening
  obtain ⟨t₂, acts₂, opened₂, held₂⟩ :=
    feed_opening accepted isSlave fresh alone₂ framed₂ closed₂
      ((wellFormed₂.slaves id).queue_eq_none_of_down closed₂) good zeroFirst
      hasOpening (by rw [begun]; exact isOpening)
  have sameActs : forwardings acts₁ = forwardings acts₂ := by
    obtain ⟨result, reconnected₁, reconnected₂⟩ :=
      nothingLeaks _ [] fd front front scanned fresh alone₁ frontNonempty
        ⟨_, isBytes.symm⟩ sameFront
    rw [reconnect_eq (wellFormed₁.slaves id) isSlave closed₁ scanned fresh,
      opened₁] at reconnected₁
    rw [reconnect_eq (wellFormed₂.slaves id) isSlave closed₂ scanned fresh,
      opened₂, ← reconnected₁] at reconnected₂
    simp only [Except.map, Except.ok.injEq, Prod.mk.injEq] at reconnected₂
    exact reconnected₂.1.symm
  obtain ⟨result, reconnected₁, reconnected₂⟩ :=
    nothingLeaks _ [] fd (front ++ [piece unknown]) (front ++ [piece other])
      scanned fresh alone₁
      (by
        intro receipt member
        rcases List.mem_append.mp member with inFront | isLast
        · exact frontNonempty receipt inFront
        · cases List.mem_singleton.mp isLast
          exact hasPiece)
      ⟨left, by rw [isBytes]; simp [piece]⟩
      (List.rel_append sameFront (List.Forall₂.cons ⟨rfl, same⟩ .nil))
  rw [reconnect_eq (wellFormed₁.slaves id) isSlave closed₁ scanned fresh,
    feed_append opened₁] at reconnected₁
  rw [reconnect_eq (wellFormed₂.slaves id) isSlave closed₂ scanned fresh,
    feed_append opened₂] at reconnected₂
  obtain ⟨round₁, more₁, isResult₁⟩ :=
    after_feed_forwards isSlave alone₁ held₁ reconnected₁
  obtain ⟨round₂, more₂, isResult₂⟩ :=
    after_feed_forwards isSlave alone₂ held₂ reconnected₂
  rw [isResult₁, sameActs] at isResult₂
  exact shows _ _ _ _ _ _ (List.append_cancel_left isResult₂)

variable
    {harbor_id : Int}
    {slave : UInt32}
    {start h₁ h₂ : HarborService}
    {past₁ past₂ : List (HarborService × HarborInput)}
    {accepted : Bool}
    {bytes : List UInt8}

end Claims

section Closed

/-- `A 5 2`. -/
def accept : HarborInput :=
  HarborRun.inputOf (.harbor [65, 32, 53, 32, 50]) 0x1000001

/-- Data from descriptor 5. -/
def dataOf (bytes : List UInt8) : HarborInput :=
  HarborRun.inputOf
    (.socket { type := 1, id := 5, ud := bytes.length, buffer := bytes }) 0

/-- Harbor 1 when harbor 2 was connected. -/
def connected : HarborService :=
  HarborRun.harborOne.modify 2 fun s => { s with fd := 5, status := .header }

/-- The first byte of a header has arrived. -/
def begun : HarborService :=
  connected.modify 2 fun s => { s with size := [1, 0, 0, 0], read := 1 }

/-- The header of a message that is too long has arrived. -/
def refused
    (h : HarborService)
    (head : List UInt8) : HarborService :=
  (h.modify 2 fun s => { s with size := head }).modify 2 fun s =>
    { s with status := .down, fd := 0, queue := none }

/-- Data for the only slave that is connected. -/
theorem next?_dataOf
    (found : findSlave h.toHarbor 5 = some 2)
    (bytes : List UInt8) :
    next? h (dataOf bytes) =
      ((pushSocketDataLoop 2 .zero (bytes.length + 2) h bytes
        bytes.length).toOption).map Prod.fst := by
  simp [next?, dataOf, HarborRun.inputOf, mainloop, pushSocketData, found]

theorem accept_next :
    next? HarborRun.harborOne accept = some connected := by
  have scanned : scanInts (cString [53, 32, 50]) = (5, ((2 : Nat) : Int)) := by
    decide
  obtain ⟨calls, done⟩ :=
    connectCommand_eq (h := HarborRun.harborOne) scanned (by decide)
      (by decide) rfl rfl true []
  refine next?_eq_some_iff.mpr ⟨calls, ?_⟩
  simp [accept, HarborRun.inputOf, mainloop, harborCommand, HarborUnknown.zero,
    done, connected]

/-- A header in one piece. -/
theorem refused_run
    (last : UInt8) :
    Run (Run.Steps next?) HarborRun.harborOne
      [(connected, dataOf [1, 0, 0, last]), (HarborRun.harborOne, accept)]
      (refused connected [1, 0, 0, last]) := by
  refine (Run.nil.snoc accept_next).snoc ?_
  unfold Run.Steps
  rw [next?_dataOf (by decide +kernel)]
  rfl

/-- The same header in two pieces. -/
theorem begun_run :
    Run (Run.Steps next?) HarborRun.harborOne
      [(begun, dataOf [0, 0, 0]), (connected, dataOf [1]),
        (HarborRun.harborOne, accept)]
      (refused begun [1, 0, 0, 0]) := by
  refine ((Run.nil.snoc accept_next).snoc ?_).snoc ?_
  · unfold Run.Steps
    rw [next?_dataOf (by decide +kernel)]
    rfl
  · unfold Run.Steps
    rw [next?_dataOf (by decide +kernel)]
    rfl

/-- The data of these runs are whole. -/
theorem isWhole_dataOf
    {bytes : List UInt8}
    (nonempty : bytes ≠ []) :
    IsWhole (dataOf bytes).msg :=
  fun _ => ⟨nonempty, rfl⟩

/-- What a new connection sends: a message of 12 bytes. -/
def twelveOnes : List HarborReceipt :=
  receiptsOf [[0, 0, 0, 12] ++ List.replicate 12 1]

end Closed

end HarborService

end SkynetCpp
