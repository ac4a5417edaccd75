import SkynetCpp.Foundation.Ownership
import SkynetCpp.SocketWorkers

namespace SkynetCpp

open Foundation

/-!
# What the write lists of a TCP socket hold

`wb_size` counts the bytes of both write lists, and no node of the low list was
written in part.  The lists belong to the socket thread; the other threads only
touch what a direct write leaves, and the lock.
-/

variable {Worker α β : Type}

/-- The bytes that are left to write of the nodes of a list. -/
def totalSize (list : List WriteBuffer) : Nat :=
  (list.map WriteBuffer.sz).sum

@[simp] theorem totalSize_nil : totalSize [] = 0 := rfl

@[simp] theorem totalSize_cons
    (node : WriteBuffer)
    (rest : List WriteBuffer) :
    totalSize (node :: rest) = node.sz + totalSize rest := by
  simp [totalSize]

@[simp] theorem totalSize_append
    (first second : List WriteBuffer) :
    totalSize (first ++ second) = totalSize first + totalSize second := by
  simp [totalSize]

/-- Nothing was written of a node. -/
def WriteBuffer.Whole (node : WriteBuffer) : Prop :=
  node.ptr = ⟨node.buffer, 0⟩

/-- The contents of the string of a node begin where the object begins. -/
def WriteBuffer.InPlace
    (c_str : Nat → Address)
    (node : WriteBuffer) : Prop :=
  c_str (node.buffer.getD 0) = ⟨node.buffer, 0⟩

/-- `wb_size` counts both lists, and the low list is whole. -/
structure Socket.Accounted (sock : Socket Worker) : Prop where
  size : sock.wb_size = sizeOfBytes (totalSize sock.high + totalSize sock.low)
  whole : ∀ node ∈ sock.low, node.Whole

@[simp] theorem sizeOfBytes_add
    (first second : Nat) :
    sizeOfBytes (first + second) = sizeOfBytes first + sizeOfBytes second := by
  simp [sizeOfBytes, Int64.ofNat_add]

/-- What is taken off a node is taken off its size. -/
theorem sizeOfBytes_sub
    {size taken : Nat}
    (fits : taken ≤ size) :
    sizeOfBytes (size - taken) = sizeOfBytes size - sizeOfBytes taken := by
  obtain ⟨left, rfl⟩ := Nat.exists_eq_add_of_le fits
  rw [Nat.add_sub_cancel_left, sizeOfBytes_add]
  grind

theorem accepted_le
    (input : OsAnswer)
    (sz : Nat) :
    accepted input sz ≤ sz := by
  unfold accepted
  omega

section Keeping

/--
The steps that are considered: when the socket thread gets the lock to write,
the contents of the strings on the low list begin where the objects begin.
-/
def WritesInPlace (v v' : SocketView Worker) : Prop :=
  v.sock.dw_lock = none →
  v'.sock.dw_lock = some .socketThread →
  ∀ node ∈ v.sock.low, node.InPlace v.c_str

/-- Code of the socket thread, with what it needs and what it leaves. -/
abbrev Writes
    (pre : SocketView Worker → Prop)
    (action : SocketAction Worker α)
    (post : α → SocketView Worker → Prop) : Prop :=
  action.Assured MovesDirect WritesInPlace pre post

/-- A TCP socket that has been set up, as long as it is not closed. -/
structure SocketView.InUse (v : SocketView Worker) : Prop where
  protocol : v.sock.protocol = .TCP
  notReserved : v.sock.type ≠ .kSocketTypeReserve
  accounted : v.sock.type ≠ .kSocketTypeInvalid → v.sock.Accounted

/-- What is known of a socket that other threads do not touch. -/
def Untouched (known : SocketView Worker → Prop) : Prop :=
  ∀ v v', MovesDirect v v' → known v → known v'

/-- Knowledge that only speaks of what the socket thread owns. -/
theorem untouched_of
    {known : SocketView Worker → Prop}
    (same :
      ∀ v lock buffer size offset notes,
        known v →
        known
          { v with
            sock :=
              { v.sock with
                dw_lock := lock
                dw_buffer := buffer
                dw_size := size
                dw_offset := offset }
            notes := notes }) :
    Untouched known := by
  rintro v v' ⟨lock, buffer, size, offset, notes, rfl⟩ holds
  exact same v lock buffer size offset notes holds

/-- A TCP socket that has been set up and is not closed. -/
structure SocketView.Open (v : SocketView Worker) : Prop where
  protocol : v.sock.protocol = .TCP
  notReserved : v.sock.type ≠ .kSocketTypeReserve
  isValid : v.sock.type ≠ .kSocketTypeInvalid
  accounted : v.sock.Accounted

theorem SocketView.Open.inUse
    {v : SocketView Worker}
    (isOpen : v.Open) :
    v.InUse :=
  ⟨isOpen.protocol, isOpen.notReserved, fun _ => isOpen.accounted⟩

theorem SocketView.InUse.isOpen
    {v : SocketView Worker}
    (inUse : v.InUse)
    (isValid : v.sock.type ≠ .kSocketTypeInvalid) :
    v.Open :=
  ⟨inUse.protocol, inUse.notReserved, isValid, inUse.accounted isValid⟩

theorem inUse_untouched : @Untouched Worker SocketView.InUse :=
  untouched_of fun _ _ _ _ _ _ inUse =>
    ⟨inUse.protocol, inUse.notReserved,
      fun isValid => ⟨(inUse.accounted isValid).size,
        (inUse.accounted isValid).whole⟩⟩

namespace Writes

variable
    {pre : SocketView Worker → Prop}
    {post : α → SocketView Worker → Prop}

theorem pure
    {result : α}
    (holds : ∀ v, pre v → post result v) :
    Writes pre (Pure.pure result) post :=
  Program.Assured.pure holds

theorem bind
    {action : SocketAction Worker α}
    {after : α → SocketAction Worker β}
    {post : β → SocketView Worker → Prop}
    {mid : α → SocketView Worker → Prop}
    (first : Writes pre action mid)
    (second : ∀ result, Writes (mid result) (after result) post) :
    Writes pre (action >>= after) post :=
  Program.Assured.bind first second

theorem ite
    {condition : Prop}
    [Decidable condition]
    {first second : SocketAction Worker α}
    (onFirst : condition → Writes pre first post)
    (onSecond : ¬ condition → Writes pre second post) :
    Writes pre (if condition then first else second) post :=
  Program.Assured.ite onFirst onSecond

/-- A condition that nothing is known under. -/
theorem absurd
    {action : SocketAction Worker α}
    (impossible : ∀ v, ¬ pre v) :
    Writes pre action post :=
  fun v holds => (impossible v holds).elim

theorem weaken
    {action : SocketAction Worker α}
    {stronger : SocketView Worker → Prop}
    {weaker : α → SocketView Worker → Prop}
    (writes : Writes pre action post)
    (onPre : ∀ v, stronger v → pre v)
    (onPost : ∀ result v, post result v → weaker result v) :
    Writes stronger action weaker :=
  Program.Assured.mono writes onPre onPost

/-- Looking at the socket keeps what is known. -/
theorem ask
    {value : OsAnswer → SocketView Worker → α}
    (post : α → SocketView Worker → Prop)
    (untouched : Untouched pre)
    (learns : ∀ input v, pre v → post (value input v) v) :
    Writes pre (Program.ask value) post :=
  Program.Assured.ask (untouched _ _) learns

theorem act
    {value : OsAnswer → SocketView Worker → α}
    {next : OsAnswer → SocketView Worker → SocketView Worker}
    (post : α → SocketView Worker → Prop)
    (untouched : Untouched pre)
    (steps :
      ∀ input v,
        pre v →
        WritesInPlace v (next input v) →
        post (value input v) (next input v)) :
    Writes pre (Program.act value next) post :=
  Program.Assured.act (untouched _ _) steps

theorem store
    {change : Socket Worker → Socket Worker}
    (post : Unit → SocketView Worker → Prop)
    (untouched : Untouched pre)
    (steps : ∀ v, pre v → post () { v with sock := change v.sock }) :
    Writes pre (SkynetCpp.store change) post :=
  act post untouched fun _ v holds _ => steps v holds

theorem check
    {condition : Prop}
    [Decidable condition]
    (post : Unit → SocketView Worker → Prop)
    (untouched : Untouched pre)
    (met : ∀ v, pre v → condition)
    (learns : ∀ v, pre v → post () v) :
    Writes pre (Program.check condition) post :=
  Program.Assured.check (untouched _ _) met learns

/-- Nothing is run behind `data = nullptr`. -/
theorem nullData
    {after : MessageData → SocketAction Worker α} :
    Writes pre (SkynetCpp.nullData >>= after) post :=
  fun _ _ => trivial

section Keeps

/-- Code that needs and leaves the same. -/
abbrev Keeps
    (known : SocketView Worker → Prop)
    (action : SocketAction Worker α) : Prop :=
  Writes known action fun _ => known

variable {known : SocketView Worker → Prop}

theorem keeps_ask
    (untouched : Untouched known)
    (value : OsAnswer → SocketView Worker → α) :
    Keeps known (Program.ask value) :=
  ask _ untouched fun _ _ holds => holds

theorem keeps_pure
    (result : α) :
    Keeps known (Pure.pure result : SocketAction Worker α) :=
  pure fun _ holds => holds

theorem keeps_useUnset
    (untouched : Untouched known) :
    Keeps known (useUnset : SocketAction Worker Unit) :=
  bind (keeps_ask untouched _) fun _ =>
    ite (fun _ => keeps_pure _) fun _ _ _ => trivial

theorem keeps_reportError
    (untouched : Untouched known)
    (err : String) :
    Keeps known (reportError err) :=
  bind (keeps_ask untouched _) fun _ => keeps_pure _

theorem keeps_enableWrite
    (untouched : Untouched known)
    (enable : Bool)
    (steps :
      ∀ v,
        known v → known { v with sock := { v.sock with writing := enable } }) :
    Keeps known (enableWrite enable) :=
  act _ untouched fun _ v holds _ => steps v holds

theorem keeps_socketUnlock
    (untouched : Untouched known)
    (count : Nat) :
    Keeps known (socketUnlock count) :=
  ite
    (fun _ =>
      store _ untouched fun _ holds =>
        untouched _ _ ⟨none, _, _, _, _, rfl⟩ holds)
    fun _ => keeps_pure _

theorem keeps_warnSocket
    (untouched : Untouched known)
    (steps :
      ∀ v warn_size,
        known v →
        known { v with sock := { v.sock with warn_size := warn_size } }) :
    Keeps known warnSocket := by
  refine bind (keeps_ask untouched _) fun wb_size => ?_
  refine bind (keeps_ask untouched _) fun warn_size => ite (fun _ => ?_) ?_
  · exact bind
      (store (fun _ => known) untouched
        fun v holds => steps v _ holds) fun _ => Writes.nullData
  · exact fun _ => keeps_pure _

end Keeps

end Writes

end Keeping

section Closing

open Writes

/-- Fields that the accounting does not read. -/
theorem SocketView.Open.congr
    {v v' : SocketView Worker}
    (isOpen : v.Open)
    (sameProtocol : v'.sock.protocol = v.sock.protocol)
    (sameType : v'.sock.type = v.sock.type)
    (sameHigh : v'.sock.high = v.sock.high)
    (sameLow : v'.sock.low = v.sock.low)
    (sameSize : v'.sock.wb_size = v.sock.wb_size) :
    v'.Open := by
  obtain ⟨size, whole⟩ := isOpen.accounted
  refine
    ⟨sameProtocol ▸ isOpen.protocol, sameType ▸ isOpen.notReserved,
      sameType ▸ isOpen.isValid, ?_, sameLow ▸ whole⟩
  rw [sameSize, sameHigh, sameLow, size]

theorem open_untouched : @Untouched Worker SocketView.Open :=
  untouched_of fun _ _ _ _ _ _ isOpen => isOpen.congr rfl rfl rfl rfl rfl

/-- `ForceClose`: nothing comes after its first line. -/
theorem forceClose_writes
    {pre : SocketView Worker → Prop}
    {post : SocketMessage → SocketView Worker → Prop}
    (count : Nat) :
    Writes pre (forceClose count) post :=
  Writes.nullData

/-- Something is reported of a socket in use. -/
def Reported (outcome : Outcome) (v : SocketView Worker) : Prop :=
  outcome.isSome ∧ v.InUse

/-- `CloseWrite` under the lock. -/
theorem closeWrite_writes :
    Writes SocketView.Open (@closeWrite Worker 1) Reported := by
  have forced :
      Writes SocketView.Open
        (do return some (Report.kSocketRst, ← @forceClose Worker 1))
        Reported :=
    bind (forceClose_writes 1) fun _ => Writes.pure fun _ holds => holds
  refine bind (keeps_ask open_untouched _) fun closing => ?_
  refine ite (fun _ => forced) fun _ => ?_
  refine bind (keeps_ask open_untouched _) fun type => ?_
  refine ite (fun _ => forced) fun _ => ite (fun _ => ?_) fun _ => ?_
  · exact bind (keeps_ask open_untouched _) fun _ =>
      Writes.pure fun _ isOpen => ⟨rfl, isOpen.inUse⟩
  · refine bind
      (Writes.store (fun _ => SocketView.Open) open_untouched
        fun v isOpen => ?_) fun _ => ?_
    · exact
        ⟨isOpen.protocol, by simp, by simp, isOpen.accounted.size,
          isOpen.accounted.whole⟩
    refine bind
      (keeps_enableWrite open_untouched _ fun v isOpen => ?_) fun _ => ?_
    · exact isOpen.congr rfl rfl rfl rfl rfl
    refine bind (keeps_ask open_untouched _) fun _ => ?_
    exact bind (keeps_ask open_untouched _) fun _ =>
      Writes.pure fun _ isOpen => ⟨rfl, isOpen.inUse⟩

end Closing

section Lists

open Writes

/-- The nodes of the low list that sending a list leaves alone. -/
def Priority.spared : Priority → List WriteBuffer → List WriteBuffer
  | .high, list => list
  | .low, list => list.tail

/-- A list was sent as far as possible; of its head perhaps only a part. -/
structure SocketView.Sent
    (priority : Priority)
    (v : SocketView Worker) : Prop where
  protocol : v.sock.protocol = .TCP
  notReserved : v.sock.type ≠ .kSocketTypeReserve
  isValid : v.sock.type ≠ .kSocketTypeInvalid
  size :
    v.sock.wb_size =
      sizeOfBytes (totalSize v.sock.high + totalSize v.sock.low)
  whole : ∀ node ∈ priority.spared v.sock.low, node.Whole
  inPlace : ∀ node ∈ v.sock.low, node.InPlace v.c_str
  high : priority = .low → v.sock.high = []

/-- Between two nodes of the list that is sent. -/
structure SocketView.Sending
    (priority : Priority)
    (v : SocketView Worker) : Prop where
  isOpen : v.Open
  inPlace : ∀ node ∈ v.sock.low, node.InPlace v.c_str
  high : priority = .low → v.sock.high = []

theorem sent_untouched
    (priority : Priority) :
    @Untouched Worker (SocketView.Sent priority) :=
  untouched_of fun _ _ _ _ _ _ sent =>
    ⟨sent.protocol, sent.notReserved, sent.isValid, sent.size, sent.whole,
      sent.inPlace, sent.high⟩

theorem sending_untouched
    (priority : Priority) :
    @Untouched Worker (SocketView.Sending priority) :=
  untouched_of fun _ _ _ _ _ _ sending =>
    ⟨sending.isOpen.congr rfl rfl rfl rfl rfl, sending.inPlace, sending.high⟩

theorem Priority.mem_of_spared
    {priority : Priority}
    {list : List WriteBuffer}
    {node : WriteBuffer}
    (isSpared : node ∈ priority.spared list) :
    node ∈ list := by
  cases priority with
  | high =>
      exact isSpared
  | low =>
      exact List.mem_of_mem_tail isSpared

theorem SocketView.Sending.sent
    {priority : Priority}
    {v : SocketView Worker}
    (sending : v.Sending priority) :
    v.Sent priority where
  protocol := sending.isOpen.protocol
  notReserved := sending.isOpen.notReserved
  isValid := sending.isOpen.isValid
  size := sending.isOpen.accounted.size
  whole node isSpared :=
    sending.isOpen.accounted.whole node (Priority.mem_of_spared isSpared)
  inPlace := sending.inPlace
  high := sending.high

/-- A list that was sent, and of whose head nothing was written in part. -/
theorem SocketView.Sent.isOpen
    {priority : Priority}
    {v : SocketView Worker}
    (sent : v.Sent priority)
    (whole : ∀ node ∈ v.sock.low, node.Whole) :
    v.Open :=
  ⟨sent.protocol, sent.notReserved, sent.isValid, sent.size, whole⟩

/-- What is left to write of a list of whose head bytes were written. -/
theorem totalSize_written
    (node : WriteBuffer)
    (rest : List WriteBuffer)
    (n : Nat) :
    totalSize (if n = node.sz then rest else node.advance n :: rest) =
      node.sz - n + totalSize rest := by
  split
  · next isAll =>
      simp [isAll]
  · simp [WriteBuffer.advance]

/-- The bytes that were written are taken off `wb_size`. -/
theorem wrote_size
    {sock : Socket Worker}
    {priority : Priority}
    {node : WriteBuffer}
    {rest : List WriteBuffer}
    {n : Nat}
    (starts : sock.list priority = node :: rest)
    (fits : n ≤ node.sz)
    (size :
      sock.wb_size = sizeOfBytes (totalSize sock.high + totalSize sock.low)) :
    (sock.wrote priority node rest n).wb_size =
      sizeOfBytes
        (totalSize (sock.wrote priority node rest n).high +
          totalSize (sock.wrote priority node rest n).low) := by
  cases priority with
  | high =>
      have isHigh : sock.high = node :: rest := starts
      simp only [Socket.wrote, Socket.setList, totalSize_written, size, isHigh,
        totalSize_cons, sizeOfBytes_add, sizeOfBytes_sub fits]
      grind
  | low =>
      have isLow : sock.low = node :: rest := starts
      simp only [Socket.wrote, Socket.setList, totalSize_written, size, isLow,
        totalSize_cons, sizeOfBytes_add, sizeOfBytes_sub fits]
      grind

/-- Where the string of a node is does not change when it is written. -/
theorem mem_wrote_low
    {sock : Socket Worker}
    {priority : Priority}
    {node : WriteBuffer}
    {rest : List WriteBuffer}
    {n : Nat}
    (starts : sock.list priority = node :: rest)
    {written : WriteBuffer}
    (isLow : written ∈ (sock.wrote priority node rest n).low) :
    ∃ earlier ∈ sock.low, earlier.buffer = written.buffer := by
  cases priority with
  | high =>
      exact ⟨written, isLow, rfl⟩
  | low =>
      have wasLow : sock.low = node :: rest := starts
      have isWritten :
          written ∈ if n = node.sz then rest else node.advance n :: rest :=
        isLow
      rw [wasLow]
      split at isWritten
      · exact ⟨written, List.mem_cons_of_mem _ isWritten, rfl⟩
      · rcases List.mem_cons.mp isWritten with rfl | isRest
        · exact ⟨node, List.mem_cons_self, rfl⟩
        · exact ⟨written, List.mem_cons_of_mem _ isRest, rfl⟩

/-- The low list behind its head stays as it is. -/
theorem spared_wrote
    {sock : Socket Worker}
    {priority : Priority}
    {node : WriteBuffer}
    {rest : List WriteBuffer}
    {n : Nat}
    (starts : sock.list priority = node :: rest)
    {spared : WriteBuffer}
    (isSpared :
      spared ∈ priority.spared (sock.wrote priority node rest n).low) :
    spared ∈ sock.low := by
  cases priority with
  | high =>
      exact isSpared
  | low =>
      have wasLow : sock.low = node :: rest := starts
      have isTail :
          spared ∈
            (if n = node.sz then rest else node.advance n :: rest).tail :=
        isSpared
      rw [wasLow]
      split at isTail
      · exact List.mem_cons_of_mem _ (List.mem_of_mem_tail isTail)
      · exact List.mem_cons_of_mem _ isTail

/-- A part of the head of a list was written. -/
theorem SocketView.Sending.wrote
    {priority : Priority}
    {v : SocketView Worker}
    {node : WriteBuffer}
    {rest : List WriteBuffer}
    {n : Nat}
    (sending : v.Sending priority)
    (notes : List SocketNote)
    (starts : v.sock.list priority = node :: rest)
    (fits : n ≤ node.sz) :
    SocketView.Sent priority
      { v with sock := v.sock.wrote priority node rest n, notes := notes } where
  protocol := by
    cases priority <;> exact sending.isOpen.protocol
  notReserved := by
    cases priority <;> exact sending.isOpen.notReserved
  isValid := by
    cases priority <;> exact sending.isOpen.isValid
  size := wrote_size starts fits sending.isOpen.accounted.size
  whole spared isSpared :=
    sending.isOpen.accounted.whole spared (spared_wrote starts isSpared)
  inPlace written isLow := by
    obtain ⟨earlier, wasLow, sameBuffer⟩ := mem_wrote_low starts isLow
    simpa only [WriteBuffer.InPlace, sameBuffer] using
      sending.inPlace earlier wasLow
  high isLow := by
    subst isLow
    exact sending.high rfl

/-- All of the head of a list was written. -/
theorem SocketView.Sending.wroteAll
    {priority : Priority}
    {v : SocketView Worker}
    {node : WriteBuffer}
    {rest : List WriteBuffer}
    {notes : List SocketNote}
    (sending : v.Sending priority)
    (starts : v.sock.list priority = node :: rest) :
    SocketView.Sending priority
      { v with
        sock := v.sock.wrote priority node rest node.sz
        notes := notes } := by
  have sent := sending.wrote notes starts (Nat.le_refl node.sz)
  refine ⟨sent.isOpen fun other isLow => ?_, sent.inPlace, sent.high⟩
  refine sending.isOpen.accounted.whole other ?_
  cases priority with
  | high =>
      exact isLow
  | low =>
      have wasLow : v.sock.low = node :: rest := starts
      rw [wasLow]
      refine List.mem_cons_of_mem _ ?_
      simpa [Socket.wrote, Socket.setList] using isLow

/-- What `writeHead` leaves, by how it ended. -/
def AfterHead
    (priority : Priority) : HeadWritten → SocketView Worker → Prop
  | .part => SocketView.Sent priority
  | .empty | .all | .failed => SocketView.Sending priority

theorem writeHead_writes
    (priority : Priority) :
    Writes (SocketView.Sending priority) (@writeHead Worker priority)
      (AfterHead priority) := by
  refine Writes.act _ (sending_untouched priority) fun input v sending _ => ?_
  cases starts : v.sock.list priority with
  | nil =>
      exact sending
  | cons node rest =>
      dsimp only
      by_cases failed : input.result < 0
      · by_cases again : input.errno = .AGAIN_WOULDBLOCK
        · simpa only [failed, again, if_true, AfterHead] using sending.sent
        · simp only [failed, again, if_true, if_false, AfterHead]
          exact
            sending_untouched priority _ _ ⟨_, _, _, _, _, rfl⟩ sending
      · by_cases isAll : accepted input node.sz = node.sz
        · simp only [failed, isAll, if_true, if_false, AfterHead]
          exact sending.wroteAll starts
        · simp only [failed, isAll, if_false, AfterHead]
          exact sending.wrote _ starts (accepted_le input node.sz)

/-- What sending a list leaves: the list, or a closed or a broken socket. -/
def AfterSending
    (priority : Priority) : Outcome → SocketView Worker → Prop
  | none => SocketView.Sent priority
  | some _ => SocketView.InUse

theorem sendListTCPLoop_writes
    (priority : Priority)
    (nodes : Nat) :
    Writes (SocketView.Sending priority)
      (@sendListTCPLoop Worker priority 1 nodes)
      (AfterSending priority) := by
  induction nodes with
  | zero =>
      exact Writes.pure fun _ sending => sending.sent
  | succ nodes inductionHypothesis =>
      refine bind (writeHead_writes priority) fun written => ?_
      cases written with
      | empty =>
          exact Writes.pure fun _ sending => sending.sent
      | part =>
          exact Writes.pure fun _ sent => sent
      | failed =>
          refine weaken closeWrite_writes (fun _ sending => sending.isOpen) ?_
          rintro (_ | report) v ⟨isReported, inUse⟩
          · cases isReported
          · exact inUse
      | all =>
          exact inductionHypothesis

theorem sendList_writes
    (priority : Priority) :
    Writes (SocketView.Sending priority)
      (@sendList Worker priority 1) (AfterSending priority) := by
  refine bind
    (Writes.ask
      (fun protocol v => protocol = .TCP ∧ v.Sending priority)
      (sending_untouched priority)
      fun _ v sending => ⟨sending.isOpen.protocol, sending⟩) fun protocol => ?_
  refine ite (fun _ => ?_) fun isOther => absurd fun v holds => isOther holds.1
  refine bind
    (weaken (keeps_ask (sending_untouched priority) _) (fun _ holds => holds.2)
      fun _ _ sending => sending) fun nodes => ?_
  exact sendListTCPLoop_writes priority nodes

end Lists

section SendBuffer

open Writes

/-- Both lists are empty. -/
structure SocketView.Drained (v : SocketView Worker) : Prop where
  isOpen : v.Open
  high : v.sock.high = []
  low : v.sock.low = []

theorem drained_untouched : @Untouched Worker SocketView.Drained :=
  untouched_of fun _ _ _ _ _ _ drained =>
    ⟨drained.isOpen.congr rfl rfl rfl rfl rfl, drained.high, drained.low⟩

/-- Once both lists are empty, nothing is counted. -/
theorem SocketView.Drained.size
    {v : SocketView Worker}
    (drained : v.Drained) :
    v.sock.wb_size = 0 := by
  rw [drained.isOpen.accounted.size, drained.high, drained.low]
  rfl

/-- `SendBuffer_` at its end: what it asserts holds. -/
theorem sentBuffer_writes :
    Writes SocketView.Drained (@sentBuffer Worker 1)
      fun _ => SocketView.InUse := by
  have keeps :
      ∀ {α : Type} {action : SocketAction Worker α},
        Keeps SocketView.Drained action →
        Writes SocketView.Drained action fun _ => SocketView.InUse :=
    fun writes => weaken writes (fun _ drained => drained)
      fun _ _ drained => drained.isOpen.inUse
  refine bind
    (Writes.ask (fun empty v => empty = true ∧ v.Drained)
      drained_untouched fun _ v drained => ⟨?_, drained⟩) fun empty => ?_
  · simp [drained.high, drained.low, drained.size]
  refine bind
    (Writes.check (fun _ => SocketView.Drained) ?_
      (fun _ holds => holds.1) fun _ holds => holds.2) fun _ => ?_
  · exact fun v v' moved holds => ⟨holds.1, drained_untouched v v' moved holds.2⟩
  refine bind (keeps_ask drained_untouched _) fun closing => ?_
  refine ite (fun _ => ?_) fun _ => ?_
  · exact bind (forceClose_writes 1) fun _ => keeps_pure _
  refine keeps (bind (keeps_enableWrite drained_untouched _ ?_) fun failed => ?_)
  · exact fun v drained =>
      ⟨drained.isOpen.congr rfl rfl rfl rfl rfl, drained.high, drained.low⟩
  refine ite (fun _ => keeps_reportError drained_untouched _) fun _ => ?_
  refine bind (keeps_ask drained_untouched _) fun warn_size => ?_
  refine ite (fun _ => ?_) fun _ => keeps_pure _
  refine bind
    (Writes.store (fun _ => SocketView.Drained) drained_untouched
      fun v drained => ?_) fun _ => Writes.nullData
  exact ⟨drained.isOpen.congr rfl rfl rfl rfl rfl, drained.high, drained.low⟩

theorem afterList_writes
    {priority : Priority}
    {rest : SocketAction Worker Outcome}
    (goesOn :
      Writes (SocketView.Sent priority) rest fun _ => SocketView.InUse)
    (outcome : Outcome) :
    Writes (AfterSending priority outcome) (afterList outcome rest)
      fun _ => SocketView.InUse := by
  match outcome with
  | none =>
      exact goesOn
  | some (report, message) =>
      unfold afterList
      split <;> first | exact keeps_pure _ | contradiction

/-- Whether the head of a list that was sent counts as written in part. -/
theorem listUncomplete_writes
    (priority : Priority) :
    Writes (SocketView.Sent priority)
      (@listUncomplete Worker .low)
      fun uncomplete v =>
        v.Sent priority ∧
          (uncomplete = false → ∀ node ∈ v.sock.low, node.Whole) := by
  refine Writes.ask _ (sent_untouched priority) fun input v sent => ⟨sent, ?_⟩
  intro isComplete node isLow
  cases shape : v.sock.low with
  | nil =>
      simp [shape] at isLow
  | cons head rest =>
      have points : head.ptr = v.c_str (head.buffer.getD 0) := by
        simpa [Socket.list, shape] using isComplete
      have inPlace := sent.inPlace head (by simp [shape])
      rw [shape] at isLow
      rcases List.mem_cons.mp isLow with rfl | isRest
      · exact points.trans inPlace
      · refine sent.whole node ?_
        cases priority with
        | high =>
            simp [Priority.spared, shape, isRest]
        | low =>
            simpa [Priority.spared, shape] using isRest

/-- `RaiseUncomplete` moves the head to the high list, which is empty. -/
theorem raiseUncomplete_writes :
    Writes (SocketView.Sent .low) (@raiseUncomplete Worker)
      fun _ => SocketView.InUse := by
  refine bind
    (Writes.ask (fun empty v => empty = true ∧ v.Sent .low)
      (sent_untouched .low) fun _ v sent => ⟨?_, sent⟩) fun empty => ?_
  · simp [sent.high]
  refine bind
    (Writes.check (fun _ => SocketView.Sent .low) ?_
      (fun _ holds => holds.1) fun _ holds => holds.2) fun _ => ?_
  · exact fun v v' moved holds => ⟨holds.1, sent_untouched .low v v' moved holds.2⟩
  refine Writes.store _ (sent_untouched .low) fun v sent => ?_
  refine ⟨sent.protocol, sent.notReserved, fun _ => ⟨?_, ?_⟩⟩
  · have splits : v.sock.low.take 1 ++ v.sock.low.drop 1 = v.sock.low :=
      List.take_append_drop 1 v.sock.low
    have size := sent.size
    rw [sent.high rfl, totalSize_nil, Nat.zero_add, ← splits,
      totalSize_append] at size
    exact size
  · intro node isLow
    refine sent.whole node ?_
    simpa [Priority.spared] using isLow

theorem sentLow_writes :
    Writes (SocketView.Sent .low) (@sentLow Worker 1)
      fun _ => SocketView.InUse := by
  refine bind (listUncomplete_writes .low) fun uncomplete => ?_
  refine ite (fun _ => ?_) fun isComplete => ?_
  · exact bind
      (weaken raiseUncomplete_writes (fun _ holds => holds.1)
        fun _ _ inUse => inUse)
      fun _ => keeps_pure _
  have isFalse : uncomplete = false := by simpa using isComplete
  refine bind
    (Writes.ask
      (fun empty v =>
        v.Open ∧ v.sock.high = [] ∧ (empty = true → v.sock.low = [])) ?_
      fun _ v holds => ?_) fun empty => ?_
  · rintro v v' moved ⟨sent, whole⟩
    refine ⟨sent_untouched .low v v' moved sent, ?_⟩
    obtain ⟨_, _, _, _, _, rfl⟩ := moved
    exact whole
  · exact
      ⟨holds.1.isOpen (holds.2 isFalse), holds.1.high rfl,
        fun isEmpty => List.isEmpty_iff.mp isEmpty⟩
  refine ite (fun isEmpty => ?_) fun _ => ?_
  · exact weaken sentBuffer_writes
      (fun _ holds => ⟨holds.1, holds.2.1, holds.2.2 isEmpty⟩)
      fun _ _ inUse => inUse
  · exact Writes.pure fun _ holds => holds.1.inUse

theorem sentHigh_writes :
    Writes (SocketView.Sent .high) (@sentHigh Worker 1)
      fun _ => SocketView.InUse := by
  refine bind
    (Writes.ask
      (fun empty v =>
        v.Sent .high ∧ (empty = true → v.sock.high = []))
      (sent_untouched .high) fun _ v sent =>
        ⟨sent, fun isEmpty => List.isEmpty_iff.mp isEmpty⟩) fun empty => ?_
  refine ite (fun isEmpty => ?_) fun _ => ?_
  · refine bind
      (Writes.ask
        (fun empty v =>
          v.Sending .low ∧ (empty = true → v.sock.low = [])) ?_
        fun _ v holds => ?_) fun low => ?_
    · rintro v v' moved ⟨sent, isHigh⟩
      refine ⟨sent_untouched .high v v' moved sent, ?_⟩
      obtain ⟨_, _, _, _, _, rfl⟩ := moved
      exact isHigh
    · exact
        ⟨⟨holds.1.isOpen holds.1.whole, holds.1.inPlace,
            fun _ => holds.2 isEmpty⟩,
          fun isEmpty => List.isEmpty_iff.mp isEmpty⟩
    refine ite (fun isEmpty => ?_) fun _ => ?_
    · exact weaken sentBuffer_writes
        (fun _ holds => ⟨holds.1.isOpen, holds.1.high rfl, holds.2 isEmpty⟩)
        fun _ _ inUse => inUse
    · exact bind
        (weaken (sendList_writes .low) (fun _ holds => holds.1)
          fun _ _ after => after)
        (afterList_writes sentLow_writes)
  · exact Writes.pure fun _ holds =>
      (holds.1.isOpen holds.1.whole).inUse

/-- `SendBuffer_` under the lock: what it asserts holds. -/
theorem sendBufferLocked_writes :
    Writes (SocketView.Sending .high) (@sendBuffer_ Worker 1)
      fun _ => SocketView.InUse := by
  refine bind
    (Writes.ask
      (fun uncomplete v => uncomplete = false ∧ v.Sending .high)
      (sending_untouched .high) fun _ v sending => ⟨?_, sending⟩)
    fun uncomplete => ?_
  · cases shape : v.sock.low with
    | nil =>
        simp [Socket.list, shape]
    | cons head rest =>
        have isLow : head ∈ v.sock.low := by simp [shape]
        have points : head.ptr = v.c_str (head.buffer.getD 0) :=
          (sending.isOpen.accounted.whole head isLow).trans
            (sending.inPlace head isLow).symm
        simp [Socket.list, shape, points]
  refine bind
    (Writes.check (fun _ => SocketView.Sending .high) ?_ ?_
      fun _ holds => holds.2) fun _ => ?_
  · exact fun v v' moved holds =>
      ⟨holds.1, sending_untouched .high v v' moved holds.2⟩
  · exact fun _ holds => by simp [holds.1]
  exact bind (sendList_writes .high) (afterList_writes sentHigh_writes)

/-- What a direct write left is counted as it joins the high list. -/
theorem SocketView.Sending.raiseDirect
    {v : SocketView Worker}
    (sending : v.Sending .high) :
    SocketView.Sending .high { v with sock := raiseDirect v.sock } := by
  unfold SkynetCpp.raiseDirect
  split
  · refine ⟨⟨?_, ?_, ?_, ?_, ?_⟩, sending.inPlace, by simp⟩
    · exact sending.isOpen.protocol
    · exact sending.isOpen.notReserved
    · exact sending.isOpen.isValid
    · have size := sending.isOpen.accounted.size
      simp only [totalSize_cons, sizeOfBytes_add, size]
      grind
    · exact sending.isOpen.accounted.whole
  · exact sending

/-- `SendBuffer`: it only writes once it got the lock. -/
theorem sendBuffer_writes :
    Writes SocketView.Open (@sendBuffer Worker)
      fun _ => SocketView.InUse := by
  refine bind
    (Writes.act
      (fun locked v =>
        v.Open ∧ (locked = true → v.Sending .high)) open_untouched
      fun _ v isOpen inPlace => ?_) fun locked => ?_
  · by_cases isFree : v.sock.dw_lock = none
    · have opened :
          SocketView.Open
            { v with
              sock := { v.sock with dw_lock := some .socketThread } } :=
        isOpen.congr rfl rfl rfl rfl rfl
      have lowInPlace := inPlace isFree (by simp [isFree])
      simp only [isFree, Option.isNone_none, if_true]
      exact ⟨opened, fun _ => ⟨opened, lowInPlace, by simp⟩⟩
    · have notNone : v.sock.dw_lock.isNone = false := by
        simpa [Option.isSome_iff_ne_none] using isFree
      simp only [notNone]
      exact ⟨isOpen, by simp⟩
  refine ite (fun isLocked => ?_) fun _ => ?_
  · refine weaken ?_
      (fun v holds => show v.Sending .high from holds.2 isLocked)
      fun _ _ inUse => inUse
    refine bind
      (Writes.store (fun _ => SocketView.Sending .high)
        (sending_untouched .high) fun _ sending => sending.raiseDirect)
      fun _ => ?_
    refine bind sendBufferLocked_writes fun outcome => ?_
    exact bind (keeps_socketUnlock inUse_untouched _) fun _ => keeps_pure _
  · exact Writes.pure fun _ holds => holds.1.inUse

end SendBuffer

section SendSocket

open Writes

/-- A node that joins a list is counted. -/
theorem SocketView.Open.append
    {v : SocketView Worker}
    (isOpen : v.Open)
    (priority : Priority)
    (request : RequestSend Buffer) :
    SocketView.Open
      { v with sock := v.sock.append priority request } := by
  obtain ⟨size, whole⟩ := isOpen.accounted
  cases priority with
  | high =>
      refine
        ⟨isOpen.protocol, isOpen.notReserved, isOpen.isValid, ?_, whole⟩
      simp only [Socket.append, Socket.setList, Socket.list, size,
        totalSize_append, totalSize_cons, totalSize_nil, sizeOfBytes_add]
      grind [sizeOfBytes]
  | low =>
      refine
        ⟨isOpen.protocol, isOpen.notReserved, isOpen.isValid, ?_, ?_⟩
      · simp only [Socket.append, Socket.setList, Socket.list, size,
          totalSize_append, totalSize_cons, totalSize_nil, sizeOfBytes_add]
        grind [sizeOfBytes]
      · intro node isLow
        rcases List.mem_append.mp isLow with wasLow | isNew
        · exact whole node wasLow
        · rw [List.mem_singleton.mp isNew]
          rfl

theorem keeps_append
    (priority : Priority)
    (request : RequestSend Buffer) :
    Keeps (SocketView.Open : SocketView Worker → Prop)
      (appendSendbuffer priority request) :=
  bind (keeps_useUnset open_untouched) fun _ =>
    Writes.store _ open_untouched fun _ isOpen => isOpen.append priority request

theorem keeps_warn :
    Keeps (SocketView.Open : SocketView Worker → Prop) warnSocket :=
  keeps_warnSocket open_untouched fun _ _ isOpen =>
    isOpen.congr rfl rfl rfl rfl rfl

/-- The protocol of a TCP socket. -/
theorem askProtocol_writes :
    Writes SocketView.Open (load (·.protocol) : SocketAction Worker Protocol)
      fun protocol v => protocol = .TCP ∧ v.Open :=
  Writes.ask _ open_untouched fun _ _ isOpen => ⟨isOpen.protocol, isOpen⟩

theorem sendSocketEmpty_keeps
    (request : RequestSend Buffer)
    (priority : Priority) :
    Keeps (SocketView.Open : SocketView Worker → Prop)
      (sendSocketEmpty request priority none) := by
  refine bind (@askProtocol_writes Worker) fun protocol => ?_
  refine ite (fun _ => ?_) fun isOther => absurd fun v holds => isOther holds.1
  refine bind
    (weaken (keeps_append .high request) (fun _ holds => holds.2)
      fun _ _ isOpen => isOpen) fun _ => ?_
  refine bind
    (keeps_enableWrite open_untouched _ fun _ isOpen =>
      isOpen.congr rfl rfl rfl rfl rfl) fun _ => ?_
  exact ite (fun _ => keeps_reportError open_untouched _) fun _ => keeps_warn

theorem sendSocketMore_keeps
    (request : RequestSend Buffer)
    (priority : Priority) :
    Keeps (SocketView.Open : SocketView Worker → Prop)
      (sendSocketMore request priority none) := by
  refine bind (@askProtocol_writes Worker) fun protocol => ?_
  refine ite
    (fun isOther => absurd fun v holds => isOther.1 holds.1) fun _ => ?_
  refine bind
    (weaken (keeps_append priority request) (fun _ holds => holds.2)
      fun _ _ isOpen => isOpen) fun _ => ?_
  exact keeps_warn

/-- `SendSocket` to a TCP socket. -/
theorem sendSocket_writes
    (request : RequestSend Buffer)
    (priority : Priority) :
    Keeps (SocketView.InUse : SocketView Worker → Prop)
      (sendSocket request priority none) := by
  refine bind
    (Writes.ask (fun type v => v.InUse ∧ v.sock.type = type)
      inUse_untouched fun _ _ inUse => ⟨inUse, rfl⟩) fun type => ?_
  refine ite (fun _ => Writes.pure fun _ holds => holds.1) fun isValid => ?_
  have emptyAsked :
      Keeps (SocketView.Open : SocketView Worker → Prop) sendBufferEmpty := by
    refine bind (keeps_ask open_untouched _) fun highEmpty => ?_
    cases highEmpty
    · exact keeps_pure _
    · exact keeps_ask open_untouched _
  refine weaken ?_
    (fun v holds => show v.Open from holds.1.isOpen (holds.2 ▸ isValid))
    fun _ v (isOpen : v.Open) => isOpen.inUse
  refine bind (keeps_ask open_untouched _) fun id => ?_
  refine ite (fun _ => keeps_pure _) fun _ => ?_
  refine ite (fun _ => keeps_pure _) fun _ => ?_
  refine ite (fun _ => keeps_pure _) fun _ => ?_
  refine bind (keeps_ask open_untouched _) fun closing => ?_
  refine ite (fun _ => keeps_pure _) fun _ => ?_
  refine ite (fun _ => keeps_pure _) fun _ => ?_
  exact bind emptyAsked fun isEmpty =>
    ite (fun _ => sendSocketEmpty_keeps request priority)
      fun _ => sendSocketMore_keeps request priority

end SendSocket

end SkynetCpp
