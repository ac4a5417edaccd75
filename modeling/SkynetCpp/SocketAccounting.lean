import SkynetCpp.SocketListsRefine

namespace SkynetCpp

open Foundation

/-!
# The count of waiting bytes

Along every run of writes to a TCP socket, `wb_size` counts the bytes of both
lists in memory, `tail` is the last node, the head of the low list is whole, and
nothing that is asserted fails; as long as the socket thread only gets to write
when the strings on the low list keep their contents in place.  `ListUncomplete`
takes any other head for one that was written in part.
-/

variable {Worker : Type}

section Threads

open Writes

/-- The socket thread keeps the account, whatever it is called for. -/
theorem socketThread_writes
    (call : WriteCall) :
    Writes (@SocketView.InUse Worker)
      (writeThreads .socketThread call) fun _ => SocketView.InUse := by
  cases call with
  | SendSocket request priority =>
      exact bind (sendSocket_writes request priority) fun _ => keeps_pure _
  | SendBuffer =>
      refine bind
        (Writes.ask (fun type v => v.InUse ∧ v.sock.type = type)
          inUse_untouched fun _ _ inUse => ⟨inUse, rfl⟩) fun type => ?_
      refine ite (fun isValid => ?_) fun _ =>
        Writes.pure fun _ holds => holds.1
      refine bind
        (weaken sendBuffer_writes
          (fun v holds => holds.1.isOpen (holds.2 ▸ isValid))
          fun _ _ inUse => inUse)
        fun _ => keeps_pure _
  | Send buffer =>
      exact keeps_pure _

/-- The other threads only write directly. -/
theorem worker_direct
    (thread : Caller Worker)
    (call : WriteCall)
    (isWorker : thread ≠ .socketThread) :
    WritesDirectly (writeThreads thread call) := by
  match thread, call with
  | .socketThread, _ =>
      exact (isWorker rfl).elim
  | .worker worker, .Send buffer =>
      exact .bind (WritesDirectly.sendDirect _ _) fun _ => .pure _
  | .worker _, .SendSocket _ _
  | .worker _, .SendBuffer =>
      exact .pure _

end Threads

section Visited

/--
A TCP socket that has been set up, with empty lists: nothing is counted yet.
-/
structure LinkedView.Fresh (l : LinkedView Worker) : Prop where
  protocol : l.sock.protocol = .TCP
  notReserved : l.sock.type ≠ .kSocketTypeReserve
  head : ∀ priority, l.head priority = none
  tail : ∀ priority, l.tail priority = none
  wb_size : l.sock.wb_size = 0

/-- What is counted, and how the lists lie in memory. -/
structure LinkedView.Accounted
    (l : LinkedView Worker)
    (nodes : Priority → List Nat) : Prop where
  /-- Following `next` from `head` visits the nodes, and none is in both. -/
  chains : Chains l.next l.head nodes
  /-- `tail` is the last node, and null for an empty list. -/
  tail : ∀ priority, l.tail priority = (nodes priority).getLast?
  wb_size :
    l.sock.wb_size =
      sizeOfBytes
        (totalSize ((nodes .high).map l.node) +
          totalSize ((nodes .low).map l.node))
  /-- Nothing was written of the head of the low list. -/
  whole : ∀ tmp, l.head .low = some tmp → (l.node tmp).Whole

/--
When the socket thread gets the lock to write, the contents of the strings on
the low list begin where the objects begin.
-/
def LinkedView.WritesInPlace (l l' : LinkedView Worker) : Prop :=
  l.sock.dw_lock = none →
  l'.sock.dw_lock = some .socketThread →
  ∀ steps tmp,
    walk l.next (l.head .low) steps = some tmp → (l.node tmp).InPlace l.c_str

/-- What is known of the lists in memory from the plain ones. -/
theorem LinkedView.Shows.accounted
    {l : LinkedView Worker}
    {v : SocketView Worker}
    (shows_ : l.Shows v)
    (accounted : v.sock.Accounted) :
    ∃ nodes, l.Accounted nodes := by
  obtain ⟨nodes, listed, same⟩ := shows_.lists
  have isHigh : v.sock.high = (nodes .high).map l.node := same .high
  have isLow : v.sock.low = (nodes .low).map l.node := same .low
  have sameSize : v.sock.wb_size = l.sock.wb_size :=
    shows_.field Socket.wb_size fun _ _ _ => rfl
  refine ⟨nodes, listed.chains, listed.tail, ?_, fun tmp starts => ?_⟩
  · rw [← sameSize, accounted.size, isHigh, isLow]
  · obtain ⟨rest, shape⟩ := listed.chains.exists_eq_cons starts
    refine accounted.whole _ ?_
    rw [isLow, shape]
    exact List.mem_cons_self

/-- What is considered of the lists in memory is considered of plain ones. -/
theorem LinkedView.Shows.writesInPlace
    {l l' : LinkedView Worker}
    {v v' : SocketView Worker}
    (shows_ : l.Shows v)
    (shows_' : l'.Shows v')
    (inPlace : l.WritesInPlace l') :
    SkynetCpp.WritesInPlace v v' := by
  intro isFree isLocked node isMember
  obtain ⟨nodes, listed, same⟩ := shows_.lists
  have isLow : v.sock.low = (nodes .low).map l.node := same .low
  have sameLock : v.sock.dw_lock = l.sock.dw_lock :=
    shows_.field Socket.dw_lock fun _ _ _ => rfl
  have sameLock' : v'.sock.dw_lock = l'.sock.dw_lock :=
    shows_'.field Socket.dw_lock fun _ _ _ => rfl
  rw [isLow] at isMember
  obtain ⟨tmp, isListed, rfl⟩ := List.mem_map.mp isMember
  obtain ⟨steps, isMet⟩ :=
    (listed.chains.chain .low).mem_iff_walk.mp isListed
  rw [shows_.c_str]
  exact
    inPlace (sameLock ▸ isFree) (sameLock' ▸ isLocked) steps tmp isMet

/-- A socket with empty lists, with its lists in memory and with plain ones. -/
theorem LinkedView.Fresh.shows
    {l : LinkedView Worker}
    (fresh : l.Fresh) :
    ∃ v, l.Shows v ∧ v.InUse := by
  refine
    ⟨⟨l.index, { l.sock with high := [], low := [] }, l.c_str, l.notes⟩,
      ⟨rfl, rfl, rfl, rfl, fresh.protocol, fun _ => [], ?_, ?_⟩, ?_⟩
  · refine ⟨⟨fresh.head, fun _ => List.nodup_nil, by simp⟩, ?_, by simp⟩
    exact fresh.tail
  · rintro (_ | _) <;> rfl
  · refine ⟨fresh.protocol, fresh.notReserved, fun _ => ⟨?_, by simp⟩⟩
    exact fresh.wb_size

variable [DecidableEq Worker]

/-- The machine with plain lists that moves as the one with lists in memory. -/
def Kept
    (machine : Machine (Caller Worker) (LinkedView Worker) OsAnswer) : Prop :=
  ∃ plain : Machine (Caller Worker) (SocketView Worker) OsAnswer,
    Machine.Related LinkedView.Shows machine plain ∧
      Machine.Owned MovesDirect WritesInPlace SocketView.InUse .socketThread
        plain

theorem Kept.step
    {machine machine' :
      Machine (Caller Worker) (LinkedView Worker) OsAnswer}
    {label : Caller Worker × Move WriteCall OsAnswer}
    (kept : Kept machine)
    (inPlace : machine.shared.WritesInPlace machine'.shared)
    (taken : Machine.next? linkedThreads machine label = some machine') :
    Kept machine' := by
  obtain ⟨plain, isRelated, owned⟩ := kept
  obtain ⟨plain', taken', isRelated'⟩ :=
    isRelated.step linkedThreads_refines taken
  refine ⟨plain', isRelated', ?_⟩
  refine owned.step Std.Refl.refl MovesDirect.trans
    (inUse_untouched _ _) socketThread_writes worker_direct (fun _ => ?_) taken'
  exact isRelated.shared.writesInPlace isRelated'.shared inPlace

/--
Between steps of the socket thread `wb_size` counts both lists, `tail` is the
last node, and the head of the low list is whole; no assertion ever fails.
-/
theorem accounted_visited
    {start : LinkedView Worker}
    (fresh : start.Fresh)
    {past :
      List
        (Machine (Caller Worker) (LinkedView Worker) OsAnswer ×
          (Caller Worker × Move WriteCall OsAnswer))}
    {final : Machine (Caller Worker) (LinkedView Worker) OsAnswer}
    (run :
      Run (Run.Steps (Machine.next? linkedThreads)) (Machine.idle start)
        past final)
    (inPlace :
      ∀ machine label machine',
        (machine, label) ∈ past →
        Machine.next? linkedThreads machine label = some machine' →
        machine.shared.WritesInPlace machine'.shared) :
    ∀ machine ∈ Run.visited past final,
      (machine.program .socketThread = .done () →
        machine.shared.sock.type ≠ .kSocketTypeInvalid →
        ∃ nodes, machine.shared.Accounted nodes) ∧
        ¬ machine.Stuck .socketThread := by
  obtain ⟨v, shows_, inUse⟩ := fresh.shows
  have started : Kept (Machine.idle start) :=
    ⟨Machine.idle v, ⟨shows_, fun _ => rfl⟩, inUse, fun _ _ => trivial⟩
  have kept :=
    Run.invariant_visited run started
      (fun holds guarded taken => Kept.step holds (guarded _ taken) taken)
      (fun member machine' => inPlace _ _ machine' member)
  intro machine visited
  obtain ⟨plain, isRelated, owned⟩ := kept machine visited
  constructor
  · intro isIdle isValid
    have inUse := owned.ready_of_idle (isRelated.done isIdle)
    have sameType : plain.shared.sock.type = machine.shared.sock.type :=
      isRelated.shared.field Socket.type fun _ _ _ => rfl
    exact isRelated.shared.accounted (inUse.accounted (sameType ▸ isValid))
  · intro isStuck
    exact owned.not_stuck Std.Refl.refl (isRelated.stuck isStuck)

end Visited

section Runs

/--
A connected TCP socket with empty lists.  A string keeps its contents 16 bytes
behind its beginning, as short strings do.
-/
def connectedSocket : LinkedView Unit where
  index := 1
  sock :=
    { opaqueValue := 0, high := [], low := [], wb_size := 0,
      sending := 0, fd := 7, id := 1, type := .kSocketTypeConnected,
      protocol := .TCP, reading := true, writing := false, closing := false,
      udpconnecting := 0, warn_size := 0, p := .size 64, dw_lock := none,
      dw_offset := 0, dw_buffer := none, dw_size := 0, incarnation := 1 }
  c_str := fun object => ⟨some object, 16⟩
  notes := []
  node := fun _ => ⟨none, ⟨none, 0⟩, 0⟩
  next := fun _ => none
  head := fun _ => none
  tail := fun _ => none
  used := 0

theorem connectedSocket_fresh : connectedSocket.Fresh :=
  ⟨rfl, by decide, fun _ => rfl, fun _ => rfl, rfl⟩

/-- What the socket thread does next. -/
abbrev socketThreadDoes
    (move : Move WriteCall OsAnswer) :
    Caller Unit × Move WriteCall OsAnswer :=
  (.socketThread, move)

/-- Five bytes of a string to send. -/
def fiveBytes (object : Nat) : RequestSend Buffer where
  id := 1
  sz := 5
  buffer := some object

/-- A step by which a pointer that was never set points to memory for a node. -/
abbrev allocating : Move WriteCall OsAnswer :=
  .advance { (default : OsAnswer) with flag := true }

/-- Five bytes to send, of which the operating system takes three. -/
def shortWrite : List (Caller Unit × Move WriteCall OsAnswer) :=
  socketThreadDoes (.call (.SendSocket (fiveBytes 0) .high)) ::
    List.replicate 11 (socketThreadDoes allocating) ++
  socketThreadDoes (.call .SendBuffer) ::
    List.replicate 10
      (socketThreadDoes (.advance { (default : OsAnswer) with result := 3 }))

/-- Two strings to send, one with each priority, and a write event. -/
def sendBothPriorities : List (Caller Unit × Move WriteCall OsAnswer) :=
  socketThreadDoes (.call (.SendSocket (fiveBytes 0) .high)) ::
    List.replicate 11 (socketThreadDoes allocating) ++
  socketThreadDoes (.call (.SendSocket (fiveBytes 1) .low)) ::
    List.replicate 9 (socketThreadDoes allocating) ++
  socketThreadDoes (.call .SendBuffer) ::
    List.replicate 4 (socketThreadDoes (.advance default))

/-- An empty low list keeps all its strings in place. -/
theorem writesInPlace_of_empty
    {l l' : LinkedView Worker}
    (isEmpty : (l.head .low).isNone = true) :
    l.WritesInPlace l' := by
  intro _ _ steps tmp isMet
  have isNull : l.head .low = none := by simpa using isEmpty
  have chain : Chain l.next (l.head .low) [] := isNull
  simp [chain.walk_eq] at isMet

/-- The socket thread runs nothing, and two bytes are counted. -/
def twoBytesLeft
    (machine : Machine (Caller Unit) (LinkedView Unit) OsAnswer) : Bool :=
  match machine.program .socketThread with
  | .done _ =>
      decide (machine.shared.sock.wb_size = 2) &&
        decide (machine.shared.sock.type = .kSocketTypeConnected)
  | _ => false

theorem shortWrite_accounted :
    ∃ past final,
      Run (Run.Steps (Machine.next? linkedThreads))
        (Machine.idle connectedSocket) past final ∧
        final.shared.sock.wb_size = 2 ∧
        (∃ nodes, final.shared.Accounted nodes) ∧
        ¬ final.Stuck .socketThread := by
  obtain ⟨past, final, run, isEmpty, isLeft⟩ :=
    Run.exists_of_trace (Machine.idle connectedSocket)
      (Machine.next? linkedThreads) shortWrite
      (fun machine => (machine.shared.head .low).isNone) twoBytesLeft rfl
  have accounted :=
    accounted_visited connectedSocket_fresh run
      (fun machine label _ member _ =>
        writesInPlace_of_empty (isEmpty machine label member))
      final (by simp)
  unfold twoBytesLeft at isLeft
  split at isLeft
  · next isIdle =>
      simp only [Bool.and_eq_true, decide_eq_true_eq] at isLeft
      exact
        ⟨past, final, run, isLeft.1,
          accounted.1 isIdle (by simp [isLeft.2]), accounted.2⟩
  · cases isLeft

/-- The first assertion of `SendBuffer_` fails once the low list has a node. -/
theorem sendBothPriorities_stuck :
    connectedSocket.Fresh ∧
      ∃ past final,
        Run (Run.Steps (Machine.next? linkedThreads))
          (Machine.idle connectedSocket) past final ∧
          final.Stuck .socketThread := by
  refine ⟨connectedSocket_fresh, ?_⟩
  have traced :
      ∃ reached,
        Run.trace (Machine.next? linkedThreads) []
          (Machine.idle connectedSocket) sendBothPriorities = some reached ∧
          reached.2.Stuck .socketThread :=
    ⟨_, rfl, _, _, rfl, fun _ => rfl⟩
  obtain ⟨⟨past, final⟩, isTrace, isStuck⟩ := traced
  exact
    ⟨past, final,
      Run.extend_of_trace (Machine.idle connectedSocket) .nil isTrace,
      isStuck⟩

end Runs

end SkynetCpp
