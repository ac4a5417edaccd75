import SkynetCpp.Foundation.Refinement
import SkynetCpp.SocketCalls
import SkynetCpp.SocketKernel

namespace SkynetCpp

open Foundation

/-!
# The server under its descriptors

The threads do to the server with its descriptors only what they do to the
server alone: whatever the operating system answers, a run of the one shows a
run of the other.
-/

variable {Worker α β γ δ : Type}

namespace SocketKernel

/-- What the one does to the server, the other does to it as well. -/
abbrev Refines
    (related : α → β → Prop)
    (program : KernelAction Worker α)
    (other : ServerAction Worker β) : Prop :=
  Program.Refines KernelServer.server related program other

section Steps

theorem plain_refines
    (action : ServerAction Worker α) :
    Refines Eq (plain action) action :=
  .zoom (fun _ _ => rfl) action

theorem check_refines
    (k : Nat)
    (condition : Prop)
    [Decidable condition] :
    Refines (fun _ _ => True)
      (.check condition : KernelAction Worker Unit)
      (atSlot k (.check condition)) := by
  rw [atSlot, Program.zoom_check (SocketServer.put_view k)]
  exact .check condition

/-- A condition that is met is no step on the server. -/
theorem passes
    {condition : Prop}
    [Decidable condition] :
    Refines Eq (.check condition : KernelAction Worker Unit) (pure ()) := by
  refine .silent (fun input s s' taken => ?_) fun _ _ => .pure rfl
  simp only [Option.ite_none_right_eq_some, Option.some.injEq] at taken
  rw [taken.2]

/-- The server is changed as the step on the socket says. -/
theorem server_of_watch
    {k : Nat}
    {input : OsAnswer}
    {part : SocketView Worker}
    {s s' : KernelServer Worker}
    (taken : s.watch k input part = some s') :
    s'.server = s.server.put k part := by
  simp only [KernelServer.watch] at taken
  split at taken
  · cases taken
    rfl
  · split at taken
    · cases taken
      rfl
    · obtain ⟨kernel, -, rfl⟩ := Option.map_eq_some_iff.mp taken
      rfl

/-- Code on a socket does the same to the server with its descriptor. -/
theorem watched_refines
    (k : Nat)
    (action : SocketAction Worker α) :
    Refines Eq (watched k action) (atSlot k action) := by
  induction action with
  | done result =>
      exact .pure rfl
  | crash =>
      trivial
  | step next rest inductionHypothesis =>
      intro input s s' taken
      obtain ⟨part, performed, watches⟩ := Option.bind_eq_some_iff.mp taken
      refine ⟨_, .once input ?_, inductionHypothesis input _⟩
      rw [performed, server_of_watch watches]
      rfl

/-- An answer of the operating system, which need not be the same one. -/
theorem call_refines
    {related : α → β → Prop}
    {value : OsAnswer → α}
    {note : OsAnswer → Option OsCall}
    {value' : OsAnswer → β}
    (answers : OsAnswer → OsAnswer)
    (same : ∀ input, related (value input) (value' (answers input))) :
    Refines related (call value note : KernelAction Worker α)
      (answer value') := by
  refine Program.Refines.act answers (fun input _ => same input) fun input s => ?_
  cases note input <;> rfl

/-- A call that the code on the server alone does not make. -/
theorem call_silent
    (value : OsAnswer → α)
    (note : OsAnswer → Option OsCall) :
    Refines (fun _ _ => True) (call value note : KernelAction Worker α)
      (pure ()) := by
  refine .silent (fun input s s' taken => ?_) fun _ _ => .pure trivial
  rw [← Option.some.inj taken]
  dsimp only
  split <;> rfl

theorem osClose_silent
    (fd : Int32) :
    Refines (fun _ _ => True) (osClose fd : KernelAction Worker Unit)
      (pure ()) := by
  refine .silent (fun input s s' taken => ?_) fun _ _ => .pure trivial
  obtain rfl := Option.some.inj taken
  rfl

theorem atSlot_answer
    (k : Nat)
    (value : OsAnswer → α) :
    atSlot k (answer value) = (answer value : ServerAction Worker α) :=
  Program.zoom_ask (SocketServer.put_view k) _

theorem answer_refines
    (k : Nat)
    (value : OsAnswer → α) :
    Refines Eq (answer value : KernelAction Worker α)
      (atSlot k (answer value)) := by
  rw [atSlot_answer]
  exact Program.Refines.act id (fun _ _ => rfl) fun _ _ => rfl

/-- `EpollAdd` fails as the answer says. -/
theorem epollAdd_refines
    (fd : Int32)
    (k slot : Nat) :
    Refines (fun failed result => failed = decide (result ≠ 0))
      (epollAdd fd k : KernelAction Worker Bool)
      (atSlot slot (answer (·.result))) := by
  rw [atSlot_answer]
  intro input s s' taken
  obtain ⟨kernel, -, rfl⟩ := Option.map_eq_some_iff.mp taken
  exact ⟨_, .once input rfl, .pure rfl⟩

section Rules

variable
    {related : α → β → Prop}
    {relatedAfter : γ → δ → Prop}
    {k : Nat}

theorem Refines.bind
    {program : KernelAction Worker α}
    {action : SocketAction Worker β}
    {after : α → KernelAction Worker γ}
    {after' : β → SocketAction Worker δ}
    (first : Refines related program (atSlot k action))
    (second :
      ∀ result result',
        related result result' →
          Refines relatedAfter (after result) (atSlot k (after' result'))) :
    Refines relatedAfter (program >>= after) (atSlot k (action >>= after')) := by
  rw [atSlot, Program.zoom_bind]
  exact Program.Refines.bind first second

/-- The same code on a socket, and what comes after it. -/
theorem Refines.same
    {action : SocketAction Worker α}
    {after : α → KernelAction Worker γ}
    {after' : α → SocketAction Worker δ}
    (second :
      ∀ result,
        Refines relatedAfter (after result) (atSlot k (after' result))) :
    Refines relatedAfter (plain (atSlot k action) >>= after)
      (atSlot k (action >>= after')) := by
  refine Refines.bind (plain_refines _) ?_
  rintro result _ rfl
  exact second result

theorem Refines.ite
    {condition condition' : Prop}
    [Decidable condition]
    [Decidable condition']
    {first second : KernelAction Worker α}
    {first' second' : SocketAction Worker β}
    (same : condition ↔ condition')
    (onFirst : condition → Refines related first (atSlot k first'))
    (onSecond : ¬ condition → Refines related second (atSlot k second')) :
    Refines related (if condition then first else second)
      (atSlot k (if condition' then first' else second')) := by
  rw [atSlot, Program.zoom_ite]
  exact Program.Refines.ite same onFirst onSecond

/-- The code on the server alone may take any answer, where it matters no more. -/
theorem Refines.answered
    {program : KernelAction Worker α}
    {value : OsAnswer → δ}
    {after : δ → SocketAction Worker β}
    (input : OsAnswer)
    (follows : Refines related program (atSlot k (after (value input)))) :
    Refines related program (atSlot k (answer value >>= after)) := by
  rw [atSlot, Program.zoom_bind]
  change Refines related program (atSlot k (answer value) >>= _)
  rw [atSlot_answer]
  exact .of_goes fun _ => ⟨_, .once input rfl, follows⟩

end Rules

end Steps

section Open

variable
    (id fd : Int32)
    (opaqueValue : UInt64)

theorem newFd_refines
    (protocol : Protocol)
    (reading : Bool) :
    Refines Eq
      (newFd id fd protocol opaqueValue reading : KernelAction Worker Bool)
      (atSlot (hashId id)
        (SkynetCpp.newFd id fd protocol opaqueValue reading)) := by
  unfold newFd SkynetCpp.newFd
  refine .same fun type => ?_
  refine .bind (check_refines _ _) fun _ _ _ => ?_
  refine .bind (epollAdd_refines _ _ _) ?_
  rintro failed result rfl
  refine .ite (by simp) (fun _ => .same fun _ => .pure rfl) fun _ => ?_
  refine .same fun _ => .same fun high => ?_
  refine .bind (check_refines _ _) fun _ _ _ => .same fun low => ?_
  refine .bind (check_refines _ _) fun _ _ _ => .same fun _ => ?_
  rw [← watched_enableRead]
  refine .bind (watched_refines _ _) ?_
  rintro failed _ rfl
  exact .ite Iff.rfl (fun _ => .same fun _ => .pure rfl) fun _ => .pure rfl

theorem unnamedSocket_refines :
    Refines Eq (unnamedSocket id opaqueValue : KernelAction Worker Outcome)
      (atSlot (hashId id) do
        return some
          (.kSocketErr,
            ← requestMessage id 0 opaqueValue (.text (← strerror)))) := by
  refine .bind (answer_refines _ _) ?_
  rintro text _ rfl
  exact .same fun _ => .pure rfl

/-- What `inet_ntop` wrote of a name that was found. -/
def Inquired
    (written : Option String × Int32)
    (found : Int × Option String × Int32) : Prop :=
  found.1 = 0 ∧ found.2 = written

theorem listenSocket_refines :
    Refines Eq (listenSocket id fd opaqueValue : KernelAction Worker Outcome)
      (atSlot (hashId id) (SkynetCpp.listenSocket id fd opaqueValue)) := by
  refine .bind (newFd_refines id fd opaqueValue .TCP false) ?_
  rintro made _ rfl
  refine .ite Iff.rfl (fun _ => .same fun _ => ?_) fun _ => ?_
  · refine Program.Refines.skip (call_silent _ _) fun named => ?_
    cases named with
    | false =>
        exact Refines.answered { (default : OsAnswer) with result := 1 }
          (unnamedSocket_refines id opaqueValue)
    | true =>
        have inquired :
            Refines Inquired
              (call (fun input => (input.text, input.number)) fun input =>
                some (.inet_ntop input.text.isSome) :
                KernelAction Worker (Option String × Int32))
              (atSlot (hashId id)
                (answer fun input =>
                  (input.result, input.text, input.number))) := by
          rw [atSlot_answer]
          exact call_refines (fun input => { input with result := 0 })
            fun _ => ⟨rfl, rfl⟩
        rw [if_pos rfl]
        refine Refines.bind inquired ?_
        rintro ⟨text, port⟩ ⟨named, address⟩ ⟨isNamed, rfl⟩
        cases isNamed
        cases text with
        | none => exact unnamedSocket_refines id opaqueValue
        | some text => exact Refines.same fun _ => .pure rfl
  · exact Program.Refines.skip (osClose_silent fd) fun _ => plain_refines _

theorem bindSocket_refines :
    Refines Eq (bindSocket id fd opaqueValue : KernelAction Worker Outcome)
      (atSlot (hashId id) (SkynetCpp.bindSocket id fd opaqueValue)) := by
  refine .bind (newFd_refines id fd opaqueValue .TCP true) ?_
  rintro made _ rfl
  refine .ite Iff.rfl (fun _ => .same fun _ => .same fun _ => .pure rfl) ?_
  exact fun _ => .same fun _ => .pure rfl

/-- Where `std::get` throws, both stop. -/
theorem addUDPSocket_refines
    (family : Int32) :
    Refines Eq
      (kernelThread.addUDPSocket id fd family opaqueValue :
        KernelAction Worker Unit)
      (atSlot (hashId id) (SkynetCpp.addUDPSocket id fd family opaqueValue)) := by
  simp only [kernelThread, addUDPSocket, SkynetCpp.addUDPSocket, getUdpAddress,
    Program.bind_assoc]
  refine .bind (newFd_refines _ _ _ _ _) ?_
  rintro made _ rfl
  cases made with
  | false =>
      rw [if_neg Bool.false_ne_true, if_neg Bool.false_ne_true]
      simp only [Program.bind_assoc]
      refine Program.Refines.skip (osClose_silent fd) fun _ => ?_
      exact (plain_refines _).before fun _ _ _ => passes
  | true =>
      rw [if_pos rfl, if_pos rfl]
      simp only [Program.bind_assoc]
      refine .same fun _ => .same fun p => ?_
      cases p with
      | size size =>
          intro input s s' taken
          simp at taken
      | udpAddress address =>
          simp only [Program.bind_assoc]
          exact (plain_refines _).before fun _ _ _ => passes

theorem refuseAccept_refines
    (k : Nat)
    (errno : Errno) :
    Refines Eq (refuseAccept k errno : KernelAction Worker Outcome)
      (SkynetCpp.refuseAccept k errno) := by
  unfold refuseAccept SkynetCpp.refuseAccept replaceSpare
  refine Program.Refines.ite Iff.rfl (fun _ => ?_) fun _ => .pure rfl
  refine Program.Refines.andThen (plain_refines _) fun outcome => ?_
  simp only [Program.bind_assoc]
  refine Program.Refines.andThen (plain_refines _) fun reserve_fd => ?_
  by_cases spare : 0 ≤ reserve_fd
  · simp only [if_pos spare]
    -- the two ends differ only in whether a connection was accepted and closed
    refine Program.Refines.skip (osClose_silent _) fun _ => ?_
    refine Program.Refines.skip (call_silent _ _) fun accepted => ?_
    have replaced :
        Refines Eq
          (.act (fun _ _ => ()) fun input s =>
            { server := { s.server with reserve_fd := input.number }
              kernel := s.kernel.noted (.dup input.number) } :
            KernelAction Worker Unit)
          (.act (fun _ _ => ()) fun input s =>
            { s with reserve_fd := input.number }) :=
      Program.Refines.act id (fun _ _ => rfl) fun _ _ => rfl
    split
    · refine Program.Refines.skip (osClose_silent _) fun _ => ?_
      exact Program.Refines.andThen replaced fun _ => .pure rfl
    · exact Program.Refines.andThen replaced fun _ => .pure rfl
  · simp only [if_neg spare]
    exact .pure rfl

theorem reportAccept_refines
    (k : Nat) :
    Refines Eq (reportAccept k : KernelAction Worker Outcome)
      (SkynetCpp.reportAccept k) := by
  unfold reportAccept SkynetCpp.reportAccept acceptSocket
  simp only [Program.bind_assoc]
  have accepts :
      Refines Eq (osAccept : KernelAction Worker (Int32 × Errno))
        (answer fun input => (input.number, input.errno)) :=
    call_refines id fun _ => rfl
  refine Program.Refines.andThen accepts fun accepted => ?_
  obtain ⟨client_fd, errno⟩ := accepted
  by_cases refused : client_fd < 0
  · simp only [if_pos refused, Program.bind_assoc]
    exact (refuseAccept_refines k errno).before fun _ _ same => .pure same
  · simp only [if_neg refused, Program.bind_assoc]
    refine Program.Refines.andThen (plain_refines _) fun id => ?_
    cases id with
    | none =>
        simp only [Program.bind_assoc]
        exact Program.Refines.skip (osClose_silent _) fun _ => .pure rfl
    | some id =>
        simp only [Program.bind_assoc]
        refine Program.Refines.andThen (plain_refines _) fun opaqueValue => ?_
        refine Program.Refines.andThen (newFd_refines _ _ _ _ _) fun made => ?_
        cases made with
        | false =>
            rw [if_neg Bool.false_ne_true, if_neg Bool.false_ne_true]
            simp only [Program.bind_assoc]
            exact Program.Refines.skip (osClose_silent _) fun _ => .pure rfl
        | true =>
            rw [if_pos rfl, if_pos rfl]
            simp only [Program.bind_assoc]
            exact Program.Refines.andThen (plain_refines _) fun _ => trivial

end Open

section Threads

theorem handleRequest_refines
    (request : SocketRequest Buffer) :
    Refines Eq
      (kernelThread.handleRequest request : KernelAction Worker Outcome)
      (serverThread.handleRequest request) := by
  cases request with
  | bind id fd opaqueValue =>
      exact bindSocket_refines id fd opaqueValue
  | listen id fd opaqueValue =>
      exact listenSocket_refines id fd opaqueValue
  | udp id fd family opaqueValue =>
      exact Program.Refines.andThen (addUDPSocket_refines id fd opaqueValue family)
        fun _ => .pure rfl
  | setOpt id what value =>
      exact Program.Refines.andThen (watched_refines _ _) fun _ => .pure rfl
  | exit =>
      trivial
  | unknown =>
      exact .pure rfl
  | _ =>
      exact watched_refines _ _

theorem pollEvent_refines
    (index k : Nat)
    (event : Event)
    (type : SocketType) :
    Refines Eq
      (kernelThread.pollEvent index k event type : KernelAction Worker Outcome)
      (serverThread.pollEvent index k event type) := by
  have read :
      Refines Eq
        (kernelThread.pollRead index k event : KernelAction Worker Outcome)
        (serverThread.pollRead index k event) := by
    exact
      Program.Refines.andThen (watched_refines _ _) fun _ => plain_refines _
  have flags :
      Refines Eq
        (kernelThread.pollFlags index k event : KernelAction Worker Outcome)
        (serverThread.pollFlags index k event) := by
    refine Program.Refines.ite Iff.rfl (fun _ => read) fun _ => ?_
    refine Program.Refines.ite Iff.rfl (fun _ => watched_refines _ _) fun _ => ?_
    refine Program.Refines.ite Iff.rfl (fun _ => watched_refines _ _) fun _ => ?_
    exact
      Program.Refines.ite Iff.rfl (fun _ => watched_refines _ _) fun _ =>
        .pure rfl
  cases type
  case kSocketTypeConnecting => exact watched_refines _ _
  case kSocketTypeListen => exact reportAccept_refines k
  case kSocketTypeInvalid => exact .pure rfl
  all_goals exact flags

theorem pollEvents_refines :
    Refines Eq (kernelThread.pollEvents : KernelAction Worker Unit)
      serverThread.pollEvents := by
  refine Program.Refines.andThen (plain_refines _) fun waiting => ?_
  refine Program.Refines.andThen ?_ fun fetched => ?_
  · refine Program.Refines.andThen (.pure rfl) fun known => ?_
    cases known with
    | false => exact plain_refines _
    | true => exact .pure rfl
  · refine Program.Refines.ite Iff.rfl (fun _ => ?_) fun _ => .pure rfl
    refine Program.Refines.andThen (plain_refines _) fun next => ?_
    obtain ⟨index, event, type⟩ := next
    dsimp only
    cases event.s with
    | none => exact .pure rfl
    | some k =>
        exact
          Program.Refines.andThen (pollEvent_refines index k event type)
            fun _ => plain_refines _

theorem pollRequest_refines :
    Refines Eq (kernelThread.pollRequest : KernelAction Worker Unit)
      serverThread.pollRequest := by
  refine Program.Refines.andThen ?_ fun outcome => ?_
  · exact Program.Refines.andThen (plain_refines _) handleRequest_refines
  · cases outcome with
    | none => exact .pure rfl
    | some polled =>
        exact Program.Refines.andThen (plain_refines _) fun _ => plain_refines _

theorem pollRound_refines :
    Refines Eq (pollRound : KernelAction Worker Unit) SkynetCpp.pollRound := by
  refine Program.Refines.andThen (plain_refines _) fun checking => ?_
  refine Program.Refines.ite Iff.rfl (fun _ => ?_) fun _ => pollEvents_refines
  refine Program.Refines.andThen (plain_refines _) fun found => ?_
  refine Program.Refines.ite Iff.rfl (fun _ => pollRequest_refines) fun _ => ?_
  exact Program.Refines.andThen (plain_refines _) fun _ => pollEvents_refines

/-- What a thread runs for a call, with descriptors. -/
def kernelThreads :
    Caller Worker → SocketCall → KernelAction Worker Unit
  | .socketThread, _ => pollRound
  | .worker worker, call => plain (socketThreads (.worker worker) call)

theorem kernelThreads_refines
    (caller : Caller Worker)
    (call : SocketCall) :
    Refines Eq (kernelThreads caller call) (socketThreads caller call) := by
  cases caller with
  | socketThread => exact pollRound_refines
  | worker worker => exact plain_refines _

variable [DecidableEq Worker]

/-- A run of the server with its threads and descriptors. -/
abbrev KernelRun (start : KernelServer Worker) :=
  Run (Run.Steps (Machine.next? kernelThreads)) (Machine.idle start)

/--
What the server comes to with its descriptors, however the threads and the
answers of the operating system alternate, it comes to in a run without them.
-/
theorem exists_socketRun
    {start : KernelServer Worker}
    {past :
      List
        (Machine (Caller Worker) (KernelServer Worker) OsAnswer ×
          (Caller Worker × SocketMove))}
    {final : Machine (Caller Worker) (KernelServer Worker) OsAnswer}
    (run : KernelRun start past final) :
    ∃ past' final',
      SocketRun start.server past' final' ∧
        final'.shared = final.shared.server := by
  obtain ⟨past', final', run', refined⟩ :=
    Machine.Refined.run kernelThreads_refines (.idle start) run
  exact ⟨past', final', run', refined.shared.symm⟩

end Threads

end SocketKernel

end SkynetCpp
