import SkynetCpp.SocketEvents

namespace SkynetCpp

open Foundation

/-!
# Closes and events along runs of the server

No `Poll` gets as far as to report a close, so that every incarnation of a
socket is reported to be closed at most once, and nothing is heard of it after
that.  No slot that holds a socket is reserved again, so that events are handled
in time.
-/

variable {Worker : Type}

section Server

/-- A slot as it is in memory that holds zeros. -/
def blankSocket : Socket Worker where
  opaqueValue := 0
  high := []
  low := []
  wb_size := 0
  sending := 0
  fd := 0
  id := 0
  type := .kSocketTypeInvalid
  protocol := .TCP
  reading := false
  writing := false
  closing := false
  udpconnecting := 0
  warn_size := 0
  p := .size 0
  dw_lock := none
  dw_offset := 0
  dw_buffer := none
  dw_size := 0
  incarnation := 0

/--
A new server on memory that holds zeros.  A string keeps its contents 16 bytes
behind its beginning, as short strings do.
-/
def blankServer : SocketServer Worker :=
  newServer (fun _ => blankSocket) 3 fun object => ⟨some object, 16⟩

/-- What a thread does for a call, with the same input in every step. -/
def calls
    (thread : Caller Worker)
    (call : SocketCall)
    (steps : Nat)
    (input : OsAnswer) : List (Caller Worker × SocketMove) :=
  (thread, .call call) :: List.replicate steps (thread, .advance input)

/-- A request that is there, and an atomic exchange that does not fail. -/
def finding (found : List (SocketRequest Buffer)) : OsAnswer :=
  { (default : OsAnswer) with rounds := 1, flag := true, found := found }

/-- A descriptor is bound, and there is something to read from it. -/
def bindAndRead : List (Caller Unit × SocketMove) :=
  calls (.worker ()) (.Bind 0 7) 8 (finding [.bind 1 7 0]) ++
  calls .socketThread .Poll 16 (finding []) ++
  calls .socketThread .Poll 12
    { (default : OsAnswer) with
      number := 1
      events := [⟨some 1, true, false, false, false, none⟩] }

/-- Both an opened socket and data were reported of the first socket. -/
def SocketServer.heardFirst (s : SocketServer Worker) : Bool :=
  s.polls.map (fun poll => (poll.1, poll.2.about)) ==
    [(.kSocketData, (1, 1)), (.kSocketOpen, (1, 1))]

end Server

section Visited

variable [DecidableEq Worker]

/-- No `Poll` of any run returns `kSocketClose`. -/
theorem unclosed_visited
    {start : SocketServer Worker}
    (isNew : start.log = [])
    {past : List (SocketMachine Worker × (Caller Worker × SocketMove))}
    {final : SocketMachine Worker}
    (run : SocketRun start past final) :
    ∀ machine ∈ Run.visited past final, machine.shared.Unclosed := by
  have started : start.Unclosed := by
    simp [SocketServer.Unclosed, SocketServer.polls, isNew]
  refine Discipline.kept_visited (fun thread call => ?_) started run
  cases thread with
  | socketThread =>
      exact Quieting.pollRound
  | worker worker =>
      exact (Working.workerCall worker call).mono fun _ _ step => step.tacit

/-- `Poll` returns `kSocketClose` at most once for an incarnation. -/
theorem closedOnce_visited
    (memory : Nat → Socket Worker)
    (reserve_fd : Int32)
    (c_str : Nat → Address)
    {past : List (SocketMachine Worker × (Caller Worker × SocketMove))}
    {final : SocketMachine Worker}
    (run : SocketRun (newServer memory reserve_fd c_str) past final) :
    ∀ machine ∈ Run.visited past final, machine.shared.ClosedOnce :=
  fun machine visited => (unclosed_visited rfl run machine visited).closedOnce

theorem bindAndRead_closedOnce :
    ∃ past final,
      SocketRun (blankServer : SocketServer Unit) past final ∧
        final.shared.heardFirst = true ∧
        ∀ machine ∈ Run.visited past final, machine.shared.ClosedOnce := by
  obtain ⟨past, final, run, isHeard⟩ :=
    Run.exists_of_replay (Machine.idle blankServer)
      (Machine.next? socketThreads) bindAndRead
      (fun machine => machine.shared.heardFirst) rfl
  exact ⟨past, final, run, isHeard, closedOnce_visited _ _ _ run⟩

/--
After `kSocketClose`, `Poll` returns no data, datagram, open or accept for an
incarnation.
-/
theorem quietAfterClose_visited
    (memory : Nat → Socket Worker)
    (reserve_fd : Int32)
    (c_str : Nat → Address)
    {past : List (SocketMachine Worker × (Caller Worker × SocketMove))}
    {final : SocketMachine Worker}
    (run : SocketRun (newServer memory reserve_fd c_str) past final) :
    ∀ machine ∈ Run.visited past final, machine.shared.QuietAfterClose :=
  fun machine visited =>
    (unclosed_visited rfl run machine visited).quietAfterClose

theorem bindAndRead_quietAfterClose :
    ∃ past final,
      SocketRun (blankServer : SocketServer Unit) past final ∧
        final.shared.heardFirst = true ∧
        ∀ machine ∈ Run.visited past final,
          machine.shared.QuietAfterClose := by
  obtain ⟨past, final, run, isHeard⟩ :=
    Run.exists_of_replay (Machine.idle blankServer)
      (Machine.next? socketThreads) bindAndRead
      (fun machine => machine.shared.heardFirst) rfl
  exact ⟨past, final, run, isHeard, quietAfterClose_visited _ _ _ run⟩

/-- Every event is handled in the incarnation that it was fetched for. -/
theorem handledInTime_visited
    (memory : Nat → Socket Worker)
    (reserve_fd : Int32)
    (c_str : Nat → Address)
    {past : List (SocketMachine Worker × (Caller Worker × SocketMove))}
    {final : SocketMachine Worker}
    (run : SocketRun (newServer memory reserve_fd c_str) past final) :
    ∀ machine ∈ Run.visited past final, machine.shared.HandledInTime := by
  have started : Attended (newServer memory reserve_fd c_str) := by
    refine ⟨?_, nofun⟩
    intro handled member
    cases member
  exact fun machine visited =>
    (Discipline.holds_visited slotDiscipline_sound started (fun _ => trivial)
      run (fun _ _ _ => ⟨fun _ _ => trivial, fun _ _ => trivial⟩)
      machine visited).invariant.inTime

theorem bindAndRead_handledInTime :
    ∃ past final,
      SocketRun (blankServer : SocketServer Unit) past final ∧
        final.shared.handledEvents =
          [(⟨some 1, true, false, false, false, some 1⟩, 1)] ∧
        ∀ machine ∈ Run.visited past final, machine.shared.HandledInTime := by
  obtain ⟨past, final, run, isHandled⟩ :=
    Run.exists_of_replay (Machine.idle blankServer)
      (Machine.next? socketThreads) bindAndRead
      (fun machine =>
        machine.shared.handledEvents ==
          [(⟨some 1, true, false, false, false, some 1⟩, 1)]) rfl
  exact
    ⟨past, final, run, eq_of_beq isHandled,
      handledInTime_visited _ _ _ run⟩

end Visited

end SkynetCpp
