import SkynetCpp.SocketRuns
import SkynetCpp.SocketSteps

namespace SkynetCpp

open Foundation

/-!
# The parameter of a socket

`Socket::p` holds the size of the next read, or the address that datagrams are
sent to, and the code tells by the protocol which of them it is.  `NewFd` stores
a size for every protocol, so that is what every slot holds in every run, and a
socket for datagrams has no address.
-/

variable
    {Worker α β : Type}
    {s s' : SocketServer Worker}

section Match

/-- The protocols of datagrams. -/
def Protocol.isUDP : Protocol → Bool
  | .UDP | .UDPv6 => true
  | .TCP | .UNKNOWN => false

/-- The slot holds a socket that was set up. -/
def Socket.SetUp (sock : Socket Worker) : Prop :=
  sock.type.isSetUp

/--
The parameters of the sockets are what their protocols say, and `std::get` gives
them.
-/
structure ParametersMatch (s : SocketServer Worker) : Prop where
  size :
    ∀ k,
      (s.slot k).SetUp →
        (s.slot k).protocol = .TCP → ∃ sz, (s.slot k).p = .size sz
  address :
    ∀ k,
      (s.slot k).SetUp →
        (s.slot k).protocol.isUDP = true →
          ∃ address, (s.slot k).p = .udpAddress address
  getReadSize :
    ∀ k,
      (s.slot k).SetUp →
        (s.slot k).protocol = .TCP →
          ∀ input, ∃ sz,
            Machine.solo input 1 (atSlot k getReadSize, s) = some (.done sz, s)
  getUdpAddress :
    ∀ k,
      (s.slot k).SetUp →
        (s.slot k).protocol.isUDP = true →
          ∀ input, ∃ address,
            Machine.solo input 1 (atSlot k getUdpAddress, s) =
              some (.done address, s)

/-- No slot becomes one for datagrams in the step. -/
def OpensNoUDP (s s' : SocketServer Worker) : Prop :=
  ∀ k,
    (s'.slot k).protocol.isUDP = true → (s.slot k).protocol.isUDP = true

/-- Every slot has the size of a read. -/
def Sized (s : SocketServer Worker) : Prop :=
  ∀ k, ∃ sz, (s.slot k).p = .size sz

/-- `std::get` of a size that is there. -/
theorem solo_getReadSize
    {k : Nat}
    {sz : Int32}
    (isSize : (s.slot k).p = .size sz)
    (input : OsAnswer) :
    Machine.solo input 1 (atSlot k getReadSize, s) = some (.done sz, s) := by
  have isView : (s.view k).sock.p = .size sz := isSize
  simp [Machine.solo, atSlot, getReadSize, load, Program.ask, Program.zoom,
    isView]

/-- Sizes are what the protocols say as long as none is for datagrams. -/
theorem Sized.parametersMatch
    (isSized : Sized s)
    (notUDP : ∀ k, (s.slot k).protocol.isUDP = false) :
    ParametersMatch s where
  size k _ _ := isSized k
  address k _ isUDP := by cases (notUDP k).symm.trans isUDP
  getReadSize k _ _ input := by
    obtain ⟨sz, isSize⟩ := isSized k
    exact ⟨sz, solo_getReadSize isSize input⟩
  getUdpAddress k _ isUDP := by cases (notUDP k).symm.trans isUDP

end Match

section Steps

theorem Touches.isSize
    {v v' : SocketView Worker}
    (touches : Touches True v v')
    (isSize : ∃ sz, v.sock.p = .size sz) :
    ∃ sz, v'.sock.p = .size sz := by
  cases touches
  case renew => exact ⟨MIN_READ_BUFFER, rfl⟩
  case readSize sz => exact ⟨sz, rfl⟩
  all_goals exact isSize

theorem Borrows.isSize
    {v v' : SocketView Worker}
    (borrows : Borrows v v')
    (isSize : ∃ sz, v.sock.p = .size sz) :
    ∃ sz, v'.sock.p = .size sz := by
  obtain ⟨_, _, _, _, _, _, _, _, _, _, _, rfl⟩ := borrows
  exact isSize

theorem Sized.put
    {k : Nat}
    {part : SocketView Worker}
    (isSized : Sized s)
    (isSize : ∃ sz, part.sock.p = .size sz) : Sized (s.put k part) := by
  intro j
  by_cases same : j = k
  · subst same
    simpa [SocketServer.put] using isSize
  · rw [s.put_slot_of_ne k part same]
    exact isSized j

theorem Sized.ofSlots
    (isSized : Sized s)
    (sameSlots : s'.slot = s.slot) : Sized s' := by
  intro k
  rw [sameSlots]
  exact isSized k

theorem WorkerStep.sized
    (step : WorkerStep s s')
    (isSized : Sized s) : Sized s' := by
  cases step with
  | nothing =>
      exact isSized
  | onSlot k borrows =>
      exact isSized.put (borrows.isSize (isSized k))
  | reserve k isFree =>
      intro j
      by_cases same : j = k
      · subst same
        simpa using isSized j
      · simpa [same] using isSized j
  | allocate | request | note =>
      exact isSized.ofSlots rfl

theorem ThreadStep.sized
    (step : ThreadStep s s')
    (isSized : Sized s) : Sized s' := by
  cases step with
  | onSlot k touches =>
      exact isSized.put (touches.isSize (isSized k))
  | rest sameSlots =>
      exact isSized.ofSlots sameSlots
  | reserve step =>
      exact step.sized isSized

end Steps

section Threads

/-- All that the threads have to know of each other is that sizes stay. -/
def sizeDiscipline : Discipline (Caller Worker) (SocketServer Worker) :=
  .only Sized

/-- Code of a thread that keeps the sizes. -/
abbrev KeepsSizes
    (thread : Caller Worker)
    (program : ServerAction Worker α)
    (post : α → Prop) : Prop :=
  sizeDiscipline.Triple thread (fun _ => True) program fun result _ =>
    post result

namespace KeepsSizes

variable {thread : Caller Worker}

theorem within
    {program : ServerAction Worker α}
    {effect : SocketServer Worker → SocketServer Worker → Prop}
    (follows : program.Follows effect)
    (keeps : ∀ s s', effect s s' → Sized s → Sized s') :
    KeepsSizes thread program fun _ => True :=
  (Discipline.Triple.within follows (fun _ _ => trivial)
      fun s s' _ step isSized _ =>
        ⟨keeps s s' step isSized, trivial, trivial⟩).mono
    (fun _ _ => trivial) fun _ _ _ => trivial

theorem polling
    {program : ServerAction Worker α}
    (polling : Polling program) :
    KeepsSizes thread program fun _ => True :=
  within polling fun _ _ step => step.sized

theorem touching
    {action : SocketAction Worker α}
    (touching : Touching True action)
    (k : Nat) :
    KeepsSizes thread (atSlot k action) fun _ => True :=
  polling (.atSlot touching k)

theorem bind
    {program : ServerAction Worker α}
    {after : α → ServerAction Worker β}
    {post : β → Prop}
    (first : KeepsSizes thread program fun _ => True)
    (second : ∀ result, KeepsSizes thread (after result) post) :
    KeepsSizes thread (program >>= after) post :=
  Discipline.Triple.bind first second

/-- Code on a slot goes on after code that keeps the sizes. -/
theorem next
    {k : Nat}
    {action : SocketAction Worker α}
    {after : α → SocketAction Worker β}
    {post : β → Prop}
    (first : Touching True action)
    (second : ∀ result, KeepsSizes thread (atSlot k (after result)) post) :
    KeepsSizes thread (atSlot k (action >>= after)) post := by
  unfold atSlot
  rw [Program.zoom_bind]
  exact bind (touching first k) second

theorem ite
    {condition : Prop}
    [Decidable condition]
    {k : Nat}
    {first second : SocketAction Worker α}
    {post : α → Prop}
    (onFirst : KeepsSizes thread (atSlot k first) post)
    (onSecond : KeepsSizes thread (atSlot k second) post) :
    KeepsSizes thread (atSlot k (if condition then first else second)) post := by
  split
  · exact onFirst
  · exact onSecond

/-- `std::get` of an address throws. -/
theorem getUdpAddress_throws
    (k : Nat) :
    sizeDiscipline.Triple thread (fun _ : SocketServer Worker => True)
      (atSlot k getUdpAddress) fun _ _ => False := by
  have loaded :
      sizeDiscipline.Triple thread (fun _ : SocketServer Worker => True)
        (atSlot k (load (·.p))) fun p _ => (∃ sz, p = .size sz) ∧ True := by
    unfold atSlot load
    rw [Program.zoom_ask (SocketServer.put_view k)]
    exact .ask (fun _ => trivial) (fun _ _ => trivial)
      fun _ _ _ isSized => ⟨isSized k, trivial⟩
  have thrown :
      sizeDiscipline.Triple thread (fun _ : SocketServer Worker => True)
        (Program.check False : ServerAction Worker Unit)
        fun _ _ => False :=
    .check (fun _ => trivial) (fun _ _ => trivial)
      fun _ _ impossible => impossible
  unfold atSlot getUdpAddress
  rw [Program.zoom_bind]
  refine .bind loaded fun p => Discipline.Triple.given fun isSize => ?_
  obtain ⟨sz, rfl⟩ := isSize
  dsimp only
  rw [Program.zoom_bind, Program.zoom_check (SocketServer.put_view k)]
  exact .bind thrown fun _ _ impossible => impossible.elim

/-- Nothing behind `std::get` of an address is run. -/
theorem behindGet
    {k : Nat}
    {after : List UInt8 → SocketAction Worker β}
    (post : β → Prop) :
    KeepsSizes thread (atSlot k (getUdpAddress >>= after)) post := by
  unfold atSlot
  rw [Program.zoom_bind]
  exact Discipline.Triple.bind (getUdpAddress_throws k)
    fun _ _ impossible => impossible.elim

theorem setUDPAddress
    {k : Nat}
    (id : Int32)
    (address : List UInt8) :
    KeepsSizes thread
      (atSlot k (SkynetCpp.setUDPAddress id address : SocketAction Worker _))
      fun _ => True := by
  refine .next (.socketInvalid _) fun _ => .ite (.touching (.pure _) k) ?_
  refine .next (.load _) fun _ => .ite (.touching (.reportError _) k) ?_
  exact behindGet _

theorem addUDPSocket
    {k : Nat}
    (id fd family : Int32)
    (opaqueValue : UInt64) :
    KeepsSizes thread
      (atSlot k
        (SkynetCpp.addUDPSocket id fd family opaqueValue :
          SocketAction Worker _))
      fun _ => True := by
  refine .next (.newFd _ _ _ _ _) fun _ => .ite ?_ (.touching .release k)
  exact .next (.storeType (by decide)) fun _ => behindGet _

theorem handleRequest
    (request : SocketRequest Buffer) :
    KeepsSizes thread
      (serverThread.handleRequest request : ServerAction Worker Outcome)
      fun _ => True := by
  have done
      (outcome : Outcome) :
      KeepsSizes thread
        (Pure.pure outcome : ServerAction Worker Outcome) fun _ => True :=
    fun _ _ => trivial
  cases request with
  | resume | connect =>
      -- nothing is run behind `data = nullptr`
      exact polling trivial
  | pause id =>
      exact touching (.pauseSocket _) _
  | bind id fd opaqueValue =>
      exact touching (.bindSocket _ _ _) _
  | listen id fd opaqueValue =>
      exact touching (.listenSocket _ _ _) _
  | close id shutdown =>
      exact touching (.closeSocket _ _) _
  | exit =>
      exact polling (nullData_ends _ _)
  | triggerWrite id =>
      exact touching (.triggerWrite _) _
  | send request =>
      exact touching (.sendRequested _ _) _
  | sendLow request =>
      exact touching (.sendRequested _ _) _
  | sendUdp request address =>
      exact touching (.sendSocket _ _ _) _
  | setUdp id address =>
      exact setUDPAddress id address
  | setOpt id what value =>
      exact bind (touching (.setOptSocket _) _) fun _ => done _
  | udp id fd family opaqueValue =>
      exact bind (addUDPSocket id fd family opaqueValue) fun _ => done _
  | unknown type =>
      exact done _

theorem pollRound :
    KeepsSizes thread (SkynetCpp.pollRound : ServerAction Worker Unit)
      fun _ => True := by
  have requested :
      KeepsSizes thread (serverThread.pollRequest : ServerAction Worker Unit)
        fun _ => True := by
    refine bind
      (bind (polling .takeRequest) fun request => handleRequest request)
      fun outcome => polling ?_
    cases outcome with
    | none =>
        exact .pure _
    | some outcome =>
        exact .bind (Polling.clearClosedEvent _ _) fun _ =>
          Polling.pollReturn (some outcome)
  have events :
      KeepsSizes thread (serverThread.pollEvents : ServerAction Worker Unit)
        fun _ => True :=
    polling .pollEvents
  refine bind (polling (.ask _)) fun checking => ?_
  refine Discipline.Triple.ite (fun _ => ?_) fun _ => events
  refine bind (polling (.ask _)) fun has => ?_
  refine Discipline.Triple.ite (fun _ => requested) fun _ => ?_
  exact bind (polling (.elsewhere fun _ _ => rfl)) fun _ => events

end KeepsSizes

end Threads

section Visited

variable [DecidableEq Worker]

/-- The code keeps a size in every slot. -/
theorem sized_visited
    {start : SocketServer Worker}
    (isSized : Sized start)
    {past : List (SocketMachine Worker × (Caller Worker × SocketMove))}
    {final : SocketMachine Worker}
    (run : SocketRun start past final) :
    ∀ machine ∈ Run.visited past final, Sized machine.shared := by
  have sound :
      (sizeDiscipline : Discipline (Caller Worker) (SocketServer Worker)).Sound
        (@socketThreads Worker) fun _ _ => True := by
    intro thread call _
    cases thread with
    | socketThread =>
        exact KeepsSizes.pollRound
    | worker worker =>
        exact KeepsSizes.within (Working.workerCall worker call)
          fun _ _ step => step.sized
  intro machine visited
  exact
    (Discipline.holds_visited sound isSized (fun _ => trivial) run
      (fun _ _ _ => ⟨fun _ _ => trivial, fun _ _ => trivial⟩)
      machine visited).invariant

/--
The parameters of the sockets are what their protocols say, along every run in
which no slot becomes one for datagrams.
-/
theorem parametersMatch_visited
    (memory : Nat → Socket Worker)
    (reserve_fd : Int32)
    (c_str : Nat → Address)
    (isSize : ∀ k, ∃ sz, (memory k).p = .size sz)
    (notUDP : ∀ k, (memory k).protocol.isUDP = false)
    {past : List (SocketMachine Worker × (Caller Worker × SocketMove))}
    {final : SocketMachine Worker}
    (run : SocketRun (newServer memory reserve_fd c_str) past final)
    (opensNoUDP :
      ∀ machine label machine',
        (machine, label) ∈ past →
          Machine.next? socketThreads machine label = some machine' →
            OpensNoUDP machine.shared machine'.shared) :
    ∀ machine ∈ Run.visited past final, ParametersMatch machine.shared := by
  have plain :
      ∀ machine ∈ Run.visited past final, ∀ k,
        (machine.shared.slot k).protocol.isUDP = false := by
    refine Run.invariant_visited run notUDP
      (fun {machine label machine'} isPlain opens taken k => ?_)
      fun inPast machine' taken => opensNoUDP _ _ machine' inPast taken
    have opensNone :
        OpensNoUDP machine.shared machine'.shared :=
      opens machine' taken
    refine Bool.eq_false_of_not_eq_true fun isUDP => ?_
    cases (isPlain k).symm.trans (opensNone k isUDP)
  have isSized : Sized (newServer memory reserve_fd c_str) := isSize
  intro machine visited
  exact
    (sized_visited isSized run machine visited).parametersMatch
      (plain machine visited)

/-- A step after which slot `k` is not for datagrams. -/
def avoidsUDP
    (k : Nat)
    (step : SocketMachine Worker × (Caller Worker × SocketMove)) : Bool :=
  (Machine.next? socketThreads step.1 step.2).all fun machine =>
    !(machine.shared.slot k).protocol.isUDP

/-- A bound socket is read from, with the size in its `p`. -/
theorem bindAndRead_parametersMatch :
    ∃ past final,
      SocketRun (blankServer : SocketServer Unit) past final ∧
        (final.shared.slot 1).type = .kSocketTypeBind ∧
        (final.shared.slot 1).p = .size MIN_READ_BUFFER ∧
        ∀ machine ∈ Run.visited past final, ParametersMatch machine.shared := by
  obtain ⟨past, final, run, isChecked⟩ :=
    Run.exists_of_recorded_all (Machine.idle blankServer)
      (Machine.next? socketThreads) bindAndRead
      (fun k past final =>
        past.all (avoidsUDP k) &&
          (decide ((final.shared.slot 1).type = .kSocketTypeBind) &&
            decide ((final.shared.slot 1).p = .size MIN_READ_BUFFER)))
      fun
        | 0 => rfl
        | 1 => rfl
        | _ + 2 => rfl
  simp only [Bool.and_eq_true, decide_eq_true_eq, List.all_eq_true] at isChecked
  refine
    ⟨past, final, run, (isChecked 0).2.1, (isChecked 0).2.2,
      parametersMatch_visited _ _ _ (fun _ => ⟨0, rfl⟩) (fun _ => rfl) run ?_⟩
  intro machine label machine' inPast taken k isUDP
  have avoids := (isChecked k).1 _ inPast
  simp [avoidsUDP, taken, isUDP] at avoids

/-- A socket for datagrams is opened, and the request for it is handled. -/
def openUDP : List (Caller Unit × SocketMove) :=
  calls (.worker ()) (.UDP 0) 9 (finding [.udp 1 0 10 0]) ++
  calls .socketThread .Poll 14 (finding [])

/-- A socket for datagrams has a size where its address belongs. -/
theorem openUDP_mismatches :
    ∃ past final,
      SocketRun (blankServer : SocketServer Unit) past final ∧
        ¬ ∀ machine ∈ Run.visited past final, ParametersMatch machine.shared := by
  obtain ⟨past, final, run, isOpen⟩ :=
    Run.exists_of_replay (Machine.idle blankServer)
      (Machine.next? socketThreads) openUDP
      (fun machine =>
        let sock := machine.shared.slot 1
        decide (sock.type = .kSocketTypeConnected) &&
          (sock.protocol.isUDP && decide (sock.p = .size MIN_READ_BUFFER)))
      rfl
  refine ⟨past, final, run, fun parametersMatch => ?_⟩
  simp only [Bool.and_eq_true, decide_eq_true_eq] at isOpen
  obtain ⟨isConnected, isUDP, isSize⟩ := isOpen
  have isSetUp : (final.shared.slot 1).SetUp := by
    constructor <;> simp [isConnected]
  obtain ⟨address, isAddress⟩ :=
    (parametersMatch final List.mem_cons_self).address 1 isSetUp isUDP
  cases isSize.symm.trans isAddress

end Visited

end SkynetCpp
