import SkynetCpp.SocketInterestSetup
import SkynetCpp.SocketRuns
import SkynetCpp.SocketSteps

namespace SkynetCpp

open Foundation

/-!
# The flags of sockets along runs

The rounds of the socket thread keep the flags of the sockets in use right, as
long as no change of a registration fails for one of them.
-/

variable {Worker α β : Type}

namespace SocketKernel

variable
    {s : KernelServer Worker}
    {k : Nat}

section Poll

theorem lasting_handed
    (request : SocketRequest Buffer) :
    Lasting fun s : KernelServer Worker => Handed s request := by
  intro s s' others handed
  cases request
  case listen | udp =>
    exact
      ⟨lasting_interest (· = none) others handed.1,
        lasting_notSpare others handed.2⟩
  case bind =>
    exact lasting_notSpare others handed
  all_goals trivial

/-- The set-up routines leave the flags right. -/
theorem interest_setsUp :
    SetsUp (interestDiscipline : Discipline Unit (KernelServer Worker))
      Handed where
  lasting := lasting_handed
  taken allowed := allowed.handed _
  listenSocket id fd opaqueValue :=
    keeps_weaken (listenSocket_keeps id fd opaqueValue)
      fun _ holds => ⟨holds.1, holds.2.2, holds.2.1⟩
  bindSocket := bindSocket_keeps
  addUDPSocket id fd family opaqueValue :=
    keeps_weaken (addUDPSocket_keeps id fd family opaqueValue)
      fun _ holds => ⟨holds.1, holds.2.2, holds.2.1⟩
  reportAccept _ := reportAccept_keeps

end Poll

section Workers

/-- Code of workers on a socket of which it leaves alone what is known. -/
abbrev Retaining (action : SocketAction Worker α) : Prop :=
  action.Follows fun v v' => SameSocket v.sock v'.sock

instance :
    Std.Refl fun v v' : SocketView Worker => SameSocket v.sock v'.sock where
  refl v := .refl v.sock

namespace Retaining

theorem direct
    {action : SocketAction Worker α}
    (writes : WritesDirectly action) :
    Retaining action := by
  refine writes.mono ?_
  rintro v v' ⟨_, _, _, _, _, rfl⟩
  exact ⟨rfl, rfl, rfl, rfl, rfl⟩

theorem incSendingRefLoop
    (id : Int32)
    (rounds : Nat) :
    Retaining
      (SkynetCpp.incSendingRefLoop id rounds : SocketAction Worker Unit) := by
  induction rounds with
  | zero =>
      exact .check _
  | succ rounds inductionHypothesis =>
      have exchanges (sending : UInt64) :
          Retaining
            (exchangeSending sending : SocketAction Worker Bool) := by
        refine .act fun input v => ?_
        split <;> exact ⟨rfl, rfl, rfl, rfl, rfl⟩
      refine .bind (.ask _) fun sending => .ite (.ite ?_ ?_) (.pure _)
      · exact inductionHypothesis
      · exact .bind (exchanges sending) fun _ => .ite (.pure _) inductionHypothesis

theorem incSendingRef
    (id : Int32) :
    Retaining (SkynetCpp.incSendingRef id : SocketAction Worker Unit) :=
  .bind (.ask _) fun _ =>
    .ite (.bind (.ask _) fun rounds => incSendingRefLoop id rounds) (.pure _)

theorem countConnect
    (caller : Caller Worker)
    (id : Int32) :
    Retaining (SkynetCpp.countConnect caller id) := by
  have invalid :
      Retaining (socketInvalid id : SocketAction Worker Bool) :=
    direct (.socketInvalid id)
  have unlocks (count : Nat) :
      Retaining (socketUnlock count : SocketAction Worker Unit) :=
    direct (.socketUnlock count)
  refine .bind invalid fun _ => .ite (.pure _) ?_
  refine .bind (direct (.socketLock caller 0)) fun count =>
    .bind invalid fun _ => .ite ?_ ?_
  · exact .bind (unlocks count) fun _ => .pure _
  · exact .bind (.act fun _ _ => ⟨rfl, rfl, rfl, rfl, rfl⟩) fun _ =>
      .bind (unlocks count) fun _ => .pure _

theorem outside
    {action : SocketAction Worker α}
    (retaining : Retaining action)
    (k : Nat) :
    (atSlot k action).Follows Outside := by
  refine (Program.Within.zoom retaining _ _).mono ?_ fun _ _ => trivial
  rintro s s' ⟨part, same, rfl⟩
  refine ⟨fun j => .inl ?_, rfl⟩
  by_cases isSlot : j = k
  · subst isSlot
    exact same.trans (sameSocket_put_self j part s)
  · exact sameSocket_put k part s j isSlot

end Retaining

instance : Std.Refl (@Outside Worker) where
  refl := .refl

/-- The calls that reserve an id. -/
def reserves : SocketCall → Bool
  | .Connect .. | .Listen .. | .Bind .. | .UDP .. => true
  | _ => false

/-- Calls of workers are steps of others, beside the reservation of ids. -/
theorem apiCall_outside
    (caller : Caller Worker)
    (call : SocketCall)
    (reservesNone : reserves call = false) :
    (apiCall caller call).Follows Outside := by
  have requests (request : SocketRequest Buffer) :
      (SendRequest caller request).Follows Outside :=
    .act fun _ _ => ⟨fun _ => .inl (.refl _), rfl⟩
  have requested (request : SocketRequest Buffer) (result : Int32) :
      (do
        SendRequest caller request
        return result : ServerAction Worker Int32).Follows Outside :=
    .bind (requests request) fun _ => .pure _
  cases call with
  | Connect | Listen | Bind | UDP =>
      cases reservesNone
  | Poll =>
      exact .pure _
  | Exit | Close | Shutdown | Start | Pause | Nodelay =>
      exact requested _ _
  | Send buffer =>
      refine .bind
        (Retaining.outside
          (.direct (.orM (WritesDirectly.socketInvalid _) (.ask _))) _)
        fun refused => .ite (.pure _) ?_
      refine .bind (Retaining.outside (.direct (.sendDirect _ _)) _)
        fun direct => ?_
      rcases direct with _ | _ | ⟨_ | _⟩
      · exact .bind (Retaining.outside (.incSendingRef _) _) fun _ =>
          requested _ _
      · exact .pure _
      · exact .pure _
      · exact requested _ _
  | SendLowpriority buffer =>
      exact .bind (Retaining.outside (.direct (.socketInvalid _)) _) fun _ =>
        .ite (.pure _)
          (.bind (Retaining.outside (.incSendingRef _) _) fun _ =>
            requested _ _)
  | UDPSend addr buffer =>
      refine .bind (Retaining.outside (.direct (.socketInvalid _)) _)
        fun invalid => .ite (.pure _) (.ite (.pure _) ?_)
      refine .bind (Retaining.outside (.direct (.udpSendDirect _ _ _)) _)
        fun result => ?_
      cases result
      · exact requested _ _
      · exact .pure _
  | UDPConnect id =>
      exact .bind (Retaining.outside (.countConnect _ _) _) fun _ =>
        .ite
          (.bind (.ask _) fun _ =>
            .ite (.pure _) (.ite (.pure _) (requested _ _)))
          (.pure _)

end Workers

section Runs

/-- A run of the socket thread on its server, between steps of other threads. -/
abbrev PollRuns (start : KernelServer Worker) :=
  Loop.Runs pollRound Others start

/-- The steps of the socket thread in a run meet a condition. -/
abbrev Throughout
    (condition : KernelServer Worker → KernelServer Worker → Prop)
    (past :
      List (Loop (KernelServer Worker) OsAnswer × Loop.Label OsAnswer)) : Prop :=
  Loop.Throughout pollRound Others condition past

/-- A new server, for which nothing is registered. -/
def newKernelServer (server : SocketServer Worker) : KernelServer Worker where
  server := server
  kernel := { interest := fun _ => none, calls := [] }

/-- The flags of a new server are right. -/
theorem newServer_ready
    (memory : Nat → Socket Worker)
    (reserve_fd : Int32)
    (c_str : Nat → Address) :
    Ready none (newKernelServer (newServer memory reserve_fd c_str)) where
  agreeing := fun _ inUse => absurd rfl inUse.1
  unset := fun _ _ isReserved => nomatch isReserved
  negative := fun _ _ => rfl
  spare := rfl
  spareOpen := nofun

/--
As long as no change of a registration fails for a socket in use, its flags are
what its descriptor is registered for, in every state of every run.
-/
theorem polling_agrees
    {start : KernelServer Worker}
    {final : Loop (KernelServer Worker) OsAnswer}
    {past :
      List (Loop (KernelServer Worker) OsAnswer × Loop.Label OsAnswer)}
    (ready : Ready none start)
    (run : PollRuns start past final)
    (fresh : Throughout Fresh past)
    (handed : Throughout HandedOver past)
    (avoids : Throughout Avoids past) :
    ∀ loop ∈ Run.visited past final,
      ∀ k, InUse (loop.shared.server.slot k).type → Agrees k loop.shared := by
  have allowed : Throughout Allowed past :=
    fun loop label member input loop' isStep taken =>
      ⟨fresh loop label member input loop' isStep taken,
        handed loop label member input loop' isStep taken,
        avoids loop label member input loop' isStep taken⟩
  have loops :=
    interestDiscipline.loops_visited (pollRound_keeps interest_setsUp) (fun others => others)
      (fun agreeing others => Agreeing.others agreeing others) ready.agreeing
      ready run allowed
  exact fun loop visited => (loops loop visited).invariant

/-- A server on which a descriptor was bound, with a request to write. -/
def boundServer : KernelServer Unit where
  server :=
    { blankServer with
      slot := Function.update blankServer.slot 1
        { blankServer.slot 1 with
          id := 1
          type := .kSocketTypeBind
          fd := 7
          reading := true }
      pipe := [.triggerWrite 1] }
  kernel :=
    { interest := fun fd => if fd = 7 then some ⟨1, true, false⟩ else none
      calls := [] }

theorem boundServer_ready : Ready none boundServer := by
  have isFree (k : Nat) (other : k ≠ 1) :
      boundServer.server.slot k = blankServer.slot k :=
    Function.update_of_ne other _ _
  refine ⟨⟨?_, ?_, ?_, by decide⟩, nofun⟩
  · intro k inUse
    by_cases isBound : k = 1
    · subst isBound
      rfl
    · rw [isFree k isBound] at inUse
      exact absurd rfl inUse.1
  · intro k _ isReserved
    by_cases isBound : k = 1
    · subst isBound
      cases isReserved
    · rw [isFree k isBound] at isReserved
      cases isReserved
  · intro fd negative
    have different : fd ≠ 7 := by
      rintro rfl
      exact absurd negative (by decide)
    simp [boundServer, different]

/-- The next request, if there is one, was handed over. -/
theorem handedOver_of_head
    {s' : KernelServer Worker}
    (handed : ∀ request ∈ s.server.pipe.head?, Handed s request) :
    HandedOver s s' := by
  intro request isPipe
  exact handed request (by rw [isPipe]; rfl)

/-- A step that makes no descriptor, lets no change fail and stores no type. -/
theorem allowed_of_sameTypes
    {s' : KernelServer Worker}
    (calls :
      s'.kernel.calls = s.kernel.calls ∨
        ∃ k type, s'.kernel.calls = .epollMod k type true :: s.kernel.calls)
    (handed : ∀ request ∈ s.server.pipe.head?, Handed s request)
    (types : ∀ k, (s'.server.slot k).type = (s.server.slot k).type) :
    Allowed s s' where
  fresh := by
    rcases calls with isSame | ⟨k, type, isModified⟩
    · constructor <;> simp [isSame]
    · constructor <;> simp [isModified]
  handed := handedOver_of_head handed
  avoids := by
    constructor
    · rcases calls with isSame | ⟨k, type, isModified⟩
      · simp [isSame]
      · simp [isModified]
    · intro k isReserved isHalf
      rw [types, isReserved] at isHalf
      cases isHalf

/-- The types after a step on a socket that stores none. -/
theorem put_types
    {server : SocketServer Worker}
    {part : SocketView Worker}
    (sameType : part.sock.type = (server.slot k).type)
    (j : Nat) :
    ((server.put k part).slot j).type = (server.slot j).type := by
  by_cases isSlot : j = k
  · subst isSlot
    rw [SocketServer.put_type, sameType]
  · exact (sameSocket_put k part server j isSlot).type

/-- A call that fails. -/
def refusing : OsAnswer :=
  { (default : OsAnswer) with result := -1 }

/-- A call that succeeds, and a request that is there. -/
def succeeding : OsAnswer :=
  { (default : OsAnswer) with flag := true }

/-- The request to write is handled, and every call succeeds. -/
theorem boundServer_passes :
    Loop.Passes Allowed (List.replicate 6 succeeding) pollRound boundServer := by
  have quietly
      {s s' : KernelServer Unit}
      (kernel : s'.kernel = s.kernel)
      (pipe : s.server.pipe = [.triggerWrite 1] ∨ s.server.pipe = [])
      (types : ∀ k, (s'.server.slot k).type = (s.server.slot k).type) :
      Allowed s s' := by
    refine allowed_of_sameTypes (.inl (congrArg _ kernel)) ?_ types
    rcases pipe with isTrigger | isEmpty
    · simp [isTrigger, Handed]
    · simp [isEmpty]
  refine .cons rfl (quietly rfl (.inl rfl) fun _ => rfl) ?_
  refine .cons rfl (quietly rfl (.inl rfl) fun _ => rfl) ?_
  refine .cons rfl ?taken ?_
  case taken => exact quietly rfl (.inl rfl) fun _ => rfl
  refine .cons rfl ?loadedId ?_
  case loadedId => exact quietly rfl (.inr rfl) (put_types rfl)
  refine .cons rfl ?loadedType ?_
  case loadedType => exact quietly rfl (.inr rfl) (put_types rfl)
  refine .cons rfl ?enabled trivial
  case enabled =>
    exact allowed_of_sameTypes (.inr ⟨1, .kSocketTypeBind, rfl⟩)
      (fun _ => nofun) (put_types rfl)

/-- The descriptor that was bound is registered for writing. -/
theorem boundServer_agrees :
    ∃ past final,
      PollRuns boundServer past final ∧
        (final.shared.server.slot 1).writing = true ∧
        ∀ loop ∈ Run.visited past final,
          ∀ k, InUse (loop.shared.server.slot k).type →
            Agrees k loop.shared := by
  have replayed :
      (Program.replay (List.replicate 6 succeeding) pollRound boundServer).map
        (fun ended => (ended.2.server.slot 1).writing) = some true :=
    rfl
  obtain ⟨⟨⟨⟩, s'⟩, ended, isWriting⟩ := Option.map_eq_some_iff.mp replayed
  obtain ⟨past, run, considered⟩ :=
    Loop.extend_again (.nil : PollRuns boundServer [] _) (fun _ _ => nofun)
      boundServer_passes ended
  have agrees :=
    polling_agrees boundServer_ready run
      (considered.mono fun _ _ allowed => allowed.fresh)
      (considered.mono fun _ _ allowed => allowed.handed)
      (considered.mono fun _ _ allowed => allowed.avoids)
  exact ⟨past, Loop.idle s', run, isWriting, agrees⟩

/-- A new server with a slot that is reserved, and the requests for it. -/
def requestedServer : KernelServer Unit :=
  newKernelServer
    { blankServer with
      slot := Function.update blankServer.slot 1
        { blankServer.slot 1 with
          id := 1
          type := .kSocketTypeReserve
          fd := -1
          protocol := .UNKNOWN }
      pipe := [.bind 1 7 0, .triggerWrite 1] }

theorem requestedServer_others :
    Others (newKernelServer blankServer) requestedServer := by
  refine ⟨⟨fun k => ?_, rfl⟩, rfl⟩
  by_cases isRequested : k = 1
  · subst isRequested
    exact .inr ⟨rfl, rfl, rfl, rfl⟩
  · refine .inl ?_
    have isBlank : requestedServer.server.slot k = blankServer.slot k :=
      Function.update_of_ne isRequested _ _
    rw [isBlank]
    exact .refl _

/-- No descriptor is made, and a descriptor to bind is not the spare one. -/
def Expected (s s' : KernelServer Unit) : Bool :=
  (match s'.kernel.calls with
    | .accept _ :: _ | .dup _ :: _ => false
    | _ => true) &&
  (match s.server.pipe with
    | [] | .triggerWrite _ :: _ => true
    | .bind _ fd _ :: _ => fd ≠ s.server.reserve_fd
    | _ => false)

theorem Expected.sound
    {s s' : KernelServer Unit}
    (expected : Expected s s' = true) :
    Fresh s s' ∧ HandedOver s s' := by
  obtain ⟨calls, pipe⟩ := Bool.and_eq_true_iff.mp expected
  refine ⟨⟨?_, ?_⟩, handedOver_of_head fun request isHead => ?_⟩
  · intro fd isCall
    rw [isCall] at calls
    cases calls
  · intro fd isCall
    rw [isCall] at calls
    cases calls
  · obtain ⟨rest, isPipe⟩ := List.head?_eq_some_iff.mp isHead
    rw [isPipe] at pipe
    cases request
    case bind id fd opaqueValue =>
      have notSpare : fd ≠ s.server.reserve_fd := of_decide_eq_true pipe
      exact notSpare
    case triggerWrite =>
      trivial
    all_goals cases pipe

/-- `EnableWrite` does nothing when the flag has the value already. -/
theorem enableWrite_skips
    {enabled : Bool}
    {input : OsAnswer}
    (isWriting : (s.server.slot k).writing = enabled) :
    (enableWrite k enabled).replay [input] s = some (false, s) := by
  subst isWriting
  simp [enableWrite, enable, Program.replay]

/--
When the registration for writing fails, the flag says that it did not, and
another `EnableWrite` does nothing.
-/
theorem requestedServer_disagrees :
    (∃ past final,
      PollRuns (newKernelServer (blankServer : SocketServer Unit)) past final ∧
        Throughout Fresh past ∧ Throughout HandedOver past ∧
        (final.shared.server.slot 1).type = .kSocketTypeBind ∧
        (final.shared.server.slot 1).writing = true ∧
        final.shared.kernel.interest (final.shared.server.slot 1).fd =
          some ⟨1, true, false⟩ ∧
        (enableWrite 1 true).replay [succeeding] final.shared =
          some (false, final.shared)) ∧
      ¬ ∀ past final,
        PollRuns (newKernelServer (blankServer : SocketServer Unit)) past final →
          Throughout Fresh past → Throughout HandedOver past →
          ∀ loop ∈ Run.visited past final,
            ∀ k, InUse (loop.shared.server.slot k).type →
              Agrees k loop.shared := by
  have begun :
      PollRuns (newKernelServer (blankServer : SocketServer Unit))
        [(Loop.idle _, .others)] (Loop.idle requestedServer) :=
    .snoc .nil (.others requestedServer_others)
  have reached :
      (Loop.rounds pollRound Expected
          [List.replicate 16 succeeding,
            List.replicate 3 succeeding ++ List.replicate 6 refusing]
          requestedServer).map
        (fun s =>
          ((s.server.slot 1).type, (s.server.slot 1).writing,
            s.kernel.interest (s.server.slot 1).fd)) =
        some (.kSocketTypeBind, true, some ⟨1, true, false⟩) :=
    rfl
  obtain ⟨s', ended, isEnd⟩ := Option.map_eq_some_iff.mp reached
  simp only [Prod.mk.injEq] at isEnd
  obtain ⟨isBound, isWriting, isRegistered⟩ := isEnd
  obtain ⟨past, run, considered⟩ :=
    Loop.exists_of_rounds begun (by simp [Loop.Throughout, Loop.Considered]) _
      ended
  have fresh : Throughout Fresh past :=
    considered.mono fun _ _ expected => (Expected.sound expected).1
  have handed : Throughout HandedOver past :=
    considered.mono fun _ _ expected => (Expected.sound expected).2
  refine
    ⟨⟨past, Loop.idle s', run, fresh, handed, isBound, isWriting, isRegistered,
      enableWrite_skips isWriting⟩, fun holds => ?_⟩
  have inUse : InUse (s'.server.slot 1).type := by
    rw [isBound]
    decide
  have agrees : Agrees 1 s' :=
    holds past _ run fresh handed (Loop.idle s')
      (Run.mem_visited.mpr (.inl rfl)) 1 inUse
  simp [Agrees, isRegistered, isWriting] at agrees

end Runs

end SocketKernel

end SkynetCpp
