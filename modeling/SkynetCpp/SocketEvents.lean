import SkynetCpp.SocketClose
import SkynetCpp.SocketSteps

namespace SkynetCpp

open Foundation

/-!
# Events of the sockets that a batch was fetched for

A slot that holds a socket keeps it: only `ForceClose` releases such a slot, and
it ends the process before.  The slots that `NewFd` releases were reserved and
not set up, and the workers set up none.  So the events of a batch are handled
in the incarnations that they were fetched in.
-/

variable
    {Worker α β : Type}
    {s s' : SocketServer Worker}
    {k : Nat}

/-- For which event a handler ran, and in which incarnation of its slot. -/
def Happening.handled? : Happening Worker → Option (Event × Nat)
  | .handled event _ incarnation => some (event, incarnation)
  | _ => none

namespace SocketServer

/-- The events that `Poll` handled so far, latest first. -/
def handledEvents (s : SocketServer Worker) : List (Event × Nat) :=
  s.log.filterMap Happening.handled?

/--
Every event that was fetched for a socket was handled in the incarnation that
the socket had then.
-/
def HandledInTime (s : SocketServer Worker) : Prop :=
  ∀ handled ∈ s.handledEvents,
    ∀ n, handled.1.incarnation = some n → n = handled.2

end SocketServer

section Knowledge

/-- What holds of events at any time: their sockets are still there. -/
structure Attended (s : SocketServer Worker) : Prop where
  inTime : s.HandledInTime
  held :
    ∀ event ∈ s.ev,
      ∀ k n,
        event.s = some k →
          event.incarnation = some n → s.held k = some n

/-- Slots that hold sockets keep them. -/
def Persists (s s' : SocketServer Worker) : Prop :=
  ∀ k n, s.held k = some n → s'.held k = some n

theorem held_eq_some
    {n : Nat} :
    s.held k = some n ↔
      (s.slot k).type.isSetUp ∧ (s.slot k).incarnation = n := by
  unfold SocketServer.held
  split <;> simp_all

/-- A step that is not about events leaves them attended. -/
theorem Attended.persist
    (isAttended : Attended s)
    (persists : Persists s s')
    (sameEvents : s'.ev = s.ev)
    (sameHandled : s'.handledEvents = s.handledEvents) : Attended s' where
  inTime := by
    unfold SocketServer.HandledInTime
    rw [sameHandled]
    exact isAttended.inTime
  held event member k n isSlot isFetched := by
    rw [sameEvents] at member
    exact persists k n (isAttended.held event member k n isSlot isFetched)

/-- A step on the rest of the server, or one that drops events. -/
theorem Attended.rest
    (isAttended : Attended s)
    (sameSlots : s'.slot = s.slot)
    (sameHandled : s'.handledEvents = s.handledEvents)
    (fetched :
      ∀ event ∈ s'.ev,
        ∀ k n,
          event.s = some k →
            event.incarnation = some n →
              ∃ old ∈ s.ev, old.s = some k ∧ old.incarnation = some n) :
    Attended s' where
  inTime := by
    unfold SocketServer.HandledInTime
    rw [sameHandled]
    exact isAttended.inTime
  held event member k n isSlot isFetched := by
    obtain ⟨old, isOld, oldSlot, oldFetched⟩ :=
      fetched event member k n isSlot isFetched
    unfold SocketServer.held
    rw [sameSlots]
    exact isAttended.held old isOld k n oldSlot oldFetched

/-- A step that leaves events attended. -/
def Minds (s s' : SocketServer Worker) : Prop :=
  Attended s → Attended s'

instance : Std.Refl (@Minds Worker) where
  refl _ := id

/-- No step on a socket is about events. -/
@[simp] theorem put_handledEvents
    (k : Nat)
    (part : SocketView Worker)
    (s : SocketServer Worker) :
    (s.put k part).handledEvents = s.handledEvents := by
  have noneHandled :
      (part.notes.map fun note =>
            (note.happening k (s.slot k).incarnation :
              Happening Worker)).filterMap
          Happening.handled? = [] := by
    rw [List.filterMap_eq_nil_iff]
    intro happening member
    obtain ⟨note, _, rfl⟩ := List.mem_map.mp member
    cases note <;> rfl
  simp only [SocketServer.handledEvents, SocketServer.put,
    List.filterMap_append, noneHandled, List.nil_append]

/-- A step on a socket that leaves it set up. -/
theorem Minds.put
    {part : SocketView Worker}
    (persists : (s.slot k).type.isSetUp → part.sock.type.isSetUp) :
    Minds s (s.put k part) := by
  refine fun isAttended =>
    isAttended.persist (fun j n isHeld => ?_) rfl (put_handledEvents ..)
  rw [held_eq_some] at isHeld ⊢
  rw [SocketServer.put_incarnation]
  by_cases isSlot : j = k
  · subst isSlot
    rw [SocketServer.put_type]
    exact ⟨persists isHeld.1, isHeld.2⟩
  · rw [SocketServer.put_slot_of_ne k part s isSlot]
    exact isHeld

end Knowledge

section Workers

/-- The workers set up no socket. -/
def SetsUpNone (s s' : SocketServer Worker) : Prop :=
  ∀ k, (s'.slot k).type.isSetUp → (s.slot k).type.isSetUp

theorem WorkerStep.setsUpNone
    (step : WorkerStep s s') : SetsUpNone s s' := by
  intro j isSetUp
  cases step with
  | nothing | allocate | request | note =>
      exact isSetUp
  | onSlot k borrows =>
      obtain ⟨_, _, _, _, _, _, _, _, _, _, _, rfl⟩ := borrows
      by_cases isSlot : j = k
      · subst isSlot
        rw [SocketServer.put_type] at isSetUp
        exact isSetUp
      · rw [SocketServer.put_slot_of_ne k _ s isSlot] at isSetUp
        exact isSetUp
  | reserve k isFree =>
      by_cases isSlot : j = k
      · subst isSlot
        simp [SocketType.isSetUp] at isSetUp
      · simpa [isSlot] using isSetUp

theorem WorkerStep.minds
    (step : WorkerStep s s') : Minds s s' := by
  cases step with
  | nothing =>
      exact id
  | onSlot k borrows =>
      obtain ⟨_, _, _, _, _, _, _, _, _, _, _, rfl⟩ := borrows
      exact .put id
  | allocate | request =>
      exact fun isAttended => isAttended.persist (fun _ _ => id) rfl rfl
  | note happening isCall =>
      refine fun isAttended => isAttended.persist (fun _ _ => id) rfl ?_
      cases happening <;> first | rfl | cases isCall
  | reserve k isFree =>
      refine fun isAttended =>
        isAttended.persist (fun j n isHeld => ?_) rfl rfl
      rw [held_eq_some] at isHeld ⊢
      by_cases isSlot : j = k
      · subst isSlot
        exact absurd isFree isHeld.1.1
      · simpa [isSlot] using isHeld

/-- How the threads share the slots: the workers set up none. -/
def slotDiscipline : Discipline (Caller Worker) (SocketServer Worker) where
  invariant := Attended
  allowed _ _ := True
  guarantee
    | .socketThread => fun _ _ => True
    | .worker _ => SetsUpNone
  rely
    | .socketThread => SetsUpNone
    | .worker _ => fun _ _ => True
  ready _ _ := True
  rely_refl
    | .socketThread => fun _ _ => id
    | .worker _ => fun _ => trivial
  rely_trans {thread _ _ _} before after := by
    cases thread
    · exact fun k isSetUp => before k (after k isSetUp)
    · trivial
  rely_of_guarantee {thread other _ _} different _ _ moved := by
    cases other
    · cases thread
      · exact absurd rfl different
      · exact moved
    · trivial
  ready_stable _ _ := trivial

end Workers

section SocketThread

/-- Code of the socket thread between the steps of the workers. -/
abbrev Tends
    (pre : SocketServer Worker → Prop)
    (program : ServerAction Worker α)
    (post : α → SocketServer Worker → Prop) : Prop :=
  slotDiscipline.Triple .socketThread pre program post

/-- A slot that is not set up. -/
def Idle
    (k : Nat)
    (s : SocketServer Worker) : Prop :=
  ¬ (s.slot k).type.isSetUp

theorem idle_stable
    (k : Nat) :
    (slotDiscipline :
      Discipline (Caller Worker) (SocketServer Worker)).Stable .socketThread
        (Idle k) :=
  fun moved isIdle isSetUp => isIdle (moved k isSetUp)

/-- Code that leaves events attended whatever was known before. -/
theorem tends_minds
    {program : ServerAction Worker α}
    (pre : SocketServer Worker → Prop)
    {ends : α → Prop}
    (minds : program.Within Minds ends) :
    Tends pre program fun result _ => ends result :=
  (Discipline.Triple.within minds (fun _ _ => trivial)
      fun _ _ _ step isAttended _ =>
        ⟨step isAttended, trivial, trivial⟩).mono
    (fun _ _ => trivial) fun _ _ holds => holds.1

/-- Code on a socket that leaves it set up. -/
abbrev Persisting (action : SocketAction Worker α) : Prop :=
  action.Follows fun v v' => v.sock.type.isSetUp → v'.sock.type.isSetUp

theorem Touching.persisting
    {action : SocketAction Worker α}
    (touching : Touching False action) :
    Persisting action := by
  refine touching.mono fun v v' touches => ?_
  cases touches with
  | release isReleased =>
      exact isReleased.elim
  | retype type isSetUp =>
      exact fun _ => isSetUp
  | nothing | lock | queues | flags | transfer | renew | countDown |
    readSize =>
      exact id

theorem Persisting.atSlot
    {action : SocketAction Worker α}
    (persisting : Persisting action)
    (k : Nat) :
    (SkynetCpp.atSlot k action).Follows Minds := by
  refine (Program.Within.zoom persisting _ _).mono ?_ fun _ => id
  rintro s s' ⟨part, persists, rfl⟩
  exact .put persists

theorem Touching.minds
    {action : SocketAction Worker α}
    (touching : Touching False action)
    (k : Nat) :
    (SkynetCpp.atSlot k action).Follows Minds :=
  touching.persisting.atSlot k

/-- Code on a socket that gives it no other type than that of a free slot. -/
abbrev Releasing (action : SocketAction Worker α) : Prop :=
  action.Follows fun v v' =>
    v'.sock.type = v.sock.type ∨ v'.sock.type = .kSocketTypeInvalid

instance :
    Std.Refl fun v v' : SocketView Worker =>
      v'.sock.type = v.sock.type ∨ v'.sock.type = .kSocketTypeInvalid where
  refl _ := .inl rfl

/-- A slot that is not set up may be released. -/
theorem Releasing.atSlot
    {action : SocketAction Worker α}
    (releasing : Releasing action)
    (k : Nat) :
    Tends (Idle k) (SkynetCpp.atSlot k action) fun _ => Idle k := by
  refine (Discipline.Triple.within (Program.Within.zoom releasing _ _)
    (idle_stable k) ?_).mono (fun _ => id) fun _ _ holds => holds.2
  rintro s s' isIdle ⟨part, released, rfl⟩ isAttended -
  refine ⟨Minds.put (fun isSetUp => absurd isSetUp isIdle) isAttended,
    trivial, ?_⟩
  unfold Idle
  rw [SocketServer.put_type]
  rcases released with same | isInvalid
  · rw [same]
    exact isIdle
  · exact fun isSetUp => isSetUp.1 isInvalid

section Open

/-- `NewFd` behind its assertion. -/
theorem newFd_releasing
    (id fd : Int32)
    (protocol : Protocol)
    (opaqueValue : UInt64)
    (reading : Bool) :
    Releasing (do
      if (← answer (·.result)) ≠ 0 then
        storeType .kSocketTypeInvalid
        return false
      store (newSocket id fd protocol opaqueValue)
      .check (← load (·.high.isEmpty))
      .check (← load (·.low.isEmpty))
      store ({ · with dw_buffer := none, dw_size := 0 })
      if ← enableRead reading then
        storeType .kSocketTypeInvalid
        return false
      return true : SocketAction Worker Bool) := by
  have releases :
      Releasing (storeType .kSocketTypeInvalid : SocketAction Worker Unit) :=
    .act fun _ _ => .inr rfl
  refine .bind (.ask _) fun _ => .ite (.bind releases fun _ => .pure _) ?_
  refine .bind (.act fun _ _ => .inl rfl) fun _ => .bind (.ask _) fun _ =>
    .bind (.check _) fun _ => .bind (.ask _) fun _ => .bind (.check _) fun _ =>
    .bind (.act fun _ _ => .inl rfl) fun _ => ?_
  exact .bind (.act fun _ _ => .inl rfl) fun _ =>
    .ite (.bind releases fun _ => .pure _) (.pure _)

/-- `NewFd` releases only a slot that was reserved, and sets up none. -/
theorem newFd_tends
    (id fd : Int32)
    (protocol : Protocol)
    (opaqueValue : UInt64)
    (reading : Bool) :
    Tends (fun _ => True)
      (atSlot k (newFd id fd protocol opaqueValue reading))
      fun _ => (Idle k : SocketServer Worker → Prop) := by
  have loaded :
      Tends (fun _ => True)
        (atSlot k (load (·.type)))
        fun type (s : SocketServer Worker) =>
          type = .kSocketTypeReserve → Idle k s := by
    rw [atSlot_load]
    refine .ask (fun _ => trivial) (fun _ _ => trivial) ?_
    rintro _ s - - isReserve isSetUp
    exact isSetUp.2 isReserve
  have checked (type : SocketType) :
      Tends
        (fun s : SocketServer Worker =>
          type = .kSocketTypeReserve → Idle k s)
        (atSlot k (.check (type = .kSocketTypeReserve))) fun _ => Idle k := by
    unfold atSlot
    rw [Program.zoom_check (SocketServer.put_view k)]
    exact .check (fun _ => trivial)
      (fun moved isIdle isReserve => idle_stable k moved (isIdle isReserve))
      fun _ isIdle isReserve => isIdle isReserve
  unfold newFd atSlot
  rw [Program.zoom_bind]
  refine .bind loaded fun type => ?_
  rw [Program.zoom_bind]
  exact .bind (checked type) fun _ =>
    (newFd_releasing id fd protocol opaqueValue reading).atSlot k

/-- A slot that could not be set up is released. -/
theorem release_tends :
    Tends (Idle k)
      (atSlot k (storeType .kSocketTypeInvalid))
      fun _ (_ : SocketServer Worker) => True :=
  (Releasing.atSlot (.act fun _ _ => .inr rfl) k).mono (fun _ => id)
    fun _ _ _ => trivial

theorem tends_any
    {program : ServerAction Worker α}
    {pre : SocketServer Worker → Prop}
    (minds : program.Follows Minds) :
    Tends pre program fun _ _ => True :=
  tends_minds pre minds

theorem openFailed_tends
    (id : Int32)
    (opaqueValue : UInt64)
    (text : String) :
    Tends (Idle k) (atSlot k (openFailed id opaqueValue text))
      fun _ (_ : SocketServer Worker) => True := by
  have asked :
      Tends (Idle k)
        (atSlot k (requestMessage id 0 opaqueValue (.text text)))
        fun _ => (Idle k : SocketServer Worker → Prop) :=
    Releasing.atSlot (.ask _) k
  unfold openFailed
  simp only [atSlot, Program.zoom_bind] at asked ⊢
  exact .bind asked fun _ => .bind release_tends fun _ => .pure fun _ _ => trivial

theorem listenSocket_tends
    (id fd : Int32)
    (opaqueValue : UInt64) :
    Tends (fun _ => True) (atSlot k (listenSocket id fd opaqueValue))
      fun _ (_ : SocketServer Worker) => True := by
  unfold listenSocket
  simp only [atSlot, Program.zoom_bind, Program.zoom_ite]
  exact .bind (newFd_tends _ _ _ _ _) fun _ =>
    .ite (fun _ => tends_any (Touching.minds (.listeningSocket _ _) k))
      fun _ => openFailed_tends _ _ _

theorem bindSocket_tends
    (id fd : Int32)
    (opaqueValue : UInt64) :
    Tends (fun _ => True) (atSlot k (bindSocket id fd opaqueValue))
      fun _ (_ : SocketServer Worker) => True := by
  unfold bindSocket atSlot
  rw [Program.zoom_bind]
  exact .bind (newFd_tends _ _ _ _ _) fun isNew =>
    tends_any (Touching.minds (.boundSocket _ _ isNew) k)

theorem addUDPSocket_tends
    (id fd family : Int32)
    (opaqueValue : UInt64) :
    Tends (fun _ => True) (atSlot k (addUDPSocket id fd family opaqueValue))
      fun _ (_ : SocketServer Worker) => True := by
  have added :
      Persisting (do
        storeType .kSocketTypeConnected
        let _ ← getUdpAddress
        store ({ · with p := .udpAddress (List.replicate kUdpAddressSize 0) }) :
        SocketAction Worker Unit) :=
    .bind (Touching.persisting (.storeType (by decide))) fun _ =>
      .bind (Touching.persisting .getUdpAddress) fun _ =>
        .act fun _ _ isSetUp => isSetUp
  unfold addUDPSocket atSlot
  rw [Program.zoom_bind]
  refine .bind (newFd_tends _ _ _ _ _) fun isNew => ?_
  rw [Program.zoom_ite]
  exact .ite (fun _ => tends_any (added.atSlot k)) fun _ => release_tends

theorem setUDPAddress_persisting
    (id : Int32)
    (address : List UInt8) :
    Persisting (setUDPAddress id address : SocketAction Worker Outcome) := by
  refine .bind (Touching.persisting (.socketInvalid _)) fun _ =>
    .ite (.pure _) (.bind (Touching.persisting (.load _)) fun _ => ?_)
  refine .ite (Touching.persisting (.reportError _)) ?_
  exact .bind (Touching.persisting .getUdpAddress) fun _ =>
    .bind (.act fun _ _ isSetUp => isSetUp) fun _ =>
      .bind (.act fun _ _ isSetUp => isSetUp) fun _ => .pure _

end Open

section Poll

/-- A step that leaves slots, events and the log of handlers alone. -/
theorem minds_elsewhere
    {value : OsAnswer → SocketServer Worker → α}
    {next : OsAnswer → SocketServer Worker → SocketServer Worker}
    (sameSlots : ∀ input s, (next input s).slot = s.slot)
    (sameEvents : ∀ input s, (next input s).ev = s.ev)
    (sameHandled :
      ∀ input s, (next input s).handledEvents = s.handledEvents) :
    (Program.act value next).Follows Minds := by
  refine .act fun input s isAttended =>
    isAttended.rest (sameSlots input s) (sameHandled input s) ?_
  intro event member k n isSlot isFetched
  rw [sameEvents] at member
  exact ⟨event, member, isSlot, isFetched⟩

/-- A change of one event that leaves its slot alone, or drops it. -/
theorem minds_modify
    (i index : Nat)
    (change : Event → Event)
    (same :
      ∀ event k n,
        (change event).s = some k →
          (change event).incarnation = some n →
            event.s = some k ∧ event.incarnation = some n)
    (s : SocketServer Worker) :
    Minds s { s with ev := s.ev.modify i change, event_index := index } := by
  refine fun isAttended => isAttended.rest rfl rfl ?_
  intro event member k n isSlot isFetched
  obtain ⟨place, isEvent⟩ := List.mem_iff_getElem?.mp member
  rw [List.getElem?_modify] at isEvent
  obtain ⟨old, isOld, rfl⟩ := Option.map_eq_some_iff.mp isEvent
  refine ⟨old, List.mem_of_getElem? isOld, ?_⟩
  by_cases isPlace : i = place
  · simp only [isPlace, if_true] at isSlot isFetched
    exact same old k n isSlot isFetched
  · simp only [isPlace, if_false] at isSlot isFetched
    exact ⟨isSlot, isFetched⟩

theorem takeRequest_minds :
    (takeRequest : ServerAction Worker _).Follows Minds := by
  refine .attempt fun s s' taken isAttended => ?_
  split at taken
  · cases taken
  · cases taken
    exact isAttended.persist (fun _ _ => id) rfl rfl

theorem clearClosedEvent_minds
    (message : SocketMessage)
    (type : Report) :
    (clearClosedEvent message type : ServerAction Worker Unit).Follows
      Minds := by
  have closed (j : Nat) :
      (atSlot j (socketInvalid message.id <&&> load (·.id = message.id)) :
        ServerAction Worker Bool).Follows Minds :=
    Touching.minds (.andM (Touching.socketInvalid _) (Touching.load _)) j
  have loop (rounds : Nat) :
      ∀ i,
        (clearClosedEventLoop message.id rounds i :
          ServerAction Worker Unit).Follows Minds := by
    induction rounds with
    | zero =>
        exact fun _ => .pure _
    | succ rounds inductionHypothesis =>
        refine fun i => .bind (.ask _) fun found => ?_
        cases found with
        | none =>
            exact inductionHypothesis _
        | some j =>
            refine .bind (closed j) fun _ =>
              .ite (.act fun _ s => ?_) (inductionHypothesis _)
            exact
              minds_modify i s.event_index ({ · with s := none })
                (fun _ _ _ impossible => nomatch impossible) s
  exact .ite (.bind (.ask _) fun range => loop _ _) (.pure _)

theorem pollReturn_minds
    (outcome : Outcome) :
    (pollReturn outcome : ServerAction Worker Unit).Follows Minds := by
  cases outcome with
  | none =>
      exact .pure _
  | some outcome =>
      exact minds_elsewhere (fun _ _ => rfl) (fun _ _ => rfl) fun _ _ => rfl

theorem pollAfterRead_minds
    (index : Nat)
    (event : Event)
    (outcome : Outcome) :
    (pollAfterRead index event outcome :
      ServerAction Worker Outcome).Follows Minds := by
  have again :
      (putBack : ServerAction Worker Unit).Follows Minds :=
    minds_elsewhere (fun _ _ => rfl) (fun _ _ => rfl) fun _ _ => rfl
  have returned
      (outcome : Outcome) :
      (do
        let type := outcome.map Prod.fst
        if event.write ∧ type ≠ some .kSocketClose ∧
            type ≠ some .kSocketErr then
          putBackWrite index
        return outcome : ServerAction Worker Outcome).Follows Minds :=
    .ite
      (.bind
        (.act fun _ s =>
          minds_modify index (s.event_index - 1) ({ · with read := false })
            (fun _ _ _ isSlot isFetched => ⟨isSlot, isFetched⟩) s)
        fun _ => .pure _)
      (.pure _)
  cases outcome with
  | none =>
      exact returned none
  | some outcome =>
      obtain ⟨report, message⟩ := outcome
      cases report
      case kSocketMore | kSocketUDP =>
        exact .bind again fun _ => .pure _
      all_goals exact returned _

theorem epollWait_minds :
    (epollWait : ServerAction Worker Bool).Follows Minds := by
  refine .act fun input s isAttended => ⟨isAttended.inTime, ?_⟩
  intro event member k n isSlot isFetched
  obtain ⟨found, -, rfl⟩ := List.mem_map.mp member
  change found.s = some k at isSlot
  change found.s.bind s.held = some n at isFetched
  rw [isSlot] at isFetched
  exact isFetched

/-- The handler of an event runs in the incarnation of its slot. -/
theorem fetchEvent_minds :
    (fetchEvent : ServerAction Worker _).Follows Minds := by
  have fetched (s : SocketServer Worker) :
      Minds s { s with event_index := s.event_index + 1 } :=
    fun isAttended => isAttended.persist (fun _ _ => id) rfl rfl
  refine .act fun _ s isAttended => ?_
  dsimp only
  split
  · exact fetched s isAttended
  · next k isSlot =>
      split
      · exact fetched s isAttended
      refine ⟨?_, isAttended.held⟩
      intro handled member n isFetched
      rcases List.mem_cons.mp member with rfl | earlier
      · have waits :
            s.ev.getD s.event_index default ∈ s.ev := by
          rw [List.getD_eq_getElem?_getD] at isSlot ⊢
          cases isEvent : s.ev[s.event_index]? with
          | none =>
              rw [isEvent] at isSlot
              cases isSlot
          | some event =>
              exact List.mem_of_getElem? isEvent
        have isHeld := isAttended.held _ waits k n isSlot isFetched
        exact (held_eq_some.mp isHeld).2.symm
      · exact isAttended.inTime handled earlier n isFetched

theorem reportAccept_tends
    (k : Nat) :
    Tends (fun _ => True) (reportAccept k)
      fun _ (_ : SocketServer Worker) => True := by
  have reserved :
      (reserveId : ServerAction Worker (Option Int32)).Follows Minds :=
    Working.reserveId.mono fun _ _ step => step.minds
  have refused (errno : Errno) :
      (refuseAccept k errno : ServerAction Worker Outcome).Follows Minds := by
    refine .ite (.bind (Touching.minds .reportErrno k) fun _ => ?_) (.pure _)
    refine .bind (.bind (.ask _) fun _ => .ite ?_ (.pure _)) fun _ => .pure _
    exact minds_elsewhere (fun _ s => rfl) (fun _ s => rfl) fun _ s => rfl
  refine .bind (tends_any (.ask _)) fun accepted =>
    .ite (fun _ => tends_any (refused _)) fun _ => ?_
  refine .bind (tends_any reserved) fun id => ?_
  cases id with
  | none =>
      exact .pure fun _ _ => trivial
  | some id =>
      refine .bind (tends_any (Touching.minds (.load _) k)) fun _ =>
        .bind (newFd_tends _ _ _ _ _) fun _ =>
          .ite (fun _ => tends_any ?_) fun _ => .pure fun _ _ => trivial
      exact .bind (Touching.minds (.storeType (by decide)) _) fun _ =>
        nullData_ends _ _

theorem handleRequest_tends
    (request : SocketRequest Buffer) :
    Tends (fun _ => True) (serverThread.handleRequest request)
      fun _ (_ : SocketServer Worker) => True := by
  cases request with
  | resume | connect =>
      -- nothing is run behind `data = nullptr`
      exact tends_any trivial
  | pause id =>
      exact tends_any (Touching.minds (.pauseSocket _) _)
  | bind id fd opaqueValue =>
      exact bindSocket_tends id fd opaqueValue
  | listen id fd opaqueValue =>
      exact listenSocket_tends id fd opaqueValue
  | close id shutdown =>
      exact tends_any (Touching.minds (.closeSocket _ _) _)
  | exit =>
      exact tends_any (nullData_ends _ _)
  | triggerWrite id =>
      exact tends_any (Touching.minds (.triggerWrite _) _)
  | send request | sendLow request =>
      exact tends_any (Touching.minds (.sendRequested _ _) _)
  | sendUdp request address =>
      exact tends_any (Touching.minds (.sendSocket _ _ _) _)
  | setUdp id address =>
      exact tends_any ((setUDPAddress_persisting id address).atSlot _)
  | setOpt id what value =>
      exact tends_any
        (.bind (Touching.minds (.setOptSocket _) _) fun _ => .pure _)
  | udp id fd family opaqueValue =>
      exact .bind (addUDPSocket_tends id fd family opaqueValue) fun _ =>
        .pure fun _ _ => trivial
  | unknown type =>
      exact .pure fun _ _ => trivial

theorem pollEvent_tends
    (index k : Nat)
    (event : Event)
    (type : SocketType) :
    Tends (fun _ => True) (serverThread.pollEvent index k event type)
      fun _ (_ : SocketServer Worker) => True := by
  have read :
      (serverThread.pollRead index k event :
        ServerAction Worker Outcome).Follows Minds :=
    .bind
      (Touching.minds
        (.bind (Touching.load _) fun _ =>
          .ite (Touching.forwardMessageTCP _)
            (Touching.forwardMessageUDP _)) k)
      fun outcome => pollAfterRead_minds index event outcome
  have flags :
      Tends (fun _ => True) (serverThread.pollFlags index k event)
        fun _ (_ : SocketServer Worker) => True :=
    tends_any <|
      .ite read <| .ite (Touching.minds .sendBuffer k) <|
        .ite (Touching.minds .reportErrno k) <|
          .ite (Touching.minds .pollEof k) (.pure _)
  cases type
  case kSocketTypeConnecting =>
    exact tends_any (Touching.minds .reportConnect k)
  case kSocketTypeListen => exact reportAccept_tends k
  case kSocketTypeInvalid => exact .pure fun _ _ => trivial
  all_goals exact flags

/-- A round of `Poll` leaves events attended. -/
theorem pollRound_tends :
    Tends (fun _ => True) pollRound
      fun _ (_ : SocketServer Worker) => True := by
  have events :
      Tends (fun _ => True) serverThread.pollEvents
        fun _ (_ : SocketServer Worker) => True := by
    refine .bind (tends_any (.ask _)) fun _ =>
      .bind (tends_any (.orM (.pure _) epollWait_minds)) fun _ =>
        .ite (fun _ => .bind (tends_any fetchEvent_minds) fun fetched => ?_)
          fun _ => .pure fun _ _ => trivial
    obtain ⟨index, event, type⟩ := fetched
    dsimp only
    split
    · exact .pure fun _ _ => trivial
    · exact .bind (pollEvent_tends _ _ _ _) fun outcome =>
        tends_any (pollReturn_minds outcome)
  have requested :
      Tends (fun _ => True) serverThread.pollRequest
        fun _ (_ : SocketServer Worker) => True := by
    refine .bind (.bind (tends_any takeRequest_minds) handleRequest_tends)
      fun outcome => ?_
    cases outcome with
    | none =>
        exact .pure fun _ _ => trivial
    | some outcome =>
        exact tends_any
          (.bind (clearClosedEvent_minds _ _) fun _ =>
            pollReturn_minds (some outcome))
  refine .bind (tends_any (.ask _)) fun _ =>
    .ite (fun _ => .bind (tends_any (.ask _)) fun _ => ?_) fun _ => events
  exact .ite (fun _ => requested) fun _ =>
    .bind
      (tends_any
        (minds_elsewhere (fun _ _ => rfl) (fun _ _ => rfl) fun _ _ => rfl))
      fun _ => events

/-- Every call of a thread leaves events attended. -/
theorem slotDiscipline_sound :
    slotDiscipline.Sound (@socketThreads Worker) fun _ _ => True := by
  intro thread call _
  cases thread with
  | socketThread =>
      exact pollRound_tends
  | worker worker =>
      exact
        (Discipline.Triple.within (Working.workerCall worker call)
            (fun _ _ => trivial) fun _ _ _ step isAttended _ =>
              ⟨step.minds isAttended, step.setsUpNone, trivial⟩).mono
          (fun _ _ => trivial) fun _ _ _ => trivial

end Poll

end SocketThread

end SkynetCpp
