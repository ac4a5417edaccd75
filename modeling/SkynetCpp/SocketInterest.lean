import SkynetCpp.Foundation.Loop
import SkynetCpp.SocketKernel
import SkynetCpp.SocketCalls

namespace SkynetCpp

open Foundation

/-!
# What epoll is told about sockets

The flags of a socket in use say for what its descriptor is registered, as long
as no change of a registration fails.  The socket thread is followed between
the steps of the others, one kind of step at a time.
-/

variable {Worker α β : Type}

namespace SocketKernel

section Property

/-- The type of a socket in use. -/
def InUse (type : SocketType) : Prop :=
  type ≠ .kSocketTypeInvalid ∧ type ≠ .kSocketTypeReserve

instance : DecidablePred InUse :=
  fun _ => inferInstanceAs (Decidable (_ ∧ _))

/-- The type of a socket of which one direction was closed. -/
def HalfClosed (type : SocketType) : Prop :=
  type = .kSocketTypeHalfCloseRead ∨ type = .kSocketTypeHalfCloseWrite

instance : DecidablePred HalfClosed :=
  fun _ => inferInstanceAs (Decidable (_ ∨ _))

/-- The descriptor of a socket is registered for what its flags say. -/
def Agrees
    (k : Nat)
    (s : KernelServer Worker) : Prop :=
  s.kernel.interest (s.server.slot k).fd =
    some ⟨k, (s.server.slot k).reading, (s.server.slot k).writing⟩

/-- The flags of all sockets in use are right. -/
def Agreeing (s : KernelServer Worker) : Prop :=
  ∀ k, InUse (s.server.slot k).type → Agrees k s

end Property

section Others

/-- What is known of a socket has not changed. -/
structure SameSocket (sock sock' : Socket Worker) : Prop where
  type : sock'.type = sock.type
  fd : sock'.fd = sock.fd
  protocol : sock'.protocol = sock.protocol
  reading : sock'.reading = sock.reading
  writing : sock'.writing = sock.writing

/-- `ReserveId` of another thread, from its exchange to its last store. -/
structure Reserves (sock sock' : Socket Worker) : Prop where
  wasInvalid : sock.type = .kSocketTypeInvalid
  type : sock'.type = .kSocketTypeReserve
  fd : sock'.fd = -1
  protocol : sock'.protocol = .UNKNOWN

/-- What other threads do to the server: slots are theirs to reserve only. -/
structure Outside (s s' : SocketServer Worker) : Prop where
  slot :
    ∀ k, SameSocket (s.slot k) (s'.slot k) ∨ Reserves (s.slot k) (s'.slot k)
  reserve_fd : s'.reserve_fd = s.reserve_fd

variable {sock sock' sock'' : Socket Worker}

theorem SameSocket.refl (sock : Socket Worker) : SameSocket sock sock :=
  ⟨rfl, rfl, rfl, rfl, rfl⟩

theorem SameSocket.trans
    (first : SameSocket sock sock')
    (second : SameSocket sock' sock'') :
    SameSocket sock sock'' where
  type := second.type.trans first.type
  fd := second.fd.trans first.fd
  protocol := second.protocol.trans first.protocol
  reading := second.reading.trans first.reading
  writing := second.writing.trans first.writing

theorem Outside.refl (s : SocketServer Worker) : Outside s s :=
  ⟨fun _ => .inl (.refl _), rfl⟩

theorem Outside.trans
    {s s' s'' : SocketServer Worker}
    (first : Outside s s')
    (second : Outside s' s'') :
    Outside s s'' := by
  refine ⟨fun k => ?_, second.reserve_fd.trans first.reserve_fd⟩
  rcases first.slot k with same | reserves
  · rcases second.slot k with later | reserves
    · exact .inl (same.trans later)
    · exact .inr
        ⟨same.type.symm.trans reserves.wasInvalid, reserves.type, reserves.fd,
          reserves.protocol⟩
  · rcases second.slot k with later | again
    · exact .inr
        ⟨reserves.wasInvalid, later.type.trans reserves.type,
          later.fd.trans reserves.fd, later.protocol.trans reserves.protocol⟩
    · cases reserves.type.symm.trans again.wasInvalid

/-- What other threads do leaves the descriptors alone. -/
structure Others (s s' : KernelServer Worker) : Prop where
  outside : Outside s.server s'.server
  kernel : s'.kernel = s.kernel

theorem others_refl
    (_ : Unit)
    (s : KernelServer Worker) :
    Others s s :=
  ⟨.refl s.server, rfl⟩

theorem others_trans
    {_ : Unit}
    {s s' s'' : KernelServer Worker}
    (first : Others s s')
    (second : Others s' s'') :
    Others s s'' :=
  ⟨first.outside.trans second.outside, second.kernel.trans first.kernel⟩

end Others

section Conditions

/--
Descriptors of the operating system are new: they are not registered, and not
the spare one while that is open.
-/
structure Fresh (s s' : KernelServer Worker) : Prop where
  opened :
    ∀ fd,
      s'.kernel.calls = .accept fd :: s.kernel.calls →
      s.kernel.interest fd = none ∧
        (fd = s.server.reserve_fd → s.kernel.calls.head? = some (.close fd))
  spare :
    ∀ fd,
      s'.kernel.calls = .dup fd :: s.kernel.calls →
        s.kernel.interest fd = none

/--
The descriptor in a request was made for it by the caller; one that is bound is
at least not the spare one.
-/
def Handed
    (s : KernelServer Worker) : SocketRequest Buffer → Prop
  | .listen _ fd _
  | .udp _ fd _ _ =>
      s.kernel.interest fd = none ∧ fd ≠ s.server.reserve_fd
  | .bind _ fd _ => fd ≠ s.server.reserve_fd
  | _ => True

/--
The steps with which the flags stay right: no registration of a socket in use
fails to change, and `CloseSocket` does not meet a slot that is only reserved.
-/
structure Avoids (s s' : KernelServer Worker) : Prop where
  modified :
    ∀ k type,
      s'.kernel.calls = .epollMod k type false :: s.kernel.calls →
        type = .kSocketTypeReserve
  closed :
    ∀ k,
      (s.server.slot k).type = .kSocketTypeReserve →
        (s'.server.slot k).type ≠ .kSocketTypeHalfCloseRead

/-- A step that takes a request takes one that was handed over. -/
def HandedOver (s s' : KernelServer Worker) : Prop :=
  ∀ request,
    s.server.pipe = request :: s'.server.pipe → Handed s request

/-- The steps of the socket thread that are considered. -/
structure Allowed (s s' : KernelServer Worker) : Prop where
  fresh : Fresh s s'
  handed : HandedOver s s'
  avoids : Avoids s s'

end Conditions

section Knowledge

/--
What the socket thread knows between its handlers.  It sets up at most one
slot, of which less is known meanwhile.
-/
structure Registers
    (setup : Option Nat)
    (s : KernelServer Worker) : Prop where
  agreeing : Agreeing s
  unset :
    ∀ k,
      setup ≠ some k →
      (s.server.slot k).type = .kSocketTypeReserve →
        (s.server.slot k).fd = -1 ∧ (s.server.slot k).protocol = .UNKNOWN
  negative : ∀ fd, fd < 0 → s.kernel.interest fd = none
  spare : s.kernel.interest s.server.reserve_fd = none

/-- The spare descriptor is open. -/
def SpareOpen (s : KernelServer Worker) : Prop :=
  s.kernel.calls.head? ≠ some (.close s.server.reserve_fd)

structure Ready
    (setup : Option Nat)
    (s : KernelServer Worker) : Prop extends Registers setup s where
  spareOpen : SpareOpen s

variable
    {setup setup' : Option Nat}
    {s s' : KernelServer Worker}
    {k : Nat}

/-- A descriptor that is registered for one slot is not that of another one. -/
theorem Agreeing.fd_ne
    (agreeing : Agreeing s)
    {fd : Int32}
    (own :
      ∀ registered,
        s.kernel.interest fd = some registered → registered.slot = k)
    {j : Nat}
    (different : j ≠ k)
    (inUse : InUse (s.server.slot j).type) :
    (s.server.slot j).fd ≠ fd := by
  rintro rfl
  exact different (own _ (agreeing j inUse))

/-- A change of one slot, and of what one descriptor is registered for. -/
theorem Registers.change
    (registers : Registers setup s)
    (others :
      ∀ j, j ≠ k → SameSocket (s.server.slot j) (s'.server.slot j))
    (fd : Int32)
    (own :
      ∀ registered,
        s.kernel.interest fd = some registered → registered.slot = k)
    (elsewhere :
      ∀ other, other ≠ fd →
        s'.kernel.interest other = s.kernel.interest other)
    (agrees : InUse (s'.server.slot k).type → Agrees k s')
    (only : ∀ j, j ≠ k → setup = some j → setup' = some j)
    (unset :
      setup' ≠ some k →
      (s'.server.slot k).type = .kSocketTypeReserve →
        (s'.server.slot k).fd = -1 ∧ (s'.server.slot k).protocol = .UNKNOWN)
    (negative : ∀ fd, fd < 0 → s'.kernel.interest fd = none)
    (spare : s'.kernel.interest s'.server.reserve_fd = none) :
    Registers setup' s' where
  agreeing := by
    intro j inUse
    by_cases isSlot : j = k
    · subst isSlot
      exact agrees inUse
    · have same := others j isSlot
      rw [same.type] at inUse
      have elsewhere :=
        elsewhere _ (registers.agreeing.fd_ne own isSlot inUse)
      unfold Agrees
      rw [same.fd, same.reading, same.writing, elsewhere]
      exact registers.agreeing j inUse
  unset := by
    intro j notSetup isReserved
    by_cases isSlot : j = k
    · subst isSlot
      exact unset notSetup isReserved
    · have same := others j isSlot
      rw [same.type] at isReserved
      rw [same.fd, same.protocol]
      exact
        registers.unset j (fun isSetup => notSetup (only j isSlot isSetup))
          isReserved
  negative := negative
  spare := spare

/-- What other threads do leaves the flags right. -/
theorem Agreeing.others
    (agreeing : Agreeing s)
    (others : Others s s') :
    Agreeing s' := by
  intro k inUse
  rcases others.outside.slot k with same | reserves
  · rw [same.type] at inUse
    unfold Agrees
    rw [others.kernel, same.fd, same.reading, same.writing]
    exact agreeing k inUse
  · exact absurd reserves.type inUse.2

/-- What other threads do leaves this knowledge. -/
theorem Registers.others
    (registers : Registers setup s)
    (others : Others s s') :
    Registers setup s' where
  agreeing := registers.agreeing.others others
  unset := by
    intro k notSetup isReserved
    rcases others.outside.slot k with same | reserves
    · rw [same.type] at isReserved
      rw [same.fd, same.protocol]
      exact registers.unset k notSetup isReserved
    · exact ⟨reserves.fd, reserves.protocol⟩
  negative := by
    rw [others.kernel]
    exact registers.negative
  spare := by
    rw [others.kernel, others.outside.reserve_fd]
    exact registers.spare

theorem Ready.others
    (ready : Ready setup s)
    (others : Others s s') :
    Ready setup s' where
  toRegisters := ready.toRegisters.others others
  spareOpen := by
    unfold SpareOpen
    rw [others.kernel, others.outside.reserve_fd]
    exact ready.spareOpen

/-- How the socket thread shares the server with the others. -/
def interestDiscipline :
    Discipline Unit (KernelServer Worker) where
  invariant := Agreeing
  allowed := Allowed
  guarantee _ _ _ := True
  rely _ := Others
  ready _ := Ready none
  rely_refl := others_refl
  rely_trans := @others_trans Worker
  rely_of_guarantee different _ _ _ := absurd rfl different
  ready_stable others ready := ready.others others

end Knowledge

section Steps

/-- A step on a socket that leaves alone what is known of it. -/
structure Quiet (v v' : SocketView Worker) : Prop where
  same : SameSocket v.sock v'.sock
  notes : .forceClosed ∈ v'.notes → .forceClosed ∈ v.notes

instance : Std.Refl (@Quiet Worker) where
  refl v := ⟨.refl v.sock, id⟩

/-- A step of a handler on a socket. -/
inductive Attends (v v' : SocketView Worker) : Prop where
  | quiet (quiet : Quiet v v')
  /-- The flags change. -/
  | flags
      (notClosed : .forceClosed ∉ v'.notes)
      (notInvalid : v.sock.type ≠ .kSocketTypeInvalid)
      (type : v'.sock.type = v.sock.type)
      (fd : v'.sock.fd = v.sock.fd)
      (protocol : v'.sock.protocol = v.sock.protocol)
  /-- The type changes to that of another socket in use. -/
  | retype
      (type : SocketType)
      (isSock : v'.sock = { v.sock with type := type })
      (notClosed : .forceClosed ∉ v'.notes)
      (inUse : InUse type)
      (wasInUse :
        v.sock.type ≠ .kSocketTypeReserve ∨ type = .kSocketTypeHalfCloseRead)
      (wasBound : v.sock.type = .kSocketTypeBind → HalfClosed type)
      (notInvalid : v.sock.type ≠ .kSocketTypeInvalid)

variable
    {setup setup' : Option Nat}
    {s s' : KernelServer Worker}
    {k : Nat}
    {input : OsAnswer}
    {part : SocketView Worker}

/-- The other slots are as before. -/
theorem sameSocket_put
    (k : Nat)
    (part : SocketView Worker)
    (s : SocketServer Worker)
    (j : Nat)
    (different : j ≠ k) :
    SameSocket (s.slot j) ((s.put k part).slot j) := by
  rw [SocketServer.put_slot_of_ne k part s different]
  exact .refl _

/-- What is left in the slot, for what is known of it. -/
theorem sameSocket_put_self
    (k : Nat)
    (part : SocketView Worker)
    (s : SocketServer Worker) :
    SameSocket part.sock ((s.put k part).slot k) := by
  constructor <;> simp [SocketServer.put]

/-- Another socket in a slot, and no other registration. -/
theorem Ready.put
    (ready : Ready setup s)
    (part : SocketView Worker)
    (agrees :
      InUse part.sock.type →
        s.kernel.interest part.sock.fd =
          some ⟨k, part.sock.reading, part.sock.writing⟩)
    (only : ∀ j, j ≠ k → setup = some j → setup' = some j)
    (unset :
      setup' ≠ some k →
      part.sock.type = .kSocketTypeReserve →
        part.sock.fd = -1 ∧ part.sock.protocol = .UNKNOWN) :
    Ready setup' { s with server := s.server.put k part } where
  toRegisters := by
    have self := sameSocket_put_self k part s.server
    refine ready.toRegisters.change (sameSocket_put k part s.server) (-1)
      (k := k) ?_ (fun _ _ => rfl) ?_ only ?_ ready.negative ready.spare
    · intro registered isRegistered
      rw [ready.negative (-1) (by decide)] at isRegistered
      cases isRegistered
    · intro inUse
      rw [self.type] at inUse
      unfold Agrees
      rw [self.fd, self.reading, self.writing]
      exact agrees inUse
    · intro notSetup isReserved
      rw [self.type] at isReserved
      rw [self.fd, self.protocol]
      exact unset notSetup isReserved
  spareOpen := ready.spareOpen

/-- A slot whose flags and descriptor stay, and the registrations with them. -/
theorem Ready.retyped
    (ready : Ready setup s)
    (fd : part.sock.fd = (s.server.slot k).fd)
    (reading : part.sock.reading = (s.server.slot k).reading)
    (writing : part.sock.writing = (s.server.slot k).writing)
    (wasInUse : InUse part.sock.type → InUse (s.server.slot k).type)
    (unset :
      setup ≠ some k →
      part.sock.type = .kSocketTypeReserve →
        (s.server.slot k).fd = -1 ∧ part.sock.protocol = .UNKNOWN) :
    Ready setup { s with server := s.server.put k part } := by
  refine ready.put part ?_ (fun _ _ => id) ?_
  · intro inUse
    rw [fd, reading, writing]
    exact ready.agreeing k (wasInUse inUse)
  · rw [fd]
    exact unset

/-- What is known of a socket in use. -/
theorem Ready.registered_slot
    (ready : Ready setup s)
    (inUse : InUse (s.server.slot k).type)
    (registered : Interest)
    (isRegistered :
      s.kernel.interest (s.server.slot k).fd = some registered) :
    registered.slot = k := by
  rw [ready.agreeing k inUse] at isRegistered
  cases isRegistered
  rfl

/-- The descriptor of a socket in use is not the spare one. -/
theorem Ready.fd_ne_spare
    (ready : Ready setup s)
    (inUse : InUse (s.server.slot k).type) :
    (s.server.slot k).fd ≠ s.server.reserve_fd := by
  intro isSpare
  have isRegistered := ready.agreeing k inUse
  unfold Agrees at isRegistered
  rw [isSpare, ready.spare] at isRegistered
  cases isRegistered

/-- `EpollEnable` for a socket that is there, unless it fails while in use. -/
theorem Ready.enabled
    {kernel : Kernel}
    (ready : Ready none s)
    (notInvalid : (s.server.slot k).type ≠ .kSocketTypeInvalid)
    (type : part.sock.type = (s.server.slot k).type)
    (fd : part.sock.fd = (s.server.slot k).fd)
    (protocol : part.sock.protocol = (s.server.slot k).protocol)
    (enabled :
      s.kernel.epollEnable (s.server.slot k).fd (s.server.slot k).type
          ⟨k, part.sock.reading, part.sock.writing⟩ (input.result = 0) =
        some kernel)
    (allowed : Allowed s { server := s.server.put k part, kernel := kernel }) :
    Ready none { server := s.server.put k part, kernel := kernel } := by
  have self := sameSocket_put_self k part s.server
  have unset
      (isReserved :
        ((s.server.put k part).slot k).type = .kSocketTypeReserve) :
      ((s.server.put k part).slot k).fd = -1 ∧
        ((s.server.put k part).slot k).protocol = .UNKNOWN := by
    rw [self.type, type] at isReserved
    rw [self.fd, self.protocol, fd, protocol]
    exact ready.unset k nofun isReserved
  unfold Kernel.epollEnable at enabled
  by_cases succeeds : input.result = 0
  · simp only [succeeds, decide_true, ↓reduceIte,
      Option.ite_none_right_eq_some, Option.some.injEq] at enabled
    obtain ⟨isRegistered, rfl⟩ := enabled
    have inUse : InUse (s.server.slot k).type := by
      refine ⟨notInvalid, fun isReserved => isRegistered ?_⟩
      rw [(ready.unset k nofun isReserved).1]
      exact ready.negative (-1) (by decide)
    have notSpare := ready.fd_ne_spare inUse
    have notNegative : ¬ (s.server.slot k).fd < 0 :=
      fun negative => isRegistered (ready.negative _ negative)
    refine ⟨?_, by simp [SpareOpen, Kernel.noted]⟩
    refine ready.toRegisters.change (sameSocket_put k part s.server)
      (s.server.slot k).fd (ready.registered_slot inUse) ?_ ?_
      (fun _ _ => id) (fun _ => unset) ?_ ?_
    · intro other different
      simp [different]
    · intro _
      simp [Agrees, self.fd, self.reading, self.writing, fd]
    · intro other negative
      have different : other ≠ (s.server.slot k).fd := by
        rintro rfl
        exact notNegative negative
      simpa [different, Kernel.noted] using ready.negative other negative
    · simpa [Ne.symm notSpare, Kernel.noted, SocketServer.put] using ready.spare
  · simp only [succeeds, decide_false, Bool.false_eq_true, ↓reduceIte,
      Option.some.injEq] at enabled
    subst enabled
    have isReserved := allowed.avoids.modified k _ rfl
    refine ⟨?_, by simp [SpareOpen, Kernel.noted]⟩
    refine ready.toRegisters.change (sameSocket_put k part s.server) (-1)
      (k := k) ?_ (fun _ _ => rfl) ?_ (fun _ _ => id) (fun _ => unset)
      ready.negative ready.spare
    · intro registered impossible
      rw [ready.negative (-1) (by decide)] at impossible
      cases impossible
    · intro inUse
      rw [self.type, type] at inUse
      exact absurd isReserved inUse.2

/-- A step of a handler leaves what is known. -/
theorem Ready.watch
    (ready : Ready none s)
    (attends : Attends (s.server.view k) part)
    (watched : s.watch k input part = some s')
    (allowed : Allowed s s') :
    Ready none s' := by
  unfold KernelServer.watch at watched
  cases attends with
  | quiet quiet =>
      obtain ⟨same, notes⟩ := quiet
      have notClosed : .forceClosed ∉ part.notes :=
        fun isClosed => nomatch notes isClosed
      have unchanged :
          part.sock.reading = (s.server.slot k).reading ∧
            part.sock.writing = (s.server.slot k).writing :=
        ⟨same.reading, same.writing⟩
      simp only [notClosed, ↓reduceIte, unchanged, and_self,
        Option.some.injEq] at watched
      subst watched
      refine ready.retyped same.fd same.reading same.writing ?_ ?_
      · exact fun inUse => same.type ▸ inUse
      · intro _ isReserved
        have known := ready.unset k nofun (same.type.symm.trans isReserved)
        exact ⟨known.1, same.protocol.trans known.2⟩
  | flags notClosed notInvalid type fd protocol =>
      simp only [notClosed, ↓reduceIte] at watched
      split at watched
      · next unchanged =>
          cases watched
          refine ready.retyped fd unchanged.1 unchanged.2
            (fun inUse => type ▸ inUse) fun _ isReserved => ?_
          have known := ready.unset k nofun (type.symm.trans isReserved)
          exact ⟨known.1, protocol.trans known.2⟩
      · obtain ⟨kernel, enabled, rfl⟩ := Option.map_eq_some_iff.mp watched
        exact ready.enabled notInvalid type fd protocol enabled allowed
  | retype type isSock notClosed inUse wasInUse wasBound notInvalid =>
      have unchanged :
          part.sock.reading = (s.server.slot k).reading ∧
            part.sock.writing = (s.server.slot k).writing := by
        rw [isSock]
        exact ⟨rfl, rfl⟩
      simp only [notClosed, ↓reduceIte, unchanged, and_self,
        Option.some.injEq] at watched
      subst watched
      refine ready.retyped (by rw [isSock]; rfl) unchanged.1 unchanged.2 ?_ ?_
      · refine fun _ => ⟨notInvalid, fun isReserved => ?_⟩
        have notHalf := allowed.avoids.closed k isReserved
        rw [SocketServer.put_type, isSock] at notHalf
        exact wasInUse.elim (absurd isReserved) (absurd · notHalf)
      · intro _ isReserved
        rw [isSock] at isReserved
        exact absurd isReserved inUse.2

end Steps

section Judgement

variable
    {s s' : KernelServer Worker}
    {k : Nat}

/-- Code that leaves alone what is known of its socket. -/
abbrev Unobtrusive (action : SocketAction Worker α) : Prop :=
  action.Follows Quiet

theorem watch_server
    {input : OsAnswer}
    {part : SocketView Worker}
    (watched : s.watch k input part = some s') :
    s'.server = s.server.put k part := by
  unfold KernelServer.watch at watched
  split at watched
  · cases watched
    rfl
  · dsimp only at watched
    split at watched
    · cases watched
      rfl
    · obtain ⟨kernel, -, rfl⟩ := Option.map_eq_some_iff.mp watched
      rfl

/-- The type of a socket that is not invalid is the socket thread's. -/
theorem Others.type
    (others : Others s s')
    (notInvalid : (s.server.slot k).type ≠ .kSocketTypeInvalid) :
    (s'.server.slot k).type = (s.server.slot k).type := by
  rcases others.outside.slot k with same | reserves
  · exact same.type
  · exact absurd reserves.wasInvalid notInvalid

/--
What the steps of a handler do, from the type that its socket had after the
last one.  Other threads may have reserved the slot meanwhile.
-/
def Handling (post : α → SocketType → Prop) :
    SocketAction Worker α → SocketType → Prop
  | .done result, type => post result type
  | .crash, _ => True
  | .step next rest, type =>
      ∀ input v part,
        v.notes = [] →
        v.sock.type = type ∨
            type = .kSocketTypeInvalid ∧ v.sock.type = .kSocketTypeReserve →
        (v.sock.type = .kSocketTypeReserve → v.sock.protocol = .UNKNOWN) →
        next input v = some part →
          Attends v part ∧ Handling post (rest input v) part.sock.type

/-- What a handler does from this knowledge of the type of its socket to that. -/
def Handles
    (known : SocketType → Prop)
    (action : SocketAction Worker α)
    (post : α → SocketType → Prop) : Prop :=
  ∀ type, known type → Handling post action type

namespace Handles

variable
    {known : SocketType → Prop}
    {post mid : α → SocketType → Prop}

theorem pure
    {result : α}
    (holds : ∀ type, known type → post result type) :
    Handles known (Pure.pure result : SocketAction Worker α) post :=
  holds

theorem bind
    {action : SocketAction Worker α}
    {after : α → SocketAction Worker β}
    {post : β → SocketType → Prop}
    (first : Handles known action mid)
    (second : ∀ result, Handles (mid result) (after result) post) :
    Handles known (action >>= after) post := by
  intro type holds
  have handling := first type holds
  clear first holds
  induction action generalizing type with
  | done result =>
      exact second result type handling
  | crash =>
      trivial
  | step next rest inductionHypothesis =>
      intro input v part notes typed unset isNext
      obtain ⟨attends, later⟩ := handling input v part notes typed unset isNext
      exact ⟨attends, inductionHypothesis input v _ later⟩

theorem ite
    {condition : Prop}
    [Decidable condition]
    {first second : SocketAction Worker α}
    (onFirst : condition → Handles known first post)
    (onSecond : ¬ condition → Handles known second post) :
    Handles known (if condition then first else second) post := by
  split
  · exact onFirst ‹_›
  · exact onSecond ‹_›

theorem weaken
    {action : SocketAction Worker α}
    {stronger : SocketType → Prop}
    (handles : Handles known action post)
    (implies : ∀ type, stronger type → known type) :
    Handles stronger action post :=
  fun type holds => handles type (implies type holds)

theorem mono
    {action : SocketAction Worker α}
    {weaker : α → SocketType → Prop}
    (handles : Handles known action post)
    (implies : ∀ result type, post result type → weaker result type) :
    Handles known action weaker := by
  intro type holds
  have handling := handles type holds
  clear handles holds
  induction action generalizing type with
  | done result =>
      exact implies result type handling
  | crash =>
      trivial
  | step next rest inductionHypothesis =>
      intro input v part notes typed unset isNext
      obtain ⟨attends, later⟩ := handling input v part notes typed unset isNext
      exact ⟨attends, inductionHypothesis input v _ later⟩

/-- A step of a handler, and what comes after it. -/
theorem step
    {next : OsAnswer → SocketView Worker → Option (SocketView Worker)}
    {rest : OsAnswer → SocketView Worker → SocketAction Worker α}
    (reserved : known .kSocketTypeInvalid → known .kSocketTypeReserve)
    (after : OsAnswer → SocketView Worker → SocketType → Prop)
    (attends :
      ∀ input v part,
        v.notes = [] →
        known v.sock.type →
        (v.sock.type = .kSocketTypeReserve → v.sock.protocol = .UNKNOWN) →
        next input v = some part →
          Attends v part ∧ after input v part.sock.type)
    (later :
      ∀ input v part,
        next input v = some part →
          Handles (after input v) (rest input v) post) :
    Handles known (.step next rest) post := by
  intro type holds input v part notes typed unset isNext
  have isKnown : known v.sock.type := by
    rcases typed with isType | ⟨isInvalid, isReserved⟩
    · exact isType ▸ holds
    · rw [isReserved]
      exact reserved (isInvalid ▸ holds)
  obtain ⟨attended, learned⟩ :=
    attends input v part notes isKnown unset isNext
  exact ⟨attended, later input v part isNext _ learned⟩

/-- Code that leaves alone what is known of its socket. -/
theorem quiet
    {action : SocketAction Worker α}
    (isQuiet : Unobtrusive action)
    (reserved : known .kSocketTypeInvalid → known .kSocketTypeReserve) :
    Handles known action fun _ => known := by
  induction action with
  | done result =>
      exact pure fun _ => id
  | crash =>
      exact fun _ _ => trivial
  | step next rest inductionHypothesis =>
      refine step reserved (fun _ _ => known) ?_ ?_
      · intro input v part _ holds _ isNext
        have stepQuiet := (isQuiet input v part isNext).1
        exact ⟨.quiet stepQuiet, stepQuiet.same.type.symm ▸ holds⟩
      · intro input v part isNext
        exact inductionHypothesis input v (isQuiet input v part isNext).2

/-- A single step of a handler. -/
theorem act
    {value : OsAnswer → SocketView Worker → α}
    {next : OsAnswer → SocketView Worker → SocketView Worker}
    (post : α → SocketType → Prop)
    (reserved : known .kSocketTypeInvalid → known .kSocketTypeReserve)
    (attends :
      ∀ input v,
        v.notes = [] →
        known v.sock.type →
          Attends v (next input v) ∧
            post (value input v) (next input v).sock.type) :
    Handles known (Program.act value next) post := by
  refine step reserved (fun input v => post (value input v)) ?_ ?_
  · intro input v part notes holds _ isNext
    cases isNext
    exact attends input v notes holds
  · exact fun _ _ _ _ => pure fun _ => id

/-- Nothing is run behind `data = nullptr`. -/
theorem nullData
    {after : MessageData → SocketAction Worker α} :
    Handles known (SkynetCpp.nullData >>= after) post :=
  fun _ _ => trivial

/-- Nothing is run behind `ForceClose`. -/
theorem forceClose
    (count : Nat)
    {after : SocketMessage → SocketAction Worker α} :
    Handles known (SkynetCpp.forceClose count >>= after) post := by
  unfold SkynetCpp.forceClose
  rw [Program.bind_assoc]
  exact nullData

/-- Looking at a socket. -/
theorem load
    {field : Socket Worker → α}
    (post : α → SocketType → Prop)
    (reserved : known .kSocketTypeInvalid → known .kSocketTypeReserve)
    (learns :
      ∀ sock : Socket Worker,
        known sock.type →
        (sock.type = .kSocketTypeReserve → sock.protocol = .UNKNOWN) →
          post (field sock) sock.type) :
    Handles known (SkynetCpp.load field) post := by
  refine step reserved (fun _ v => post (field v.sock)) ?_ ?_
  · intro input v part _ holds unset isNext
    cases isNext
    exact ⟨.quiet (Std.Refl.refl v), learns v.sock holds unset⟩
  · exact fun _ _ _ _ => pure fun _ => id

theorem check
    {condition : Prop}
    [Decidable condition]
    (after : SocketType → Prop)
    (reserved : known .kSocketTypeInvalid → known .kSocketTypeReserve)
    (learns : ∀ type, known type → condition → after type) :
    Handles known (Program.check condition : SocketAction Worker Unit)
      fun _ => after := by
  refine step reserved (fun _ _ => after) ?_ fun _ _ _ _ => pure fun _ => id
  intro input v part _ holds _ isNext
  split at isNext
  · next met =>
      cases isNext
      exact ⟨.quiet (Std.Refl.refl v), learns _ holds met⟩
  · cases isNext

/-- `EnableWrite` and `EnableRead`, on a socket that is there. -/
theorem enable
    {value : OsAnswer → SocketView Worker → α}
    (reading writing : Socket Worker → Bool)
    (notInvalid : ¬ known .kSocketTypeInvalid) :
    Handles known
      (Program.act value fun _ v =>
        { v with
          sock :=
            { v.sock with
              reading := reading v.sock
              writing := writing v.sock } })
      fun _ => known := by
  refine act _ (fun impossible => absurd impossible notInvalid) ?_
  intro input v notes holds
  refine ⟨.flags (by simp [notes]) ?_ rfl rfl rfl, holds⟩
  intro isInvalid
  exact notInvalid (isInvalid ▸ holds)

theorem enableWrite
    (enabled : Bool)
    (notInvalid : ¬ known .kSocketTypeInvalid) :
    Handles known (SkynetCpp.enableWrite enabled : SocketAction Worker Bool)
      fun _ => known :=
  enable (·.reading) (fun _ => enabled) notInvalid

theorem enableRead
    (enabled : Bool)
    (notInvalid : ¬ known .kSocketTypeInvalid) :
    Handles known (SkynetCpp.enableRead enabled : SocketAction Worker Bool)
      fun _ => known :=
  enable (fun _ => enabled) (·.writing) notInvalid

/-- Another type for a socket in use. -/
theorem storeType
    {type : SocketType}
    (inUse : InUse type)
    (notInvalid : ¬ known .kSocketTypeInvalid)
    (wasInUse :
      known .kSocketTypeReserve → type = .kSocketTypeHalfCloseRead)
    (wasBound : known .kSocketTypeBind → HalfClosed type) :
    Handles known (SkynetCpp.storeType type : SocketAction Worker Unit)
      fun _ => (· = type) := by
  refine act _ (fun impossible => absurd impossible notInvalid) ?_
  intro input v notes holds
  refine ⟨.retype type rfl (by simp [notes]) inUse ?_ ?_ ?_, rfl⟩
  · by_cases isReserved : v.sock.type = .kSocketTypeReserve
    · exact .inr (wasInUse (isReserved ▸ holds))
    · exact .inl isReserved
  · intro isBound
    exact wasBound (isBound ▸ holds)
  · intro isInvalid
    exact notInvalid (isInvalid ▸ holds)

end Handles

end Judgement

section QuietCode

namespace Unobtrusive

theorem store
    {change : Socket Worker → Socket Worker}
    (same : ∀ sock, SameSocket sock (change sock)) :
    Unobtrusive (SkynetCpp.store change) :=
  .act fun _ v => ⟨same v.sock, id⟩

theorem socketLock
    (caller : Caller Worker)
    (count : Nat) :
    Unobtrusive (SkynetCpp.socketLock caller count) := by
  refine .ite (.bind (.attempt fun v v' taken => ?_) fun _ => .pure _) (.pure _)
  split at taken
  · cases taken
    exact ⟨⟨rfl, rfl, rfl, rfl, rfl⟩, id⟩
  · cases taken

theorem socketTrylock
    (caller : Caller Worker) :
    Unobtrusive (SkynetCpp.socketTrylock caller) := by
  refine .act fun _ v => ?_
  split <;> exact ⟨⟨rfl, rfl, rfl, rfl, rfl⟩, id⟩

theorem socketUnlock
    (count : Nat) :
    Unobtrusive (SkynetCpp.socketUnlock count : SocketAction Worker Unit) :=
  .ite (store fun _ => ⟨rfl, rfl, rfl, rfl, rfl⟩) (.pure _)

theorem socketInvalid
    (id : Int32) :
    Unobtrusive (SkynetCpp.socketInvalid id : SocketAction Worker Bool) :=
  .bind (.ask _) fun _ => .ite (.pure _) (.bind (.ask _) fun _ => .pure _)

theorem sendBufferEmpty :
    Unobtrusive (SkynetCpp.sendBufferEmpty : SocketAction Worker Bool) :=
  .andM (.ask _) (.ask _)

theorem nomoreSendingData :
    Unobtrusive (SkynetCpp.nomoreSendingData : SocketAction Worker Bool) :=
  .orM (.andM sendBufferEmpty (.andM (.ask _) (.ask _))) (.ask _)

theorem getUdpAddress :
    Unobtrusive (SkynetCpp.getUdpAddress : SocketAction Worker (List UInt8)) := by
  refine .bind (.ask _) fun p => ?_
  cases p
  · exact .bind (.check _) fun _ => .pure _
  · exact .pure _

theorem getReadSize :
    Unobtrusive (SkynetCpp.getReadSize : SocketAction Worker Int32) := by
  refine .bind (.ask _) fun p => ?_
  cases p
  · exact .pure _
  · exact .bind (.check _) fun _ => .pure _

/-- A report of a message. -/
theorem report
    {action : SocketAction Worker SocketMessage}
    (first : Unobtrusive action)
    (report : Report) :
    Unobtrusive
      (do return some (report, ← action) : SocketAction Worker Outcome) :=
  .bind first fun _ => .pure _

theorem reportError
    (err : String) :
    Unobtrusive (SkynetCpp.reportError err : SocketAction Worker Outcome) :=
  report (.ask _) _

/-- A report of the text for `errno`. -/
theorem reportErrno :
    Unobtrusive (do SkynetCpp.reportError (← strerror) :
      SocketAction Worker Outcome) :=
  .bind (.ask _) fun _ => reportError _

theorem writeHead
    (priority : Priority) :
    Unobtrusive (SkynetCpp.writeHead priority : SocketAction Worker _) := by
  refine .act fun input v => ?_
  split
  · exact Std.Refl.refl v
  · split
    · split
      · exact Std.Refl.refl v
      · exact ⟨.refl v.sock, by simp⟩
    · cases priority <;> exact ⟨⟨rfl, rfl, rfl, rfl, rfl⟩, by simp⟩

theorem sendHeadUDP
    (priority : Priority) :
    Unobtrusive (SkynetCpp.sendHeadUDP priority : SocketAction Worker _) := by
  refine .act fun input v => ?_
  split
  · exact Std.Refl.refl v
  · split
    · exact Std.Refl.refl v
    · cases priority <;> exact ⟨⟨rfl, rfl, rfl, rfl, rfl⟩, id⟩

theorem sendListUDP
    (priority : Priority) :
    Unobtrusive
      (SkynetCpp.sendListUDP priority : SocketAction Worker Outcome) := by
  refine .bind (.ask _) fun nodes => ?_
  induction nodes with
  | zero =>
      exact .pure _
  | succ nodes inductionHypothesis =>
      refine .bind (sendHeadUDP priority) fun written => ?_
      cases written
      · exact .pure _
      · exact inductionHypothesis
      · exact .pure _
      · exact .pure _

theorem raiseUncomplete :
    Unobtrusive (SkynetCpp.raiseUncomplete : SocketAction Worker Unit) :=
  .bind (.ask _) fun _ => .bind (.check _) fun _ =>
    store fun _ => ⟨rfl, rfl, rfl, rfl, rfl⟩

theorem raiseDirect :
    Unobtrusive (SkynetCpp.store raiseDirect : SocketAction Worker Unit) := by
  refine store fun sock => ?_
  unfold SkynetCpp.raiseDirect
  split <;> exact ⟨rfl, rfl, rfl, rfl, rfl⟩

theorem appendSendbuffer
    (priority : Priority)
    (request : RequestSend Buffer) :
    Unobtrusive
      (SkynetCpp.appendSendbuffer priority request :
        SocketAction Worker Unit) :=
  .bind useUnset_follows fun _ =>
    store fun _ => by cases priority <;> exact ⟨rfl, rfl, rfl, rfl, rfl⟩

theorem warnSocket :
    Unobtrusive (SkynetCpp.warnSocket : SocketAction Worker Outcome) :=
  .bind (.ask _) fun _ => .bind (.ask _) fun _ =>
    .ite
      (.bind (store fun _ => ⟨rfl, rfl, rfl, rfl, rfl⟩) fun _ =>
        nullData_ends _ _)
      (.pure _)

theorem sendSocketUDP
    (request : RequestSend Buffer)
    (address : Option (List UInt8)) :
    Unobtrusive
      (SkynetCpp.sendSocketUDP request address : SocketAction Worker Bool) := by
  have judged (address : List UInt8) :
      Unobtrusive (do
        if udpSocketAddress (← SkynetCpp.load (·.protocol)) address = 0 then
          return false
        return UInt64.ofInt (← answer (·.result)) ≠ request.sz :
          SocketAction Worker Bool) :=
    .bind (.ask _) fun _ => .ite (.pure _) (.bind (.ask _) fun _ => .pure _)
  cases address
  · exact .bind getUdpAddress judged
  · exact judged _

theorem decSendingRef
    (id : Int32) :
    Unobtrusive (SkynetCpp.decSendingRef id : SocketAction Worker Unit) := by
  refine .bind (.andM (.ask _) (.ask _)) fun _ => .ite ?_ (.pure _)
  exact .bind (.ask _) fun _ => .bind (.check _) fun _ =>
    store fun _ => ⟨rfl, rfl, rfl, rfl, rfl⟩

theorem setOptSocket
    (id : Int32) :
    Unobtrusive (SkynetCpp.setOptSocket id : SocketAction Worker Unit) :=
  .bind (socketInvalid id) fun _ => .pure _

theorem setUDPAddress
    (id : Int32)
    (address : List UInt8) :
    Unobtrusive
      (SkynetCpp.setUDPAddress id address : SocketAction Worker Outcome) := by
  refine .bind (socketInvalid id) fun _ => .ite (.pure _)
    (.bind (.ask _) fun _ => .ite (reportError _) ?_)
  exact .bind getUdpAddress fun _ =>
    .bind (store fun _ => ⟨rfl, rfl, rfl, rfl, rfl⟩) fun _ =>
    .bind (store fun _ => ⟨rfl, rfl, rfl, rfl, rfl⟩) fun _ => .pure _

theorem forwardData
    (sz n : Int32)
    (bytes : List UInt8) :
    Unobtrusive
      (SkynetCpp.forwardData sz n bytes : SocketAction Worker Outcome) := by
  refine .bind (.ask _) fun _ =>
    .ite (.pure _) (.bind (.ask _) fun _ => .ite ?_ (.ite ?_ (.pure _)))
  · exact .bind (store fun _ => ⟨rfl, rfl, rfl, rfl, rfl⟩) fun _ => .pure _
  · exact .bind (store fun _ => ⟨rfl, rfl, rfl, rfl, rfl⟩) fun _ => .pure _

end Unobtrusive

end QuietCode

end SocketKernel

end SkynetCpp
