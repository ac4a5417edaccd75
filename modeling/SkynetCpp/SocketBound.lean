import SkynetCpp.SocketInterestRuns

namespace SkynetCpp

open Foundation

/-!
# Descriptors that are only lent

A descriptor that was handed over with `Bind` stays that of the caller.  The
socket thread closes only descriptors that it was given to own and could not
use, those that it accepted, and the spare one.
-/

variable {Worker α β : Type}

namespace SocketKernel

section Property

/-- How often a descriptor was closed. -/
def Kernel.closes
    (kernel : Kernel)
    (fd : Int32) : Nat :=
  kernel.calls.count (.close fd)

/--
The descriptor is not the spare one, and slots that are only reserved are unset.
Less is known of a slot that is set up.
-/
structure Lends
    (fd : Int32)
    (setup : Option Nat)
    (s : KernelServer Worker) : Prop where
  unset :
    ∀ k,
      setup ≠ some k →
      (s.server.slot k).type = .kSocketTypeReserve →
        (s.server.slot k).protocol = .UNKNOWN
  spare : s.server.reserve_fd ≠ fd

/-- What the request hands over is not the descriptor, unless it is bound. -/
def OnlyBound (fd : Int32) : SocketRequest Buffer → Prop
  | .listen _ other _
  | .udp _ other _ _ => other ≠ fd
  | _ => True

/--
The descriptor stays open for its owner: the operating system gives it to nobody
else, and nobody hands it over but to be bound.
-/
structure Foreign
    (fd : Int32)
    (s s' : KernelServer Worker) : Prop where
  made :
    ∀ other,
      s'.kernel.calls = .accept other :: s.kernel.calls ∨
        s'.kernel.calls = .dup other :: s.kernel.calls →
      other ≠ fd
  handed :
    ∀ request,
      s.server.pipe = request :: s'.server.pipe → OnlyBound fd request

end Property

section Closes

variable
    {kernel kernel' : Kernel}
    {fd other : Int32}

theorem Kernel.noted_closes
    {call : OsCall}
    (notClose : call ≠ .close fd) :
    (kernel.noted call).closes fd = kernel.closes fd :=
  List.count_cons_of_ne notClose

theorem Kernel.close_closes
    (different : other ≠ fd) :
    (kernel.close other).closes fd = kernel.closes fd := by
  refine Kernel.noted_closes fun isClose => different ?_
  cases isClose
  rfl

theorem Kernel.epollAdd_closes
    {k : Nat}
    {added : Bool}
    (isAdded : kernel.epollAdd other k added = some kernel') :
    kernel'.closes fd = kernel.closes fd := by
  unfold Kernel.epollAdd at isAdded
  cases added with
  | true =>
      obtain ⟨-, isKernel⟩ := Option.ite_none_right_eq_some.mp isAdded
      cases isKernel
      exact Kernel.noted_closes nofun
  | false =>
      cases isAdded
      exact Kernel.noted_closes nofun

theorem Kernel.epollEnable_closes
    {type : SocketType}
    {interest : Interest}
    {modified : Bool}
    (isModified :
      kernel.epollEnable other type interest modified = some kernel') :
    kernel'.closes fd = kernel.closes fd := by
  unfold Kernel.epollEnable at isModified
  cases modified with
  | true =>
      obtain ⟨-, isKernel⟩ := Option.ite_none_right_eq_some.mp isModified
      cases isKernel
      exact Kernel.noted_closes nofun
  | false =>
      cases isModified
      exact Kernel.noted_closes nofun

end Closes

section Knowledge

variable
    {fd : Int32}
    {count : Nat}
    {setup setup' : Option Nat}
    {s s' : KernelServer Worker}
    {k : Nat}
    {input : OsAnswer}
    {part : SocketView Worker}

/-- The descriptor is lent, and was closed so often. -/
structure Spared
    (fd : Int32)
    (count : Nat)
    (setup : Option Nat)
    (s : KernelServer Worker) : Prop extends Lends fd setup s where
  closes : s.kernel.closes fd = count

/-- What other threads do leaves the descriptor alone. -/
theorem Spared.others
    (spared : Spared fd count setup s)
    (others : Others s s') :
    Spared fd count setup s' where
  unset := by
    intro k notSetup isReserved
    rcases others.outside.slot k with same | reserves
    · rw [same.type] at isReserved
      rw [same.protocol]
      exact spared.unset k notSetup isReserved
    · exact reserves.protocol
  spare := by
    rw [others.outside.reserve_fd]
    exact spared.spare
  closes := by
    rw [others.kernel]
    exact spared.closes

/-- Another socket in a slot. -/
theorem Spared.put
    (spared : Spared fd count setup s)
    (part : SocketView Worker)
    (kernel : Kernel)
    (closes : kernel.closes fd = s.kernel.closes fd)
    (only : ∀ j, j ≠ k → setup = some j → setup' = some j)
    (unset :
      setup' ≠ some k →
      part.sock.type = .kSocketTypeReserve →
        part.sock.protocol = .UNKNOWN) :
    Spared fd count setup'
      { server := s.server.put k part, kernel := kernel } where
  unset := by
    intro j notSetup isReserved
    by_cases isSlot : j = k
    · subst isSlot
      have self := sameSocket_put_self j part s.server
      rw [self.type] at isReserved
      rw [self.protocol]
      exact unset notSetup isReserved
    · have same := sameSocket_put k part s.server j isSlot
      rw [same.type] at isReserved
      rw [same.protocol]
      exact
        spared.unset j (fun isSetup => notSetup (only j isSlot isSetup))
          isReserved
  spare := spared.spare
  closes := closes.trans spared.closes

/-- Nothing is closed by a step that is not `ForceClose`. -/
theorem watch_closes
    (fd : Int32)
    (notClosed : .forceClosed ∉ part.notes)
    (watched : s.watch k input part = some s') :
    s'.kernel.closes fd = s.kernel.closes fd := by
  unfold KernelServer.watch at watched
  simp only [notClosed, ↓reduceIte] at watched
  split at watched
  · cases watched
    rfl
  · obtain ⟨kernel, enabled, rfl⟩ := Option.map_eq_some_iff.mp watched
    exact Kernel.epollEnable_closes enabled

/-- A step on a socket that leaves its type and its protocol alone. -/
theorem Spared.retyped
    (spared : Spared fd count none s)
    (notClosed : .forceClosed ∉ part.notes)
    (type : part.sock.type = (s.server.slot k).type)
    (protocol : part.sock.protocol = (s.server.slot k).protocol)
    (watched : s.watch k input part = some s') :
    Spared fd count none s' := by
  obtain ⟨server, kernel⟩ := s'
  have closes := watch_closes fd notClosed watched
  have isServer : server = s.server.put k part := watch_server watched
  subst isServer
  refine spared.put part kernel closes (fun _ _ => id) fun _ isReserved => ?_
  rw [type] at isReserved
  rw [protocol]
  exact spared.unset k nofun isReserved

/-- A step of a handler leaves the descriptor alone. -/
theorem Spared.watch
    (spared : Spared fd count none s)
    (attends : Attends (s.server.view k) part)
    (watched : s.watch k input part = some s') :
    Spared fd count none s' := by
  cases attends with
  | quiet quiet =>
      obtain ⟨same, notes⟩ := quiet
      have notClosed : .forceClosed ∉ part.notes :=
        fun isClosed => nomatch notes isClosed
      exact spared.retyped notClosed same.type same.protocol watched
  | flags notClosed notInvalid type sameFd protocol =>
      exact spared.retyped notClosed type protocol watched
  | retype type isSock notClosed inUse wasInUse wasBound notInvalid =>
      obtain ⟨server, kernel⟩ := s'
      have closes := watch_closes fd notClosed watched
      have isServer : server = s.server.put k part := watch_server watched
      subst isServer
      have isType : part.sock.type = type := by
        rw [isSock]
      refine spared.put part kernel closes (fun _ _ => id) ?_
      exact fun _ isReserved => absurd (isType.symm.trans isReserved) inUse.2

/-- How the socket thread leaves a descriptor that is lent alone. -/
def lendingDiscipline
    (fd : Int32)
    (count : Nat) :
    Discipline Unit (KernelServer Worker) where
  invariant s := s.kernel.closes fd = count
  allowed := Foreign fd
  guarantee _ _ _ := True
  rely _ := Others
  ready _ := Spared fd count none
  rely_refl := others_refl
  rely_trans := @others_trans Worker
  rely_of_guarantee different _ _ _ := absurd rfl different
  ready_stable others spared := spared.others others

instance :
    Serves (lendingDiscipline fd count :
      Discipline Unit (KernelServer Worker)) where
  relies := Iff.rfl
  guarantees _ _ := trivial
  sound spared := spared.closes
  unset spared isReserved :=
    spared.unset _ (Option.some_ne_none _).symm isReserved
  watch spared attends watched _ := spared.watch attends watched

end Knowledge

section SetUps

variable
    {fd other : Int32}
    {count : Nat}
    {setup : Option Nat}
    {s s' : KernelServer Worker}
    {k : Nat}

/-- What code of the socket thread does from this knowledge to that. -/
abbrev Spares
    (fd : Int32)
    (count : Nat)
    (pre : KernelServer Worker → Prop)
    (program : KernelAction Worker α)
    (post : α → KernelServer Worker → Prop) : Prop :=
  (lendingDiscipline fd count).Triple () pre program post

/-- A slot that is set up. -/
structure Held
    (fd : Int32)
    (count : Nat)
    (k : Nat)
    (s : KernelServer Worker) : Prop where
  spared : Spared fd count (some k) s
  reserved : Reserved k s

/-- A step that closes nothing, and leaves the types and protocols alone. -/
structure Unclosed (s s' : KernelServer Worker) : Prop where
  slot :
    ∀ k,
      (s'.server.slot k).type = (s.server.slot k).type ∧
        (s'.server.slot k).protocol = (s.server.slot k).protocol
  reserve_fd : s'.server.reserve_fd = s.server.reserve_fd
  closes : ∀ fd, s'.kernel.closes fd = s.kernel.closes fd

theorem Spared.unclosed
    (spared : Spared fd count setup s)
    (step : Unclosed s s') :
    Spared fd count setup s' where
  unset := by
    intro k notSetup isReserved
    obtain ⟨type, protocol⟩ := step.slot k
    rw [type] at isReserved
    rw [protocol]
    exact spared.unset k notSetup isReserved
  spare := by
    rw [step.reserve_fd]
    exact spared.spare
  closes := (step.closes fd).trans spared.closes

theorem Held.unclosed
    (held : Held fd count k s)
    (step : Unclosed s s') :
    Held fd count k s' :=
  ⟨held.spared.unclosed step, (step.slot k).1.trans held.reserved⟩

/-- Nothing but the slot is set up. -/
theorem Held.sets
    (held : Held fd count k s) :
    ∃ setup, Spared fd count setup s ∧ ∀ j, setup = some j → j = k :=
  ⟨some k, held.spared, fun _ isSetup => (Option.some.inj isSetup).symm⟩

theorem stable_spared :
    (lendingDiscipline fd count).Stable ()
      (Spared fd count setup : KernelServer Worker → Prop) :=
  fun others spared => spared.others others

theorem stable_held :
    (lendingDiscipline fd count).Stable ()
      (Held fd count k : KernelServer Worker → Prop) := by
  intro s s' others held
  have notInvalid : (s.server.slot k).type ≠ .kSocketTypeInvalid := by
    rw [held.reserved]
    decide
  rcases others.outside.slot k with same | reserves
  · exact ⟨held.spared.others others, same.type.trans held.reserved⟩
  · exact absurd reserves.wasInvalid notInvalid

/-- Code that closes nothing, and leaves the types and protocols alone. -/
theorem unclosed_spares
    {program : KernelAction Worker α}
    {known : KernelServer Worker → Prop}
    (follows : program.Follows Unclosed)
    (stable : (lendingDiscipline fd count).Stable () known)
    (kept : ∀ s s', known s → Unclosed s s' → known s')
    (sound : ∀ s, known s → s.kernel.closes fd = count) :
    Spares fd count known program fun _ => known := by
  refine (Discipline.Triple.within follows stable ?_).mono (fun _ => id)
    fun _ _ holds => holds.2
  intro s s' holds step _ _
  have after := kept s s' holds step
  exact ⟨sound s' after, trivial, after⟩

instance : Std.Refl (@Unclosed Worker) where
  refl _ := ⟨fun _ => ⟨rfl, rfl⟩, rfl, fun _ => rfl⟩

theorem epollAdd_unclosed
    (other : Int32)
    (k : Nat) :
    (epollAdd other k : KernelAction Worker Bool).Follows Unclosed := by
  intro input s s' taken
  obtain ⟨kernel, isAdded, rfl⟩ := Option.map_eq_some_iff.mp taken
  exact
    ⟨⟨fun _ => ⟨rfl, rfl⟩, rfl, fun _ => Kernel.epollAdd_closes isAdded⟩,
      trivial⟩

theorem enable_unclosed
    (k : Nat)
    {change : Socket Worker → Socket Worker}
    (same :
      ∀ sock : Socket Worker,
        (change sock).type = sock.type ∧
          (change sock).protocol = sock.protocol) :
    (enable k change).Follows Unclosed := by
  intro input s s' taken
  refine ⟨?_, trivial⟩
  dsimp only at taken
  split at taken
  · cases taken
    exact Std.Refl.refl s
  · obtain ⟨kernel, isModified, rfl⟩ := Option.map_eq_some_iff.mp taken
    refine ⟨fun j => ?_, rfl, fun _ => Kernel.epollEnable_closes isModified⟩
    by_cases isSlot : j = k
    · subst isSlot
      have self :=
        sameSocket_put_self j
          { s.server.view j with sock := change (s.server.slot j) } s.server
      obtain ⟨type, protocol⟩ := same (s.server.slot j)
      exact ⟨self.type.trans type, self.protocol.trans protocol⟩
    · have unchanged :=
        sameSocket_put k
          { s.server.view k with sock := change (s.server.slot k) } s.server j
          isSlot
      exact ⟨unchanged.type, unchanged.protocol⟩

theorem call_unclosed
    {value : OsAnswer → α}
    {note : OsAnswer → Option OsCall}
    (notClose : ∀ input fd, note input ≠ some (.close fd)) :
    (call value note : KernelAction Worker α).Follows Unclosed := by
  refine .act fun input s => ?_
  cases isNote : note input with
  | none =>
      exact Std.Refl.refl s
  | some call =>
      refine ⟨fun _ => ⟨rfl, rfl⟩, rfl, fun fd => ?_⟩
      refine Kernel.noted_closes fun isClose => ?_
      exact notClose input fd (isNote.trans (congrArg some isClose))

/-- The set-up of a slot ends, or the slot is given up. -/
theorem storeType_spares
    {pre : KernelServer Worker → Prop}
    {type : SocketType}
    (stable : (lendingDiscipline fd count).Stable () pre)
    (spared :
      ∀ s, pre s →
        ∃ setup, Spared fd count setup s ∧ ∀ j, setup = some j → j = k)
    (notReserve : type ≠ .kSocketTypeReserve) :
    Spares fd count pre (plain (atSlot k (storeType type)))
      fun _ => Spared fd count none := by
  refine keeps_store (Spared fd count none) stable
    (fun _ spared => spared.closes) fun s holds => ?_
  obtain ⟨setup, isSpared, only⟩ := spared s holds
  exact
    isSpared.put _ s.kernel rfl
      (fun j different isSetup => absurd (only j isSetup) different)
      fun _ isReserve => absurd isReserve notReserve

/-- A slot that is set up gets a type. -/
theorem used_spares
    {type : SocketType}
    (notReserve : type ≠ .kSocketTypeReserve) :
    Spares fd count (Held fd count k : KernelServer Worker → Prop)
      (plain (atSlot k (storeType type))) fun _ => Spared fd count none :=
  storeType_spares stable_held (fun _ held => held.sets) notReserve

theorem spared_unclosed
    {program : KernelAction Worker α}
    (follows : program.Follows Unclosed) :
    Spares fd count (Spared fd count setup) program
      fun _ => Spared fd count setup :=
  unclosed_spares follows stable_spared
    (fun _ _ spared step => spared.unclosed step) fun _ spared => spared.closes

theorem spared_quiet
    {action : SocketAction Worker α}
    (isQuiet : Unobtrusive action) :
    Spares fd count (Spared fd count setup) (plain (atSlot k action))
      fun _ => Spared fd count setup :=
  keeps_unobtrusive isQuiet stable_spared fun _ spared => spared.closes

theorem held_quiet
    {action : SocketAction Worker α}
    (isQuiet : Unobtrusive action) :
    Spares fd count (Held fd count k) (plain (atSlot k action))
      fun _ => Held fd count k :=
  keeps_unobtrusive isQuiet stable_held fun _ held => held.spared.closes

theorem held_check
    (condition : Prop)
    [Decidable condition] :
    Spares fd count (Held fd count k)
      (Program.check condition : KernelAction Worker Unit)
      fun _ => Held fd count k :=
  keeps_check stable_held fun _ held _ => held

/-- `NewFd` has set the slot up, or given it up. -/
def NewHeld
    (fd : Int32)
    (count : Nat)
    (k : Nat)
    (isNew : Bool)
    (s : KernelServer Worker) : Prop :=
  if isNew then Held fd count k s else Spared fd count none s

theorem newFd_spares
    (id other : Int32)
    (protocol : Protocol)
    (opaqueValue : UInt64)
    (reading : Bool) :
    Spares fd count (Spared fd count none : KernelServer Worker → Prop)
      (newFd id other protocol opaqueValue reading)
      (NewHeld fd count (hashId id)) := by
  have stable :
      (lendingDiscipline fd count).Stable ()
        fun s : KernelServer Worker =>
          Spared fd count none s ∧ Reserved (hashId id) s :=
    Discipline.Stable.and stable_spared lasting_reserved
  refine .bind
    (keeps_load
      (fun type s =>
        Spared fd count none s ∧
          (type = SocketType.kSocketTypeReserve → Reserved (hashId id) s))
      stable_spared fun s spared => ⟨spared, fun isReserve => isReserve⟩)
    fun type => ?_
  refine .bind
    (keeps_check
      (Discipline.Stable.and stable_spared
        (Discipline.Stable.imp _ lasting_reserved))
      fun s holds isReserve =>
        (⟨holds.1, holds.2 isReserve⟩ :
          Spared fd count none s ∧ Reserved (hashId id) s))
    fun _ => ?_
  refine .bind
    (unclosed_spares (epollAdd_unclosed other _) stable
      (fun s s' holds step =>
        ⟨holds.1.unclosed step, (step.slot _).1.trans holds.2⟩)
      fun _ holds => holds.1.closes) fun failed => ?_
  cases failed with
  | true =>
      refine .bind
        (storeType_spares stable (fun s holds => ⟨none, holds.1, nofun⟩)
          (by decide))
        fun _ => .pure fun s spared => spared
  | false =>
      have stored :
          Spares fd count
            (fun s : KernelServer Worker =>
              Spared fd count none s ∧ Reserved (hashId id) s)
            (plain
              (atSlot (hashId id)
                (store (newSocket id other protocol opaqueValue))))
            fun _ => Held fd count (hashId id) := by
        refine keeps_store _ stable (fun _ held => held.spared.closes) ?_
        rintro s ⟨spared, isReserved⟩
        have self :=
          sameSocket_put_self (hashId id)
            { s.server.view (hashId id) with
              sock :=
                newSocket id other protocol opaqueValue
                  (s.server.slot (hashId id)) } s.server
        refine ⟨?_, self.type.trans isReserved⟩
        exact spared.put _ s.kernel rfl (fun _ _ => nofun)
          fun notSetup => absurd rfl notSetup
      refine .bind stored fun _ => ?_
      refine .bind (held_quiet (.ask _)) fun high =>
        .bind (held_check _) fun _ => ?_
      refine .bind (held_quiet (.ask _)) fun low =>
        .bind (held_check _) fun _ => ?_
      refine .bind
        (held_quiet (.store fun _ => ⟨rfl, rfl, rfl, rfl, rfl⟩)) fun _ => ?_
      refine .bind
        (unclosed_spares (enable_unclosed _ fun _ => ⟨rfl, rfl⟩)
          stable_held (fun _ _ held step => held.unclosed step)
          fun _ held => held.spared.closes) fun failed => ?_
      cases failed with
      | true =>
          exact .bind
            (storeType_spares stable_held (fun _ held => held.sets)
              (by decide))
            fun _ => .pure fun s spared => spared
      | false =>
          exact .pure fun s held => held

/-- An accept, and the descriptor if there is one. -/
theorem osAccept_spares :
    Spares fd count (Spared fd count none : KernelServer Worker → Prop)
      osAccept
      fun made s =>
        Spared fd count none s ∧ (0 ≤ made.1 → made.1 ≠ fd) := by
  refine keeps_act stable_spared (fun _ _ holds => holds.1.closes)
    fun input s spared foreign => ?_
  by_cases isMade : 0 ≤ input.number
  · simp only [isMade, ↓reduceIte] at foreign ⊢
    refine ⟨spared.unclosed ⟨fun _ => ⟨rfl, rfl⟩, rfl, fun fd => ?_⟩,
      fun _ => foreign.made input.number (.inl rfl)⟩
    exact Kernel.noted_closes nofun
  · simp only [isMade, ↓reduceIte]
    exact ⟨spared, False.elim⟩

/-- Closing another descriptor. -/
theorem osClose_spares
    (different : other ≠ fd) :
    Spares fd count (Spared fd count setup : KernelServer Worker → Prop)
      (osClose other) fun _ => Spared fd count setup := by
  refine keeps_act stable_spared (fun _ _ spared => spared.closes)
    fun _ s spared _ => ?_
  exact
    { spared with
      closes := (Kernel.close_closes different).trans spared.closes }

/-- A slot that cannot be set up is given up. -/
theorem openFailed_spares
    (id : Int32)
    (opaqueValue : UInt64)
    (text : String) :
    Spares fd count (Spared fd count none : KernelServer Worker → Prop)
      (plain (atSlot k (openFailed id opaqueValue text)))
      fun _ => Spared fd count none := by
  refine keeps_bind (spared_quiet (.ask _)) fun message => ?_
  refine keeps_bind
    (storeType_spares stable_spared (fun _ spared => ⟨none, spared, nofun⟩)
      (by decide)) fun _ => ?_
  exact spared_quiet (.pure _)

theorem listenSocket_spares
    (id other : Int32)
    (opaqueValue : UInt64)
    (different : other ≠ fd) :
    Spares fd count (Spared fd count none : KernelServer Worker → Prop)
      (listenSocket id other opaqueValue) fun _ => Spared fd count none := by
  refine .bind (newFd_spares id other .TCP opaqueValue false) fun isNew => ?_
  cases isNew with
  | false =>
      exact .bind (osClose_spares different) fun _ =>
        openFailed_spares id opaqueValue _
  | true =>
      have unnamed :
          Spares fd count (Spared fd count none : KernelServer Worker → Prop)
            (unnamedSocket id opaqueValue) fun _ => Spared fd count none :=
        .bind (keeps_ask stable_spared fun _ _ holds => holds) fun text =>
          .bind (spared_quiet (.ask _)) fun message =>
            .pure fun _ spared => spared
      refine .bind (used_spares (by decide)) fun _ => ?_
      refine .bind (spared_unclosed (call_unclosed fun input fd => nofun))
        fun named => .ite (fun _ => ?_) fun _ => unnamed
      refine .bind (spared_unclosed (call_unclosed fun input fd => nofun))
        fun written => ?_
      obtain ⟨text, port⟩ := written
      cases text with
      | none =>
          exact unnamed
      | some text =>
          exact .bind (spared_quiet (.ask _)) fun message =>
            .pure fun _ spared => spared

/-- `BindSocket`, of any descriptor. -/
theorem bindSocket_spares
    (id other : Int32)
    (opaqueValue : UInt64) :
    Spares fd count (Spared fd count none : KernelServer Worker → Prop)
      (bindSocket id other opaqueValue) fun _ => Spared fd count none := by
  refine .bind (newFd_spares id other .TCP opaqueValue true) fun isNew => ?_
  cases isNew with
  | false =>
      exact .bind (spared_quiet (.ask _)) fun message =>
        .pure fun _ spared => spared
  | true =>
      refine .bind (used_spares (by decide)) fun _ => ?_
      exact .bind (spared_quiet (.ask _)) fun message =>
        .pure fun _ spared => spared

theorem addUDPSocket_spares
    (id other family : Int32)
    (opaqueValue : UInt64)
    (different : other ≠ fd) :
    Spares fd count (Spared fd count none : KernelServer Worker → Prop)
      (addUDPSocket id other family opaqueValue)
      fun _ => Spared fd count none := by
  refine .bind (newFd_spares id other _ opaqueValue true) fun isNew => ?_
  cases isNew with
  | false =>
      refine .bind (osClose_spares different) fun _ => ?_
      exact .bind
        (storeType_spares stable_spared
          (fun _ spared => ⟨none, spared, nofun⟩) (by decide))
        fun _ => .pure fun _ spared => spared
  | true =>
      refine .bind (used_spares (by decide)) fun _ =>
        .bind (spared_quiet (.ask _)) fun p => ?_
      cases p with
      | size size =>
          exact .pure fun _ spared => spared
      | udpAddress address =>
          exact .bind
            (spared_quiet (.store fun _ => ⟨rfl, rfl, rfl, rfl, rfl⟩))
            fun _ => .pure fun _ spared => spared

end SetUps

section Accept

variable
    {fd : Int32}
    {count : Nat}
    {s s' : KernelServer Worker}
    {k : Nat}

/-- What the exchange of `ReserveId` leaves. -/
def NewReserved
    (fd : Int32)
    (count : Nat)
    (k : Nat)
    (taken : Bool)
    (s : KernelServer Worker) : Prop :=
  if taken then Spared fd count (some k) s ∧ Reserved k s
  else Spared fd count none s

/-- A slot becomes reserved, and nothing else changes. -/
theorem Spared.reserving
    (spared : Spared fd count none s)
    (others :
      ∀ j, j ≠ k → SameSocket (s.server.slot j) (s'.server.slot j))
    (isReserved : Reserved k s')
    (spare : s'.server.reserve_fd = s.server.reserve_fd)
    (kernel : s'.kernel = s.kernel) :
    Spared fd count (some k) s' ∧ Reserved k s' := by
  refine
    ⟨⟨⟨fun j notSetup wasReserved => ?_, by rw [spare]; exact spared.spare⟩,
      by rw [kernel]; exact spared.closes⟩, isReserved⟩
  have same := others j fun isSlot => notSetup (congrArg some isSlot.symm)
  rw [same.type] at wasReserved
  rw [same.protocol]
  exact spared.unset j nofun wasReserved

theorem reserveSlot_spares :
    Spares fd count (Spared fd count none : KernelServer Worker → Prop)
      (plain (reserveSlot k)) (NewReserved fd count k) := by
  refine keeps_act stable_spared ?_ fun input s spared _ => ?_
  · intro taken s reserved
    cases taken
    · exact Spared.closes reserved
    · exact reserved.1.closes
  by_cases taken : (s.server.slot k).type = .kSocketTypeInvalid ∧ input.flag
  · simp only [taken, and_self, decide_true, ↓reduceIte]
    refine spared.reserving (fun j different => ?_) ?_ rfl rfl
    · simp only [SocketServer.note_slot, Function.update_of_ne different]
      exact .refl _
    · simp [Reserved]
  · simp only [taken, decide_false, ↓reduceIte]
    exact spared

/-- The stores of `ReserveId`. -/
theorem reservedSocket_spares
    (id : Int32) :
    Spares fd count
      (fun s : KernelServer Worker =>
        Spared fd count (some k) s ∧ Reserved k s)
      (plain (atSlot k (store (reservedSocket id))))
      fun _ => Spared fd count none := by
  refine keeps_store (Spared fd count none)
    (Discipline.Stable.and stable_spared lasting_reserved)
    (fun _ spared => spared.closes) ?_
  rintro s ⟨spared, isReserved⟩
  refine spared.put _ s.kernel rfl (fun j different isSetup => ?_)
    fun _ _ => rfl
  cases isSetup
  exact absurd rfl different

theorem spared_apart
    {action : ServerAction Worker α}
    (isApart : Apart action) :
    Spares fd count (Spared fd count none) (plain action)
      fun _ => Spared fd count none :=
  apart_keeps isApart

theorem reserveId_spares :
    Spares fd count (Spared fd count none : KernelServer Worker → Prop)
      (plain reserveId) fun _ => Spared fd count none := by
  have allocated :
      Spares fd count (Spared fd count none : KernelServer Worker → Prop)
        (plain allocateId) fun _ => Spared fd count none := by
    refine spared_apart (.bind (.act fun _ _ => ⟨rfl, rfl⟩) fun id => ?_)
    exact .ite (.act fun _ _ => ⟨rfl, rfl⟩) (.pure _)
  have loop (rounds : Nat) :
      ∀ i,
        Spares fd count (Spared fd count none : KernelServer Worker → Prop)
          (plain (reserveIdLoop rounds i)) fun _ => Spared fd count none := by
    induction rounds with
    | zero =>
        exact fun i => spared_apart (.bind (.check _) fun _ => .pure _)
    | succ rounds inductionHypothesis =>
        intro i
        unfold reserveIdLoop
        split
        · exact spared_apart (.pure _)
        refine keeps_plain_bind allocated fun id => ?_
        refine keeps_plain_bind (spared_quiet (.ask _)) fun type => ?_
        split
        · refine keeps_plain_bind reserveSlot_spares fun taken => ?_
          cases taken with
          | false =>
              exact inductionHypothesis i
          | true =>
              exact keeps_plain_bind (reservedSocket_spares id) fun _ =>
                spared_apart (.pure _)
        · exact inductionHypothesis (i + 1)
  exact keeps_plain_bind (spared_apart (.ask _)) fun rounds => loop rounds 0

/-- The spare descriptor is made again. -/
theorem spare_spares :
    Spares fd count (Spared fd count none : KernelServer Worker → Prop)
      (.act (fun _ _ => ()) fun input s =>
        { server := { s.server with reserve_fd := input.number }
          kernel := s.kernel.noted (.dup input.number) })
      fun _ => Spared fd count none := by
  refine keeps_act stable_spared (fun _ _ spared => spared.closes)
    fun input s spared foreign => ?_
  have isSpare : input.number ≠ fd :=
    foreign.made input.number (.inr rfl)
  have closes :
      (s.kernel.noted (.dup input.number)).closes fd = s.kernel.closes fd :=
    Kernel.noted_closes nofun
  exact ⟨⟨spared.unset, isSpare⟩, closes.trans spared.closes⟩

theorem refuseAccept_spares
    (errno : Errno) :
    Spares fd count (Spared fd count none : KernelServer Worker → Prop)
      (refuseAccept k errno) fun _ => Spared fd count none := by
  refine .ite (fun _ => ?_) fun _ => .pure fun _ spared => spared
  refine .bind (spared_quiet .reportErrno) fun outcome => ?_
  have looked :
      Spares fd count (Spared fd count none : KernelServer Worker → Prop)
        (plain (.ask fun _ s => s.reserve_fd))
        fun reserve_fd s => reserve_fd ≠ fd ∧ Spared fd count none s :=
    keeps_ask stable_spared fun _ s spared => ⟨spared.spare, spared⟩
  refine .bind looked fun reserve_fd => .given fun notSpare =>
    .ite (fun _ => ?_) fun _ => .pure fun _ spared => spared
  refine .bind (osClose_spares notSpare) fun _ =>
    .bind osAccept_spares fun made => ?_
  obtain ⟨client_fd, errno⟩ := made
  have returned :
      Spares fd count (Spared fd count none : KernelServer Worker → Prop)
        (do
          .act (fun _ _ => ()) fun input s =>
            { server := { s.server with reserve_fd := input.number }
              kernel := s.kernel.noted (.dup input.number) }
          return outcome)
        fun _ => Spared fd count none :=
    .bind spare_spares fun _ => .pure fun _ spared => spared
  refine .ite (fun isMade s holds => ?_)
    fun _ => keeps_weaken returned fun _ holds => holds.1
  have different : client_fd ≠ fd := holds.2 isMade
  exact
    Discipline.Triple.bind (osClose_spares different) (fun _ => returned) s
      holds.1

theorem acceptSocket_spares :
    Spares fd count (Spared fd count none : KernelServer Worker → Prop)
      (acceptSocket k) fun _ => Spared fd count none := by
  refine .bind osAccept_spares fun accepted =>
    .ite (fun _ => ?_) fun isMade s holds => ?_
  · exact .bind
      (keeps_weaken (refuseAccept_spares accepted.2) fun _ holds => holds.1)
      fun outcome => .pure fun _ spared => spared
  have different := holds.2 (Int32.not_lt.mp isMade)
  refine Discipline.Triple.bind reserveId_spares (fun reserved => ?_) s holds.1
  cases reserved with
  | none =>
      exact .bind (osClose_spares different) fun _ =>
        .pure fun _ spared => spared
  | some id =>
      refine .bind (spared_quiet (.ask _)) fun opaqueValue =>
        .bind (newFd_spares id accepted.1 .TCP opaqueValue false)
          fun isNew => ?_
      cases isNew with
      | false =>
          exact .bind (osClose_spares different) fun _ =>
            .pure fun _ spared => spared
      | true =>
          exact .bind (used_spares (by decide)) fun _ =>
            .pure fun _ spared => spared

theorem reportAccept_spares :
    Spares fd count (Spared fd count none : KernelServer Worker → Prop)
      (reportAccept k) fun _ => Spared fd count none := by
  refine .bind acceptSocket_spares fun accepted => ?_
  cases accepted with
  | opened id =>
      exact nullData_triple
  | refused outcome | unreserved | dropped id =>
      exact .pure fun _ spared => spared

end Accept

section Runs

variable
    {fd : Int32}
    {count : Nat}
    {s : KernelServer Worker}

/-- The set-up routines leave a descriptor that is lent alone. -/
theorem lending_setsUp :
    SetsUp
      (lendingDiscipline fd count : Discipline Unit (KernelServer Worker))
      fun _ => OnlyBound fd where
  lasting _ := Discipline.Stable.const _
  taken foreign := foreign.handed _
  listenSocket id other opaqueValue s holds :=
    listenSocket_spares id other opaqueValue holds.2 s holds.1
  bindSocket id other opaqueValue :=
    keeps_weaken (bindSocket_spares id other opaqueValue)
      fun _ holds => holds.1
  addUDPSocket id other family opaqueValue s holds :=
    addUDPSocket_spares id other family opaqueValue holds.2 s holds.1
  reportAccept _ := reportAccept_spares

/-- A new server has no descriptor but the spare one. -/
theorem newServer_lends
    (memory : Nat → Socket Worker)
    (reserve_fd : Int32)
    (c_str : Nat → Address)
    (notSpare : reserve_fd ≠ fd) :
    Lends fd none (newKernelServer (newServer memory reserve_fd c_str)) where
  unset := fun _ _ isReserved => nomatch isReserved
  spare := notSpare

/--
A descriptor that stays open for its owner is never closed, whatever becomes of
the sockets for which it was bound.
-/
theorem bound_kept
    {start : KernelServer Worker}
    {final : Loop (KernelServer Worker) OsAnswer}
    {past :
      List (Loop (KernelServer Worker) OsAnswer × Loop.Label OsAnswer)}
    (lends : Lends fd none start)
    (run : PollRuns start past final)
    (foreign : Throughout (Foreign fd) past) :
    ∀ loop ∈ Run.visited past final,
      loop.shared.kernel.closes fd = start.kernel.closes fd := by
  have spared : Spared fd (start.kernel.closes fd) none start := ⟨lends, rfl⟩
  have loops :=
    (lendingDiscipline fd (start.kernel.closes fd)).loops_visited
      (pollRound_keeps lending_setsUp) (fun others => others)
      (fun closes others =>
        (congrArg (Kernel.closes · fd) others.kernel).trans closes)
      rfl spared run foreign
  exact fun loop visited => (loops loop visited).invariant

/-- No descriptor is made, and no other one than to bind is handed over. -/
def Unmade (s s' : KernelServer Unit) : Bool :=
  (match s'.kernel.calls with
    | .accept _ :: _ | .dup _ :: _ => false
    | _ => true) &&
  (match s.server.pipe with
    | .listen .. :: _ | .udp .. :: _ => false
    | _ => true)

theorem Unmade.sound
    {s s' : KernelServer Unit}
    (unmade : Unmade s s' = true) :
    Foreign fd s s' := by
  obtain ⟨calls, pipe⟩ := Bool.and_eq_true_iff.mp unmade
  refine ⟨fun other isMade => ?_, fun request isPipe => ?_⟩
  · rcases isMade with isCall | isCall <;> rw [isCall] at calls <;>
      cases calls
  · rw [isPipe] at pipe
    cases request
    case listen | udp => cases pipe
    all_goals trivial

/-- A new server that was handed a descriptor to bind. -/
def lentServer : KernelServer Unit :=
  { requestedServer with
    server := { requestedServer.server with pipe := [.bind 1 7 0] } }

theorem lentServer_others :
    Others (newKernelServer blankServer) lentServer :=
  ⟨⟨requestedServer_others.outside.slot, rfl⟩, rfl⟩

/-- A worker asks to pause the socket. -/
def pauseAsked (s : KernelServer Unit) : KernelServer Unit :=
  { s with server := { s.server with pipe := [.pause 1] } }

theorem pauseAsked_others
    (s : KernelServer Unit) :
    Others s (pauseAsked s) :=
  ⟨⟨fun _ => .inl (.refl _), rfl⟩, rfl⟩

/-- There is a byte to read from the socket. -/
def readable : OsAnswer :=
  { (default : OsAnswer) with
    number := 1
    events := [⟨some 1, true, false, false, false, none⟩] }

/-- The descriptor is bound and read from, and then its socket is paused. -/
theorem lentServer_kept :
    ∃ past final,
      PollRuns (newKernelServer (blankServer : SocketServer Unit)) past final ∧
        final.shared.server.polls.map Prod.fst = [.kSocketData, .kSocketOpen] ∧
        final.shared.kernel.interest 7 = some ⟨1, false, false⟩ ∧
        ∀ loop ∈ Run.visited past final, loop.shared.kernel.closes 7 = 0 := by
  have reached :
      ((Loop.rounds pollRound Unmade
            [List.replicate 20 succeeding, List.replicate 20 readable]
            lentServer).bind fun bound =>
          Loop.rounds pollRound Unmade [List.replicate 20 succeeding]
            (pauseAsked bound)).map
        (fun s => (s.server.polls.map Prod.fst, s.kernel.interest 7)) =
        some ([.kSocketData, .kSocketOpen], some ⟨1, false, false⟩) := by
    decide +kernel
  obtain ⟨s', ended, isEnd⟩ := Option.map_eq_some_iff.mp reached
  obtain ⟨bound, isBound, ended⟩ := Option.bind_eq_some_iff.mp ended
  simp only [Prod.mk.injEq] at isEnd
  obtain ⟨past, run, unmade⟩ :=
    Loop.exists_of_rounds
      (.snoc .nil (.others lentServer_others) :
        PollRuns (newKernelServer (blankServer : SocketServer Unit)) _ _)
      (by simp [Loop.Throughout, Loop.Considered]) _ isBound
  obtain ⟨past, run, unmade⟩ :=
    Loop.exists_of_rounds (run.snoc (.others (pauseAsked_others bound)))
      (Loop.considered_cons (by simp) unmade) _ ended
  have lends : Lends 7 none (newKernelServer (blankServer : SocketServer Unit)) :=
    newServer_lends _ _ _ (by decide)
  have kept :=
    bound_kept lends run (unmade.mono fun _ _ unmade => Unmade.sound unmade)
  exact ⟨past, Loop.idle s', run, isEnd.1, isEnd.2, kept⟩

end Runs

end SocketKernel

end SkynetCpp
