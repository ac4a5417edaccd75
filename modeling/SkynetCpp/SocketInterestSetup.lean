import SkynetCpp.SocketPolling

namespace SkynetCpp

open Foundation

/-!
# How sockets get their flags

The set-up routines of the socket thread give a socket in use the flags that its
descriptor is registered for, and closing descriptors takes them from no socket
in use.
-/

variable {Worker α β : Type}

namespace SocketKernel

variable
    {s : KernelServer Worker}
    {setup setup' : Option Nat}
    {k : Nat}
    {fd : Int32}

section Discipline

instance : Serves (@interestDiscipline Worker) where
  relies := Iff.rfl
  guarantees _ _ := trivial
  sound ready := ready.agreeing
  unset ready isReserved :=
    (ready.unset _ (Option.some_ne_none _).symm isReserved).2
  watch ready attends watched allowed := ready.watch attends watched allowed

/-- What code of the socket thread does from this knowledge to that. -/
abbrev Keeps
    (pre : KernelServer Worker → Prop)
    (program : KernelAction Worker α)
    (post : α → KernelServer Worker → Prop) : Prop :=
  interestDiscipline.Triple () pre program post

/-- Knowledge that the others do not disturb. -/
abbrev Lasting (known : KernelServer Worker → Prop) : Prop :=
  interestDiscipline.Stable () known

end Discipline

section Descriptors

/-- The descriptor is registered for the slot, or not at all. -/
def Owns
    (k : Nat)
    (fd : Int32)
    (s : KernelServer Worker) : Prop :=
  ∀ registered, s.kernel.interest fd = some registered → registered.slot = k

/-- The descriptor can be closed: no socket in use has it. -/
def Closable
    (fd : Int32)
    (s : KernelServer Worker) : Prop :=
  ∀ k, InUse (s.server.slot k).type → (s.server.slot k).fd ≠ fd

/-- The descriptor is not the spare one. -/
def NotSpare
    (fd : Int32)
    (s : KernelServer Worker) : Prop :=
  fd ≠ s.server.reserve_fd

/-- The type of the socket in a slot that is set up. -/
def Reserved
    (k : Nat)
    (s : KernelServer Worker) : Prop :=
  (s.server.slot k).type = .kSocketTypeReserve

theorem lasting_ready :
    Lasting (Ready setup : KernelServer Worker → Prop) :=
  fun others ready => ready.others others

theorem lasting_interest
    (registered : Option Interest → Prop) :
    Lasting fun s : KernelServer Worker => registered (s.kernel.interest fd) := by
  intro s s' others holds
  rw [others.kernel]
  exact holds

theorem lasting_owns :
    Lasting (Owns k fd : KernelServer Worker → Prop) :=
  lasting_interest fun interest =>
    ∀ registered, interest = some registered → registered.slot = k

theorem lasting_notSpare :
    Lasting (NotSpare fd : KernelServer Worker → Prop) := by
  intro s s' others holds
  unfold NotSpare
  rw [others.outside.reserve_fd]
  exact holds

theorem lasting_closable :
    Lasting (Closable fd : KernelServer Worker → Prop) := by
  intro s s' others closable k inUse
  rcases others.outside.slot k with same | reserves
  · rw [same.type] at inUse
    rw [same.fd]
    exact closable k inUse
  · exact absurd reserves.type inUse.2

theorem lasting_reserved :
    Lasting (Reserved k : KernelServer Worker → Prop) := by
  intro s s' others isReserved
  unfold Reserved at isReserved ⊢
  rw [others.type (by rw [isReserved]; decide)]
  exact isReserved

/-- A descriptor that is not registered can be closed. -/
theorem Agreeing.closable
    (agreeing : Agreeing s)
    (unregistered : s.kernel.interest fd = none) :
    Closable fd s := by
  rintro k inUse rfl
  have isRegistered := agreeing k inUse
  unfold Agrees at isRegistered
  rw [unregistered] at isRegistered
  cases isRegistered

/-- A descriptor of a slot that is not in use can be closed. -/
theorem Owns.closable
    (owns : Owns k fd s)
    (agreeing : Agreeing s)
    (notInUse : ¬ InUse (s.server.slot k).type) :
    Closable fd s := by
  rintro j inUse rfl
  have isSlot := owns _ (agreeing j inUse)
  dsimp only at isSlot
  subst isSlot
  exact notInUse inUse

/-- Closing a descriptor that no socket in use has. -/
theorem Registers.close
    (registers : Registers setup s)
    (closable : Closable fd s) :
    Registers setup { s with kernel := s.kernel.close fd } where
  agreeing := by
    intro k inUse
    have agrees := registers.agreeing k inUse
    unfold Agrees at agrees ⊢
    simpa [Kernel.close, closable k inUse] using agrees
  unset := registers.unset
  negative := by
    intro other negative
    by_cases same : other = fd
    · simp [Kernel.close, same]
    · simpa [Kernel.close, same] using registers.negative other negative
  spare := by
    by_cases same : s.server.reserve_fd = fd
    · simp [Kernel.close, same]
    · simpa [Kernel.close, same] using registers.spare

theorem Ready.close
    (ready : Ready setup s)
    (closable : Closable fd s)
    (notSpare : NotSpare fd s) :
    Ready setup { s with kernel := s.kernel.close fd } where
  toRegisters := ready.toRegisters.close closable
  spareOpen := by
    unfold NotSpare at notSpare
    unfold SpareOpen
    simpa [Kernel.close, Kernel.noted] using notSpare

end Descriptors

section NewFd

/-- A descriptor for a slot, which may have to be closed again. -/
structure Wanted
    (closes : Prop)
    (k : Nat)
    (fd : Int32)
    (s : KernelServer Worker) : Prop where
  ready : Ready none s
  notSpare : NotSpare fd s
  owns : closes → Owns k fd s

/-- A descriptor that could not be used for a slot. -/
structure Refused
    (closes : Prop)
    (fd : Int32)
    (s : KernelServer Worker) : Prop where
  ready : Ready none s
  notSpare : NotSpare fd s
  closable : closes → Closable fd s

/-- A slot whose descriptor is registered, for other events maybe. -/
structure Added
    (k : Nat)
    (fd : Int32)
    (s : KernelServer Worker) : Prop where
  ready : Ready (some k) s
  notSpare : NotSpare fd s
  reserved : Reserved k s
  registered : ∃ read write, s.kernel.interest fd = some ⟨k, read, write⟩

/-- A slot that was set up, but for its type. -/
structure SetUp
    (k : Nat)
    (fd : Int32)
    (s : KernelServer Worker) : Prop extends Added k fd s where
  isFd : (s.server.slot k).fd = fd
  agrees : Agrees k s

variable {closes : Prop}

theorem lasting_wanted :
    Lasting (Wanted closes k fd : KernelServer Worker → Prop) :=
  fun others wanted =>
    ⟨wanted.ready.others others, lasting_notSpare others wanted.notSpare,
      fun given => lasting_owns others (wanted.owns given)⟩

theorem lasting_refused :
    Lasting (Refused closes fd : KernelServer Worker → Prop) :=
  fun others refused =>
    ⟨refused.ready.others others, lasting_notSpare others refused.notSpare,
      fun given => lasting_closable others (refused.closable given)⟩

theorem lasting_added :
    Lasting (Added k fd : KernelServer Worker → Prop) := by
  intro s s' others added
  refine
    ⟨added.ready.others others, lasting_notSpare others added.notSpare,
      lasting_reserved others added.reserved, ?_⟩
  rw [others.kernel]
  exact added.registered

theorem lasting_setUp :
    Lasting (SetUp k fd : KernelServer Worker → Prop) := by
  intro s s' others set
  refine ⟨lasting_added others set.toAdded, ?_, ?_⟩
  · rcases others.outside.slot k with same | reserves
    · exact same.fd.trans set.isFd
    · cases set.reserved.symm.trans reserves.wasInvalid
  · rcases others.outside.slot k with same | reserves
    · unfold Agrees
      rw [others.kernel, same.fd, same.reading, same.writing]
      exact set.agrees
    · cases set.reserved.symm.trans reserves.wasInvalid

theorem Added.owns (added : Added k fd s) : Owns k fd s := by
  intro registered isRegistered
  obtain ⟨read, write, isSlot⟩ := added.registered
  cases isSlot.symm.trans isRegistered
  rfl

/-- A slot that becomes free, or leaves its set-up with the right flags. -/
theorem Ready.leave
    (ready : Ready setup s)
    (only : ∀ j, setup = some j → j = k)
    {type : SocketType}
    (notReserve : type ≠ .kSocketTypeReserve)
    (agrees : InUse type → Agrees k s) :
    Ready none (s.change k ({ · with type := type })) :=
  ready.put _ agrees (fun j different isSetup => absurd (only j isSetup) different)
    fun _ isReserve => absurd isReserve notReserve

/-- The slot is free after `storeType kSocketTypeInvalid`. -/
theorem free_keeps
    {pre : KernelServer Worker → Prop}
    (lasting : Lasting pre)
    (ready : ∀ s, pre s → ∃ setup, Ready setup s ∧ ∀ j, setup = some j → j = k) :
    Keeps pre
      (plain (atSlot k (storeType .kSocketTypeInvalid : SocketAction Worker Unit)))
      fun _ => Ready none := by
  refine keeps_store (Ready none) lasting (fun _ ready => ready.agreeing)
    fun s holds => ?_
  obtain ⟨setup, isReady, only⟩ := ready s holds
  exact isReady.leave only (by decide) fun inUse => absurd rfl inUse.1

/-- The descriptor of a slot that is given up can be closed. -/
theorem refuse_keeps
    {pre : KernelServer Worker → Prop}
    (lasting : Lasting pre)
    (ready : ∀ s, pre s → ∃ setup, Ready setup s ∧ ∀ j, setup = some j → j = k)
    (notSpare : ∀ s, pre s → NotSpare fd s)
    (owns : ∀ s, pre s → closes → Owns k fd s) :
    Keeps pre
      (plain (atSlot k (storeType .kSocketTypeInvalid : SocketAction Worker Unit)))
      fun _ => Refused closes fd := by
  refine keeps_store (Refused closes fd) lasting
    (fun _ refused => refused.ready.agreeing) fun s holds => ?_
  obtain ⟨setup, isReady, only⟩ := ready s holds
  have nowReady :
      Ready none (s.change k ({ · with type := .kSocketTypeInvalid })) :=
    isReady.leave only (by decide) fun inUse => absurd rfl inUse.1
  refine ⟨nowReady, notSpare s holds, fun given => ?_⟩
  have owned :
      Owns k fd (s.change k ({ · with type := .kSocketTypeInvalid })) :=
    owns s holds given
  refine owned.closable nowReady.agreeing fun inUse => inUse.1 ?_
  rw [KernelServer.change, SocketServer.put_type]

theorem keeps_epollAdd
    {pre : KernelServer Worker → Prop}
    {post : Bool → KernelServer Worker → Prop}
    (lasting : Lasting pre)
    (sound : ∀ failed s, post failed s → Agreeing s)
    (refused :
      ∀ s, pre s →
        post true { s with kernel := s.kernel.noted (.epollAdd fd false) })
    (added :
      ∀ s, pre s → 0 ≤ fd → s.kernel.interest fd = none →
        post false
          { s with
            kernel :=
              { s.kernel.noted (.epollAdd fd true) with
                interest :=
                  Function.update s.kernel.interest fd
                    (some ⟨k, true, false⟩) } }) :
    Keeps pre (epollAdd fd k) post := by
  intro s holds moved others _ input s' taken _
  have known := lasting others holds
  obtain ⟨kernel, isKernel, rfl⟩ := Option.map_eq_some_iff.mp taken
  unfold Kernel.epollAdd at isKernel
  by_cases succeeds : input.result = 0
  · simp only [succeeds, decide_true, ↓reduceIte, Option.ite_none_right_eq_some,
      Option.some.injEq] at isKernel
    obtain ⟨⟨notNegative, isFree⟩, rfl⟩ := isKernel
    have after := added moved known notNegative isFree
    refine ⟨sound _ _ after, trivial, ?_⟩
    simpa [Discipline.Safe, succeeds] using after
  · simp only [succeeds, decide_false, Bool.false_eq_true, ↓reduceIte,
      Option.some.injEq] at isKernel
    subst isKernel
    have after := refused moved known
    refine ⟨sound _ _ after, trivial, ?_⟩
    simpa [Discipline.Safe, succeeds] using after

/-- What `EnableRead` and `EnableWrite` leave of a slot that is set up. -/
def EnabledSetUp
    (k : Nat)
    (fd : Int32)
    (failed : Bool)
    (s : KernelServer Worker) : Prop :=
  if failed then Added k fd s else SetUp k fd s

theorem EnabledSetUp.added
    {failed : Bool}
    (enabled : EnabledSetUp k fd failed s) : Added k fd s := by
  cases failed
  · exact SetUp.toAdded enabled
  · exact enabled

/-- The flags of a slot that is set up, with a new registration or without. -/
theorem Added.change
    (added : Added k fd s)
    (isFd : (s.server.slot k).fd = fd)
    {change : Socket Worker → Socket Worker}
    (same :
      ∀ sock : Socket Worker,
        (change sock).type = sock.type ∧ (change sock).fd = sock.fd ∧
          (change sock).protocol = sock.protocol)
    (kernel : Kernel)
    (elsewhere :
      ∀ other, other ≠ fd → kernel.interest other = s.kernel.interest other)
    (registered : ∃ read write, kernel.interest fd = some ⟨k, read, write⟩)
    (spareOpen : kernel.calls.head? ≠ some (.close s.server.reserve_fd)) :
    Added k fd { s.change k change with kernel := kernel } := by
  have notNegative : ¬ fd < 0 := by
    intro negative
    obtain ⟨read, write, isRegistered⟩ := added.registered
    rw [added.ready.negative fd negative] at isRegistered
    cases isRegistered
  have isReserved :
      ((s.change k change).server.slot k).type = .kSocketTypeReserve := by
    rw [KernelServer.change, SocketServer.put_type, (same _).1]
    exact added.reserved
  refine ⟨⟨?_, spareOpen⟩, added.notSpare, isReserved, registered⟩
  refine added.ready.toRegisters.change (sameSocket_put k _ s.server) fd
    added.owns elsewhere ?_ (fun _ _ => id) ?_ ?_ ?_
  · exact fun inUse => absurd isReserved inUse.2
  · exact fun notSetup => absurd rfl notSetup
  · intro other negative
    have different : other ≠ fd := by
      rintro rfl
      exact notNegative negative
    exact (elsewhere other different).trans (added.ready.negative other negative)
  · exact (elsewhere _ (Ne.symm added.notSpare)).trans added.ready.spare

theorem keeps_enable
    {change : Socket Worker → Socket Worker}
    (same :
      ∀ sock : Socket Worker,
        (change sock).type = sock.type ∧ (change sock).fd = sock.fd ∧
          (change sock).protocol = sock.protocol) :
    Keeps (SetUp k fd : KernelServer Worker → Prop) (enable k change)
      (EnabledSetUp k fd) := by
  intro s holds moved others _ input s' taken _
  have set := lasting_setUp others holds
  have isFd := set.isFd
  dsimp only at taken
  split at taken
  · next unchanged =>
      cases taken
      refine ⟨set.ready.agreeing, trivial, ?_⟩
      simpa [Discipline.Safe, EnabledSetUp, unchanged] using set
  · next changes =>
      obtain ⟨kernel, isKernel, rfl⟩ := Option.map_eq_some_iff.mp taken
      have self :=
        sameSocket_put_self k
          { moved.server.view k with sock := change (moved.server.slot k) }
          moved.server
      unfold Kernel.epollEnable at isKernel
      by_cases succeeds : input.result = 0
      · simp only [succeeds, decide_true, ↓reduceIte,
          Option.ite_none_right_eq_some, Option.some.injEq] at isKernel
        obtain ⟨-, rfl⟩ := isKernel
        have added :=
          set.toAdded.change isFd same
            { moved.kernel.noted
                (.epollMod k (moved.server.slot k).type true) with
              interest :=
                Function.update moved.kernel.interest (moved.server.slot k).fd
                  (some
                    ⟨k, (change (moved.server.slot k)).reading,
                      (change (moved.server.slot k)).writing⟩) }
            (fun other different => by simp [isFd, different])
            ⟨_, _, by rw [isFd]; exact Function.update_self ..⟩
            (by simp [Kernel.noted])
        have after :
            SetUp k fd _ :=
          ⟨added, self.fd.trans ((same _).2.1.trans isFd), by
            unfold Agrees KernelServer.change
            rw [self.fd, (same _).2.1]
            simp [self.reading, self.writing]⟩
        refine ⟨added.ready.agreeing, trivial, ?_⟩
        simpa [Discipline.Safe, EnabledSetUp, succeeds] using after
      · simp only [succeeds, decide_false, Bool.false_eq_true, ↓reduceIte,
          Option.some.injEq] at isKernel
        subst isKernel
        have added :=
          set.toAdded.change isFd same
            (moved.kernel.noted
              (.epollMod k (moved.server.slot k).type false))
            (fun _ _ => rfl) set.registered (by simp [Kernel.noted])
        refine ⟨added.ready.agreeing, trivial, ?_⟩
        simpa [Discipline.Safe, EnabledSetUp, succeeds, changes] using added

/-- What `NewFd` leaves of the slot and its descriptor. -/
def NewSetUp
    (closes : Prop)
    (k : Nat)
    (fd : Int32)
    (isNew : Bool)
    (s : KernelServer Worker) : Prop :=
  if isNew then SetUp k fd s else Refused closes fd s

/-- `EpollAdd` in `NewFd`. -/
theorem newFd_adds
    (lasting :
      Lasting fun s : KernelServer Worker =>
        Wanted closes k fd s ∧ Reserved k s) :
    Keeps
      (fun s : KernelServer Worker => Wanted closes k fd s ∧ Reserved k s)
      (epollAdd fd k)
      fun failed s =>
        if failed then Wanted closes k fd s
        else
          Added k fd s ∧ s.kernel.interest fd = some ⟨k, true, false⟩ := by
  refine keeps_epollAdd lasting ?_ ?_ ?_
  · intro failed s holds
    cases failed
    · exact holds.1.ready.agreeing
    · exact holds.ready.agreeing
  · rintro s ⟨wanted, -⟩
    have ready := wanted.ready
    exact
      ⟨⟨⟨ready.agreeing, ready.unset, ready.negative, ready.spare⟩,
          by simp [SpareOpen, Kernel.noted]⟩,
        wanted.notSpare, wanted.owns⟩
  · rintro s ⟨wanted, isReserved⟩ notNegative isFree
    have ready := wanted.ready
    refine ⟨⟨⟨?_, by simp [SpareOpen, Kernel.noted]⟩, wanted.notSpare,
      isReserved, true, false, Function.update_self ..⟩, Function.update_self ..⟩
    refine ready.toRegisters.change (k := k) (fun _ _ => .refl _) fd ?_ ?_ ?_
      (fun _ _ impossible => by cases impossible) ?_ ?_ ?_
    · intro registered isRegistered
      rw [isFree] at isRegistered
      cases isRegistered
    · intro other different
      simp [different]
    · exact fun inUse => absurd isReserved inUse.2
    · exact fun notSetup => absurd rfl notSetup
    · intro other negative
      have different : other ≠ fd := by
        rintro rfl
        exact absurd negative (Int32.not_lt.mpr notNegative)
      simpa [different, Kernel.noted] using ready.negative other negative
    · simpa [Ne.symm wanted.notSpare, Kernel.noted] using ready.spare

/-- The stores of `NewFd`. -/
theorem newSocket_sets
    (id fd : Int32)
    (protocol : Protocol)
    (opaqueValue : UInt64) :
    Keeps
      (fun s : KernelServer Worker =>
        Added k fd s ∧ s.kernel.interest fd = some ⟨k, true, false⟩)
      (plain (atSlot k (store (newSocket id fd protocol opaqueValue))))
      fun _ => SetUp k fd := by
  refine keeps_store (SetUp k fd) ?_ (fun _ set => set.ready.agreeing) ?_
  · exact Discipline.Stable.and lasting_added
      (lasting_interest (· = some ⟨k, true, false⟩))
  rintro s ⟨added, isRegistered⟩
  have self :=
    sameSocket_put_self k
      { s.server.view k with
        sock := newSocket id fd protocol opaqueValue (s.server.slot k) }
      s.server
  have isReserved :
      Reserved k (s.change k (newSocket id fd protocol opaqueValue)) :=
    self.type.trans added.reserved
  refine ⟨⟨?_, added.notSpare, isReserved, true, false, isRegistered⟩,
    self.fd, ?_⟩
  · refine added.ready.put _ ?_ (fun _ _ isSetup => isSetup)
      fun notSetup => absurd rfl notSetup
    exact fun inUse => absurd added.reserved inUse.2
  · unfold Agrees KernelServer.change
    rw [self.fd, self.reading, self.writing]
    exact isRegistered

/-- Code that leaves a slot that is set up alone. -/
theorem setUp_keeps
    {action : SocketAction Worker α}
    (isQuiet : Unobtrusive action) :
    Keeps (SetUp k fd) (plain (atSlot k action)) fun _ => SetUp k fd :=
  keeps_unobtrusive isQuiet lasting_setUp fun _ set => set.ready.agreeing

theorem setUp_check
    (condition : Prop)
    [Decidable condition] :
    Keeps (SetUp k fd)
      (Program.check condition : KernelAction Worker Unit)
      fun _ => SetUp k fd :=
  keeps_check lasting_setUp fun _ set _ => set

theorem newFd_keeps
    (closes : Prop)
    (id fd : Int32)
    (protocol : Protocol)
    (opaqueValue : UInt64)
    (reading : Bool) :
    Keeps (Wanted closes (hashId id) fd : KernelServer Worker → Prop)
      (newFd id fd protocol opaqueValue reading)
      (NewSetUp closes (hashId id) fd) := by
  have isReserved :
      Lasting fun s : KernelServer Worker =>
        Wanted closes (hashId id) fd s ∧ Reserved (hashId id) s :=
    Discipline.Stable.and lasting_wanted lasting_reserved
  refine .bind
    (keeps_load
      (fun type s =>
        Wanted closes (hashId id) fd s ∧
          (type = SocketType.kSocketTypeReserve → Reserved (hashId id) s))
      lasting_wanted fun s wanted => ⟨wanted, fun isReserve => isReserve⟩)
    fun type => ?_
  refine .bind
    (keeps_check
      (Discipline.Stable.and lasting_wanted
        (Discipline.Stable.imp _ lasting_reserved))
      fun s holds isReserve =>
        (⟨holds.1, holds.2 isReserve⟩ :
          Wanted closes (hashId id) fd s ∧ Reserved (hashId id) s))
    fun _ => ?_
  refine .bind (newFd_adds isReserved) fun failed => ?_
  cases failed with
  | true =>
      refine .bind
        (refuse_keeps lasting_wanted
          (fun s wanted => ⟨none, wanted.ready, nofun⟩)
          (fun s wanted => wanted.notSpare) fun s wanted => wanted.owns)
        fun _ => .pure fun s refused => refused
  | false =>
      refine .bind (newSocket_sets id fd protocol opaqueValue) fun _ => ?_
      refine .bind (setUp_keeps (.ask _)) fun high =>
        .bind (setUp_check _) fun _ => ?_
      refine .bind (setUp_keeps (.ask _)) fun low =>
        .bind (setUp_check _) fun _ => ?_
      refine .bind
        (setUp_keeps (.store fun _ => ⟨rfl, rfl, rfl, rfl, rfl⟩)) fun _ => ?_
      refine .bind (keeps_enable fun _ => ⟨rfl, rfl, rfl⟩) fun failed => ?_
      cases failed with
      | true =>
          refine .bind
            (refuse_keeps lasting_added
              (fun s added => ⟨some (hashId id), added.ready, ?_⟩)
              (fun s added => added.notSpare) fun s added _ => added.owns)
            fun _ => .pure fun s refused => refused
          rintro j ⟨⟩
          rfl
      | false =>
          exact .pure fun s set => set

end NewFd

section SetUps

/-- A descriptor that the server has just got. -/
structure Opened
    (fd : Int32)
    (s : KernelServer Worker) : Prop where
  ready : Ready none s
  notSpare : NotSpare fd s
  unregistered : s.kernel.interest fd = none

theorem lasting_opened :
    Lasting (Opened fd : KernelServer Worker → Prop) :=
  fun others opened =>
    ⟨opened.ready.others others, lasting_notSpare others opened.notSpare,
      lasting_interest (· = none) others opened.unregistered⟩

theorem Opened.wanted
    {closes : Prop}
    (opened : Opened fd s) : Wanted closes k fd s := by
  refine ⟨opened.ready, opened.notSpare, fun _ registered isRegistered => ?_⟩
  rw [opened.unregistered] at isRegistered
  cases isRegistered

/-- A call of the operating system that changes no registration. -/
theorem Ready.noted
    (ready : Ready setup s)
    {call : OsCall}
    (notClose : ∀ fd, call ≠ .close fd) :
    Ready setup { s with kernel := s.kernel.noted call } where
  toRegisters := ⟨ready.agreeing, ready.unset, ready.negative, ready.spare⟩
  spareOpen := by
    unfold SpareOpen
    simp [Kernel.noted, notClose]

theorem ready_keeps
    {action : SocketAction Worker α}
    (isQuiet : Unobtrusive action) :
    Keeps (Ready setup) (plain (atSlot k action)) fun _ => Ready setup :=
  keeps_unobtrusive isQuiet lasting_ready fun _ ready => ready.agreeing

/-- An answer of the operating system. -/
theorem answer_keeps
    {known : KernelServer Worker → Prop}
    (lasting : Lasting known)
    (value : OsAnswer → α) :
    Keeps known (answer value) fun _ => known :=
  keeps_ask lasting fun _ _ holds => holds

theorem call_keeps
    {value : OsAnswer → α}
    {note : OsAnswer → Option OsCall}
    (notClose : ∀ input fd, note input ≠ some (.close fd)) :
    Keeps (Ready setup : KernelServer Worker → Prop) (call value note)
      fun _ => Ready setup := by
  refine keeps_act lasting_ready (fun _ _ ready => ready.agreeing)
    fun input s ready _ => ?_
  cases isNote : note input with
  | none =>
      exact ready
  | some call =>
      refine ready.noted fun fd isClose => ?_
      exact notClose input fd (isNote.trans (congrArg some isClose))

theorem osClose_keeps
    {pre : KernelServer Worker → Prop}
    (lasting : Lasting pre)
    (ready : ∀ s, pre s → Ready setup s)
    (closable : ∀ s, pre s → Closable fd s)
    (notSpare : ∀ s, pre s → NotSpare fd s) :
    Keeps pre (osClose fd) fun _ => Ready setup :=
  keeps_act lasting (fun _ _ ready => ready.agreeing) fun _ s holds _ =>
    (ready s holds).close (closable s holds) (notSpare s holds)

/-- Closing a descriptor that could not be used. -/
theorem refused_closes :
    Keeps (Refused True fd : KernelServer Worker → Prop) (osClose fd)
      fun _ => Ready none :=
  osClose_keeps lasting_refused (fun _ refused => refused.ready)
    (fun _ refused => refused.closable trivial)
    fun _ refused => refused.notSpare

theorem opened_closes :
    Keeps (Opened fd : KernelServer Worker → Prop) (osClose fd)
      fun _ => Ready none :=
  osClose_keeps lasting_opened (fun _ opened => opened.ready)
    (fun _ opened => opened.ready.agreeing.closable opened.unregistered)
    fun _ opened => opened.notSpare

/-- An accept, and the descriptor if there is one. -/
theorem osAccept_keeps :
    Keeps (Ready none : KernelServer Worker → Prop) osAccept
      fun made s => Ready none s ∧ (0 ≤ made.1 → Opened made.1 s) := by
  refine keeps_act lasting_ready (fun _ _ holds => holds.1.agreeing)
    fun input s ready allowed => ?_
  by_cases isMade : 0 ≤ input.number
  · simp only [isMade, ↓reduceIte] at allowed ⊢
    have nowReady :
        Ready none { s with kernel := s.kernel.noted (.accept input.number) } :=
      ready.noted fun _ => nofun
    have isFresh := allowed.fresh.opened input.number rfl
    refine ⟨nowReady, fun _ => ⟨nowReady, fun isSpare => ?_, isFresh.1⟩⟩
    have isClosed := isFresh.2 isSpare
    rw [isSpare] at isClosed
    exact ready.spareOpen isClosed
  · simp only [isMade, ↓reduceIte]
    exact ⟨ready, False.elim⟩

/-- A slot that cannot be set up is given up. -/
theorem openFailed_keeps
    {pre : KernelServer Worker → Prop}
    (lasting : Lasting pre)
    (ready : ∀ s, pre s → ∃ setup, Ready setup s ∧ ∀ j, setup = some j → j = k)
    (id : Int32)
    (opaqueValue : UInt64)
    (text : String) :
    Keeps pre (plain (atSlot k (openFailed id opaqueValue text)))
      fun _ => Ready none := by
  have sound (s : KernelServer Worker) (holds : pre s) : Agreeing s := by
    obtain ⟨setup, isReady, -⟩ := ready s holds
    exact isReady.agreeing
  refine keeps_bind (keeps_unobtrusive (.ask _) lasting sound) fun message => ?_
  exact keeps_bind (free_keeps lasting ready) fun _ =>
    keeps_unobtrusive (.pure _) lasting_ready fun _ ready => ready.agreeing

/-- The slot is set up once it has a type. -/
theorem storeType_keeps
    {type : SocketType}
    (inUse : InUse type) :
    Keeps (SetUp k fd : KernelServer Worker → Prop)
      (plain (atSlot k (storeType type))) fun _ => Ready none := by
  refine keeps_store (Ready none) lasting_setUp (fun _ ready => ready.agreeing)
    fun s set => set.ready.leave ?_ inUse.2 fun _ => set.agrees
  rintro j ⟨⟩
  rfl

theorem listenSocket_keeps
    (id fd : Int32)
    (opaqueValue : UInt64) :
    Keeps (Opened fd : KernelServer Worker → Prop)
      (listenSocket id fd opaqueValue) fun _ => Ready none := by
  refine .bind
    (keeps_weaken (newFd_keeps True id fd .TCP opaqueValue false)
      fun s (opened : Opened fd s) => opened.wanted)
    fun isNew => ?_
  cases isNew with
  | false =>
      exact .bind refused_closes fun _ =>
        openFailed_keeps lasting_ready (fun s ready => ⟨none, ready, nofun⟩)
          id opaqueValue _
  | true =>
      have unnamed :
          Keeps (Ready none : KernelServer Worker → Prop)
            (unnamedSocket id opaqueValue) fun _ => Ready none :=
        .bind (answer_keeps lasting_ready _) fun text =>
          .bind (ready_keeps (.ask _)) fun message =>
            .pure fun _ ready => ready
      refine .bind (storeType_keeps (by decide)) fun _ => ?_
      refine .bind (call_keeps fun input fd => nofun) fun named =>
        .ite (fun _ => ?_) fun _ => unnamed
      refine .bind (call_keeps fun input fd => nofun) fun written => ?_
      obtain ⟨text, port⟩ := written
      cases text with
      | none =>
          exact unnamed
      | some text =>
          exact .bind (ready_keeps (.ask _)) fun message =>
            .pure fun _ ready => ready

theorem bindSocket_keeps
    (id fd : Int32)
    (opaqueValue : UInt64) :
    Keeps
      (fun s : KernelServer Worker => Ready none s ∧ NotSpare fd s)
      (bindSocket id fd opaqueValue) fun _ => Ready none := by
  refine .bind
    (keeps_weaken (newFd_keeps False id fd .TCP opaqueValue true)
      fun s holds => ⟨holds.1, holds.2, nofun⟩)
    fun isNew => ?_
  cases isNew with
  | false =>
      refine .bind
        (keeps_weaken (ready_keeps (.ask _))
          fun s refused => Refused.ready refused) fun message => ?_
      exact .pure fun _ ready => ready
  | true =>
      refine .bind (storeType_keeps (by decide)) fun _ => ?_
      exact .bind (ready_keeps (.ask _)) fun message =>
        .pure fun _ ready => ready

theorem addUDPSocket_keeps
    (id fd family : Int32)
    (opaqueValue : UInt64) :
    Keeps (Opened fd : KernelServer Worker → Prop)
      (addUDPSocket id fd family opaqueValue) fun _ => Ready none := by
  refine .bind
    (keeps_weaken (newFd_keeps True id fd _ opaqueValue true)
      fun s (opened : Opened fd s) => opened.wanted)
    fun isNew => ?_
  cases isNew with
  | false =>
      refine .bind refused_closes fun _ => ?_
      exact .bind
        (free_keeps lasting_ready fun s ready => ⟨none, ready, nofun⟩)
        fun _ => .pure fun _ ready => ready
  | true =>
      refine .bind (storeType_keeps (by decide)) fun _ =>
        .bind (ready_keeps (.ask _)) fun p => ?_
      cases p with
      | size size =>
          exact .pure fun _ ready => ready
      | udpAddress address =>
          exact .bind
            (ready_keeps (.store fun _ => ⟨rfl, rfl, rfl, rfl, rfl⟩))
            fun _ => .pure fun _ ready => ready

end SetUps

section Accept

/-- A slot of which `ReserveId` has exchanged the type, and a descriptor. -/
structure Reserving
    (k : Nat)
    (fd : Int32)
    (s : KernelServer Worker) : Prop where
  ready : Ready (some k) s
  reserved : Reserved k s
  notSpare : NotSpare fd s
  unregistered : s.kernel.interest fd = none

theorem lasting_reserving :
    Lasting (Reserving k fd : KernelServer Worker → Prop) :=
  fun others reserving =>
    ⟨reserving.ready.others others, lasting_reserved others reserving.reserved,
      lasting_notSpare others reserving.notSpare,
      lasting_interest (· = none) others reserving.unregistered⟩

/-- What the exchange of `ReserveId` leaves. -/
def Exchanged
    (k : Nat)
    (fd : Int32)
    (taken : Bool)
    (s : KernelServer Worker) : Prop :=
  if taken then Reserving k fd s else Opened fd s

/-- A slot becomes reserved, and nothing else changes. -/
theorem Opened.reserving
    {s' : KernelServer Worker}
    (opened : Opened fd s)
    (others :
      ∀ j, j ≠ k → SameSocket (s.server.slot j) (s'.server.slot j))
    (isReserved : Reserved k s')
    (spare : s'.server.reserve_fd = s.server.reserve_fd)
    (kernel : s'.kernel = s.kernel) :
    Reserving k fd s' := by
  have ready := opened.ready
  refine ⟨⟨?_, ?_⟩, isReserved, ?_, ?_⟩
  · refine ready.toRegisters.change others (-1) ?_ ?_ ?_ (fun _ _ => nofun)
      (fun notSetup => absurd rfl notSetup) ?_ ?_
    · intro registered isRegistered
      rw [ready.negative (-1) (by decide)] at isRegistered
      cases isRegistered
    · rw [kernel]
      exact fun _ _ => rfl
    · exact fun inUse => absurd isReserved inUse.2
    · rw [kernel]
      exact ready.negative
    · rw [kernel, spare]
      exact ready.spare
  · unfold SpareOpen
    rw [kernel, spare]
    exact ready.spareOpen
  · unfold NotSpare
    rw [spare]
    exact opened.notSpare
  · rw [kernel]
    exact opened.unregistered

theorem reserveSlot_keeps :
    Keeps (Opened fd : KernelServer Worker → Prop) (plain (reserveSlot k))
      (Exchanged k fd) := by
  refine keeps_act lasting_opened ?_ fun input s opened _ => ?_
  · intro taken s exchanged
    cases taken
    · exact (Opened.ready exchanged).agreeing
    · exact (Reserving.ready exchanged).agreeing
  by_cases taken : (s.server.slot k).type = .kSocketTypeInvalid ∧ input.flag
  · simp only [taken, and_self, decide_true, ↓reduceIte]
    refine opened.reserving (fun j different => ?_) ?_ rfl rfl
    · simp only [SocketServer.note_slot, Function.update_of_ne different]
      exact .refl _
    · simp [Reserved]
  · simp only [taken, decide_false, ↓reduceIte]
    exact opened

/-- The stores of `ReserveId`. -/
theorem reservedSocket_keeps
    (id : Int32) :
    Keeps (Reserving k fd : KernelServer Worker → Prop)
      (plain (atSlot k (store (reservedSocket id)))) fun _ => Opened fd := by
  refine keeps_store (Opened fd) lasting_reserving
    (fun _ opened => opened.ready.agreeing) fun s reserving => ?_
  refine ⟨?_, reserving.notSpare, reserving.unregistered⟩
  refine reserving.ready.put _ (fun inUse => ?_) (fun j different isSetup => ?_)
    fun _ _ => ⟨rfl, rfl⟩
  · exact absurd reserving.reserved inUse.2
  · cases isSetup
    exact absurd rfl different

theorem reserveId_keeps :
    Keeps (Opened fd : KernelServer Worker → Prop) (plain reserveId)
      fun _ => Opened fd := by
  have sound (s : KernelServer Worker) (opened : Opened fd s) : Agreeing s :=
    opened.ready.agreeing
  have allocated :
      Keeps (Opened fd : KernelServer Worker → Prop) (plain allocateId)
        fun _ => Opened fd := by
    refine keeps_apart ?_ lasting_opened sound
    exact .bind (.act fun _ _ => ⟨rfl, rfl⟩) fun id =>
      .ite (.act fun _ _ => ⟨rfl, rfl⟩) (.pure _)
  have loop (rounds : Nat) :
      ∀ i,
        Keeps (Opened fd : KernelServer Worker → Prop)
          (plain (reserveIdLoop rounds i)) fun _ => Opened fd := by
    induction rounds with
    | zero =>
        exact fun i =>
          keeps_apart (.bind (.check _) fun _ => .pure _) lasting_opened sound
    | succ rounds inductionHypothesis =>
        intro i
        unfold reserveIdLoop
        split
        · exact keeps_apart (.pure _) lasting_opened sound
        refine keeps_plain_bind allocated fun id => ?_
        refine keeps_plain_bind
          (keeps_unobtrusive (.ask _) lasting_opened sound) fun type => ?_
        split
        · refine keeps_plain_bind reserveSlot_keeps fun taken => ?_
          cases taken with
          | false =>
              exact inductionHypothesis i
          | true =>
              exact keeps_plain_bind (reservedSocket_keeps id) fun _ =>
                keeps_apart (.pure _) lasting_opened sound
        · exact inductionHypothesis (i + 1)
  exact keeps_plain_bind (keeps_apart (.ask _) lasting_opened sound)
    fun rounds => loop rounds 0

theorem lasting_registers :
    Lasting (Registers setup : KernelServer Worker → Prop) :=
  fun others registers => registers.others others

/-- The spare descriptor is made again. -/
theorem spare_keeps :
    Keeps (Registers none : KernelServer Worker → Prop)
      (.act (fun _ _ => ()) fun input s =>
        { server := { s.server with reserve_fd := input.number }
          kernel := s.kernel.noted (.dup input.number) })
      fun _ => Ready none := by
  refine keeps_act lasting_registers (fun _ _ ready => ready.agreeing)
    fun input s registers allowed => ⟨⟨?_, ?_, ?_, ?_⟩, ?_⟩
  · exact registers.agreeing
  · exact registers.unset
  · exact registers.negative
  · exact allowed.fresh.spare input.number rfl
  · simp [SpareOpen, Kernel.noted]

/-- An accept while the spare descriptor is closed. -/
theorem accept_keeps :
    Keeps (Registers none : KernelServer Worker → Prop) osAccept
      fun made s =>
        Registers none s ∧ (0 ≤ made.1 → s.kernel.interest made.1 = none) := by
  refine keeps_act lasting_registers (fun _ _ holds => holds.1.agreeing)
    fun input s registers allowed => ?_
  by_cases isMade : 0 ≤ input.number
  · simp only [isMade, ↓reduceIte] at allowed ⊢
    have isFresh := allowed.fresh.opened input.number rfl
    exact
      ⟨⟨registers.agreeing, registers.unset, registers.negative,
        registers.spare⟩, fun _ => isFresh.1⟩
  · simp only [isMade, ↓reduceIte]
    exact ⟨registers, False.elim⟩

/-- Closing a descriptor that is not registered. -/
theorem registers_closes :
    Keeps
      (fun s : KernelServer Worker =>
        Registers none s ∧ s.kernel.interest fd = none)
      (osClose fd) fun _ => Registers none :=
  keeps_act
    (Discipline.Stable.and lasting_registers (lasting_interest (· = none)))
    (fun _ _ registers => registers.agreeing) fun _ _ holds _ =>
      holds.1.close (holds.1.agreeing.closable holds.2)

theorem refuseAccept_keeps
    (errno : Errno) :
    Keeps (Ready none : KernelServer Worker → Prop) (refuseAccept k errno)
      fun _ => Ready none := by
  refine .ite (fun _ => ?_) fun _ => .pure fun _ ready => ready
  refine .bind (ready_keeps .reportErrno) fun outcome => ?_
  have looked :
      Keeps (Ready none : KernelServer Worker → Prop)
        (plain (.ask fun _ s => s.reserve_fd))
        fun reserve_fd s =>
          Ready none s ∧ s.kernel.interest reserve_fd = none :=
    keeps_ask lasting_ready fun _ s ready => ⟨ready, ready.spare⟩
  refine .bind looked fun reserve_fd => .ite (fun _ => ?_) fun _ =>
    .pure fun _ holds => holds.1
  refine .bind
    (keeps_weaken registers_closes
      fun _ holds => ⟨holds.1.toRegisters, holds.2⟩)
    fun _ => .bind accept_keeps fun made => ?_
  obtain ⟨client_fd, errno⟩ := made
  refine .ite (fun isMade => ?_) fun _ => ?_
  · refine .bind
      (keeps_weaken registers_closes
        fun _ holds => ⟨holds.1, holds.2 isMade⟩) fun _ => ?_
    exact .bind spare_keeps fun _ => .pure fun _ ready => ready
  · exact .bind (keeps_weaken spare_keeps fun _ holds => holds.1)
      fun _ => .pure fun _ ready => ready

theorem acceptSocket_keeps :
    Keeps (Ready none : KernelServer Worker → Prop) (acceptSocket k)
      fun _ => Ready none := by
  refine .bind osAccept_keeps fun accepted =>
    .ite (fun _ => ?_) fun isMade => ?_
  · exact .bind
      (keeps_weaken (refuseAccept_keeps accepted.2) fun _ holds => holds.1)
      fun outcome => .pure fun _ ready => ready
  refine .bind
    (keeps_weaken reserveId_keeps
      fun _ holds => holds.2 (Int32.not_lt.mp isMade)) fun reserved => ?_
  cases reserved with
  | none =>
      exact .bind opened_closes fun _ => .pure fun _ ready => ready
  | some id =>
      refine .bind
        (keeps_unobtrusive (.ask _) lasting_opened
          fun _ opened => opened.ready.agreeing) fun opaqueValue => ?_
      refine .bind
        (keeps_weaken (newFd_keeps True id accepted.1 .TCP opaqueValue false)
          fun s (opened : Opened accepted.1 s) => opened.wanted)
        fun isNew => ?_
      cases isNew with
      | false =>
          exact .bind refused_closes fun _ => .pure fun _ ready => ready
      | true =>
          exact .bind (storeType_keeps (by decide)) fun _ =>
            .pure fun _ ready => ready

theorem reportAccept_keeps :
    Keeps (Ready none : KernelServer Worker → Prop) (reportAccept k)
      fun _ => Ready none := by
  refine .bind acceptSocket_keeps fun accepted => ?_
  cases accepted with
  | opened id =>
      exact nullData_triple
  | refused outcome | unreserved | dropped id =>
      exact .pure fun _ ready => ready

end Accept

end SocketKernel

end SkynetCpp
