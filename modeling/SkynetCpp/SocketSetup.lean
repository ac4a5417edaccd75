import SkynetCpp.SocketKernel
import SkynetCpp.SocketReserve

namespace SkynetCpp

open Foundation

/-!
# Setting up sockets

What the five routines that set up a socket leave behind, however the calls of
the operating system end: a live slot with its descriptor, nothing, or no
process.
-/

variable {Worker α β : Type}

namespace SocketKernel

section Rules

variable
    {post : α → KernelServer Worker → Prop}
    {s : KernelServer Worker}

@[simp] theorem KernelServer.change_kernel
    (k : Nat)
    (change : Socket Worker → Socket Worker)
    (s : KernelServer Worker) :
    (s.change k change).kernel = s.kernel :=
  rfl

/-- The socket in the slot changes, but for its incarnation. -/
@[simp] theorem KernelServer.change_slot
    (k : Nat)
    (change : Socket Worker → Socket Worker)
    (s : KernelServer Worker) :
    (s.change k change).server.slot k =
      { change (s.server.slot k) with
        incarnation := (s.server.slot k).incarnation } := by
  simp [KernelServer.change, SocketServer.put, SocketServer.view]

@[simp] theorem ensures_plain
    {action : ServerAction Worker α} :
    (plain action).Ensures post s ↔
      action.Ensures
        (fun result server => post result { s with server := server })
        s.server := by
  have zooms :=
    @Program.ensures_zoom _ _ OsAnswer α post s KernelServer.server
      (fun server s => { s with server := server })
      (fun _ _ => rfl) (fun _ => rfl) (fun _ _ _ => rfl) action
  exact zooms

@[simp] theorem ensures_load
    (k : Nat)
    (field : Socket Worker → α) :
    (plain (atSlot k (load field))).Ensures post s ↔
      post (field (s.server.slot k)) s := by
  rw [ensures_plain, atSlot_load, Program.ensures_ask]
  exact ⟨fun ensures => ensures default, fun holds _ => holds⟩

@[simp] theorem ensures_store
    {post : Unit → KernelServer Worker → Prop}
    (k : Nat)
    (change : Socket Worker → Socket Worker) :
    (plain (atSlot k (store change))).Ensures post s ↔
      post () (s.change k change) := by
  rw [ensures_plain, atSlot, store, Program.zoom_act, Program.ensures_act]
  exact ⟨fun ensures => ensures default, fun holds _ => holds⟩

@[simp] theorem ensures_storeType
    {post : Unit → KernelServer Worker → Prop}
    (k : Nat)
    (type : SocketType) :
    (plain (atSlot k (storeType type))).Ensures post s ↔
      post () (s.change k ({ · with type := type })) :=
  ensures_store k _

/-- A message about the socket in a slot. -/
@[simp] theorem ensures_requestMessage
    {post : SocketMessage → KernelServer Worker → Prop}
    (k : Nat)
    (id ud : Int32)
    (opaqueValue : UInt64)
    (data : MessageData) :
    (plain (atSlot k (requestMessage id ud opaqueValue data))).Ensures post s ↔
      post
        { id := id
          ud := ud
          opaqueValue := opaqueValue
          data := data
          about := (k, (s.server.slot k).incarnation) } s := by
  rw [ensures_plain, requestMessage, atSlot,
    Program.zoom_ask (SocketServer.put_view k), Program.ensures_ask]
  exact ⟨fun ensures => ensures default, fun holds _ => holds⟩

@[simp] theorem ensures_socketMessage
    {post : SocketMessage → KernelServer Worker → Prop}
    (k : Nat)
    (ud : Int32)
    (data : MessageData) :
    (plain (atSlot k (socketMessage ud data))).Ensures post s ↔
      post
        { id := (s.server.slot k).id
          ud := ud
          opaqueValue := (s.server.slot k).opaqueValue
          data := data
          about := (k, (s.server.slot k).incarnation) } s := by
  rw [ensures_plain, socketMessage, atSlot,
    Program.zoom_ask (SocketServer.put_view k), Program.ensures_ask]
  exact ⟨fun ensures => ensures default, fun holds _ => holds⟩

@[simp] theorem ensures_answer
    {State : Type}
    {post : α → State → Prop}
    {state : State}
    (value : OsAnswer → α) :
    (answer value).Ensures post state ↔ ∀ input, post (value input) state :=
  Program.ensures_ask _

@[simp] theorem ensures_call
    (value : OsAnswer → α)
    (note : OsAnswer → Option OsCall) :
    (call value note).Ensures post s ↔
      ∀ input,
        post (value input)
          (match note input with
            | some call => { s with kernel := s.kernel.noted call }
            | none => s) :=
  Program.ensures_act _ _

@[simp] theorem ensures_osClose
    {post : Unit → KernelServer Worker → Prop}
    (fd : Int32) :
    (osClose fd).Ensures post s ↔
      post () { s with kernel := s.kernel.close fd } := by
  rw [osClose, Program.ensures_act]
  exact ⟨fun ensures => ensures default, fun holds _ => holds⟩

/-- A descriptor is added, or not. -/
theorem ensures_epollAdd
    {post : Bool → KernelServer Worker → Prop}
    {fd : Int32}
    {k : Nat}
    (refused : post true { s with kernel := s.kernel.noted (.epollAdd fd false) })
    (added :
      s.kernel.interest fd = none →
        post false
          { s with
            kernel :=
              { s.kernel.noted (.epollAdd fd true) with
                interest :=
                  Function.update s.kernel.interest fd
                    (some ⟨k, true, false⟩) } }) :
    (epollAdd fd k).Ensures post s := by
  intro input middle taken
  obtain ⟨kernel, isKernel, rfl⟩ := Option.map_eq_some_iff.mp taken
  unfold Kernel.epollAdd at isKernel
  by_cases succeeds : input.result = 0
  · simp only [succeeds, decide_true, ↓reduceIte, Option.ite_none_right_eq_some,
      Option.some.injEq] at isKernel
    obtain ⟨⟨_, isFree⟩, rfl⟩ := isKernel
    simpa [Program.Ensures, succeeds] using added isFree
  · simp only [succeeds, decide_false, Bool.false_eq_true, ↓reduceIte,
      Option.some.injEq] at isKernel
    subst isKernel
    simpa [Program.Ensures, succeeds] using refused

/-- A registration stays as it is asked for, is changed, or cannot be changed. -/
theorem ensures_enable
    {post : Bool → KernelServer Worker → Prop}
    {k : Nat}
    {change : Socket Worker → Socket Worker}
    (same :
      (change (s.server.slot k)).reading = (s.server.slot k).reading ∧
          (change (s.server.slot k)).writing = (s.server.slot k).writing →
        post false s)
    (refused :
      ¬ ((change (s.server.slot k)).reading = (s.server.slot k).reading ∧
          (change (s.server.slot k)).writing = (s.server.slot k).writing) →
        post true
          { s.change k change with
            kernel :=
              s.kernel.noted
                (.epollMod k (s.server.slot k).type false) })
    (modified :
      post false
        { s.change k change with
          kernel :=
            { s.kernel.noted (.epollMod k (s.server.slot k).type true) with
              interest :=
                Function.update s.kernel.interest (s.server.slot k).fd
                  (some
                    ⟨k, (change (s.server.slot k)).reading,
                      (change (s.server.slot k)).writing⟩) } }) :
    (enable k change).Ensures post s := by
  intro input middle taken
  dsimp only at taken
  split at taken
  · next unchanged =>
      cases taken
      simpa [Program.Ensures, unchanged] using same unchanged
  · next changes =>
      obtain ⟨kernel, isKernel, rfl⟩ := Option.map_eq_some_iff.mp taken
      unfold Kernel.epollEnable at isKernel
      by_cases succeeds : input.result = 0
      · simp only [succeeds, decide_true, ↓reduceIte,
          Option.ite_none_right_eq_some, Option.some.injEq] at isKernel
        obtain ⟨_, rfl⟩ := isKernel
        simpa [Program.Ensures, succeeds] using modified
      · simp only [succeeds, decide_false, Bool.false_eq_true, ↓reduceIte,
          Option.some.injEq] at isKernel
        subst isKernel
        simpa [Program.Ensures, succeeds, changes] using refused changes

end Rules

section NewFd

/-- What `NewFd` leaves behind. -/
inductive NewFd
    (k : Nat)
    (fd : Int32)
    (reading : Bool)
    (s : KernelServer Worker) :
    Bool → KernelServer Worker → Prop where
  /-- The descriptor was not added. -/
  | refused
      {s' : KernelServer Worker}
      (invalid : (s'.server.slot k).type = .kSocketTypeInvalid)
      (kernel : s'.kernel = s.kernel.noted (.epollAdd fd false)) :
      NewFd k fd reading s false s'
  /-- It was added, but its interest could not be changed. -/
  | dropped
      {s' : KernelServer Worker}
      (notReading : reading = false)
      (invalid : (s'.server.slot k).type = .kSocketTypeInvalid)
      (elsewhere :
        ∀ other, other ≠ fd →
          s'.kernel.interest other = s.kernel.interest other)
      (calls :
        s'.kernel.calls =
          .epollMod k .kSocketTypeReserve false ::
            .epollAdd fd true :: s.kernel.calls) :
      NewFd k fd reading s false s'
  | opened
      {s' : KernelServer Worker}
      (reserved : (s'.server.slot k).type = .kSocketTypeReserve)
      (isFd : (s'.server.slot k).fd = fd)
      (elsewhere :
        ∀ other, other ≠ fd →
          s'.kernel.interest other = s.kernel.interest other)
      (isSize : (s'.server.slot k).p = .size MIN_READ_BUFFER)
      (mods : List OsCall)
      (isMod : ∀ call ∈ mods, call = .epollMod k .kSocketTypeReserve true)
      (changed : reading = false → mods ≠ [])
      (calls :
        s'.kernel.calls = mods ++ .epollAdd fd true :: s.kernel.calls) :
      NewFd k fd reading s true s'

theorem newFd_ensures
    (id fd : Int32)
    (protocol : Protocol)
    (opaqueValue : UInt64)
    (reading : Bool)
    (s : KernelServer Worker) :
    (newFd id fd protocol opaqueValue reading).Ensures
      (NewFd (hashId id) fd reading s) s := by
  unfold newFd
  simp only [Program.ensures_bind, ensures_load, Program.ensures_check]
  intro reserved
  apply ensures_epollAdd
  · simp only [↓reduceIte, Program.ensures_bind, ensures_storeType,
      Program.ensures_pure]
    exact .refused (by simp) rfl
  · intro isFree
    simp only [Bool.false_eq_true, ↓reduceIte, Program.ensures_bind,
      ensures_store, ensures_load, Program.ensures_check]
    intro _ _
    apply ensures_enable
    · intro same
      simp only [Bool.false_eq_true, ↓reduceIte, Program.ensures_pure]
      refine .opened ?_ ?_ ?_ ?_ [] ?_ (fun notReading => ?_) ?_
      · simpa [newSocket] using reserved
      · simp [newSocket]
      · intro other different
        simp [different]
      · simp [newSocket]
      · simp
      · simp [newSocket, notReading] at same
      · simp [Kernel.noted]
    · intro changes
      simp only [↓reduceIte, Program.ensures_bind, ensures_storeType,
        Program.ensures_pure]
      refine .dropped ?_ ?_ ?_ ?_
      · simpa [newSocket] using changes
      · simp
      · intro other different
        simp [different, Kernel.noted]
      · simp [Kernel.noted, newSocket, reserved]
    · simp only [Bool.false_eq_true, ↓reduceIte, Program.ensures_pure]
      refine .opened ?_ ?_ ?_ ?_
        [.epollMod (hashId id) .kSocketTypeReserve true] ?_ (by simp) ?_
      · simpa [newSocket] using reserved
      · simp [newSocket]
      · intro other different
        simp [newSocket, different]
      · simp [newSocket]
      · simp
      · simp [Kernel.noted, newSocket, reserved]

end NewFd

section Property

/-- How many descriptors of a number were made. -/
def creates
    (calls : List OsCall)
    (fd : Int32) : Nat :=
  calls.count (.accept fd)

/-- How often a number was closed. -/
def closes
    (calls : List OsCall)
    (fd : Int32) : Nat :=
  calls.count (.close fd)

/-- One for the given descriptor. -/
def single (fd other : Int32) : Nat :=
  if other = fd then 1 else 0

/-- A descriptor is registered for a slot. -/
def Kernel.Registered
    (kernel : Kernel)
    (k : Nat)
    (fd : Int32) : Prop :=
  ∃ interest, kernel.interest fd = some interest ∧ interest.slot = k

/-- A request that sets up a socket, or an accept. -/
inductive Setup where
  | openSocket (id : Int32) (opaqueValue : UInt64)
  | listenSocket (id fd : Int32) (opaqueValue : UInt64)
  | bindSocket (id fd : Int32) (opaqueValue : UInt64)
  | addUDPSocket (id fd family : Int32) (opaqueValue : UInt64)
  | reportAccept (k : Nat)
  deriving Repr, DecidableEq

/-- What a set-up came to, and the slot that it was for. -/
inductive Handled where
  | failed (slot : Option Nat)
  | succeeded (k : Nat)
  /-- A string from a null pointer, or an exception that nobody catches. -/
  | aborted
  deriving Repr, DecidableEq

/-- What a set-up came to by what it returned. -/
def reported
    (k : Nat) : Outcome → Handled
  | some (.kSocketErr, _) => .failed (some k)
  | _ => .succeeded k

/-- Handle a request, or an event for a listening socket. -/
def Setup.handle : Setup → KernelAction Worker Handled
  -- `data = nullptr` comes first
  | .openSocket _ _ => return .aborted
  | .listenSocket id fd opaqueValue => do
      return reported (hashId id)
        (← SocketKernel.listenSocket id fd opaqueValue)
  | .bindSocket id fd opaqueValue => do
      return reported (hashId id)
        (← SocketKernel.bindSocket id fd opaqueValue)
  | .addUDPSocket id fd family opaqueValue => do
      match ← SocketKernel.addUDPSocket id fd family opaqueValue with
      | .failed => return .failed (some (hashId id))
      | .threw => return .aborted
      | .added => return .succeeded (hashId id)
  | .reportAccept k => do
      match ← acceptSocket k with
      | .refused _ => return .failed none
      | .unreserved => return .failed none
      | .dropped id => return .failed (some (hashId id))
      -- `data = nullptr` comes next
      | .opened _ => return .aborted

/-- The code of the socket thread for a set-up. -/
def Setup.run : Setup → KernelAction Worker Unit
  | .openSocket id opaqueValue => do
      let _ ← kernelThread.openSocket id opaqueValue
  | .listenSocket id fd opaqueValue => do
      let _ ← kernelThread.listenSocket id fd opaqueValue
  | .bindSocket id fd opaqueValue => do
      let _ ← kernelThread.bindSocket id fd opaqueValue
  | .addUDPSocket id fd family opaqueValue =>
      kernelThread.addUDPSocket id fd family opaqueValue
  | .reportAccept k => do
      let _ ← kernelThread.reportAccept k

/-- The code of the socket thread comes to its end unless a set-up aborts. -/
theorem Setup.run_yields_iff
    (setup : Setup)
    {s s' : KernelServer Worker} :
    setup.run.Yields s () s' ↔
      ∃ handled, handled ≠ .aborted ∧ setup.handle.Yields s handled s' := by
  cases setup with
  | openSocket id opaqueValue =>
      have never
          {outcome : Outcome}
          {middle : KernelServer Worker}
          (yields :
            (kernelThread.openSocket id opaqueValue).Yields s outcome middle) :
          False := by
        cases yields
      constructor
      · intro yields
        obtain ⟨outcome, middle, opened, _⟩ := Program.yields_bind.mp yields
        exact (never opened).elim
      · rintro ⟨handled, notAborted, ⟨⟩⟩
        exact absurd rfl notAborted
  | listenSocket id fd opaqueValue | bindSocket id fd opaqueValue =>
      have returned (outcome : Outcome) :
          reported (hashId id) outcome ≠ .aborted := by
        unfold reported
        split <;> simp
      simp only [Setup.run, Setup.handle, kernelThread, Program.yields_bind,
        Program.yields_pure]
      constructor
      · rintro ⟨outcome, middle, yields, -, rfl⟩
        exact ⟨_, returned outcome, outcome, _, yields, rfl, rfl⟩
      · rintro ⟨_, -, outcome, middle, yields, rfl, rfl⟩
        exact ⟨outcome, _, yields, trivial, rfl⟩
  | addUDPSocket id fd family opaqueValue =>
      simp only [Setup.run, Setup.handle, kernelThread, Program.yields_bind,
        Program.yields_check]
      constructor
      · rintro ⟨ended, middle, yields, notThrown, rfl⟩
        cases ended with
        | failed =>
            exact
              ⟨.failed (some (hashId id)), by simp, .failed, _, yields, .done⟩
        | threw =>
            exact absurd rfl notThrown
        | added =>
            exact ⟨.succeeded (hashId id), by simp, .added, _, yields, .done⟩
      · rintro ⟨handled, notAborted, ended, middle, yields, later⟩
        cases ended with
        | failed | added =>
            cases later
            exact ⟨_, _, yields, by simp, rfl⟩
        | threw =>
            cases later
            exact absurd rfl notAborted
  | reportAccept k =>
      simp only [Setup.run, Setup.handle, kernelThread]
      constructor
      · intro yields
        obtain ⟨outcome, _, returned, ⟨⟩⟩ := Program.yields_bind.mp yields
        obtain ⟨accepted, middle, isAccepted, later⟩ :=
          Program.yields_bind.mp returned
        cases accepted with
        | opened id =>
            cases later
        | refused outcome | unreserved =>
            cases later
            exact
              ⟨.failed none, by simp,
                Program.yields_bind.mpr ⟨_, _, isAccepted, .done⟩⟩
        | dropped id =>
            cases later
            exact
              ⟨.failed (some (hashId id)), by simp,
                Program.yields_bind.mpr ⟨_, _, isAccepted, .done⟩⟩
      · rintro ⟨handled, notAborted, yields⟩
        obtain ⟨accepted, middle, isAccepted, later⟩ :=
          Program.yields_bind.mp yields
        refine Program.yields_bind.mpr ?_
        cases accepted with
        | opened id =>
            cases later
            exact absurd rfl notAborted
        | refused outcome | unreserved | dropped id =>
            cases later
            exact
              ⟨_, _, Program.yields_bind.mpr ⟨_, _, isAccepted, .done⟩, .done⟩

/-- The spare descriptor, where `ReportAccept` gave it up. -/
def spare
    (s : KernelServer Worker)
    (calls : List OsCall)
    (fd : Int32) : Nat :=
  if calls.any (fun call => call matches .dup _) then
    single s.server.reserve_fd fd
  else 0

/-- The descriptors that the server owns before it makes others. -/
def Setup.owned
    (s : KernelServer Worker)
    (calls : List OsCall) : Setup → Int32 → Nat
  | .listenSocket _ fd _ => single fd
  | .addUDPSocket _ fd _ _ => single fd
  | .reportAccept _ => spare s calls
  | .openSocket _ _ | .bindSocket _ _ _ => fun _ => 0

/-- The descriptors that are there; that of a `Bind` stays its caller's. -/
def Setup.held
    (s : KernelServer Worker)
    (calls : List OsCall) : Setup → Int32 → Nat
  | .bindSocket _ fd _ => single fd
  | setup => setup.owned s calls

/-- Nothing is left of a set-up: every descriptor was closed exactly once. -/
structure LeavesNothing
    (slot : Option Nat)
    (owned : Int32 → Nat)
    (s s' : KernelServer Worker) : Prop where
  invalid : ∀ k ∈ slot, (s'.server.slot k).type = .kSocketTypeInvalid
  unregistered :
    ∀ k ∈ slot, ∀ fd,
      s'.kernel.Registered k fd → s.kernel.Registered k fd
  closed :
    ∀ fd, closes s'.kernel.calls fd = creates s'.kernel.calls fd + owned fd

/-- The slot is live, and its descriptor is the only one that is left open. -/
structure LeavesOpen
    (k : Nat)
    (held : Int32 → Nat)
    (s' : KernelServer Worker) : Prop where
  inUse : (s'.server.slot k).type ≠ .kSocketTypeInvalid
  notReserved : (s'.server.slot k).type ≠ .kSocketTypeReserve
  isOpen :
    ∀ fd,
      closes s'.kernel.calls fd + single (s'.server.slot k).fd fd =
        creates s'.kernel.calls fd + held fd

/-- A failed set-up leaves nothing, and a successful one its socket. -/
def Setup.Meets
    (setup : Setup)
    (s : KernelServer Worker)
    (handled : Handled)
    (s' : KernelServer Worker) : Prop :=
  match handled with
  | .failed slot => LeavesNothing slot (setup.owned s s'.kernel.calls) s s'
  | .succeeded k => LeavesOpen k (setup.held s s'.kernel.calls) s'
  | .aborted => False

/--
The results of the operating system with which a set-up meets its promise.  The
name of the socket of `ListenSocket` is found; nothing is added to epoll for
`AddUDPSocket`, and for an accept the interest is not changed behind that.
-/
def Setup.Avoids
    (setup : Setup)
    (calls : List OsCall) : Prop :=
  match setup with
  | .openSocket _ _ => False
  | .listenSocket _ _ _ =>
      .getsockname false ∉ calls ∧ .inet_ntop false ∉ calls
  | .bindSocket _ _ _ => True
  | .addUDPSocket _ _ _ _ => ∀ fd, .epollAdd fd true ∉ calls
  | .reportAccept _ => ∀ k type, .epollMod k type true ∉ calls

/-- The server before a set-up, with no calls noted. -/
def before
    (server : SocketServer Worker)
    (interest : Int32 → Option Interest) : KernelServer Worker where
  server := server
  kernel := { interest := interest, calls := [] }

end Property

section Routines

variable
    {server : SocketServer Worker}
    {interest : Int32 → Option Interest}

@[simp] theorem ensures_openFailed
    {post : Outcome → KernelServer Worker → Prop}
    {s : KernelServer Worker}
    (k : Nat)
    (id : Int32)
    (opaqueValue : UInt64)
    (text : String) :
    (plain (atSlot k (openFailed id opaqueValue text))).Ensures post s ↔
      post
        (some
          (.kSocketErr,
            { id := id
              ud := 0
              opaqueValue := opaqueValue
              data := .text text
              about := (k, (s.server.slot k).incarnation) }))
        (s.change k ({ · with type := .kSocketTypeInvalid })) := by
  have parts :
      plain (atSlot k (openFailed id opaqueValue text)) =
        (do
          let message ←
            plain (atSlot k (requestMessage id 0 opaqueValue (.text text)))
          plain (atSlot k (storeType .kSocketTypeInvalid))
          return some (.kSocketErr, message) : KernelAction Worker Outcome) := by
    simp only [plain, atSlot, openFailed, Program.zoom_bind, Program.zoom_pure]
  rw [parts]
  simp only [Program.ensures_bind, ensures_requestMessage, ensures_storeType,
    Program.ensures_pure]

@[simp] theorem closes_cons
    (call : OsCall)
    (calls : List OsCall)
    (fd : Int32) :
    closes (call :: calls) fd =
      closes calls fd + if call = .close fd then 1 else 0 := by
  simp [closes, List.count_cons]

@[simp] theorem creates_cons
    (call : OsCall)
    (calls : List OsCall)
    (fd : Int32) :
    creates (call :: calls) fd =
      creates calls fd + if call = .accept fd then 1 else 0 := by
  simp [creates, List.count_cons]

/-- Changes of a registration make and close nothing. -/
theorem counts_of_mods
    {k : Nat}
    {mods calls : List OsCall}
    (isMod : ∀ call ∈ mods, call = .epollMod k .kSocketTypeReserve true)
    (fd : Int32) :
    closes (mods ++ calls) fd = closes calls fd ∧
      creates (mods ++ calls) fd = creates calls fd := by
  have without
      {call : OsCall}
      (other : call ≠ .epollMod k .kSocketTypeReserve true) :
      mods.count call = 0 := by
    rw [List.count_eq_zero]
    intro member
    exact other (isMod call member)
  have noClose := @without (.close fd) (by simp)
  have noAccept := @without (.accept fd) (by simp)
  simp only [closes, creates, List.count_append, noClose, noAccept,
    Nat.zero_add, and_self]

section Others

variable
    {k : Nat}
    {fd : Int32}
    {reading isNew : Bool}
    {s s' : KernelServer Worker}

/-- `NewFd` makes and closes nothing. -/
theorem NewFd.counts
    (ended : NewFd k fd reading s isNew s')
    (other : Int32) :
    closes s'.kernel.calls other = closes s.kernel.calls other ∧
      creates s'.kernel.calls other = creates s.kernel.calls other := by
  cases ended with
  | refused invalid kernel =>
      simp [kernel, Kernel.noted]
  | dropped notReading invalid elsewhere calls =>
      simp [calls]
  | opened reserved isFd elsewhere isSize mods isMod changed calls =>
      obtain ⟨sameClosed, sameCreated⟩ :=
        @counts_of_mods _ mods (.epollAdd fd true :: s.kernel.calls) isMod other
      rw [calls, sameClosed, sameCreated]
      simp

/-- `NewFd` calls nothing but `epoll_ctl`. -/
theorem NewFd.calls_of_mem
    (ended : NewFd k fd reading s isNew s')
    {call : OsCall}
    (member : call ∈ s'.kernel.calls) :
    call ∈ s.kernel.calls ∨ (∃ added, call = .epollAdd fd added) ∨
      ∃ modified, call = .epollMod k .kSocketTypeReserve modified := by
  cases ended with
  | refused invalid kernel =>
      simp only [kernel, Kernel.noted, List.mem_cons] at member
      rcases member with isAdd | earlier
      · exact .inr (.inl ⟨_, isAdd⟩)
      · exact .inl earlier
  | dropped notReading invalid elsewhere calls =>
      simp only [calls, List.mem_cons] at member
      rcases member with isMod | isAdd | earlier
      · exact .inr (.inr ⟨_, isMod⟩)
      · exact .inr (.inl ⟨_, isAdd⟩)
      · exact .inl earlier
  | opened reserved isFd elsewhere isSize mods isMod changed calls =>
      simp only [calls, List.mem_append, List.mem_cons] at member
      rcases member with inMods | isAdd | earlier
      · exact .inr (.inr ⟨_, isMod call inMods⟩)
      · exact .inr (.inl ⟨_, isAdd⟩)
      · exact .inl earlier

/-- When `NewFd` fails, no interest was changed. -/
theorem NewFd.unmodified
    (ended : NewFd k fd reading s false s')
    (unmodified : ∀ k type, .epollMod k type true ∉ s.kernel.calls)
    (slot : Nat)
    (type : SocketType) :
    .epollMod slot type true ∉ s'.kernel.calls := by
  cases ended with
  | refused invalid kernel =>
      simpa [kernel, Kernel.noted] using unmodified slot type
  | dropped notReading invalid elsewhere calls =>
      simpa [calls] using unmodified slot type

/-- What `NewFd` leaves of a slot. -/
theorem NewFd.slot
    (ended : NewFd k fd reading s isNew s') :
    (s'.server.slot k).type =
        (if isNew then .kSocketTypeReserve else .kSocketTypeInvalid) ∧
      (isNew = true → (s'.server.slot k).fd = fd) := by
  cases ended with
  | refused invalid kernel =>
      exact ⟨invalid, fun impossible => nomatch impossible⟩
  | dropped notReading invalid elsewhere calls =>
      exact ⟨invalid, fun impossible => nomatch impossible⟩
  | opened reserved isFd elsewhere isSize mods isMod changed calls =>
      exact ⟨reserved, fun _ => isFd⟩

/-- `NewFd` changes no registration of another descriptor. -/
theorem NewFd.elsewhere
    (ended : NewFd k fd reading s isNew s')
    {other : Int32}
    (different : other ≠ fd) :
    s'.kernel.interest other = s.kernel.interest other := by
  cases ended with
  | refused invalid kernel =>
      rw [kernel]
      rfl
  | dropped notReading invalid elsewhere calls =>
      exact elsewhere other different
  | opened reserved isFd elsewhere isSize mods isMod changed calls =>
      exact elsewhere other different

/-- After the descriptor was closed, nothing new is registered. -/
theorem NewFd.registered_close
    (ended : NewFd k fd reading s isNew s')
    {other : Int32}
    (isRegistered : (s'.kernel.close fd).Registered k other) :
    s.kernel.Registered k other := by
  obtain ⟨found, isFound, isSlot⟩ := isRegistered
  by_cases isFd : other = fd
  · simp [Kernel.close, isFd] at isFound
  · simp only [Kernel.close, Function.update_of_ne isFd] at isFound
    exact ⟨found, (ended.elsewhere isFd).symm.trans isFound, isSlot⟩

/-- One descriptor more is closed. -/
theorem NewFd.closed
    (ended : NewFd k fd reading s isNew s')
    (other : Int32) :
    closes (s'.kernel.close fd).calls other =
      closes s.kernel.calls other + single fd other := by
  have both := (ended.counts other).1
  by_cases isFd : other = fd
  · subst isFd
    simp [Kernel.close, Kernel.noted, both, single]
  · have different : fd ≠ other := fun same => isFd same.symm
    simp [Kernel.close, Kernel.noted, both, isFd, different, single]

theorem NewFd.created
    (ended : NewFd k fd reading s isNew s')
    (other : Int32) :
    creates (s'.kernel.close fd).calls other = creates s.kernel.calls other := by
  rw [← (ended.counts other).2]
  simp [Kernel.close, Kernel.noted]

/-- A set-up starts with no calls. -/
@[simp] theorem counts_before
    (fd : Int32) :
    closes (before server interest).kernel.calls fd = 0 ∧
      creates (before server interest).kernel.calls fd = 0 :=
  ⟨rfl, rfl⟩

/-- After `NewFd` failed, `close` leaves nothing of the descriptor. -/
theorem NewFd.leavesNothing
    (ended : NewFd k fd reading (before server interest) false s')
    {final : KernelServer Worker}
    (invalid : (final.server.slot k).type = .kSocketTypeInvalid)
    (kernel : final.kernel = s'.kernel.close fd) :
    LeavesNothing (some k) (single fd) (before server interest) final := by
  refine ⟨?_, ?_, ?_⟩
  · rintro _ ⟨⟩
    exact invalid
  · rintro _ ⟨⟩ other isRegistered
    rw [kernel] at isRegistered
    exact ended.registered_close isRegistered
  · intro other
    rw [kernel, ended.closed other, ended.created other]
    simp

/-- After `NewFd` succeeded, the descriptor is open. -/
theorem NewFd.leavesOpen
    (ended : NewFd k fd reading (before server interest) true s')
    {final : KernelServer Worker}
    {type : SocketType}
    (isType : (final.server.slot k).type = type)
    (isLive : type ≠ .kSocketTypeInvalid ∧ type ≠ .kSocketTypeReserve)
    (sameFd : (final.server.slot k).fd = (s'.server.slot k).fd)
    (sameCounts :
      ∀ other,
        closes final.kernel.calls other = closes s'.kernel.calls other ∧
          creates final.kernel.calls other = creates s'.kernel.calls other) :
    LeavesOpen k (single fd) final := by
  refine ⟨?_, ?_, ?_⟩
  · rw [isType]
    exact isLive.1
  · rw [isType]
    exact isLive.2
  · intro other
    obtain ⟨sameClosed, sameCreated⟩ := sameCounts other
    obtain ⟨noneClosed, noneCreated⟩ := ended.counts other
    rw [sameFd, ended.slot.2 rfl, sameClosed, sameCreated, noneClosed,
      noneCreated]
    simp

/-- A socket whose name is not known stays as it is. -/
theorem ensures_unnamedSocket
    {post : Outcome → KernelServer Worker → Prop}
    {id : Int32}
    {opaqueValue : UInt64}
    (reported : ∀ message, post (some (.kSocketErr, message)) s) :
    (unnamedSocket id opaqueValue).Ensures post s := by
  unfold unnamedSocket strerror
  simp only [Program.ensures_bind, ensures_answer, ensures_requestMessage,
    Program.ensures_pure]
  exact fun input => reported _

/-- The slot that `ListenSocket` leaves listening when it reports an error. -/
theorem listenSocket_stays
    {id : Int32}
    {opaqueValue : UInt64}
    {message : SocketMessage}
    (isPlisten : (s'.server.slot (hashId id)).type = .kSocketTypePlisten)
    (unnamed :
      .getsockname false ∈ s'.kernel.calls ∨
        .inet_ntop false ∈ s'.kernel.calls) :
    Setup.Meets (.listenSocket id fd opaqueValue) s
        (reported (hashId id) (some (.kSocketErr, message))) s' ↔
      Setup.Avoids (.listenSocket id fd opaqueValue) s'.kernel.calls := by
  refine iff_of_false (fun leaves => ?_) fun avoids =>
    unnamed.elim avoids.1 avoids.2
  have invalid := LeavesNothing.invalid leaves (hashId id) rfl
  rw [isPlisten] at invalid
  cases invalid

/-- `ListenSocket` fails cleanly unless it does not find the name. -/
theorem listenSocket_ensures
    (id fd : Int32)
    (opaqueValue : UInt64) :
    (listenSocket id fd opaqueValue).Ensures
      (fun outcome s' =>
        Setup.Meets (.listenSocket id fd opaqueValue) (before server interest)
            (reported (hashId id) outcome) s' ↔
          Setup.Avoids (.listenSocket id fd opaqueValue) s'.kernel.calls)
      (before server interest) := by
  unfold listenSocket
  rw [Program.ensures_bind]
  refine (newFd_ensures _ _ _ _ _ _).mono fun isNew s ended => ?_
  have unknown (call : OsCall)
      (notAdd : ∀ added, call ≠ .epollAdd fd added)
      (notMod :
        ∀ modified,
          call ≠ .epollMod (hashId id) .kSocketTypeReserve modified) :
      call ∉ s.kernel.calls := by
    intro member
    rcases ended.calls_of_mem member with earlier | ⟨_, isAdd⟩ | ⟨_, isMod⟩
    · cases earlier
    · exact notAdd _ isAdd
    · exact notMod _ isMod
  have unnamed := unknown (.getsockname false) (by simp) (by simp)
  have unwritten := unknown (.inet_ntop false) (by simp) (by simp)
  cases isNew with
  | false =>
      simp only [Bool.false_eq_true, ↓reduceIte, Program.ensures_bind,
        ensures_osClose, ensures_openFailed]
      refine iff_of_true ?_ ⟨?_, ?_⟩
      · exact ended.leavesNothing (by simp) rfl
      · simpa [Kernel.close, Kernel.noted] using unnamed
      · simpa [Kernel.close, Kernel.noted] using unwritten
  | true =>
      simp only [↓reduceIte, Program.ensures_bind, ensures_storeType,
        ensures_call, Program.ensures_ite]
      intro input
      split
      · next named =>
          intro written
          cases isText : written.text with
          | some text =>
              simp only [Program.ensures_bind, ensures_requestMessage,
                Program.ensures_pure]
              refine iff_of_true ?_ ⟨?_, ?_⟩
              · exact ended.leavesOpen rfl (by simp) (by simp)
                  (by simp [Kernel.noted])
              · simpa [Kernel.noted, named] using unnamed
              · simpa [Kernel.noted] using unwritten
          | none =>
              refine ensures_unnamedSocket fun message =>
                listenSocket_stays (by simp) (.inr ?_)
              simp [Kernel.noted]
      · next notNamed =>
          refine ensures_unnamedSocket fun message =>
            listenSocket_stays (by simp) (.inl ?_)
          simp [Kernel.noted, notNamed]

/-- `BindSocket` closes nothing, as its descriptor stays its caller's. -/
theorem bindSocket_ensures
    (id fd : Int32)
    (opaqueValue : UInt64) :
    (bindSocket id fd opaqueValue).Ensures
      (fun outcome s' =>
        Setup.Meets (.bindSocket id fd opaqueValue) (before server interest)
          (reported (hashId id) outcome) s')
      (before server interest) := by
  unfold bindSocket
  rw [Program.ensures_bind]
  refine (newFd_ensures _ _ _ _ _ _).mono fun isNew s ended => ?_
  cases isNew with
  | false =>
      simp only [Bool.false_eq_true, ↓reduceIte, Program.ensures_bind,
        ensures_requestMessage, Program.ensures_pure]
      cases ended with
      | refused invalid kernel =>
          refine ⟨?_, ?_, ?_⟩
          · rintro k ⟨⟩
            exact invalid
          · rintro k ⟨⟩ other isRegistered
            rw [kernel] at isRegistered
            exact isRegistered
          · intro other
            rw [kernel]
            rfl
      | dropped notReading _ _ _ =>
          cases notReading
  | true =>
      simp only [↓reduceIte, Program.ensures_bind, ensures_storeType,
        ensures_requestMessage, Program.ensures_pure]
      exact ended.leavesOpen rfl (by simp) (by simp) (by simp)

/-- `AddUDPSocket` fails cleanly, and throws once its descriptor was added. -/
theorem addUDPSocket_ensures
    (id fd family : Int32)
    (opaqueValue : UInt64) :
    (Setup.handle (.addUDPSocket id fd family opaqueValue)).Ensures
      (fun handled s' =>
        Setup.Meets (.addUDPSocket id fd family opaqueValue)
            (before server interest) handled s' ↔
          Setup.Avoids (.addUDPSocket id fd family opaqueValue)
            s'.kernel.calls)
      (before server interest) := by
  unfold Setup.handle addUDPSocket
  dsimp only
  rw [Program.ensures_bind, Program.ensures_bind]
  refine (newFd_ensures _ _ _ _ _ _).mono fun isNew s ended => ?_
  cases isNew with
  | false =>
      simp only [Bool.false_eq_true, ↓reduceIte, Program.ensures_bind,
        ensures_osClose, ensures_storeType, Program.ensures_pure]
      refine iff_of_true (ended.leavesNothing (by simp) rfl) fun other => ?_
      cases ended with
      | refused invalid kernel =>
          simp [kernel, Kernel.close, Kernel.noted, before]
      | dropped notReading _ _ _ =>
          cases notReading
  | true =>
      cases ended with
      | opened reserved isFd elsewhere isSize mods isMod changed calls =>
          simp only [↓reduceIte, Program.ensures_bind, ensures_storeType,
            ensures_load, KernelServer.change_slot, isSize,
            Program.ensures_pure]
          refine iff_of_false (fun impossible => impossible)
            fun avoids => avoids fd ?_
          simp [calls]

@[simp] theorem closes_nil
    (fd : Int32) :
    closes [] fd = 0 :=
  rfl

@[simp] theorem creates_nil
    (fd : Int32) :
    creates [] fd = 0 :=
  rfl

theorem if_eq_single
    (fd other : Int32) :
    (if fd = other then 1 else 0) = single fd other := by
  simp only [single, eq_comm]

/-- Closing a descriptor gives up no spare one. -/
theorem spare_close
    (kernel : Kernel)
    (fd other : Int32) :
    spare s (kernel.close fd).calls other = spare s kernel.calls other := by
  simp [spare, Kernel.close, Kernel.noted]

/-- Where there was no slot, only the descriptors count. -/
theorem LeavesNothing.of_closed
    {owned : Int32 → Nat}
    (closed :
      ∀ other,
        closes s'.kernel.calls other =
          creates s'.kernel.calls other + owned other) :
    LeavesNothing none owned s s' :=
  ⟨fun _ impossible => (nomatch impossible),
    fun _ impossible => (nomatch impossible), closed⟩

/-- Without a descriptor, `ReportAccept` closes what it uses to refuse. -/
theorem refuseAccept_ensures
    (k : Nat)
    (errno : Errno) :
    (refuseAccept k errno).Ensures
      (fun _ s' =>
        LeavesNothing none (spare (before server interest) s'.kernel.calls)
            (before server interest) s' ∧
          ∀ k type, .epollMod k type true ∉ s'.kernel.calls)
      (before server interest) := by
  unfold refuseAccept
  simp only [Program.ensures_ite]
  split
  · simp only [Program.ensures_bind, ensures_plain, reportError, strerror,
      atSlot, answer, socketMessage, Program.zoom_bind, Program.zoom_pure,
      Program.zoom_ask (SocketServer.put_view _), Program.ensures_ask,
      Program.ensures_pure, Program.ensures_ite]
    intro _ _ _
    split
    · simp only [Program.ensures_bind, ensures_osClose, osAccept, ensures_call]
      intro input
      by_cases made : 0 ≤ input.number
      · simp only [made, ↓reduceIte, ensures_osClose, Program.ensures_bind,
          Program.ensures_act, Program.ensures_pure]
        refine fun last => ⟨.of_closed ?_, ?_⟩
        · intro fd
          simp [spare, before, Kernel.close, Kernel.noted, closes_nil,
            creates_nil, if_eq_single]
          omega
        · simp [before, Kernel.close, Kernel.noted]
      · simp only [made, ↓reduceIte, Program.ensures_bind,
          Program.ensures_act, Program.ensures_pure]
        refine fun last => ⟨.of_closed ?_, ?_⟩
        · intro fd
          simp [spare, before, Kernel.close, Kernel.noted, closes_nil,
            creates_nil, if_eq_single]
        · simp [before, Kernel.close, Kernel.noted]
    · refine ⟨.of_closed fun fd => ?_, by simp [before]⟩
      simp [spare, before, closes_nil, creates_nil]
  · rw [Program.ensures_pure]
    refine ⟨.of_closed fun fd => ?_, by simp [before]⟩
    simp [spare, before, closes_nil, creates_nil]

/-- An accept fails cleanly unless its descriptor gets a live slot. -/
theorem reportAccept_ensures
    (k : Nat) :
    (Setup.handle (.reportAccept k)).Ensures
      (fun handled s' =>
        Setup.Meets (.reportAccept k) (before server interest) handled s' ↔
          Setup.Avoids (.reportAccept k) s'.kernel.calls)
      (before server interest) := by
  unfold Setup.handle acceptSocket osAccept
  simp only [Program.ensures_bind, ensures_call]
  intro input
  by_cases negative : input.number < 0
  · have notMade : ¬ 0 ≤ input.number := Int32.not_le.mpr negative
    simp only [negative, notMade, ↓reduceIte, Program.ensures_bind]
    exact (refuseAccept_ensures k input.errno).mono
      fun _ _ refused => iff_of_true refused.1 refused.2
  · have made : 0 ≤ input.number := Int32.not_lt.mp negative
    simp only [negative, made, ↓reduceIte, Program.ensures_bind,
      ensures_plain]
    refine Program.Ensures.of_forall fun reserved server' => ?_
    cases reserved with
    | none =>
        simp only [Program.ensures_bind, ensures_osClose, Program.ensures_pure]
        refine iff_of_true (LeavesNothing.of_closed fun fd => ?_) ?_
        · simp [Setup.owned, spare, before, Kernel.close, Kernel.noted,
            if_eq_single]
        · simp [Setup.Avoids, before, Kernel.close, Kernel.noted]
    | some id =>
        rw [Program.ensures_bind, ensures_load, Program.ensures_bind]
        refine (newFd_ensures _ _ _ _ _ _).mono fun isNew s ended => ?_
        cases isNew with
        | false =>
            have noSpare (fd : Int32) :
                spare (before server interest) s.kernel.calls fd = 0 := by
              unfold spare
              rw [if_neg]
              simp only [List.any_eq_true, not_exists, not_and]
              intro call member
              rcases ended.calls_of_mem member with
                earlier | ⟨_, rfl⟩ | ⟨_, rfl⟩
              · rw [List.mem_singleton.mp earlier]
                simp
              · simp
              · simp
            simp only [Bool.false_eq_true, ↓reduceIte, Program.ensures_bind,
              ensures_osClose, Program.ensures_pure]
            refine iff_of_true ⟨?_, ?_, fun fd => ?_⟩ fun slot type => ?_
            · rintro _ ⟨⟩
              exact ended.slot.1
            · rintro _ ⟨⟩ other isRegistered
              exact ended.registered_close isRegistered
            · rw [Setup.owned, spare_close, noSpare fd, ended.closed fd,
                ended.created fd]
              simp [before, Kernel.noted, if_eq_single]
            · have unmodified :=
                ended.unmodified (by simp [before, Kernel.noted]) slot type
              simpa [Kernel.close, Kernel.noted] using unmodified
        | true =>
            cases ended with
            | opened reserved isFd elsewhere isSize mods isMod changed calls =>
                simp only [↓reduceIte, Program.ensures_bind, ensures_storeType,
                  Program.ensures_pure]
                obtain ⟨call, isCall⟩ :=
                  List.exists_mem_of_ne_nil mods (changed rfl)
                refine iff_of_false (fun impossible => impossible)
                  fun avoids => avoids (hashId id) .kSocketTypeReserve ?_
                simp [calls, ← isMod call isCall, isCall]

end Others

/--
However the calls of the operating system end, a set-up fails cleanly or leaves
its socket, exactly when they end as the code provides for.
-/
theorem handle_meets_iff
    {handled : Handled}
    {s' : KernelServer Worker}
    (setup : Setup)
    (yields :
      setup.handle.Yields (before server interest) handled s') :
    setup.Meets (before server interest) handled s' ↔
      setup.Avoids s'.kernel.calls := by
  have ensures :
      setup.handle.Ensures
        (fun handled s' =>
          setup.Meets (before server interest) handled s' ↔
            setup.Avoids s'.kernel.calls)
        (before server interest) := by
    cases setup with
    | openSocket id opaqueValue =>
        exact Iff.rfl
    | listenSocket id fd opaqueValue =>
        simp only [Setup.handle, Program.ensures_bind]
        exact listenSocket_ensures id fd opaqueValue
    | bindSocket id fd opaqueValue =>
        simp only [Setup.handle, Program.ensures_bind]
        exact (bindSocket_ensures id fd opaqueValue).mono
          fun _ _ meets => iff_of_true meets trivial
    | addUDPSocket id fd family opaqueValue =>
        exact addUDPSocket_ensures id fd family opaqueValue
    | reportAccept k =>
        exact reportAccept_ensures k
  exact ensures.of_yields yields

/-- A server on which a slot is reserved for the id 1. -/
def reservedServer : SocketServer Unit :=
  { blankServer with
    slot := Function.update blankServer.slot 1
      { blankServer.slot 1 with
        id := 1
        type := .kSocketTypeReserve } }

/-- An answer of the operating system with a number. -/
def answering (number : Int32) : OsAnswer :=
  { (default : OsAnswer) with number := number, rounds := 1 }

/-- A call of the operating system that fails. -/
def failing : OsAnswer :=
  { (default : OsAnswer) with result := -1 }

/-- The name of a socket. -/
def naming : OsAnswer :=
  { answering 5 with text := some "0.0.0.0" }

/-- A socket that listens, and whose name is found. -/
theorem reservedServer_listens :
    ∃ s',
      (Setup.listenSocket 1 5 7).handle.Yields
          (before reservedServer fun _ => none) (.succeeded 1) s' ∧
        s'.kernel.interest 5 = some ⟨1, false, false⟩ ∧
        (Setup.listenSocket 1 5 7).Meets (before reservedServer fun _ => none)
          (.succeeded 1) s' := by
  have replayed :
      (Program.replay (List.replicate 20 naming)
          (Setup.listenSocket 1 5 7).handle
          (before reservedServer fun _ => none)).map
        (fun ended =>
          (ended.1, ended.2.kernel.interest 5, ended.2.kernel.calls)) =
        some
          (.succeeded 1, some ⟨1, false, false⟩,
            [.inet_ntop true, .getsockname true,
              .epollMod 1 .kSocketTypeReserve true, .epollAdd 5 true]) :=
    rfl
  obtain ⟨⟨handled, s'⟩, ended, isEnd⟩ := Option.map_eq_some_iff.mp replayed
  simp only [Prod.mk.injEq] at isEnd
  obtain ⟨rfl, isRegistered, isCalls⟩ := isEnd
  have yields := Program.yields_of_replay ended
  refine ⟨s', yields, isRegistered, (handle_meets_iff _ yields).mpr ?_⟩
  unfold Setup.Avoids
  simp [isCalls]

/-- A socket whose name is not found listens behind an error. -/
theorem reservedServer_stays :
    (∃ s',
      (Setup.listenSocket 1 5 7).handle.Yields
          (before reservedServer fun _ => none) (.failed (some 1)) s' ∧
        (s'.server.slot 1).type = .kSocketTypePlisten ∧
        s'.kernel.Registered 1 5 ∧ closes s'.kernel.calls 5 = 0) ∧
      ¬ ∀ (setup : Setup) handled s',
        setup.handle.Yields (before reservedServer fun _ => none) handled s' →
          setup.Meets (before reservedServer fun _ => none) handled s' := by
  have listens :
      (Program.replay
          (List.replicate 11 (answering 5) ++ List.replicate 5 failing)
          (Setup.listenSocket 1 5 7).handle
          (before reservedServer fun _ => none)).map
        (fun ended =>
          (ended.1, (ended.2.server.slot 1).type, ended.2.kernel.interest 5,
            closes ended.2.kernel.calls 5)) =
        some
          (.failed (some 1), .kSocketTypePlisten, some ⟨1, false, false⟩, 0) :=
    rfl
  obtain ⟨⟨handled, s'⟩, ended, isEnd⟩ := Option.map_eq_some_iff.mp listens
  simp only [Prod.mk.injEq] at isEnd
  obtain ⟨rfl, isPlisten, isRegistered, isOpen⟩ := isEnd
  have yields := Program.yields_of_replay ended
  refine
    ⟨⟨s', yields, isPlisten, ⟨_, isRegistered, rfl⟩, isOpen⟩, fun holds => ?_⟩
  have leaves := holds _ _ s' yields
  have invalid := LeavesNothing.invalid leaves 1 rfl
  rw [isPlisten] at invalid
  cases invalid

end Routines

end SocketKernel

end SkynetCpp
