import SkynetCpp.SocketCalls

namespace SkynetCpp

open Foundation

/-!
# What workers do to a socket

A worker that writes directly takes the lock and may leave the rest of what it
wrote.  Beside that, workers count requests and connects, and name the sockets
that they reserved.  Everything else of a socket is the socket thread's.
-/

variable
    {Worker α β : Type}

section Direct

/-- What a direct write does: it takes the lock, and may leave a rest. -/
def MovesDirect (v v' : SocketView Worker) : Prop :=
  ∃ lock buffer size offset notes,
    v' =
      { v with
        sock :=
          { v.sock with
            dw_lock := lock
            dw_buffer := buffer
            dw_size := size
            dw_offset := offset }
        notes := notes }

instance : Std.Refl (@MovesDirect Worker) where
  refl _ := ⟨_, _, _, _, _, rfl⟩

theorem MovesDirect.trans
    {first second third : SocketView Worker}
    (earlier : MovesDirect first second)
    (later : MovesDirect second third) :
    MovesDirect first third := by
  obtain ⟨_, _, _, _, _, rfl⟩ := earlier
  obtain ⟨lock, buffer, size, offset, notes, rfl⟩ := later
  exact ⟨lock, buffer, size, offset, notes, rfl⟩

/-- Code that does no more than a direct write. -/
abbrev WritesDirectly (action : SocketAction Worker α) : Prop :=
  action.Follows MovesDirect

namespace WritesDirectly

theorem load
    (field : Socket Worker → α) :
    WritesDirectly (SkynetCpp.load field) :=
  .ask _

theorem socketInvalid
    (id : Int32) :
    WritesDirectly (SkynetCpp.socketInvalid id : SocketAction Worker Bool) :=
  .bind (load _) fun _ => .ite (.pure _) (.bind (load _) fun _ => .pure _)

theorem canDirectWrite
    (id : Int32) :
    WritesDirectly (SkynetCpp.canDirectWrite id : SocketAction Worker Bool) := by
  refine .andM (load _) (.andM (.orM (.andM ?_ ?_) (load _)) ?_)
  · exact .andM (load _) (load _)
  · exact .andM (load _) (load _)
  · exact .andM (load _) (load _)

theorem socketLock
    (caller : Caller Worker)
    (count : Nat) :
    WritesDirectly (SkynetCpp.socketLock caller count) := by
  refine .ite (.bind (.attempt fun v v' taken => ?_) fun _ => .pure _) (.pure _)
  split at taken
  · cases taken
    exact ⟨_, _, _, _, _, rfl⟩
  · cases taken

theorem socketTrylock
    (caller : Caller Worker) :
    WritesDirectly (SkynetCpp.socketTrylock caller) := by
  refine .act fun _ v => ?_
  split
  · exact ⟨_, _, _, _, _, rfl⟩
  · exact Std.Refl.refl v

theorem socketUnlock
    (count : Nat) :
    WritesDirectly (SkynetCpp.socketUnlock count : SocketAction Worker Unit) :=
  .ite (.act fun _ _ => ⟨_, _, _, _, _, rfl⟩) (.pure _)

theorem getUdpAddress :
    WritesDirectly
      (SkynetCpp.getUdpAddress : SocketAction Worker (List UInt8)) := by
  refine .bind (load _) fun p => ?_
  cases p
  · exact .bind (.check _) fun _ => .pure _
  · exact .pure _

theorem directWrite
    (buffer : SocketSendbuffer) :
    WritesDirectly (SkynetCpp.directWrite buffer : SocketAction Worker Bool) := by
  refine .act fun input v => ?_
  dsimp only
  split
  · exact ⟨_, _, _, _, _, rfl⟩
  · exact ⟨_, _, _, _, _, rfl⟩

theorem directSend
    (buffer : SocketSendbuffer) :
    WritesDirectly
      (SkynetCpp.directSend buffer : SocketAction Worker (Option Bool)) := by
  refine .bind getUdpAddress fun _ => .bind (load _) fun _ => .ite (.pure _) ?_
  refine .bind (.ask _) fun _ => .ite (.pure _) ?_
  exact .bind (.act fun _ _ => ⟨_, _, _, _, _, rfl⟩) fun _ => .pure _

theorem writeDirectly
    (buffer : SocketSendbuffer) :
    WritesDirectly
      (SkynetCpp.writeDirectly buffer : SocketAction Worker (Option Bool)) :=
  .bind (load _) fun _ =>
    .ite (.bind (directWrite buffer) fun _ => .pure _) (directSend buffer)

theorem sendDirect
    (caller : Caller Worker)
    (buffer : SocketSendbuffer) :
    WritesDirectly (SkynetCpp.sendDirect caller buffer) := by
  refine .bind (.andM (canDirectWrite _) (socketTrylock _)) fun locked => ?_
  refine .ite (.bind (canDirectWrite _) fun may => .ite ?_ ?_) (.pure _)
  · refine .bind (writeDirectly _) fun left =>
      .bind (socketUnlock _) fun _ => ?_
    cases left <;> exact .pure _
  · exact .bind (socketUnlock _) fun _ => .pure _

theorem udpSendDirect
    (caller : Caller Worker)
    (addr : List UInt8)
    (id : Int32) :
    WritesDirectly (SkynetCpp.udpSendDirect caller addr id) := by
  refine .bind (.andM (canDirectWrite _) (socketTrylock _)) fun locked => ?_
  refine .ite (.bind ?_ fun _ => .bind (socketUnlock _) fun _ => .pure _) (.pure _)
  refine .bind (canDirectWrite _) fun may => .ite ?_ (.pure _)
  refine .bind (load _) fun _ => .ite (.pure _) ?_
  exact .bind (.ask _) fun _ => .ite (.pure _) (.pure _)

end WritesDirectly

end Direct

section Borrows

/--
What a worker does to a socket: direct writes, counts, and the fields that
`ReserveId` sets.
-/
def Borrows (v v' : SocketView Worker) : Prop :=
  ∃ lock buffer size offset sending udpconnecting id fd protocol notes,
    (protocol = v.sock.protocol ∨ protocol = .UNKNOWN) ∧
      v' =
        { v with
          sock :=
            { v.sock with
              dw_lock := lock
              dw_buffer := buffer
              dw_size := size
              dw_offset := offset
              sending := sending
              udpconnecting := udpconnecting
              id := id
              fd := fd
              protocol := protocol }
          notes := notes }

instance : Std.Refl (@Borrows Worker) where
  refl _ := ⟨_, _, _, _, _, _, _, _, _, _, .inl rfl, rfl⟩

theorem MovesDirect.borrows
    {v v' : SocketView Worker}
    (moved : MovesDirect v v') :
    Borrows v v' := by
  obtain ⟨_, _, _, _, _, rfl⟩ := moved
  exact ⟨_, _, _, _, _, _, _, _, _, _, .inl rfl, rfl⟩

/-- Code of a worker on a socket. -/
abbrev Borrowing (action : SocketAction Worker α) : Prop :=
  action.Follows Borrows

theorem WritesDirectly.borrowing
    {action : SocketAction Worker α}
    (writes : WritesDirectly action) :
    Borrowing action :=
  writes.mono fun _ _ moved => moved.borrows

namespace Borrowing

theorem exchangeSending
    (sending : UInt64) :
    Borrowing (SkynetCpp.exchangeSending sending : SocketAction Worker Bool) := by
  refine .act fun input v => ?_
  split
  · exact ⟨_, _, _, _, _, _, _, _, _, _, .inl rfl, rfl⟩
  · exact Std.Refl.refl v

theorem incSendingRefLoop
    (id : Int32)
    (rounds : Nat) :
    Borrowing
      (SkynetCpp.incSendingRefLoop id rounds : SocketAction Worker Unit) := by
  induction rounds with
  | zero =>
      exact .check _
  | succ rounds inductionHypothesis =>
      refine .bind (.ask _) fun sending => .ite (.ite ?_ ?_) (.pure _)
      · exact inductionHypothesis
      · exact .bind (exchangeSending sending) fun _ =>
          .ite (.pure _) inductionHypothesis

theorem incSendingRef
    (id : Int32) :
    Borrowing (SkynetCpp.incSendingRef id : SocketAction Worker Unit) :=
  .bind (.ask _) fun _ =>
    .ite (.bind (.ask _) fun rounds => incSendingRefLoop id rounds) (.pure _)

theorem countConnect
    (caller : Caller Worker)
    (id : Int32) :
    Borrowing (SkynetCpp.countConnect caller id) := by
  have invalid :
      Borrowing (SkynetCpp.socketInvalid id : SocketAction Worker Bool) :=
    (WritesDirectly.socketInvalid id).borrowing
  refine .bind invalid fun _ => .ite (.pure _) ?_
  refine .bind (WritesDirectly.socketLock caller 0).borrowing fun count => ?_
  refine .bind invalid fun _ => .ite ?_ ?_
  · exact .bind (WritesDirectly.socketUnlock _).borrowing fun _ => .pure _
  · refine .bind (.act fun _ _ => ?_) fun _ =>
      .bind (WritesDirectly.socketUnlock _).borrowing fun _ => .pure _
    exact ⟨_, _, _, _, _, _, _, _, _, _, .inl rfl, rfl⟩

theorem reservedSocket
    (id : Int32) :
    Borrowing
      (SkynetCpp.store (reservedSocket id) : SocketAction Worker Unit) :=
  .act fun _ _ => ⟨_, _, _, _, _, _, _, _, _, _, .inr rfl, rfl⟩

end Borrowing

end Borrows

section Server

/-- A happening that is only a call of a worker, or its end. -/
def Happening.isCall : Happening Worker → Bool
  | .called .. | .returned .. => true
  | _ => false

/-- What one step of a worker does to the server. -/
inductive WorkerStep (s : SocketServer Worker) : SocketServer Worker → Prop where
  | nothing :
      WorkerStep s s
  | onSlot
      (k : Nat)
      {part : SocketView Worker}
      (borrows : Borrows (s.view k) part) :
      WorkerStep s (s.put k part)
  | reserve
      (k : Nat)
      (isFree : (s.slot k).type = .kSocketTypeInvalid) :
      WorkerStep s
        ({ s with
          slot := Function.update s.slot k
            { s.slot k with
              type := .kSocketTypeReserve
              incarnation := (s.slot k).incarnation + 1 } }.note
          (.reserved k ((s.slot k).incarnation + 1)))
  | allocate
      (alloc_id : Int32) :
      WorkerStep s { s with alloc_id := alloc_id }
  | request
      (caller : Caller Worker)
      (request : SocketRequest Buffer)
      (found : List (SocketRequest Buffer)) :
      WorkerStep s
        ({ s with pipe := s.pipe ++ found }.note
          (.requested caller request found))
  | note
      (happening : Happening Worker)
      (isCall : happening.isCall = true) :
      WorkerStep s (s.note happening)

instance : Std.Refl (@WorkerStep Worker) where
  refl _ := .nothing

/-- Code of a worker. -/
abbrev Working (action : ServerAction Worker α) : Prop :=
  action.Follows WorkerStep

namespace Working

theorem atSlot
    {action : SocketAction Worker α}
    (borrowing : Borrowing action)
    (k : Nat) :
    Working (SkynetCpp.atSlot k action) := by
  refine (Program.Within.zoom borrowing _ _).mono ?_ (fun _ _ => trivial)
  rintro s s' ⟨part, borrows, rfl⟩
  exact .onSlot k borrows

theorem direct
    {action : SocketAction Worker α}
    (writes : WritesDirectly action)
    (k : Nat) :
    Working (SkynetCpp.atSlot k action) :=
  atSlot writes.borrowing k

theorem SendRequest
    (caller : Caller Worker)
    (request : SocketRequest Buffer) :
    Working (SkynetCpp.SendRequest caller request) :=
  .act fun _ _ => .request _ _ _

theorem reserveSlot
    (k : Nat) :
    Working (SkynetCpp.reserveSlot k : ServerAction Worker Bool) := by
  refine .act fun input s => ?_
  split
  · next free =>
      exact .reserve k free.1
  · exact .nothing

theorem allocateId :
    Working (SkynetCpp.allocateId : ServerAction Worker Int32) :=
  .bind (.act fun _ _ => .allocate _) fun _ =>
    .ite (.act fun _ _ => .allocate _) (.pure _)

theorem reserveId :
    Working (SkynetCpp.reserveId : ServerAction Worker (Option Int32)) := by
  have loop :
      ∀ rounds i,
        Working
          (SkynetCpp.reserveIdLoop rounds i :
            ServerAction Worker (Option Int32)) := by
    intro rounds
    induction rounds with
    | zero =>
        exact fun _ => .bind (.check _) fun _ => .pure _
    | succ rounds inductionHypothesis =>
        intro i
        refine .ite (.pure _) (.bind allocateId fun id => ?_)
        refine .bind (direct (.load _) _) fun type => .ite ?_ ?_
        · refine .bind (reserveSlot _) fun reserved => .ite ?_ ?_
          · exact .bind (atSlot (.reservedSocket _) _) fun _ => .pure _
          · exact inductionHypothesis _
        · exact inductionHypothesis _
  exact .bind (.ask _) fun rounds => loop rounds 0

theorem reserving
    {after : Int32 → ServerAction Worker Int32}
    (working : ∀ id, Working (after id)) :
    Working (do
      match ← SkynetCpp.reserveId with
      | none => return -1
      | some id => after id) := by
  refine .bind reserveId fun reserved => ?_
  cases reserved
  · exact .pure _
  · exact working _

theorem sendByPipe
    (caller : Caller Worker)
    (buffer : SocketSendbuffer) :
    Working (SkynetCpp.sendByPipe caller buffer) :=
  .bind (atSlot (.incSendingRef _) _) fun _ =>
    .bind (SendRequest _ _) fun _ => .pure _

theorem Send
    (caller : Caller Worker)
    (buffer : SocketSendbuffer) :
    Working (SkynetCpp.Send caller buffer) := by
  refine .bind
    (direct (.orM (WritesDirectly.socketInvalid _) (.ask _)) _)
    fun refused => ?_
  refine .ite (.pure _) (.bind (direct (.sendDirect _ _) _) fun direct => ?_)
  cases direct with
  | no =>
      exact sendByPipe caller buffer
  | nowhere =>
      exact .pure _
  | written left =>
      cases left
      · exact .pure _
      · exact .bind (SendRequest _ _) fun _ => .pure _

theorem UDPSend
    (caller : Caller Worker)
    (addr : List UInt8)
    (buffer : SocketSendbuffer) :
    Working (SkynetCpp.UDPSend caller addr buffer) := by
  refine .bind (direct (.socketInvalid _) _) fun invalid => ?_
  refine .ite (.pure _) (.ite (.pure _) ?_)
  refine .bind (direct (.udpSendDirect _ _ _) _) fun result => ?_
  cases result
  · exact .bind (SendRequest _ _) fun _ => .pure _
  · exact .pure _

theorem UDPConnect
    (caller : Caller Worker)
    (id : Int32) :
    Working (SkynetCpp.UDPConnect caller id) :=
  .bind (atSlot (.countConnect _ _) _) fun _ =>
    .ite
      (.bind (.ask _) fun _ =>
        .ite (.pure _)
          (.ite (.pure _) (.bind (SendRequest _ _) fun _ => .pure _)))
      (.pure _)

theorem apiCall
    (caller : Caller Worker)
    (call : SocketCall) :
    Working (SkynetCpp.apiCall caller call) := by
  have requested :
      ∀ request,
        Working (do
          SkynetCpp.SendRequest caller request
          return 0 : ServerAction Worker Int32) :=
    fun request => .bind (SendRequest caller request) fun _ => .pure _
  have opened :
      ∀ request : Int32 → SocketRequest Buffer,
        Working (do
          match ← SkynetCpp.reserveId with
          | none => return -1
          | some id =>
              SkynetCpp.SendRequest caller (request id)
              return id : ServerAction Worker Int32) :=
    fun request =>
      reserving fun _ => .bind (SendRequest caller _) fun _ => .pure _
  cases call with
  | Poll =>
      exact .pure _
  | Exit | Close | Shutdown | Start | Pause | Nodelay =>
      exact requested _
  | Connect opaqueValue addr port =>
      exact .ite (.pure _) (opened _)
  | Send buffer =>
      exact Send caller buffer
  | SendLowpriority buffer =>
      exact .bind (direct (.socketInvalid _) _) fun _ =>
        .ite (.pure _)
          (.bind (atSlot (.incSendingRef _) _) fun _ => requested _)
  | Listen opaqueValue =>
      exact .bind (.ask _) fun _ => .ite (.pure _) (opened _)
  | Bind opaqueValue fd =>
      exact opened _
  | UDP opaqueValue =>
      exact .bind (.ask _) fun _ => .ite (.pure _) (opened _)
  | UDPSend addr buffer =>
      exact UDPSend caller addr buffer
  | UDPConnect id =>
      exact UDPConnect caller id

theorem workerCall
    (worker : Worker)
    (call : SocketCall) :
    Working (socketThreads (.worker worker) call) :=
  .bind (.act fun _ _ => .note _ rfl) fun _ =>
    .bind (apiCall _ call) fun _ => .act fun _ _ => .note _ rfl

end Working

end Server

end SkynetCpp
