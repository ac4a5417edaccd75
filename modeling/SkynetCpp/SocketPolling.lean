import SkynetCpp.SocketInterestHandlers
import SkynetCpp.SocketSteps

namespace SkynetCpp

open Foundation

/-!
# What the socket thread knows between its handlers

A discipline says what the socket thread knows of the server between its
handlers.  When no step of a handler disturbs this, and the set-up routines
leave it, the rounds of the socket thread keep it.
-/

variable {Worker α β : Type}

namespace SocketKernel

/-- What is known between handlers survives their steps, and the others'. -/
class Serves (discipline : Discipline Unit (KernelServer Worker)) : Prop where
  relies : ∀ {s s'}, discipline.rely () s s' ↔ Others s s'
  guarantees : ∀ s s', discipline.guarantee () s s'
  sound : ∀ {s}, discipline.ready () s → discipline.invariant s
  unset :
    ∀ {s k},
      discipline.ready () s →
      (s.server.slot k).type = .kSocketTypeReserve →
        (s.server.slot k).protocol = .UNKNOWN
  watch :
    ∀ {s s' k input part},
      discipline.ready () s →
      Attends (s.server.view k) part →
      s.watch k input part = some s' →
      discipline.allowed s s' →
        discipline.ready () s'

variable
    {discipline : Discipline Unit (KernelServer Worker)}
    [Serves discipline]
    {k : Nat}

section Rules

variable
    {pre known : KernelServer Worker → Prop}
    {post mid : α → KernelServer Worker → Prop}

/-- A step of the socket thread that keeps the invariant. -/
theorem keeps_act
    {value : OsAnswer → KernelServer Worker → α}
    {next : OsAnswer → KernelServer Worker → KernelServer Worker}
    (lasting : discipline.Stable () pre)
    (sound : ∀ result s, post result s → discipline.invariant s)
    (moves :
      ∀ input s,
        pre s →
        discipline.allowed s (next input s) →
          post (value input s) (next input s)) :
    discipline.Triple () pre (Program.act value next) post := by
  refine Discipline.Triple.act lasting fun input s holds _ allowed => ?_
  have after := moves input s holds allowed
  exact ⟨sound _ _ after, Serves.guarantees _ _, after⟩

omit [Serves discipline] in
theorem keeps_weaken
    {program : KernelAction Worker α}
    {stronger : KernelServer Worker → Prop}
    (keeps : discipline.Triple () pre program post)
    (implies : ∀ s, stronger s → pre s) :
    discipline.Triple () stronger program post :=
  Discipline.Triple.mono keeps implies fun _ _ holds => holds

/-- Looking at the server. -/
theorem keeps_ask
    {value : OsAnswer → KernelServer Worker → α}
    (lasting : discipline.Stable () pre)
    (learns : ∀ input s, pre s → post (value input s) s) :
    discipline.Triple () pre (Program.ask value) post :=
  Discipline.Triple.ask (fun _ => Serves.guarantees _ _) lasting
    fun input s holds _ => learns input s holds

theorem keeps_check
    {condition : Prop}
    [Decidable condition]
    {after : KernelServer Worker → Prop}
    (lasting : discipline.Stable () pre)
    (learns : ∀ s, pre s → condition → after s) :
    discipline.Triple () pre
      (Program.check condition : KernelAction Worker Unit) fun _ => after :=
  Discipline.Triple.check (fun _ => Serves.guarantees _ _) lasting learns

/-- Code that other threads could run as well. -/
theorem keeps_outside
    {action : ServerAction Worker α}
    (outside : action.Follows Outside)
    (lasting : discipline.Stable () known)
    (sound : ∀ s, known s → discipline.invariant s) :
    discipline.Triple () known (plain action) fun _ => known := by
  refine (Discipline.Triple.within (outside.zoom _ _) lasting ?_).mono
    (fun _ => id) fun _ _ holds => holds.2
  rintro s s' holds ⟨server, moved, rfl⟩ _ _
  have others : Others s { s with server := server } := ⟨moved, rfl⟩
  have after := lasting (Serves.relies.mpr others) holds
  exact ⟨sound _ after, Serves.guarantees _ _, after⟩

/-- Code on the rest of the server. -/
theorem keeps_apart
    {action : ServerAction Worker α}
    (isApart : Apart action)
    (lasting : discipline.Stable () known)
    (sound : ∀ s, known s → discipline.invariant s) :
    discipline.Triple () known (plain action) fun _ => known :=
  keeps_outside
    (isApart.mono fun _ _ step =>
      ⟨fun _ => .inl (by rw [step.slot]; exact .refl _), step.reserve_fd⟩)
    lasting sound

/-- Code that leaves alone what is known of a socket. -/
theorem keeps_unobtrusive
    {action : SocketAction Worker α}
    (isQuiet : Unobtrusive action)
    (lasting : discipline.Stable () known)
    (sound : ∀ s, known s → discipline.invariant s) :
    discipline.Triple () known (plain (atSlot k action)) fun _ => known := by
  refine keeps_outside
    ((Program.Within.zoom isQuiet _ _).mono ?_ fun _ _ => trivial) lasting sound
  rintro s s' ⟨part, quiet, rfl⟩
  refine ⟨fun j => .inl ?_, rfl⟩
  by_cases isSlot : j = k
  · subst isSlot
    exact quiet.same.trans (sameSocket_put_self j part s)
  · exact sameSocket_put k part s j isSlot

/-- Reading a field of a socket. -/
theorem keeps_load
    {field : Socket Worker → α}
    (post : α → KernelServer Worker → Prop)
    (lasting : discipline.Stable () pre)
    (learns : ∀ s, pre s → post (field (s.server.slot k)) s) :
    discipline.Triple () pre (plain (atSlot k (load field))) post := by
  have isAsk :
      (plain (atSlot k (load field)) : KernelAction Worker α) =
        Program.ask fun _ s => field (s.server.slot k) := by
    rw [plain, atSlot_load]
    exact Program.zoom_ask (fun _ => rfl) _
  rw [isAsk]
  exact keeps_ask lasting fun _ => learns

/-- Changing fields of a socket. -/
theorem keeps_store
    {change : Socket Worker → Socket Worker}
    (post : KernelServer Worker → Prop)
    (lasting : discipline.Stable () pre)
    (sound : ∀ s, post s → discipline.invariant s)
    (stores : ∀ s, pre s → post (s.change k change)) :
    discipline.Triple () pre (plain (atSlot k (store change))) fun _ => post :=
  keeps_act lasting (fun _ => sound) fun _ s holds _ => stores s holds

omit [Serves discipline] in
/-- Code on a socket, one piece after the other. -/
theorem keeps_bind
    {action : SocketAction Worker α}
    {after : α → SocketAction Worker β}
    {post : β → KernelServer Worker → Prop}
    (first : discipline.Triple () pre (plain (atSlot k action)) mid)
    (second :
      ∀ result,
        discipline.Triple () (mid result) (plain (atSlot k (after result)))
          post) :
    discipline.Triple () pre (plain (atSlot k (action >>= after))) post := by
  unfold plain atSlot
  rw [Program.zoom_bind, Program.zoom_bind]
  exact Discipline.Triple.bind first second

omit [Serves discipline] in
/-- Code on the server, one piece after the other. -/
theorem keeps_plain_bind
    {action : ServerAction Worker α}
    {after : α → ServerAction Worker β}
    {post : β → KernelServer Worker → Prop}
    (first : discipline.Triple () pre (plain action) mid)
    (second :
      ∀ result, discipline.Triple () (mid result) (plain (after result)) post) :
    discipline.Triple () pre (plain (action >>= after)) post := by
  unfold plain
  rw [Program.zoom_bind]
  exact Discipline.Triple.bind first second

end Rules

section Handlers

/-- What is known between handlers, and of the type of the socket in a slot. -/
def At
    (discipline : Discipline Unit (KernelServer Worker))
    (k : Nat)
    (known : SocketType → Prop)
    (s : KernelServer Worker) : Prop :=
  discipline.ready () s ∧ known (s.server.slot k).type

/-- The type of the socket in a slot, after what the others may have done. -/
theorem Others.typed
    {s s' : KernelServer Worker}
    (others : Others s s')
    (k : Nat) :
    (s'.server.slot k).type = (s.server.slot k).type ∨
      (s.server.slot k).type = .kSocketTypeInvalid ∧
        (s'.server.slot k).type = .kSocketTypeReserve := by
  rcases others.outside.slot k with same | reserves
  · exact .inl same.type
  · exact .inr ⟨reserves.wasInvalid, reserves.type⟩

/-- A handler keeps what is known between handlers. -/
theorem Handles.triple
    {known : SocketType → Prop}
    {action : SocketAction Worker α}
    {post : α → SocketType → Prop}
    (handles : Handles known action post) :
    discipline.Triple () (At discipline k known) (watched k action)
      fun result => At discipline k (post result) := by
  rintro s ⟨ready, holds⟩
  have handling := handles _ holds
  clear handles holds
  induction action generalizing s with
  | done result =>
      exact ⟨ready, handling⟩
  | crash =>
      trivial
  | step next rest inductionHypothesis =>
      intro moved relied _ input s' taken allowed
      have nowReady := discipline.ready_stable relied ready
      obtain ⟨part, isNext, watched⟩ := Option.bind_eq_some_iff.mp taken
      have unset := Serves.unset nowReady (k := k)
      obtain ⟨attends, later⟩ :=
        handling input (moved.server.view k) part rfl
          ((Serves.relies.mp relied).typed k) unset isNext
      have stillReady := Serves.watch nowReady attends watched allowed
      refine
        ⟨Serves.sound stillReady, Serves.guarantees _ _,
          inductionHypothesis _ _ s' stillReady ?_⟩
      rw [watch_server watched, SocketServer.put_type]
      exact later

/-- A handler on a slot of which nothing has to be known. -/
theorem watched_keeps
    {action : SocketAction Worker α}
    (handles : Handles (fun _ => True) action fun _ _ => True) :
    discipline.Triple () (discipline.ready ()) (watched k action)
      fun _ => discipline.ready () :=
  Discipline.Triple.mono handles.triple (fun _ ready => ⟨ready, trivial⟩)
    fun _ _ holds => holds.1

theorem quiet_keeps
    {action : SocketAction Worker α}
    (isQuiet : Unobtrusive action) :
    discipline.Triple () (discipline.ready ()) (watched k action)
      fun _ => discipline.ready () :=
  watched_keeps (quiet_handles isQuiet (by decide))

/-- Code on the rest of the server, between handlers. -/
theorem apart_keeps
    {action : ServerAction Worker α}
    (isApart : Apart action) :
    discipline.Triple () (discipline.ready ()) (plain action)
      fun _ => discipline.ready () :=
  keeps_apart isApart discipline.ready_stable fun _ => Serves.sound

end Handlers

section Poll

/--
What is known between handlers survives the set-up of sockets, for requests that
were handed over.
-/
structure SetsUp
    (discipline : Discipline Unit (KernelServer Worker))
    (handed : KernelServer Worker → SocketRequest Buffer → Prop) : Prop where
  lasting : ∀ request, discipline.Stable () fun s => handed s request
  taken :
    ∀ {s s' request},
      discipline.allowed s s' →
      s.server.pipe = request :: s'.server.pipe →
        handed s request
  listenSocket :
    ∀ id fd opaqueValue,
      discipline.Triple ()
        (fun s =>
          discipline.ready () s ∧ handed s (.listen id fd opaqueValue))
        (listenSocket id fd opaqueValue) fun _ => discipline.ready ()
  bindSocket :
    ∀ id fd opaqueValue,
      discipline.Triple ()
        (fun s => discipline.ready () s ∧ handed s (.bind id fd opaqueValue))
        (bindSocket id fd opaqueValue) fun _ => discipline.ready ()
  addUDPSocket :
    ∀ id fd family opaqueValue,
      discipline.Triple ()
        (fun s =>
          discipline.ready () s ∧ handed s (.udp id fd family opaqueValue))
        (addUDPSocket id fd family opaqueValue) fun _ => discipline.ready ()
  reportAccept :
    ∀ k,
      discipline.Triple () (discipline.ready ()) (reportAccept k)
        fun _ => discipline.ready ()

variable {handed : KernelServer Worker → SocketRequest Buffer → Prop}

theorem takeRequest_keeps
    (setsUp : SetsUp discipline handed) :
    discipline.Triple () (discipline.ready ()) (plain takeRequest)
      fun request s => discipline.ready () s ∧ handed s request := by
  intro s ready moved relied _ input s' taken allowed
  obtain ⟨server, isTaken, rfl⟩ := Option.map_eq_some_iff.mp taken
  have nowReady := discipline.ready_stable relied ready
  dsimp only at isTaken
  split at isTaken
  · cases isTaken
  · next request rest isPipe =>
      cases isTaken
      have same :
          discipline.rely () moved
            { moved with server := { moved.server with pipe := rest } } :=
        Serves.relies.mpr ⟨⟨fun _ => .inl (.refl _), rfl⟩, rfl⟩
      have stillReady := discipline.ready_stable same nowReady
      refine
        ⟨Serves.sound stillReady, Serves.guarantees _ _, stillReady, ?_⟩
      dsimp only
      rw [isPipe]
      exact setsUp.lasting request same (setsUp.taken allowed isPipe)

theorem handleRequest_keeps
    (setsUp : SetsUp discipline handed)
    (request : SocketRequest Buffer) :
    discipline.Triple ()
      (fun s => discipline.ready () s ∧ handed s request)
      (kernelThread.handleRequest request) fun _ => discipline.ready () := by
  have known
      {program : KernelAction Worker Outcome}
      (keeps :
        discipline.Triple () (discipline.ready ()) program
          fun _ => discipline.ready ()) :
      discipline.Triple ()
        (fun s => discipline.ready () s ∧ handed s request) program
        fun _ => discipline.ready () :=
    keeps_weaken keeps fun _ holds => holds.1
  cases request with
  | resume id opaqueValue =>
      exact known (watched_keeps (resumeSocket_handles id opaqueValue))
  | pause id =>
      exact known (watched_keeps (pauseSocket_handles id))
  | bind id fd opaqueValue =>
      exact setsUp.bindSocket id fd opaqueValue
  | listen id fd opaqueValue =>
      exact setsUp.listenSocket id fd opaqueValue
  | close id shutdown =>
      exact known (watched_keeps (closeSocket_handles id shutdown))
  | connect id port opaqueValue host =>
      exact known (watched_keeps .nullData)
  | exit =>
      exact nullData_triple
  | triggerWrite id =>
      exact known (watched_keeps (triggerWrite_handles id))
  | send request =>
      exact known (watched_keeps (sendRequested_handles request .high))
  | sendLow request =>
      exact known (watched_keeps (sendRequested_handles request .low))
  | sendUdp request address =>
      exact known
        (watched_keeps (sendSocket_handles request .high (some address)))
  | setUdp id address =>
      exact known (quiet_keeps (.setUDPAddress id address))
  | setOpt id what value =>
      exact known
        (.bind (quiet_keeps (.setOptSocket id)) fun _ =>
          .pure fun _ ready => ready)
  | udp id fd family opaqueValue =>
      refine .bind
        (.bind (setsUp.addUDPSocket id fd family opaqueValue) fun ended =>
          keeps_check discipline.ready_stable fun _ ready _ => ready)
        fun _ => .pure fun _ ready => ready
  | unknown type =>
      exact known (.pure fun _ ready => ready)

theorem pollFlags_keeps
    (index : Nat)
    (event : Event) :
    discipline.Triple () (At discipline k Taken)
      (kernelThread.pollFlags index k event) fun _ => discipline.ready () := by
  have handled
      {action : SocketAction Worker Outcome}
      (handles : Handles Taken action fun _ _ => True) :
      discipline.Triple () (At discipline k Taken) (watched k action)
        fun _ => discipline.ready () :=
    Discipline.Triple.mono handles.triple (fun _ holds => holds)
      fun _ _ holds => holds.1
  refine .ite (fun _ => ?_) fun _ => .ite (fun _ => handled sendBuffer_handles)
    fun _ => .ite
      (fun _ => handled (quiet_handles .reportErrno (by decide)))
      fun _ => .ite (fun _ => handled pollEof_handles)
        fun _ => .pure fun _ holds => holds.1
  exact .bind (handled forwardMessage_handles) fun outcome =>
    apart_keeps (.pollAfterRead index event outcome)

theorem pollEvent_keeps
    (setsUp : SetsUp discipline handed)
    (index : Nat)
    (event : Event)
    (type : SocketType) :
    discipline.Triple ()
      (At discipline k fun now => Taken type → now = type)
      (kernelThread.pollEvent index k event type)
      fun _ => discipline.ready () := by
  have flags (taken : Taken type) :
      discipline.Triple ()
        (At discipline k fun now => Taken type → now = type)
        (kernelThread.pollFlags index k event)
        fun _ => discipline.ready () :=
    keeps_weaken (pollFlags_keeps index event)
      fun _ holds => ⟨holds.1, holds.2 taken ▸ taken⟩
  cases type
  case kSocketTypeConnecting =>
    exact Discipline.Triple.mono reportConnect_handles.triple
      (fun _ holds => ⟨holds.1, holds.2 (by decide)⟩) fun _ _ holds => holds.1
  case kSocketTypeListen =>
    exact keeps_weaken (setsUp.reportAccept k) fun _ holds => holds.1
  case kSocketTypeInvalid =>
    exact .pure fun _ holds => holds.1
  all_goals exact flags (by decide)

theorem fetchEvent_keeps :
    discipline.Triple () (discipline.ready ()) (plain fetchEvent)
      fun fetched s =>
        discipline.ready () s ∧
          ∀ k, fetched.2.1.s = some k →
            Taken fetched.2.2 → (s.server.slot k).type = fetched.2.2 := by
  refine keeps_act discipline.ready_stable
    (fun _ _ holds => Serves.sound holds.1) fun input s ready _ => ?_
  have isApart : Apart (fetchEvent : ServerAction Worker _) := .fetchEvent
  have step := (isApart input s.server _ rfl).1
  have others :
      Others s { s with server := _ } :=
    ⟨⟨fun _ => .inl (by rw [step.slot]; exact .refl _), step.reserve_fd⟩, rfl⟩
  refine ⟨discipline.ready_stable (Serves.relies.mpr others) ready, ?_⟩
  intro k isSlot _
  have sameType := congrArg (fun slot => (slot k).type) step.slot
  refine sameType.trans ?_
  dsimp only at isSlot ⊢
  rw [isSlot]
  rfl

theorem pollEvents_keeps
    (setsUp : SetsUp discipline handed) :
    discipline.Triple () (discipline.ready ()) kernelThread.pollEvents
      fun _ => discipline.ready () := by
  have waited :
      discipline.Triple () (discipline.ready ())
        (plain (.ask fun _ s => decide (s.event_index ≠ s.event_n)))
        fun _ => discipline.ready () :=
    apart_keeps (.ask _)
  have fetched :
      discipline.Triple () (discipline.ready ()) (plain epollWait)
        fun _ => discipline.ready () :=
    apart_keeps (.act fun _ _ => ⟨rfl, rfl⟩)
  have either (waiting : Bool) :
      discipline.Triple () (discipline.ready ())
        (pure waiting <||> plain epollWait)
        fun _ => discipline.ready () := by
    cases waiting
    · exact fetched
    · exact .pure fun _ ready => ready
  refine .bind waited fun waiting => .bind (either waiting) fun fetched =>
    .ite (fun _ => ?_) fun _ => .pure fun _ ready => ready
  refine .bind fetchEvent_keeps fun fetched => ?_
  obtain ⟨index, event, type⟩ := fetched
  dsimp only
  split
  · exact .pure fun _ holds => holds.1
  · next k isSlot =>
      refine .bind
        (keeps_weaken (pollEvent_keeps setsUp index event type)
          fun _ holds => ⟨holds.1, holds.2 k isSlot⟩) fun outcome => ?_
      exact apart_keeps (.pollReturn outcome)

theorem pollRequest_keeps
    (setsUp : SetsUp discipline handed) :
    discipline.Triple () (discipline.ready ()) kernelThread.pollRequest
      fun _ => discipline.ready () := by
  refine .bind (.bind (takeRequest_keeps setsUp) fun request =>
    handleRequest_keeps setsUp request) fun outcome => ?_
  cases outcome with
  | none =>
      exact .pure fun _ ready => ready
  | some outcome =>
      exact .bind (apart_keeps (.clearClosedEvent _ _)) fun _ =>
        apart_keeps (.pollReturn _)

theorem pollRound_keeps
    (setsUp : SetsUp discipline handed) :
    discipline.Triple () (discipline.ready ()) pollRound
      fun _ => discipline.ready () := by
  refine .bind (apart_keeps (.ask _)) fun checking =>
    .ite (fun _ => ?_) fun _ => pollEvents_keeps setsUp
  refine .bind (apart_keeps (.ask _)) fun hasCmd =>
    .ite (fun _ => pollRequest_keeps setsUp) fun _ => ?_
  exact .bind (apart_keeps (.act fun _ _ => ⟨rfl, rfl⟩))
    fun _ => pollEvents_keeps setsUp

end Poll

end SocketKernel

end SkynetCpp
