import SkynetCpp.Handle

namespace SkynetCpp

/-!
# Sending messages to services

The sending half of `service.cpp`, with `SkynetError` and the harbor test it
needs, as functions that one thread runs without interruption.  An `int` type
is its bit pattern.
-/

/-- `Context::Newsession`. -/
def newsession
    (s : System)
    (ctx : ContextId) : Int × System :=
  let session := toInt32 ((s.contexts ctx).sessionId + 1)
  let session := if session ≤ 0 then 1 else session
  (session, s.modify ctx fun context => { context with sessionId := session })

/-- The copy that `_FilterArgs` makes of a payload, ended by a zero byte. -/
def copyPayload
    (sz : UInt64) : Payload → Payload
  | .bytes content => .bytes (content.take sz.toNat ++ [0])
  | .remote message => .remote message
  | .socket message => .socket message

/-- What `_FilterArgs` writes through its pointers. -/
structure Filtered where
  session : Int
  data : Option Payload
  sz : UInt64
  deriving Repr, DecidableEq

/-- `_FilterArgs`. -/
def filterArgs
    (s : System)
    (ctx : Option ContextId)
    (type : UInt32)
    (session : Int)
    (data : Option Payload)
    (sz : UInt64) : Except Fault (Filtered × System) :=
  let needcopy := type &&& kPtypeTagDontcopy = 0
  let data' := if needcopy then data.map (copyPayload sz) else data
  let sz' := encodeSz sz (type &&& 0xff)
  if type &&& kPtypeTagAllocsession ≠ 0 then
    if session = 0 then
      match ctx with
      | some ctx =>
          let allocated := newsession s ctx
          .ok ({ session := allocated.1, data := data', sz := sz' },
            allocated.2)
      | none => .error .nullPointer
    else
      .error (.assertion "*session == 0")
  else
    .ok ({ session := session, data := data', sz := sz' }, s)

/--
`ContextPush`.  The context is deleted after its reference was released, in
use or not.
-/
def contextPush
    (s : System)
    (handle : UInt32)
    (msg : Message) : Except Fault (Bool × System) :=
  match handleGrab s handle with
  | (none, s) => .ok (false, s)
  | (some ctx, s) => do
      let queues ← messageQueuePush s.queues (s.contexts ctx).queue msg
      let (_, s) ← contextRelease { s with queues := queues } ctx
      .ok (true, deleteContext s ctx)

/-- The message that `SkynetError` sends; `sz` is the size of a pointer. -/
def errorMessage
    (handle : UInt32)
    (msg : String) : Message where
  source := handle
  session := 0
  data := some (.bytes msg.toUTF8.toList)
  sz := encodeSz 8 kPtypeText

/--
`SkynetError`.  The static `logger` is initialised by the first call that
reaches it.
-/
def skynetError
    (s : System)
    (handle : UInt32)
    (msg : String) : Except Fault System :=
  if handle = 0xffffffff then
    .ok s
  else
    let logger := s.logger.getD (handleFindname s "logger")
    let s := { s with logger := some logger }
    if logger = 0 then
      .ok s
    else
      return (← contextPush s logger (errorMessage handle msg)).2

/-- `HarborMessageIsRemote`. -/
def harborMessageIsRemote
    (s : System)
    (handle : UInt32) : Except Fault Bool :=
  if s.harbor = 0xffffffff then
    .error (.assertion "kHarbor != ~0")
  else
    let h := handle &&& ~~~kHandleMask
    .ok (h ≠ s.harbor ∧ h ≠ 0)

/-- The source of a message; 0 stands for the sending context. -/
def sendingSource
    (s : System)
    (ctx : Option ContextId)
    (source : UInt32) : Except Fault UInt32 :=
  if source = 0 then
    match ctx with
    | some ctx => .ok (s.contexts ctx).handle
    | none => .error .nullPointer
  else
    .ok source

/--
`ServiceSend`.  A remote message is written through a null pointer.
-/
def serviceSend
    (s : System)
    (ctx : Option ContextId)
    (source destination : UInt32)
    (type : UInt32)
    (session : Int)
    (data : Option Payload)
    (sz : UInt64) : Except Fault (Int × System) :=
  if sz &&& kMessageTypeMask ≠ sz then
    -- `SkynetError(-1, ..)` returns at once.
    .ok (-2, s)
  else do
    let (args, s) ← filterArgs s ctx type session data sz
    let source ← sendingSource s ctx source
    if destination = 0 then
      if args.data.isSome then
        .ok (-1, s)
      else
        .ok (args.session, s)
    else if ← harborMessageIsRemote s destination then
      .error .nullPointer
    else
      let smsg : Message :=
        { source := source
          session := args.session
          data := args.data
          sz := args.sz }
      let (pushed, s) ← contextPush s destination smsg
      if pushed then
        .ok (-1, s)
      else
        .ok (args.session, s)

/-- `GlobalQueue::Push` on the whole state. -/
def pushGlobalQueue
    (s : System)
    (queue : QueueId) : Except Fault System :=
  match globalQueuePush s.queues queue with
  | .ok queues => .ok { s with queues := queues }
  | .error fault => .error fault

/-- A push to the global queue writes the message queues only. -/
theorem pushGlobalQueue_eq_ok_iff
    {s s' : System}
    {queue : QueueId} :
    pushGlobalQueue s queue = .ok s' ↔
      ∃ queues,
        globalQueuePush s.queues queue = .ok queues ∧
          { s with queues := queues } = s' := by
  unfold pushGlobalQueue
  cases globalQueuePush s.queues queue <;> simp

/-- `DropMessage`, for the queue of a service with the given handle. -/
def dropMessage
    (s : System)
    (handle : UInt32)
    (msg : Message) : Except Fault System :=
  if handle = 0 then
    .error (.assertion "source")
  else
    return (← serviceSend s none handle msg.source kPtypeError 0 none 0).2

/--
The loop of `MessageQueue::Release` that drops the messages.  `stack k` is
what the uninitialised local of the `k`-th `Pop` holds.
-/
def dropMessages
    (queue : QueueId)
    (handle : UInt32)
    (stack : Nat → Option Message) :
    Nat → Nat → System → Except Fault System
  | 0, _, _ => .error .running
  | fuel + 1, k, s =>
      match messageQueuePop s.queues queue (stack k) with
      | (some msg, queues) => do
          let s ← dropMessage { s with queues := queues } handle msg
          dropMessages queue handle stack fuel (k + 1) s
      | (none, queues) => .ok { s with queues := queues }

/-- `delete` on a message queue. -/
def deleteQueue
    (s : System)
    (queue : QueueId) : System :=
  { s with
    queues := s.queues.modify queue fun mq =>
      { mq with deleted := mq.deleted + 1 } }

/--
`MessageQueue::Release`.  The destructor's assertion is the one made before
the `delete`.
-/
def messageQueueRelease
    (s : System)
    (queue : QueueId)
    (handle : UInt32)
    (stack : Nat → Option Message)
    (fuel : Nat) : Except Fault System :=
  if (s.queues.mq queue).release then do
    let s ← dropMessages queue handle stack fuel 0 s
    if (s.queues.mq queue).next = none then
      .ok (deleteQueue s queue)
    else
      .error (.assertion "this->next_ == nullptr")
  else
    pushGlobalQueue s queue

/-!
## What a send keeps

A relation between the states before and after is kept by whole sends if it is
kept by the few writes that a send is made of.
-/

/-- The writes of a send, each of which keeps the relation. -/
structure KeptBySends (kept : System → System → Prop) : Prop where
  refl : ∀ s, kept s s
  trans : ∀ {s t u}, kept s t → kept t u → kept s u
  logger : ∀ s logger, kept s { s with logger := logger }
  newsession : ∀ s ctx, kept s (newsession s ctx).2
  grab : ∀ s handle, kept s (handleGrab s handle).2
  push :
    ∀ {s : System} {queue msg queues},
      messageQueuePush s.queues queue msg = .ok queues →
        kept s { s with queues := queues }
  release :
    ∀ {s ctx inUse s'}, contextRelease s ctx = .ok (inUse, s') → kept s s'
  delete : ∀ s ctx, kept s (deleteContext s ctx)

namespace KeptBySends

variable
    {kept : System → System → Prop}
    {s s' : System}

theorem contextPush
    (writes : KeptBySends kept)
    {handle : UInt32}
    {msg : Message}
    {pushed : Bool}
    (returned : contextPush s handle msg = .ok (pushed, s')) :
    kept s s' := by
  have grabs := writes.grab s handle
  unfold SkynetCpp.contextPush at returned
  rcases grabbed : handleGrab s handle with ⟨found, t⟩
  rw [grabbed] at grabs
  cases found with
  | none =>
      simp only [grabbed, Except.ok.injEq, Prod.mk.injEq] at returned
      rw [← returned.2]
      exact grabs
  | some ctx =>
      simp only [grabbed, bind_eq_ok_iff] at returned
      obtain ⟨queues, push, ⟨inUse, released⟩, release, isResult⟩ := returned
      injection isResult with isResult
      injection isResult with _ isResult
      rw [← isResult]
      have pushes := writes.trans grabs (writes.push push)
      have releases := writes.trans pushes (writes.release release)
      exact writes.trans releases (writes.delete released ctx)

theorem skynetError
    (writes : KeptBySends kept)
    {handle : UInt32}
    {msg : String}
    (returned : skynetError s handle msg = .ok s') :
    kept s s' := by
  unfold SkynetCpp.skynetError at returned
  split at returned
  · injection returned with isSame
    rw [isSame]
    exact writes.refl s'
  · have named :=
      writes.logger s (some (s.logger.getD (handleFindname s "logger")))
    dsimp only at returned
    split at returned
    · injection returned with isSame
      rw [← isSame]
      exact named
    · simp only [bind_eq_ok_iff] at returned
      obtain ⟨⟨pushed, t⟩, push, isResult⟩ := returned
      injection isResult with isResult
      rw [← isResult]
      exact writes.trans named (writes.contextPush push)

theorem filterArgs
    (writes : KeptBySends kept)
    {ctx : Option ContextId}
    {type : UInt32}
    {session : Int}
    {data : Option Payload}
    {sz : UInt64}
    {args : Filtered}
    (returned : filterArgs s ctx type session data sz = .ok (args, s')) :
    kept s s' := by
  unfold SkynetCpp.filterArgs at returned
  dsimp only at returned
  split at returned
  · split at returned
    · cases ctx with
      | none =>
          cases returned
      | some ctx =>
          injection returned with returned
          injection returned with _ isState
          rw [← isState]
          exact writes.newsession s ctx
    · cases returned
  · injection returned with returned
    injection returned with _ isState
    rw [← isState]
    exact writes.refl s

theorem serviceSend
    (writes : KeptBySends kept)
    {ctx : Option ContextId}
    {source destination type : UInt32}
    {session result : Int}
    {data : Option Payload}
    {sz : UInt64}
    (returned :
      serviceSend s ctx source destination type session data sz =
        .ok (result, s')) :
    kept s s' := by
  unfold SkynetCpp.serviceSend at returned
  split at returned
  · injection returned with returned
    injection returned with _ isState
    rw [← isState]
    exact writes.refl s
  · simp only [bind_eq_ok_iff] at returned
    obtain ⟨⟨args, t⟩, filtered, source', _, returned⟩ := returned
    have filters := writes.filterArgs filtered
    split at returned
    · split at returned
      all_goals
        injection returned with returned
        injection returned with _ isState
        rw [← isState]
        exact filters
    · simp only [bind_eq_ok_iff] at returned
      obtain ⟨remote, _, returned⟩ := returned
      split at returned
      · cases returned
      · simp only [bind_eq_ok_iff] at returned
        obtain ⟨⟨pushed, u⟩, push, returned⟩ := returned
        have pushes := writes.trans filters (writes.contextPush push)
        split at returned
        all_goals
          injection returned with returned
          injection returned with _ isState
          rw [← isState]
          exact pushes

theorem dropMessage
    (writes : KeptBySends kept)
    {handle : UInt32}
    {msg : Message}
    (returned : dropMessage s handle msg = .ok s') :
    kept s s' := by
  unfold SkynetCpp.dropMessage at returned
  split at returned
  · cases returned
  · simp only [bind_eq_ok_iff] at returned
    obtain ⟨⟨result, t⟩, sent, isResult⟩ := returned
    injection isResult with isResult
    rw [← isResult]
    exact writes.serviceSend sent

end KeptBySends

end SkynetCpp
