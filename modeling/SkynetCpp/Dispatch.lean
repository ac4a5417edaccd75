import SkynetCpp.Service

namespace SkynetCpp

/-!
# Dispatching messages

The dispatching half of `service.cpp`, as functions that one worker runs
without interruption.  What an installed callback does is a parameter: it may
change the whole state and answers whether it keeps the message.  `stack k`
is what the uninitialised local of the `k`-th `Pop` holds.
-/

/-- The arguments of one callback invocation. -/
structure Invocation where
  ctx : ContextId
  ud : Nat
  type : Int
  session : Int
  source : UInt32
  msg : Option Payload
  sz : UInt64
  deriving Repr, DecidableEq

/-- What the installed callbacks do. -/
abbrev Callback := Invocation → System → Int × System

/-- What the callback of a context is invoked with for a message. -/
def invocation
    (ctx : ContextId)
    (ud : Nat)
    (msg : Message) : Invocation where
  ctx := ctx
  ud := ud
  type := (msg.sz >>> kMessageTypeShift).toNat
  session := msg.session
  source := msg.source
  msg := msg.data
  sz := msg.sz &&& kMessageTypeMask

/-- The state after a stretch of dispatching: what was invoked, the local `msg`. -/
structure Dispatched where
  invoked : List Invocation
  msg : Message
  system : System

/--
`DispatchMessage`.  Thread times are stubs that are always 0; calling an empty
callback throws.
-/
def dispatchMessage
    (callback : Callback)
    (s : System)
    (ctx : ContextId)
    (msg : Message) : Except Fault Dispatched :=
  if (s.contexts ctx).init then
    let counted := s.modify ctx fun context =>
      { context with
        messageCount := context.messageCount + 1
        cpuStart := if context.profile then 0 else context.cpuStart }
    match (s.contexts ctx).cb with
    | some ud =>
        let invoked := invocation ctx ud msg
        let answer := callback invoked counted
        .ok
          { invoked := [invoked]
            msg := if answer.1 = 0 then { msg with data := none } else msg
            system := answer.2 }
    | none => .error (.exception "bad_function_call")
  else
    .error (.assertion "ctx->init_")

/-- The body of the loop of `MessageDispatch` after its `Pop`. -/
def dispatchTurn
    (callback : Callback)
    (queue : QueueId)
    (ctx : ContextId)
    (msg : Message)
    (s : System) : Except Fault Dispatched :=
  let s := { s with queues := (messageQueueOverload s.queues queue).2 }
  match (s.contexts ctx).cb with
  | none =>
      .ok { invoked := [], msg := { msg with data := none }, system := s }
  | some _ => dispatchMessage callback s ctx msg

/--
The turns of the loop of `MessageDispatch` from the second on; true when a
`Pop` ended them early.
-/
def dispatchTurns
    (callback : Callback)
    (stack : Nat → Option Message)
    (queue : QueueId)
    (ctx : ContextId) :
    Nat → Nat → Message → System → Except Fault (Bool × Dispatched)
  | 0, _, msg, s => .ok (false, { invoked := [], msg := msg, system := s })
  | turns + 1, i, msg, s =>
      match messageQueuePop s.queues queue (stack i) with
      | (some _, queues) =>
          .ok (true,
            { invoked := []
              msg := msg
              system := { s with queues := queues } })
      | (none, queues) => do
          let turn ←
            dispatchTurn callback queue ctx msg { s with queues := queues }
          let (early, rest) ←
            dispatchTurns callback stack queue ctx turns (i + 1)
              turn.msg turn.system
          .ok (early, { rest with invoked := turn.invoked ++ rest.invoked })

/-- `n` after the first turn, for the length that turn saw. -/
def dispatchCount
    (weight : Int)
    (length : Int) : Int :=
  if 0 ≤ weight then length >>> weight.toNat else 1

/--
The loop of `MessageDispatch`.  Its first turn sets the number of turns, so
the others are counted down.
-/
def dispatchLoop
    (callback : Callback)
    (stack : Nat → Option Message)
    (garbage : Message)
    (queue : QueueId)
    (ctx : ContextId)
    (weight : Int)
    (s : System) : Except Fault (Bool × Dispatched) :=
  match messageQueuePop s.queues queue (stack 0) with
  | (some _, queues) =>
      .ok (true,
        { invoked := []
          msg := garbage
          system := { s with queues := queues } })
  | (none, queues) => do
      let n := dispatchCount weight (messageQueueLength queues queue)
      let turn ←
        dispatchTurn callback queue ctx garbage { s with queues := queues }
      let (early, rest) ←
        dispatchTurns callback stack queue ctx (n - 1).toNat 1
          turn.msg turn.system
      .ok (early, { rest with invoked := turn.invoked ++ rest.invoked })

/-- `GlobalQueue::Pop` on the whole state. -/
def popGlobalQueue
    (s : System) : Except Fault (Option QueueId × System) :=
  match globalQueuePop s.queues with
  | .ok (queue, queues) => .ok (queue, { s with queues := queues })
  | .error fault => .error fault

/-- A pop from the global queue writes the message queues only. -/
theorem popGlobalQueue_eq_ok_iff
    {s s' : System}
    {queue : Option QueueId} :
    popGlobalQueue s = .ok (queue, s') ↔
      ∃ queues,
        globalQueuePop s.queues = .ok (queue, queues) ∧
          { s with queues := queues } = s' := by
  unfold popGlobalQueue
  cases globalQueuePop s.queues with
  | error fault =>
      simp
  | ok popped =>
      obtain ⟨taken, queues⟩ := popped
      simp only [Except.ok.injEq, Prod.mk.injEq]
      constructor
      · rintro ⟨same, isState⟩
        exact ⟨queues, ⟨same, rfl⟩, isState⟩
      · rintro ⟨_, ⟨same, isQueues⟩, isState⟩
        exact ⟨same, isQueues ▸ isState⟩

/-- The end of `MessageDispatch` after all turns: the queue to go on with. -/
def dispatchFinish
    (queue : QueueId)
    (ctx : ContextId)
    (s : System) : Except Fault (Option QueueId × System) :=
  if queue = (s.contexts ctx).queue then do
    match ← popGlobalQueue s with
    | (some next, s) =>
        let s ← pushGlobalQueue s queue
        let (_, s) ← contextRelease s ctx
        .ok (some next, s)
    | (none, s) =>
        let (_, s) ← contextRelease s ctx
        .ok (some queue, s)
  else
    .error (.assertion "message_queue == ctx->queue_")

/-- `MessageDispatch` once it has a queue. -/
def dispatchQueue
    (callback : Callback)
    (stack : Nat → Option Message)
    (garbage : Message)
    (fuel : Nat)
    (weight : Int)
    (queue : QueueId)
    (s : System) : Except Fault (Option QueueId × List Invocation × System) :=
  let handle := (s.queues.mq queue).handle
  match handleGrab s handle with
  | (none, s) => do
      let s ← messageQueueRelease s queue handle stack fuel
      let (next, s) ← popGlobalQueue s
      .ok (next, [], s)
  | (some ctx, s) => do
      let (early, dispatched) ←
        dispatchLoop callback stack garbage queue ctx weight s
      if early then
        let (_, s) ← contextRelease dispatched.system ctx
        let (next, s) ← popGlobalQueue s
        .ok (next, dispatched.invoked, s)
      else
        let (next, s) ← dispatchFinish queue ctx dispatched.system
        .ok (next, dispatched.invoked, s)

/--
`MessageDispatch`, with the invocations it made.  `garbage` is its
uninitialised local `msg`, and `fuel` bounds the loop that drops the messages
of a retired service.
-/
def messageDispatch
    (callback : Callback)
    (stack : Nat → Option Message)
    (garbage : Message)
    (fuel : Nat)
    (s : System)
    (messageQueue : Option QueueId)
    (weight : Int) :
    Except Fault (Option QueueId × List Invocation × System) :=
  match messageQueue with
  | some queue => dispatchQueue callback stack garbage fuel weight queue s
  | none => do
      match ← popGlobalQueue s with
      | (some queue, s) =>
          dispatchQueue callback stack garbage fuel weight queue s
      | (none, s) => .ok (none, [], s)

/-- The loop of `Context::DispatchAll`. -/
def dispatchAllLoop
    (callback : Callback)
    (stack : Nat → Option Message)
    (queue : QueueId)
    (ctx : ContextId) :
    Nat → Nat → Message → System → Except Fault Dispatched
  | 0, _, _, _ => .error .running
  | fuel + 1, i, msg, s =>
      match messageQueuePop s.queues queue (stack i) with
      | (some _, queues) =>
          .ok
            { invoked := []
              msg := msg
              system := { s with queues := queues } }
      | (none, queues) => do
          let turn ← dispatchMessage callback { s with queues := queues } ctx msg
          let rest ←
            dispatchAllLoop callback stack queue ctx fuel (i + 1)
              turn.msg turn.system
          .ok { rest with invoked := turn.invoked ++ rest.invoked }

/-- `Context::DispatchAll`. -/
def dispatchAll
    (callback : Callback)
    (stack : Nat → Option Message)
    (garbage : Message)
    (fuel : Nat)
    (s : System)
    (ctx : ContextId) : Except Fault Dispatched :=
  dispatchAllLoop callback stack (s.contexts ctx).queue ctx fuel 0 garbage s

/-- `Endless`. -/
def endless
    (s : System)
    (handle : UInt32) : Except Fault System :=
  match handleGrab s handle with
  | (none, s) => .ok s
  | (some ctx, s) =>
      let marked := s.modify ctx fun context => { context with endless := true }
      return (← contextRelease marked ctx).2

end SkynetCpp
