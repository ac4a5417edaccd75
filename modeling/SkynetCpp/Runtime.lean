import SkynetCpp.Foundation.Threads
import SkynetCpp.Dispatch
import SkynetCpp.Launch

namespace SkynetCpp

/-!
# The running node

Any number of threads, each a stack of operations in progress.  A frame says
where its operation stands between two atomic sections: the sections under a
lock and the atomic operations on a reference count.  `Frame.advance` performs
the next section of the top frame and says which frames take its place, so
that a call is a frame put above its caller.  Plain writes belong to the
section before them, and assigning the result of `HandleRegister` to the
section that computes it.

While the code of a service runs, in its callback or in its `init`, the thread
may start any operation.
-/

/-- What the code reads without having written it, and what services answer. -/
structure Unknown where
  /-- The uninitialised local of `MessageQueue::Pop`. -/
  stack : Option Message
  /-- The uninitialised local of `MessageDispatch`. -/
  garbage : Message
  /-- The result of a callback or of an `init`. -/
  answer : Int
  deriving Repr, DecidableEq

/-- Where the turns of one `MessageDispatch` stand. -/
structure Turns where
  ctx : ContextId
  queue : QueueId
  weight : Int
  i : Int
  n : Int
  msg : Message
  deriving Repr, DecidableEq

/-- An operation in progress; the comments name the section that comes next. -/
inductive Frame where
  /-- `ContextPush`: `HandleGrab`. -/
  | contextPush (handle : UInt32) (msg : Message)
  /-- `ContextPush`: `MessageQueue::Push`. -/
  | pushGrabbed (ctx : ContextId) (msg : Message)
  /-- `Context::Release`. -/
  | release (ctx : ContextId)
  /-- `delete` on a context, outside `Context::Release`. -/
  | delete (ctx : ContextId)
  /-- `Endless`: `HandleGrab`. -/
  | endless (handle : UInt32)
  /-- A command of a service: `HandleGrab`. -/
  | grab (handle : UInt32)
  /-- A command of a service, using the context it grabbed. -/
  | grabbed (ctx : ContextId)
  /-- `HandleRetire`: the section under the lock of the table. -/
  | handleRetire (handle : UInt32)
  /-- `SkynetError`: `HandleFindname`. -/
  | skynetError (handle : UInt32) (text : String)
  /-- `NewContext`: the constructor. -/
  | newContext (request : LaunchRequest)
  /-- `NewContext`: the second registration. -/
  | constructed (ctx : ContextId) (mod : Module) (request : LaunchRequest)
  /-- `NewContext`, inside `ModuleInit`. -/
  | initialising (ctx : ContextId) (queue : QueueId) (request : LaunchRequest)
  /-- `NewContext`: `Context::Release` after a successful `ModuleInit`. -/
  | launchRelease (ctx : ContextId) (queue : QueueId) (request : LaunchRequest)
  /-- `NewContext`: `GlobalQueue::Push`. -/
  | launchPush (queue : QueueId)
  /-- `NewContext`: `Context::Release` after a failed `ModuleInit`. -/
  | launchFailed (ctx : ContextId) (queue : QueueId)
  /-- `MessageQueue::Release`: the section that tests the mark. -/
  | queueRelease (queue : QueueId) (handle : UInt32)
  /-- `MessageQueue::Release`: `Pop` of the dropping loop. -/
  | draining (queue : QueueId) (handle : UInt32)
  /-- `MessageDispatch`: `GlobalQueue::Pop`, or `HandleGrab` for a given queue. -/
  | messageDispatch (queue : Option QueueId) (weight : Int)
  /-- `MessageDispatch`: the test of the loop, then `Pop` or `GlobalQueue::Pop`. -/
  | dispatchPop (turns : Turns)
  /-- `MessageDispatch`: `Length`. -/
  | dispatchLength (turns : Turns)
  /-- `MessageDispatch`: `Overload`, and the call of the callback. -/
  | dispatchTurn (turns : Turns)
  /-- `MessageDispatch`, inside the callback. -/
  | callback (turns : Turns)
  /-- `MessageDispatch`: `GlobalQueue::Push` of the queue, to go on with another. -/
  | dispatchBack (turns : Turns) (next : QueueId)
  /-- `MessageDispatch`: `GlobalQueue::Pop` of an early return. -/
  | dispatchNext (weight : Int)
  deriving Repr, DecidableEq

namespace Frame

/-- The context whose service code runs in a frame, with a reference to it. -/
def running : Frame → Option ContextId
  | .grabbed ctx => some ctx
  | .initialising ctx _ _ => some ctx
  | .callback turns => some turns.ctx
  | _ => none

/-- What `DropMessage` does first: the frames of the `ServiceSend` it makes. -/
def dropMessage
    (s : System)
    (handle : UInt32)
    (msg : Message) : Except Fault (List Frame) :=
  if handle = 0 then
    .error (.assertion "source")
  else if msg.source = 0 then
    .ok []
  else do
    if ← harborMessageIsRemote s msg.source then
      .error .nullPointer
    else
      .ok
        [.contextPush msg.source
          { source := handle
            session := 0
            data := none
            sz := encodeSz 0 kPtypeError }]

/-- The next section of an operation: the frames that replace it, the state. -/
def advance
    (unknown : Unknown)
    (s : System) : Frame → Except Fault (List Frame × System)
  | .contextPush handle msg =>
      match handleGrab s handle with
      | (none, s) => .ok ([], s)
      | (some ctx, s) => .ok ([.pushGrabbed ctx msg], s)
  | .pushGrabbed ctx msg => do
      let queues ← messageQueuePush s.queues (s.contexts ctx).queue msg
      .ok ([.release ctx, .delete ctx], { s with queues := queues })
  | .release ctx => do
      let (_, s) ← contextRelease s ctx
      .ok ([], s)
  | .delete ctx => .ok ([], deleteContext s ctx)
  | .endless handle =>
      match handleGrab s handle with
      | (none, s) => .ok ([], s)
      | (some ctx, s) =>
          .ok ([.release ctx],
            s.modify ctx fun context => { context with endless := true })
  | .grab handle =>
      match handleGrab s handle with
      | (none, s) => .ok ([], s)
      | (some ctx, s) => .ok ([.grabbed ctx], s)
  | .grabbed ctx => .ok ([.release ctx], s)
  | .handleRetire handle =>
      match handleUnlink s handle with
      | (none, s) => .ok ([], s)
      | (some ctx, s) => .ok ([.release ctx], s)
  | .skynetError handle text =>
      if handle = 0xffffffff then
        .ok ([], s)
      else
        let logger := s.logger.getD (handleFindname s "logger")
        let s := { s with logger := some logger }
        if logger = 0 then
          .ok ([], s)
        else
          .ok ([.contextPush logger (errorMessage handle text)], s)
  | .newContext request => do
      let mod ← createInstance request
      let (ctx, s) ← constructContext s mod
      .ok ([.constructed ctx mod request], s)
  | .constructed ctx mod request => do
      let s ← enrollContext s ctx
      if mod.init then
        .ok ([.initialising ctx (s.contexts ctx).queue request], s)
      else
        .error (.exception "Module does not have an init function")
  | .initialising ctx queue request =>
      if unknown.answer = 0 then
        .ok ([.launchRelease ctx queue request], s)
      else
        .ok
          ([.skynetError (s.contexts ctx).handle
              ("FAILED launch " ++ request.name),
            .launchFailed ctx queue], s)
  | .launchRelease ctx queue request => do
      let (ret, s) ← contextRelease s ctx
      if ret then
        .ok
          ([.delete ctx, .launchPush queue,
            .skynetError (s.contexts ctx).handle
              ("LAUNCH " ++ request.name ++ request.param)], s)
      else
        .ok ([.launchPush queue],
          s.modify ctx fun context => { context with init := true })
  | .launchPush queue => do
      let s ← pushGlobalQueue s queue
      .ok ([], s)
  | .launchFailed ctx queue => do
      let handle := (s.contexts ctx).handle
      let (_, s) ← contextRelease s ctx
      .ok ([.handleRetire handle, .queueRelease queue handle], s)
  | .queueRelease queue handle =>
      if (s.queues.mq queue).release then
        .ok ([.draining queue handle], s)
      else do
        let s ← pushGlobalQueue s queue
        .ok ([], s)
  | .draining queue handle =>
      match messageQueuePop s.queues queue unknown.stack with
      | (some msg, queues) => do
          let dropping ← dropMessage s handle msg
          .ok (dropping ++ [.draining queue handle],
            { s with queues := queues })
      | (none, queues) =>
          if (queues.mq queue).next = none then
            .ok ([], deleteQueue { s with queues := queues } queue)
          else
            .error (.assertion "this->next_ == nullptr")
  | .messageDispatch none weight => do
      let (queue, s) ← popGlobalQueue s
      .ok ([.messageDispatch queue weight], s)
  | .messageDispatch (some queue) weight =>
      let handle := (s.queues.mq queue).handle
      match handleGrab s handle with
      | (none, s) => .ok ([.queueRelease queue handle, .dispatchNext weight], s)
      | (some ctx, s) =>
          .ok
            ([.dispatchPop
                { ctx := ctx
                  queue := queue
                  weight := weight
                  i := 0
                  n := 1
                  msg := unknown.garbage }], s)
  | .dispatchPop turns =>
      if turns.i < turns.n then
        match messageQueuePop s.queues turns.queue unknown.stack with
        | (some _, queues) =>
            .ok ([.release turns.ctx, .dispatchNext turns.weight],
              { s with queues := queues })
        | (none, queues) =>
            if turns.i = 0 ∧ 0 ≤ turns.weight then
              .ok ([.dispatchLength turns], { s with queues := queues })
            else
              .ok ([.dispatchTurn turns], { s with queues := queues })
      else if turns.queue = (s.contexts turns.ctx).queue then do
        match ← popGlobalQueue s with
        | (some next, s) => .ok ([.dispatchBack turns next], s)
        | (none, s) =>
            .ok ([.release turns.ctx,
              .messageDispatch (some turns.queue) turns.weight], s)
      else
        .error (.assertion "message_queue == ctx->queue_")
  | .dispatchLength turns =>
      let length := messageQueueLength s.queues turns.queue
      .ok ([.dispatchTurn { turns with n := length >>> turns.weight.toNat }], s)
  | .dispatchTurn turns =>
      let s := { s with queues := (messageQueueOverload s.queues turns.queue).2 }
      match (s.contexts turns.ctx).cb with
      | none =>
          .ok
            ([.dispatchPop
                { turns with
                  i := turns.i + 1
                  msg := { turns.msg with data := none } }], s)
      | some _ =>
          if (s.contexts turns.ctx).init then
            .ok ([.callback turns],
              s.modify turns.ctx fun context =>
                { context with
                  messageCount := context.messageCount + 1
                  cpuStart := if context.profile then 0 else context.cpuStart })
          else
            .error (.assertion "ctx->init_")
  | .callback turns =>
      let msg :=
        if unknown.answer = 0 then { turns.msg with data := none }
        else turns.msg
      .ok ([.dispatchPop { turns with i := turns.i + 1, msg := msg }], s)
  | .dispatchBack turns next => do
      let s ← pushGlobalQueue s turns.queue
      .ok ([.release turns.ctx, .messageDispatch (some next) turns.weight], s)
  | .dispatchNext weight => do
      let (queue, s) ← popGlobalQueue s
      .ok ([.messageDispatch queue weight], s)

/-- Dropping a message starts at most a push of the error. -/
theorem dropMessage_cases
    {s : System}
    {handle : UInt32}
    {msg : Message}
    {frames : List Frame}
    (drops : dropMessage s handle msg = .ok frames) :
    frames = [] ∨ ∃ error, frames = [.contextPush msg.source error] := by
  unfold dropMessage at drops
  split at drops
  · cases drops
  · split at drops
    · injection drops with isFrames
      exact Or.inl isFrames.symm
    · simp only [bind_eq_ok_iff] at drops
      obtain ⟨isRemote, _, drops⟩ := drops
      split at drops
      · cases drops
      · injection drops with isFrames
        exact Or.inr ⟨_, isFrames.symm⟩

/-- The operations that a thread starts. -/
def isOperation : Frame → Bool
  | .contextPush .. => true
  | .endless .. => true
  | .grab .. => true
  | .handleRetire .. => true
  | .skynetError .. => true
  | .newContext .. => true
  | .messageDispatch .. => true
  | _ => false

end Frame

/-- What a thread does next. -/
inductive Action where
  /-- Perform the next section of the operation in progress. -/
  | advance (unknown : Unknown)
  /-- Start an operation. -/
  | call (operation : Frame)
  /-- `ServiceCallback` by the code of a service. -/
  | serviceCallback (cb : Option Nat)
  /-- `HarborStart` by the code of a service, which reserves its context. -/
  | harborStart
  /-- `HarborExit`, which releases the context reserved last. -/
  | harborExit
  deriving Repr, DecidableEq

/-- The node and its threads. -/
structure Runtime (Thread : Type) where
  system : System
  stackOf : Thread → List Frame
  /-- `kRemote`. -/
  remote : Option ContextId
  /-- How many reservations of each context were not given back. -/
  reserved : ContextId → Nat

namespace Runtime

variable
    {Thread : Type}
    [DecidableEq Thread]

/-- Whether a thread may start an operation: service code runs, or nothing does. -/
def isFree : List Frame → Bool
  | [] => true
  | frame :: _ => frame.running.isSome

/-- One step of one thread; a step that faults ends the program. -/
def next?
    (rt : Runtime Thread) :
    Thread × Action → Option (Runtime Thread)
  | (thread, .advance unknown) =>
      match rt.stackOf thread with
      | [] => none
      | frame :: rest =>
          match frame.advance unknown rt.system with
          | .ok (frames, s) =>
              some
                { rt with
                  system := s
                  stackOf :=
                    Function.update rt.stackOf thread (frames ++ rest) }
          | .error _ => none
  | (thread, .call operation) =>
      if isFree (rt.stackOf thread) && operation.isOperation then
        some
          { rt with
            stackOf :=
              Function.update rt.stackOf thread
                (operation :: rt.stackOf thread) }
      else
        none
  | (thread, .serviceCallback cb) =>
      match (rt.stackOf thread).head?.bind Frame.running with
      | some ctx =>
          some { rt with system := serviceCallback rt.system ctx cb }
      | none => none
  | (thread, .harborStart) =>
      match (rt.stackOf thread).head?.bind Frame.running with
      | some ctx =>
          some
            { rt with
              system := contextReserve rt.system ctx
              remote := some ctx
              reserved :=
                Function.update rt.reserved ctx (rt.reserved ctx + 1) }
      | none => none
  | (thread, .harborExit) =>
      match rt.remote with
      | some ctx =>
          if isFree (rt.stackOf thread) then
            some
              { rt with
                stackOf :=
                  Function.update rt.stackOf thread
                    (.release ctx :: rt.stackOf thread)
                remote := none
                reserved :=
                  Function.update rt.reserved ctx (rt.reserved ctx - 1) }
          else
            none
      | none => none

/-- A step through an operation performs the next section of the top frame. -/
theorem next?_advance
    {rt rt' : Runtime Thread}
    {thread : Thread}
    {unknown : Unknown}
    (taken : rt.next? (thread, .advance unknown) = some rt') :
    ∃ frame rest frames s,
      rt.stackOf thread = frame :: rest ∧
        frame.advance unknown rt.system = .ok (frames, s) ∧
        rt' =
          { rt with
            system := s
            stackOf :=
              Function.update rt.stackOf thread (frames ++ rest) } := by
  simp only [next?] at taken
  split at taken
  · cases taken
  · next frame rest isTop =>
      split at taken
      · next frames s advanced =>
          injection taken with isState
          exact ⟨frame, rest, frames, s, isTop, advanced, isState.symm⟩
      · cases taken

/-- A call puts an operation on top of the stack. -/
theorem next?_call
    {rt rt' : Runtime Thread}
    {thread : Thread}
    {operation : Frame}
    (taken : rt.next? (thread, .call operation) = some rt') :
    isFree (rt.stackOf thread) = true ∧ operation.isOperation = true ∧
      rt' =
        { rt with
          stackOf :=
            Function.update rt.stackOf thread
              (operation :: rt.stackOf thread) } := by
  simp only [next?] at taken
  split at taken
  · next starts =>
      injection taken with isState
      rw [Bool.and_eq_true] at starts
      exact ⟨starts.1, starts.2, isState.symm⟩
  · cases taken

/-- Service code that installs a callback installs it in its own context. -/
theorem next?_serviceCallback
    {rt rt' : Runtime Thread}
    {thread : Thread}
    {cb : Option Nat}
    (taken : rt.next? (thread, .serviceCallback cb) = some rt') :
    ∃ ctx,
      (rt.stackOf thread).head?.bind Frame.running = some ctx ∧
        rt' = { rt with system := serviceCallback rt.system ctx cb } := by
  simp only [next?] at taken
  split at taken
  · next ctx runs =>
      injection taken with isState
      exact ⟨ctx, runs, isState.symm⟩
  · cases taken

end Runtime

end SkynetCpp
