import SkynetCpp.Service

namespace SkynetCpp

/-!
# Launching services

`Context::Context` and `NewContext`.  What lies outside the program is a
parameter: the module that `Modules::Query` finds, whether its `create`
returns an instance, and what its `init` does.
-/

/-- One call of `NewContext`, with what the module system answers to it. -/
structure LaunchRequest where
  name : String
  param : String
  /-- The result of `Modules::Query`. -/
  mod : Option Module
  /-- Whether the instance that `create` returns is not null. -/
  inst : Bool
  deriving Repr, DecidableEq

/-- A context as the constructor leaves it before `HandleRegister`. -/
def freshContext
    (s : System)
    (mod : Module) : Context where
  mod := mod
  handle := 0
  ref := 2
  queue := s.nextQueue
  cb := none
  sessionId := 0
  init := false
  endless := false
  messageCount := 0
  profile := s.profile
  cpuCost := 0
  cpuStart := 0
  deleted := 0

/--
Registering a context and giving it the handle and a new queue.  These lines
stand both at the end of the constructor and in `NewContext`.
-/
def enrollContext
    (s : System)
    (ctx : ContextId) : Except Fault System :=
  match handleRegister s ctx with
  | .ok (handle, s) =>
      let queue := s.nextQueue
      let enrolled :=
        s.modify ctx fun context =>
          { context with handle := handle, queue := queue }
      .ok
        { enrolled with
          queues :=
            { s.queues with
              mq := Function.update s.queues.mq queue (newMessageQueue handle) }
          nextQueue := queue + 1
          total := s.total + 1 }
  | .error fault => .error fault

/-- Entering a context leaves every other one alone. -/
theorem enrollContext_of_ne
    {s s' : System}
    {ctx other : ContextId}
    (returned : enrollContext s ctx = .ok s')
    (different : other ≠ ctx) :
    s'.contexts other = s.contexts other := by
  unfold enrollContext at returned
  split at returned
  · next handle registered registers =>
      injection returned with isState
      rw [← isState, ← handleRegister_contexts registers]
      exact System.modify_contexts_of_ne registered
        (fun context =>
          { context with handle := handle, queue := registered.nextQueue })
        different
  · cases returned

/-- Entering a context changes its handle and its queue only. -/
theorem enrollContext_field
    {β : Type}
    {s s' : System}
    {ctx : ContextId}
    (field : Context → β)
    (keeps :
      ∀ context handle queue,
        field { context with handle := handle, queue := queue } =
          field context)
    (returned : enrollContext s ctx = .ok s')
    (other : ContextId) :
    field (s'.contexts other) = field (s.contexts other) := by
  unfold enrollContext at returned
  split at returned
  · next handle registered registers =>
      injection returned with isState
      rw [← isState, ← handleRegister_contexts registers]
      exact System.modify_field field registered ctx
        (fun context =>
          { context with handle := handle, queue := registered.nextQueue })
        (keeps _ _ _) other
  · cases returned

/-- Entering a context allocates none. -/
theorem enrollContext_nextContext
    {s s' : System}
    {ctx : ContextId}
    (returned : enrollContext s ctx = .ok s') :
    s'.nextContext = s.nextContext := by
  unfold enrollContext at returned
  split at returned
  · next handle registered registers =>
      injection returned with isState
      rw [← isState]
      rcases handleRegister_cases registers with
        ⟨found, _, _, isRegistered⟩ | ⟨_, _, same⟩
      · rw [isRegistered]
        rfl
      · exact same
  · cases returned

/-- `Context::Context`. -/
def constructContext
    (s : System)
    (mod : Module) : Except Fault (ContextId × System) :=
  let ctx := s.nextContext
  let allocated :=
    { (s.modify ctx fun _ => freshContext s mod) with nextContext := ctx + 1 }
  return (ctx, ← enrollContext allocated ctx)

/-- `NewContext` after `ModuleInit` returned 0. -/
def launchSucceeded
    (request : LaunchRequest)
    (s : System)
    (ctx : ContextId)
    (queue : QueueId) : Except Fault System := do
  let (ret, s) ← contextRelease s ctx
  if ret then
    let s ← pushGlobalQueue (deleteContext s ctx) queue
    skynetError s (s.contexts ctx).handle
      ("LAUNCH " ++ request.name ++ request.param)
  else
    pushGlobalQueue
      (s.modify ctx fun context => { context with init := true }) queue

/-- `NewContext` after `ModuleInit` returned an error. -/
def launchFailed
    (request : LaunchRequest)
    (stack : Nat → Option Message)
    (fuel : Nat)
    (s : System)
    (ctx : ContextId)
    (queue : QueueId) : Except Fault System := do
  let s ←
    skynetError s (s.contexts ctx).handle ("FAILED launch " ++ request.name)
  let handle := (s.contexts ctx).handle
  let (_, s) ← contextRelease s ctx
  let (_, s) ← handleRetire s handle
  messageQueueRelease s queue handle stack fuel

/-- What `NewContext` checks before it constructs a context. -/
def createInstance (request : LaunchRequest) : Except Fault Module :=
  match request.mod with
  | none => .error (.exception ("Module " ++ request.name ++ " not found"))
  | some mod =>
      if mod.create then
        if request.inst then
          .ok mod
        else
          .error (.exception
            ("Failed to create instance of module " ++ request.name))
      else
        .error (.exception "Module does not have a create function")

/-- `NewContext` for a context that its constructor has registered. -/
def launchContext
    (request : LaunchRequest)
    (stack : Nat → Option Message)
    (fuel : Nat)
    (init : ContextId → System → Except Fault (Int × System))
    (mod : Module)
    (ctx : ContextId)
    (s : System) : Except Fault (Option ContextId × System) := do
  let s ← enrollContext s ctx
  let queue := (s.contexts ctx).queue
  if mod.init then
    let (result, s) ← init ctx s
    if result = 0 then
      return (some ctx, ← launchSucceeded request s ctx queue)
    else
      return (none, ← launchFailed request stack fuel s ctx queue)
  else
    .error (.exception "Module does not have an init function")

/--
`NewContext`.  `stack` and `fuel` are those of the `MessageQueue::Release` that
a failing `init` leads to.
-/
def newContext
    (request : LaunchRequest)
    (stack : Nat → Option Message)
    (fuel : Nat)
    (init : ContextId → System → Except Fault (Int × System))
    (s : System) : Except Fault (Option ContextId × System) := do
  let mod ← createInstance request
  let (ctx, s) ← constructContext s mod
  launchContext request stack fuel init mod ctx s

/-- `ServiceCallback`, as an `init` calls it. -/
def serviceCallback
    (s : System)
    (ctx : ContextId)
    (cb : Option Nat) : System :=
  s.modify ctx fun context => { context with cb := cb }

end SkynetCpp
