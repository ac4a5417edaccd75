import SkynetCpp.MessageQueue

namespace SkynetCpp

/-!
# Contexts, the handle table and the node

The shared state of one process: contexts and message queues in heaps indexed
by address, the handle table, and the node's counters.  `delete` does not take
an object out of its heap; it is counted on the object, so that a second
deletion and a later use stay visible.
-/

/-- A loaded service module: which of its functions were found. -/
structure Module where
  create : Bool
  init : Bool
  release : Bool
  deriving Repr, DecidableEq

/-- A service instance. -/
structure Context where
  mod : Module
  handle : UInt32
  ref : Int
  queue : QueueId
  /-- The installed callback with its `cb_ud_`, by number. -/
  cb : Option Nat
  sessionId : Int
  init : Bool
  endless : Bool
  messageCount : Nat
  profile : Bool
  cpuCost : Nat
  cpuStart : Nat
  /-- How often `delete` was executed on the object. -/
  deleted : Nat
  deriving Repr, DecidableEq

/-- A name bound to a handle. -/
structure HandleName where
  name : String
  handle : UInt32
  deriving Repr, DecidableEq

/-- The handle table: slots for contexts and a sorted array of names. -/
structure HandleStorage where
  harbor : UInt32
  handleIndex : UInt32
  slot : List (Option ContextId)
  nameCount : Nat
  name : List HandleName
  deriving Repr, DecidableEq

def kHandleMask : UInt32 := 0xffffff
def kHandleRemoteShift : UInt32 := 24
def kDefaultSoltSize : Nat := 4

/-- The shared state of the process. -/
structure System where
  contexts : ContextId → Context
  /-- The address that the next `new Context` returns. -/
  nextContext : ContextId
  queues : Queues
  /-- The address that the next `new MessageQueue` returns. -/
  nextQueue : QueueId
  storage : HandleStorage
  /-- `G_NODE.total`. -/
  total : Int
  /-- `G_NODE.profile`. -/
  profile : Bool
  /-- `kHarbor`, the local harbor id in the high eight bits. -/
  harbor : UInt32
  /-- The static `logger` of `SkynetError`, once it is initialised. -/
  logger : Option UInt32

namespace System

/-- Change one context in place. -/
def modify
    (s : System)
    (ctx : ContextId)
    (change : Context → Context) : System :=
  { s with
    contexts := Function.update s.contexts ctx (change (s.contexts ctx)) }

@[simp] theorem modify_contexts_self
    (s : System)
    (ctx : ContextId)
    (change : Context → Context) :
    (s.modify ctx change).contexts ctx = change (s.contexts ctx) := by
  simp [modify]

theorem modify_contexts_of_ne
    (s : System)
    {ctx other : ContextId}
    (change : Context → Context)
    (different : other ≠ ctx) :
    (s.modify ctx change).contexts other = s.contexts other := by
  simp [modify, different]

/-- A field that a change leaves alone is the same for every context. -/
theorem modify_field
    {β : Type}
    (field : Context → β)
    (s : System)
    (ctx : ContextId)
    (change : Context → Context)
    (kept : field (change (s.contexts ctx)) = field (s.contexts ctx))
    (other : ContextId) :
    field ((s.modify ctx change).contexts other) =
      field (s.contexts other) := by
  by_cases same : other = ctx
  · subst same
    rw [modify_contexts_self, kept]
  · rw [modify_contexts_of_ne s change same]

@[simp] theorem modify_queues
    (s : System)
    (ctx : ContextId)
    (change : Context → Context) :
    (s.modify ctx change).queues = s.queues :=
  rfl

@[simp] theorem modify_storage
    (s : System)
    (ctx : ContextId)
    (change : Context → Context) :
    (s.modify ctx change).storage = s.storage :=
  rfl

@[simp] theorem modify_nextContext
    (s : System)
    (ctx : ContextId)
    (change : Context → Context) :
    (s.modify ctx change).nextContext = s.nextContext :=
  rfl

end System

/-- `delete` on a context. -/
def deleteContext
    (s : System)
    (ctx : ContextId) : System :=
  s.modify ctx fun context => { context with deleted := context.deleted + 1 }

/-- `Context::Grab`. -/
def contextGrab
    (s : System)
    (ctx : ContextId) : System :=
  s.modify ctx fun context => { context with ref := toInt32 (context.ref + 1) }

/-- The decrement that starts `Context::Release`. -/
def contextUnref
    (s : System)
    (ctx : ContextId) : System :=
  s.modify ctx fun context => { context with ref := toInt32 (context.ref - 1) }

/--
`Context::Release`; true when the context is still in use.  The log file and
the module instance that the last release frees are not part of the state.
-/
def contextRelease
    (s : System)
    (ctx : ContextId) : Except Fault (Bool × System) :=
  let dropped := contextUnref s ctx
  if (s.contexts ctx).ref = 1 then
    if (s.contexts ctx).mod.release then
      match messageQueueMarkRelease s.queues (s.contexts ctx).queue with
      | .ok queues =>
          .ok (false,
            { deleteContext dropped ctx with
              queues := queues
              total := s.total - 1 })
      | .error fault => .error fault
    else
      .error (.exception "Module does not have an release function")
  else
    .ok (true, dropped)

/-- A release of a reference that is not the last only counts it down. -/
theorem contextRelease_of_not_last
    {s : System}
    {ctx : ContextId}
    (notLast : (s.contexts ctx).ref ≠ 1) :
    contextRelease s ctx = .ok (true, contextUnref s ctx) := by
  unfold contextRelease
  rw [if_neg notLast]

/-- What the last release leaves behind. -/
def contextReleased
    (s : System)
    (ctx : ContextId)
    (queues : Queues) : System :=
  { deleteContext (contextUnref s ctx) ctx with
    queues := queues
    total := s.total - 1 }

/--
A release that returns counts a reference down; the last one also marks the
queue and deletes the context.
-/
theorem contextRelease_cases
    {s released : System}
    {ctx : ContextId}
    {inUse : Bool}
    (returned : contextRelease s ctx = .ok (inUse, released)) :
    (s.contexts ctx).ref ≠ 1 ∧ inUse = true ∧ released = contextUnref s ctx ∨
      (s.contexts ctx).ref = 1 ∧ inUse = false ∧
        ∃ queues,
          messageQueueMarkRelease s.queues (s.contexts ctx).queue =
              .ok queues ∧
            released = contextReleased s ctx queues := by
  by_cases isLast : (s.contexts ctx).ref = 1
  · right
    unfold contextRelease at returned
    rw [if_pos isLast] at returned
    split at returned
    · cases marked :
          messageQueueMarkRelease s.queues (s.contexts ctx).queue with
      | error fault =>
          simp [marked] at returned
      | ok queues =>
          simp only [marked, Except.ok.injEq, Prod.mk.injEq] at returned
          exact ⟨isLast, returned.1.symm, queues, rfl, returned.2.symm⟩
    · cases returned
  · left
    rw [contextRelease_of_not_last isLast] at returned
    injection returned with returned
    injection returned with isTrue isReleased
    exact ⟨isLast, isTrue.symm, isReleased.symm⟩

/-- A release moves no message. -/
theorem contextRelease_messages
    {s released : System}
    {ctx : ContextId}
    {inUse : Bool}
    (returned : contextRelease s ctx = .ok (inUse, released))
    (queue : QueueId) :
    (released.queues.mq queue).messageQueue =
      (s.queues.mq queue).messageQueue := by
  rcases contextRelease_cases returned with
    ⟨_, _, isReleased⟩ | ⟨_, _, queues, marked, isReleased⟩
  · subst isReleased
    rfl
  · subst isReleased
    exact messageQueueMarkRelease_field MessageQueue.messageQueue
      (fun _ _ => rfl) (fun _ _ => rfl) marked queue

/-- `Context::Reserve`. -/
def contextReserve
    (s : System)
    (ctx : ContextId) : System :=
  { contextGrab s ctx with total := s.total - 1 }

end SkynetCpp
