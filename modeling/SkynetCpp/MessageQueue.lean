import Mathlib.Logic.Function.Basic
import SkynetCpp.Message

namespace SkynetCpp

/-!
# Message queues and the global queue

`mq.cpp` in state-passing form.  The queues form a heap indexed by address;
the global queue is the intrusive list from `head` to `tail` through the
`next` pointers.  Every function below is one section under the queue's
spinlock, so it is one atomic step of a thread.
-/

/-- 1 means the queue is in the global queue, or a message is dispatching. -/
def kMqInGlobal : Int := 1

def kMqOverload : Nat := 1024

/--
A secondary message queue.  `overload` and `overloadThreshold` are `int`s
that only hold lengths and doubled thresholds; `deleted` counts executions of
`delete` on the object.
-/
structure MessageQueue where
  handle : UInt32
  messageQueue : List Message
  release : Bool
  inGlobal : Int
  overload : Nat
  overloadThreshold : Nat
  next : Option QueueId
  deleted : Nat
  deriving Repr, DecidableEq

/-- The constructor of `MessageQueue`. -/
def newMessageQueue (handle : UInt32) : MessageQueue where
  handle := handle
  messageQueue := []
  release := false
  inGlobal := kMqInGlobal
  overload := 0
  overloadThreshold := kMqOverload
  next := none
  deleted := 0

/-- All message queues, and the ends of the global queue. -/
structure Queues where
  mq : QueueId → MessageQueue
  head : Option QueueId
  tail : Option QueueId

namespace Queues

/-- Change one queue in place. -/
def modify
    (s : Queues)
    (queue : QueueId)
    (change : MessageQueue → MessageQueue) : Queues :=
  { s with mq := Function.update s.mq queue (change (s.mq queue)) }

@[simp] theorem modify_mq_self
    (s : Queues)
    (queue : QueueId)
    (change : MessageQueue → MessageQueue) :
    (s.modify queue change).mq queue = change (s.mq queue) := by
  simp [modify]

theorem modify_mq_of_ne
    (s : Queues)
    {queue other : QueueId}
    (change : MessageQueue → MessageQueue)
    (different : other ≠ queue) :
    (s.modify queue change).mq other = s.mq other := by
  simp [modify, different]

@[simp] theorem modify_head
    (s : Queues)
    (queue : QueueId)
    (change : MessageQueue → MessageQueue) :
    (s.modify queue change).head = s.head :=
  rfl

@[simp] theorem modify_tail
    (s : Queues)
    (queue : QueueId)
    (change : MessageQueue → MessageQueue) :
    (s.modify queue change).tail = s.tail :=
  rfl

/-- A field that a change leaves alone is the same for every queue. -/
theorem modify_field
    {β : Type}
    (field : MessageQueue → β)
    (s : Queues)
    (queue : QueueId)
    (change : MessageQueue → MessageQueue)
    (kept : field (change (s.mq queue)) = field (s.mq queue))
    (other : QueueId) :
    field ((s.modify queue change).mq other) = field (s.mq other) := by
  by_cases same : other = queue
  · subst same
    rw [modify_mq_self, kept]
  · rw [modify_mq_of_ne s change same]

end Queues

/-- `GlobalQueue::Push`. -/
def globalQueuePush
    (s : Queues)
    (queue : QueueId) : Except Fault Queues :=
  if (s.mq queue).next = none then
    match s.tail with
    | some tail =>
        .ok { s.modify tail fun mq => { mq with next := some queue } with
              tail := some queue }
    | none =>
        .ok { s with head := some queue, tail := some queue }
  else
    .error (.assertion "queue->next_ == nullptr")

/-- Linking a queue writes `next` pointers only. -/
theorem globalQueuePush_field
    {β : Type}
    (field : MessageQueue → β)
    (ignoresNext :
      ∀ (mq : MessageQueue) next, field { mq with next := next } = field mq)
    {s linked : Queues}
    {queue : QueueId}
    (pushed : globalQueuePush s queue = .ok linked)
    (other : QueueId) :
    field (linked.mq other) = field (s.mq other) := by
  unfold globalQueuePush at pushed
  split at pushed
  · split at pushed
    · next tail _ =>
        injection pushed with isLinked
        subst isLinked
        exact Queues.modify_field field s tail
          (fun mq => { mq with next := some queue }) (ignoresNext _ _) other
    · injection pushed with isLinked
      subst isLinked
      rfl
  · cases pushed

/-- `GlobalQueue::Pop`. -/
def globalQueuePop
    (s : Queues) : Except Fault (Option QueueId × Queues) :=
  match s.head with
  | none => .ok (none, s)
  | some mq =>
      let detached := s.modify mq fun queue => { queue with next := none }
      match (s.mq mq).next with
      | none =>
          if s.tail = some mq then
            .ok (some mq, { detached with head := none, tail := none })
          else
            .error (.assertion "mq == q->tail_")
      | some next =>
          .ok (some mq, { detached with head := some next })

/-- `MessageQueue::MarkRelease`. -/
def messageQueueMarkRelease
    (s : Queues)
    (queue : QueueId) : Except Fault Queues :=
  if (s.mq queue).release = false then
    let marked := s.modify queue fun mq => { mq with release := true }
    if (s.mq queue).inGlobal ≠ kMqInGlobal then
      globalQueuePush marked queue
    else
      .ok marked
  else
    .error (.assertion "this->release == false")

/-- Marking a queue leaves alone every field but `release` and `next`. -/
theorem messageQueueMarkRelease_field
    {β : Type}
    (field : MessageQueue → β)
    (ignoresNext :
      ∀ (mq : MessageQueue) next, field { mq with next := next } = field mq)
    (ignoresRelease :
      ∀ (mq : MessageQueue) release,
        field { mq with release := release } = field mq)
    {s marked : Queues}
    {queue : QueueId}
    (succeeded : messageQueueMarkRelease s queue = .ok marked)
    (other : QueueId) :
    field (marked.mq other) = field (s.mq other) := by
  have kept :=
    Queues.modify_field field s queue
      (fun mq => { mq with release := true }) (ignoresRelease _ true) other
  unfold messageQueueMarkRelease at succeeded
  split at succeeded
  · split at succeeded
    · exact (globalQueuePush_field field ignoresNext succeeded other).trans kept
    · injection succeeded with isMarked
      subst isMarked
      exact kept
  · cases succeeded

/--
The loop of `Pop` that raises the threshold.  Each turn doubles a positive
threshold, so the length is fuel enough.
-/
def raiseThreshold : Nat → Nat → Nat → Nat → Nat × Nat
  | 0, _, overload, threshold => (overload, threshold)
  | fuel + 1, size, overload, threshold =>
      if size > threshold then
        raiseThreshold fuel size size (threshold * 2)
      else
        (overload, threshold)

/--
`MessageQueue::Pop`.  The local `result_msg` is assigned only when there is a
message: `stack` is what the uninitialised pointer holds otherwise.
-/
def messageQueuePop
    (s : Queues)
    (queue : QueueId)
    (stack : Option Message) : Option Message × Queues :=
  match (s.mq queue).messageQueue with
  | front :: rest =>
      let size := (front :: rest).length
      let raised :=
        raiseThreshold size size
          (s.mq queue).overload (s.mq queue).overloadThreshold
      (some front,
        s.modify queue fun mq =>
          { mq with
            overload := raised.1
            overloadThreshold := raised.2 })
  | [] =>
      (stack,
        s.modify queue fun mq =>
          { mq with
            overloadThreshold := kMqOverload
            inGlobal := 0 })

/-- A `Pop` answers null exactly on an empty queue whose local holds null. -/
theorem messageQueuePop_eq_none_iff
    {s : Queues}
    {queue : QueueId}
    {stack : Option Message} :
    (messageQueuePop s queue stack).1 = none ↔
      (s.mq queue).messageQueue = [] ∧ stack = none := by
  unfold messageQueuePop
  cases (s.mq queue).messageQueue <;> simp

/-- A `Pop` writes the thresholds and `inGlobal` only. -/
theorem messageQueuePop_field
    {β : Type}
    (field : MessageQueue → β)
    (ignores :
      ∀ (mq : MessageQueue) inGlobal overload overloadThreshold,
        field
          { mq with
            inGlobal := inGlobal
            overload := overload
            overloadThreshold := overloadThreshold } = field mq)
    (s : Queues)
    (queue : QueueId)
    (stack : Option Message)
    (other : QueueId) :
    field ((messageQueuePop s queue stack).2.mq other) =
      field (s.mq other) := by
  unfold messageQueuePop
  cases (s.mq queue).messageQueue with
  | nil =>
      dsimp only
      refine Queues.modify_field field s queue _ ?_ other
      exact ignores (s.mq queue) 0 (s.mq queue).overload kMqOverload
  | cons first rest =>
      dsimp only
      refine Queues.modify_field field s queue _ ?_ other
      exact ignores (s.mq queue) (s.mq queue).inGlobal _ _

/-- A `Pop` writes its own queue only. -/
theorem messageQueuePop_of_ne
    (s : Queues)
    {queue other : QueueId}
    (stack : Option Message)
    (different : other ≠ queue) :
    (messageQueuePop s queue stack).2.mq other = s.mq other := by
  unfold messageQueuePop
  cases (s.mq queue).messageQueue with
  | nil | cons first rest =>
      dsimp only
      rw [Queues.modify_mq_of_ne s _ different]

/-- `MessageQueue::Push`. -/
def messageQueuePush
    (s : Queues)
    (queue : QueueId)
    (msg : Message) : Except Fault Queues :=
  let pushed := s.modify queue fun mq =>
    { mq with messageQueue := mq.messageQueue ++ [msg] }
  if (s.mq queue).inGlobal = 0 then
    globalQueuePush
      (pushed.modify queue fun mq => { mq with inGlobal := kMqInGlobal })
      queue
  else
    .ok pushed

/-- A push appends the message to its queue and to no other. -/
theorem messageQueuePush_messages
    {s pushed : Queues}
    {queue : QueueId}
    {msg : Message}
    (succeeded : messageQueuePush s queue msg = .ok pushed)
    (other : QueueId) :
    (pushed.mq other).messageQueue =
      if other = queue then (s.mq other).messageQueue ++ [msg]
      else (s.mq other).messageQueue := by
  have appended :
      ((s.modify queue fun mq =>
          { mq with messageQueue := mq.messageQueue ++ [msg] }).mq
        other).messageQueue =
        if other = queue then (s.mq other).messageQueue ++ [msg]
        else (s.mq other).messageQueue := by
    by_cases same : other = queue
    · simp [same]
    · simp [same, Queues.modify_mq_of_ne s _ same]
  unfold messageQueuePush at succeeded
  split at succeeded
  · have linked :=
      globalQueuePush_field MessageQueue.messageQueue (fun _ _ => rfl)
        succeeded other
    have flagged :=
      Queues.modify_field MessageQueue.messageQueue
        (s.modify queue fun mq =>
          { mq with messageQueue := mq.messageQueue ++ [msg] })
        queue (fun mq => { mq with inGlobal := kMqInGlobal }) rfl other
    exact (linked.trans flagged).trans appended
  · injection succeeded with isPushed
    subst isPushed
    exact appended

/-- A push writes the messages, `inGlobal` and `next` only. -/
theorem messageQueuePush_field
    {β : Type}
    (field : MessageQueue → β)
    (ignoresNext :
      ∀ (mq : MessageQueue) next, field { mq with next := next } = field mq)
    (ignores :
      ∀ (mq : MessageQueue) messages inGlobal,
        field
          { mq with messageQueue := messages, inGlobal := inGlobal } =
          field mq)
    {s pushed : Queues}
    {queue : QueueId}
    {msg : Message}
    (succeeded : messageQueuePush s queue msg = .ok pushed)
    (other : QueueId) :
    field (pushed.mq other) = field (s.mq other) := by
  have appended :=
    Queues.modify_field field s queue
      (fun mq => { mq with messageQueue := mq.messageQueue ++ [msg] })
      (ignores _ _ (s.mq queue).inGlobal) other
  unfold messageQueuePush at succeeded
  split at succeeded
  · have linked := globalQueuePush_field field ignoresNext succeeded other
    have flagged :=
      Queues.modify_field field
        (s.modify queue fun mq =>
          { mq with messageQueue := mq.messageQueue ++ [msg] })
        queue (fun mq => { mq with inGlobal := kMqInGlobal })
        (ignores _ (((s.modify queue fun mq =>
          { mq with messageQueue := mq.messageQueue ++ [msg] }).mq
            queue).messageQueue) kMqInGlobal) other
    exact (linked.trans flagged).trans appended
  · injection succeeded with isPushed
    subst isPushed
    exact appended

/-- `MessageQueue::Length`. -/
def messageQueueLength
    (s : Queues)
    (queue : QueueId) : Int :=
  toInt32 (s.mq queue).messageQueue.length

/-- `MessageQueue::Overload`. -/
def messageQueueOverload
    (s : Queues)
    (queue : QueueId) : Nat × Queues :=
  if (s.mq queue).overload ≠ 0 then
    ((s.mq queue).overload,
      s.modify queue fun mq => { mq with overload := 0 })
  else
    (0, s)

end SkynetCpp
