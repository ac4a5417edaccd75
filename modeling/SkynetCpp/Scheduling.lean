import SkynetCpp.Foundation.Threads
import SkynetCpp.GlobalQueue

namespace SkynetCpp

open Foundation

/-!
# Where message queues are

A message queue is in the global queue, held by workers, or at rest.  The
account says how often a queue is in one of the first two places, and that
`inGlobal` agrees with it.  Pushing, taking and giving up a queue move it
between these places.
-/

namespace Scheduling

/--
What `inGlobal` and the messages of a queue say about the number of its places
in the global queue and with workers.  The queue of a service that is being
launched is set to 1 and nowhere yet; that of a released service is left to
whoever finds it.
-/
structure Settled
    (launched : Prop)
    (mq : MessageQueue)
    (places : Nat) : Prop where
  once : places ≤ 1
  flag :
    mq.release = false → launched →
      mq.inGlobal = kMqInGlobal ∧ places = 1 ∨
        mq.inGlobal = 0 ∧ places = 0 ∧ mq.messageQueue = []
  launching :
    mq.release = false → ¬ launched →
      mq.inGlobal = kMqInGlobal ∧ places = 0

/-- The global queue is a list, and every queue is settled. -/
def Placed
    (launched : QueueId → Prop)
    (s : Queues)
    (held : QueueId → Nat) : Prop :=
  ∃ nodes,
    Linked s nodes ∧
      ∀ queue,
        Settled (launched queue) (s.mq queue)
          (nodes.count queue + held queue)

/-- A queue that workers hold is in no other place. -/
theorem Settled.not_mem_of_held
    {launched : Prop}
    {mq : MessageQueue}
    {nodes : List QueueId}
    {queue : QueueId}
    {held : Nat}
    (settled : Settled launched mq (nodes.count queue + held))
    (isHeld : 0 < held) :
    queue ∉ nodes := by
  have atMostOne := settled.once
  exact List.count_eq_zero.mp (by omega)

/-- Only the mark, `inGlobal` and the messages matter. -/
theorem Settled.congr
    {launched : Prop}
    {mq mq' : MessageQueue}
    {places places' : Nat}
    (settled : Settled launched mq places)
    (sameRelease : mq'.release = mq.release)
    (sameFlag : mq'.inGlobal = mq.inGlobal)
    (sameMessages : mq'.messageQueue = mq.messageQueue)
    (samePlaces : places' = places) :
    Settled launched mq' places' := by
  obtain ⟨once, flag, launching⟩ := settled
  subst samePlaces
  exact
    ⟨once, by rw [sameRelease, sameFlag, sameMessages]; exact flag,
      by rw [sameRelease, sameFlag]; exact launching⟩

/-- A marked queue is settled where it is at most once. -/
theorem Settled.of_released
    {launched : Prop}
    {mq : MessageQueue}
    {places : Nat}
    (released : mq.release = true)
    (once : places ≤ 1) :
    Settled launched mq places where
  once := once
  flag := by
    rw [released]
    exact fun impossible => nomatch impossible
  launching := by
    rw [released]
    exact fun impossible => nomatch impossible

/--
A queue that is linked at most once, whose `inGlobal` says that it is linked or
held, and that is not forgotten while it has messages.
-/
structure Scheduled
    (s : Queues)
    (queue : QueueId)
    (held : Nat) : Prop where
  once :
    ∀ first second,
      walk (fun queue => (s.mq queue).next) s.head first = some queue →
        walk (fun queue => (s.mq queue).next) s.head second = some queue →
          first = second
  flag :
    (s.mq queue).inGlobal = kMqInGlobal ↔
      (∃ steps,
        walk (fun queue => (s.mq queue).next) s.head steps = some queue) ∨
        0 < held
  remembered :
    (s.mq queue).messageQueue ≠ [] →
      (∃ steps,
        walk (fun queue => (s.mq queue).next) s.head steps = some queue) ∨
        0 < held

namespace Placed

variable
    {launched : QueueId → Prop}
    {s s' : Queues}
    {held held' : QueueId → Nat}

/-- Writing only other fields than those of the account. -/
theorem of_same
    (placed : Placed launched s held)
    (sameHead : s'.head = s.head)
    (sameTail : s'.tail = s.tail)
    (sameNext : ∀ queue, (s'.mq queue).next = (s.mq queue).next)
    (sameRelease : ∀ queue, (s'.mq queue).release = (s.mq queue).release)
    (sameFlag : ∀ queue, (s'.mq queue).inGlobal = (s.mq queue).inGlobal)
    (sameMessages :
      ∀ queue, (s'.mq queue).messageQueue = (s.mq queue).messageQueue)
    (sameHeld : ∀ queue, held' queue = held queue) :
    Placed launched s' held' := by
  obtain ⟨nodes, linked, settled⟩ := placed
  refine ⟨nodes, linked.congr sameNext sameHead sameTail, ?_⟩
  intro queue
  exact (settled queue).congr (sameRelease queue) (sameFlag queue)
    (sameMessages queue) (by rw [sameHeld])

/-- The account depends on how often workers hold each queue. -/
theorem of_sameHeld
    (placed : Placed launched s held)
    (sameHeld : ∀ queue, held' queue = held queue) :
    Placed launched s held' :=
  placed.of_same rfl rfl (fun _ => rfl) (fun _ => rfl) (fun _ => rfl)
    (fun _ => rfl) sameHeld

/-- `GlobalQueue::Pop` moves the head of the global queue to a worker. -/
theorem take
    {taken : Option QueueId}
    (placed : Placed launched s held)
    (popped : globalQueuePop s = .ok (taken, s'))
    (heldToo :
      ∀ queue,
        held' queue = held queue + if taken = some queue then 1 else 0) :
    Placed launched s' held' := by
  obtain ⟨nodes, linked, settled⟩ := placed
  obtain ⟨isHead, rest⟩ := linked.of_pop popped
  refine ⟨nodes.tail, rest, ?_⟩
  intro queue
  refine (settled queue).congr
    (globalQueuePop_field MessageQueue.release (fun _ _ => rfl) popped queue)
    (globalQueuePop_field MessageQueue.inGlobal (fun _ _ => rfl) popped queue)
    (globalQueuePop_field MessageQueue.messageQueue (fun _ _ => rfl) popped
      queue) ?_
  rw [heldToo, isHead]
  cases nodes with
  | nil =>
      simp
  | cons node others =>
      simp only [List.tail_cons, List.head?_cons, Option.some.injEq,
        List.count_cons, beq_iff_eq]
      omega

/-- `GlobalQueue::Push` of a queue that a worker holds moves it back. -/
theorem giveBack
    {queue : QueueId}
    (placed : Placed launched s held)
    (pushed : globalQueuePush s queue = .ok s')
    (oneLess :
      ∀ other, held other = held' other + if queue = other then 1 else 0) :
    Placed launched s' held' := by
  obtain ⟨nodes, linked, settled⟩ := placed
  have isHeld : 0 < held queue := by
    rw [oneLess, if_pos rfl]
    omega
  have absent := (settled queue).not_mem_of_held isHeld
  refine ⟨nodes ++ [queue], linked.of_push absent pushed, ?_⟩
  intro other
  refine (settled other).congr
    (globalQueuePush_field MessageQueue.release (fun _ _ => rfl) pushed other)
    (globalQueuePush_field MessageQueue.inGlobal (fun _ _ => rfl) pushed other)
    (globalQueuePush_field MessageQueue.messageQueue (fun _ _ => rfl) pushed
      other) ?_
  rw [oneLess]
  simp only [List.count_append, List.count_singleton, beq_iff_eq]
  omega

/-- `MessageQueue::Push` links a queue at rest, and leaves any other in place. -/
theorem push
    {queue : QueueId}
    {msg : Message}
    (placed : Placed launched s held)
    (unmarked : (s.mq queue).release = false)
    (pushed : messageQueuePush s queue msg = .ok s') :
    Placed launched s' held := by
  obtain ⟨nodes, linked, settled⟩ := placed
  have before := settled queue
  unfold messageQueuePush at pushed
  split at pushed
  · next atRest =>
      -- Not in the global queue and not held: the push links it.
      have nowhere :
          launched queue ∧ nodes.count queue + held queue = 0 := by
        by_cases isLaunched : launched queue
        · rcases before.flag unmarked isLaunched with
            ⟨isSet, _⟩ | ⟨_, isZero, _⟩
          · rw [isSet] at atRest
            cases atRest
          · exact ⟨isLaunched, isZero⟩
        · rw [(before.launching unmarked isLaunched).1] at atRest
          cases atRest
      have absent : queue ∉ nodes := List.count_eq_zero.mp (by omega)
      have appended :
          Linked
            ((s.modify queue fun mq =>
                { mq with messageQueue := mq.messageQueue ++ [msg] }).modify
              queue fun mq => { mq with inGlobal := kMqInGlobal })
            nodes :=
        (linked.modify queue rfl).modify queue rfl
      refine ⟨nodes ++ [queue], appended.of_push absent pushed, ?_⟩
      intro other
      have release :=
        globalQueuePush_field MessageQueue.release (fun _ _ => rfl) pushed
          other
      have flag :=
        globalQueuePush_field MessageQueue.inGlobal (fun _ _ => rfl) pushed
          other
      have messages :=
        globalQueuePush_field MessageQueue.messageQueue (fun _ _ => rfl)
          pushed other
      by_cases isPushed : other = queue
      · subst isPushed
        simp only [Queues.modify_mq_self] at release flag
        have places :
            (nodes ++ [other]).count other + held other = 1 := by
          simp only [List.count_append, List.count_singleton_self]
          omega
        rw [places]
        exact
          ⟨Nat.le_refl _, fun _ _ => Or.inl ⟨flag, rfl⟩,
            fun _ notLaunched => absurd nowhere.1 notLaunched⟩
      · rw [Queues.modify_mq_of_ne _ _ isPushed,
          Queues.modify_mq_of_ne _ _ isPushed] at release flag messages
        refine (settled other).congr release flag messages ?_
        simp [List.count_append, Ne.symm isPushed]
  · next inPlace =>
      -- In the global queue, held or not launched yet: the push only appends.
      injection pushed with isState
      subst isState
      refine ⟨nodes, linked.modify queue rfl, ?_⟩
      intro other
      by_cases isPushed : other = queue
      · subst isPushed
        rw [Queues.modify_mq_self]
        refine ⟨before.once, ?_, before.launching⟩
        intro _ isLaunched
        rcases before.flag unmarked isLaunched with isSet | ⟨isZero, _⟩
        · exact Or.inl isSet
        · exact absurd isZero inPlace
      · rw [Queues.modify_mq_of_ne _ _ isPushed]
        exact settled other

/-- A worker that finds an unmarked queue empty leaves it at rest. -/
theorem leave
    {queue : QueueId}
    {stack : Option Message}
    (placed : Placed launched s held)
    (isEmpty : (s.mq queue).messageQueue = [])
    (oneLess :
      ∀ other, held other = held' other + if queue = other then 1 else 0) :
    Placed launched (messageQueuePop s queue stack).2 held' := by
  obtain ⟨nodes, linked, settled⟩ := placed
  refine ⟨nodes, linked.messageQueuePop queue stack, ?_⟩
  intro other
  have before := settled other
  rw [oneLess] at before
  simp only [messageQueuePop, isEmpty]
  by_cases isPopped : other = queue
  · subst isPopped
    rw [Queues.modify_mq_self]
    rw [if_pos rfl] at before
    have once := before.once
    have nowhere : nodes.count other + held' other = 0 := by omega
    rw [nowhere]
    refine ⟨Nat.zero_le _, fun _ _ => Or.inr ⟨rfl, rfl, isEmpty⟩, ?_⟩
    intro unmarked notLaunched
    have unplaced := (before.launching unmarked notLaunched).2
    omega
  · rw [Queues.modify_mq_of_ne _ _ isPopped]
    rw [if_neg (Ne.symm isPopped)] at before
    exact before

/-- A `Pop` on a marked queue, and giving such a queue up, keep the account. -/
theorem drain
    {queue : QueueId}
    {stack : Option Message}
    (placed : Placed launched s held)
    (marked : (s.mq queue).release = true)
    (heldOthers : ∀ other, other ≠ queue → held' other = held other)
    (noMore : held' queue ≤ held queue) :
    Placed launched (messageQueuePop s queue stack).2 held' := by
  obtain ⟨nodes, linked, settled⟩ := placed
  refine ⟨nodes, linked.messageQueuePop queue stack, ?_⟩
  intro other
  by_cases isPopped : other = queue
  · subst isPopped
    have once := (settled other).once
    refine Settled.of_released ?_ (by omega)
    rw [messageQueuePop_field MessageQueue.release (fun _ _ _ _ => rfl)]
    exact marked
  · rw [messageQueuePop_of_ne s stack isPopped, heldOthers other isPopped]
    exact settled other

/-- A launched queue of the account is scheduled until it is marked. -/
theorem scheduled
    {queue : QueueId}
    (placed : Placed launched s held)
    (isLaunched : launched queue)
    (unmarked : (s.mq queue).release = false) :
    Scheduled s queue (held queue) := by
  obtain ⟨nodes, linked, settled⟩ := placed
  have somewhere :
      ((∃ steps,
        walk (fun queue => (s.mq queue).next) s.head steps = some queue) ∨
        0 < held queue) ↔
        0 < nodes.count queue + held queue := by
    rw [← linked.chain.mem_iff_walk, ← List.count_pos_iff]
    omega
  refine ⟨?_, ?_, ?_⟩
  · intro first second atFirst atSecond
    rw [linked.chain.walk_eq] at atFirst atSecond
    obtain ⟨inList, _⟩ := List.getElem?_eq_some_iff.mp atFirst
    exact (List.getElem?_inj inList linked.noDuplicates).mp
      (atFirst.trans atSecond.symm)
  · rw [somewhere]
    rcases (settled queue).flag unmarked isLaunched with
      ⟨isSet, isOne⟩ | ⟨isClear, isZero, _⟩
    · rw [isSet, isOne]
      simp
    · rw [isClear, isZero]
      decide
  · rw [somewhere]
    intro hasMessages
    rcases (settled queue).flag unmarked isLaunched with
      ⟨_, isOne⟩ | ⟨_, _, isEmpty⟩
    · omega
    · exact absurd isEmpty hasMessages

/-- A worker holds an unmarked queue only when it was launched. -/
theorem launched_of_held
    {queue : QueueId}
    (placed : Placed launched s held)
    (isHeld : 0 < held queue)
    (unmarked : (s.mq queue).release = false) :
    launched queue := by
  obtain ⟨nodes, _, settled⟩ := placed
  by_contra notLaunched
  have nowhere := ((settled queue).launching unmarked notLaunched).2
  omega

/--
A worker's `Pop` of an unmarked queue leaves it scheduled only when it finds no
message, returns the garbage of its local, and the worker gives the queue up.
-/
theorem empty_of_scheduled
    {queue : QueueId}
    {stack : Option Message}
    (placed : Placed launched s held)
    (isHeld : 0 < held queue)
    (unmarked : (s.mq queue).release = false)
    (after :
      Scheduled (messageQueuePop s queue stack).2 queue
        (held queue -
          if (messageQueuePop s queue stack).1 = none then 0 else 1)) :
    (s.mq queue).messageQueue = [] ∧ stack ≠ none := by
  have isLaunched := placed.launched_of_held isHeld unmarked
  obtain ⟨nodes, linked, settled⟩ := placed
  have once := (settled queue).once
  have isOne : held queue = 1 := by omega
  have popped := linked.messageQueuePop queue stack
  have absent : queue ∉ nodes := (settled queue).not_mem_of_held isHeld
  have flag := after.flag
  rw [← popped.chain.mem_iff_walk, or_iff_right absent, isOne] at flag
  cases messages : (s.mq queue).messageQueue with
  | cons front rest =>
      -- The queue is dropped with `inGlobal` still set.
      have isSet : (s.mq queue).inGlobal = kMqInGlobal := by
        rcases (settled queue).flag unmarked isLaunched with
          ⟨isSet, _⟩ | ⟨_, isZero, _⟩
        · exact isSet
        · omega
      simp [messageQueuePop, messages, isSet] at flag
  | nil =>
      refine ⟨rfl, ?_⟩
      intro isNull
      -- The flag is cleared although the worker keeps the queue.
      simp [messageQueuePop, messages, isNull, kMqInGlobal] at flag

end Placed

end Scheduling

end SkynetCpp
