import Mathlib.Data.List.Basic
import SkynetCpp.Foundation.Chain
import SkynetCpp.MessageQueue

namespace SkynetCpp

open Foundation

/-!
# The global queue as a list

`GlobalQueue` is an intrusive list: `head`, `tail` and the `next` pointers of
the queues themselves.  `Linked` ties these to a list of queues; pushing and
popping then append to the list and take its head, and neither assertion
fails.
-/

/-- The global queue consists of the listed queues, and no other has a `next`. -/
structure Linked
    (s : Queues)
    (nodes : List QueueId) : Prop where
  chain : Chain (fun queue => (s.mq queue).next) s.head nodes
  tail : s.tail = nodes.getLast?
  noDuplicates : nodes.Nodup
  unlinked : ∀ queue, queue ∉ nodes → (s.mq queue).next = none

namespace Linked

variable
    {s : Queues}
    {nodes : List QueueId}

/-- A global queue is one list only. -/
theorem unique
    {others : List QueueId}
    (linked : Linked s nodes)
    (same : Linked s others) :
    nodes = others :=
  linked.chain.unique same.chain

/-- Only `next`, `head` and `tail` matter. -/
theorem congr
    {s' : Queues}
    (linked : Linked s nodes)
    (sameNext : ∀ queue, (s'.mq queue).next = (s.mq queue).next)
    (sameHead : s'.head = s.head)
    (sameTail : s'.tail = s.tail) :
    Linked s' nodes where
  chain := by
    rw [sameHead]
    exact linked.chain.congr (fun queue _ => sameNext queue)
  tail := sameTail.trans linked.tail
  noDuplicates := linked.noDuplicates
  unlinked := fun queue absent => (sameNext queue).trans (linked.unlinked queue absent)

/-- Changing a queue apart from its `next` leaves the global queue alone. -/
theorem modify
    (linked : Linked s nodes)
    (queue : QueueId)
    {change : MessageQueue → MessageQueue}
    (keepsNext : (change (s.mq queue)).next = (s.mq queue).next) :
    Linked (s.modify queue change) nodes :=
  linked.congr
    (Queues.modify_field MessageQueue.next s queue change keepsNext) rfl rfl

/-- `MessageQueue::Pop` leaves the global queue alone. -/
theorem messageQueuePop
    (linked : Linked s nodes)
    (queue : QueueId)
    (stack : Option Message) :
    Linked (messageQueuePop s queue stack).2 nodes := by
  refine linked.congr ?_ ?_ ?_
  · exact messageQueuePop_field MessageQueue.next (fun _ _ _ _ => rfl)
      s queue stack
  · unfold SkynetCpp.messageQueuePop
    cases (s.mq queue).messageQueue <;> rfl
  · unfold SkynetCpp.messageQueuePop
    cases (s.mq queue).messageQueue <;> rfl

/-- The queue that `GlobalQueue::Pop` takes is the head of the list. -/
theorem head_eq
    (linked : Linked s nodes) :
    s.head = nodes.head? := by
  cases nodes with
  | nil =>
      exact linked.chain
  | cons node rest =>
      exact linked.chain.1

/-- Pushing a queue that is not linked appends it. -/
theorem push
    {queue : QueueId}
    (linked : Linked s nodes)
    (absent : queue ∉ nodes) :
    ∃ pushed,
      globalQueuePush s queue = .ok pushed ∧
        Linked pushed (nodes ++ [queue]) := by
  have detached := linked.unlinked queue absent
  unfold globalQueuePush
  rw [if_pos detached]
  rcases List.eq_nil_or_concat nodes with isEmpty | ⟨earlier, last, isConcat⟩
  · subst isEmpty
    have noTail : s.tail = none := linked.tail
    rw [noTail]
    refine ⟨_, rfl, ⟨rfl, detached⟩, rfl, by simp, ?_⟩
    intro other _
    exact linked.unlinked other (by simp)
  · rw [List.concat_eq_append] at isConcat
    subst isConcat
    have isTail : s.tail = some last := by
      rw [linked.tail]
      simp
    rw [isTail]
    have updated :
        (fun other =>
          ((s.modify last fun mq => { mq with next := some queue }).mq
            other).next) =
          Function.update (fun other => (s.mq other).next) last
            (some queue) := by
      funext other
      by_cases same : other = last
      · subst same
        simp
      · simp [same, Queues.modify_mq_of_ne s _ same]
    refine ⟨_, rfl, ?_, ?_, ?_, ?_⟩
    · have appended :=
        linked.chain.append linked.noDuplicates absent detached
      rw [← updated] at appended
      exact appended
    · simp
    · exact List.nodup_append.mpr
        ⟨linked.noDuplicates, by simp, by
          intro one isOne other isOther
          rw [List.mem_singleton.mp isOther]
          intro same
          exact absent (same ▸ isOne)⟩
    · intro other otherAbsent
      have different : other ≠ last := by
        intro same
        exact otherAbsent (by simp [same])
      have before : other ∉ earlier ++ [last] := fun member =>
        otherAbsent (List.mem_append_left _ member)
      have kept :=
        Queues.modify_mq_of_ne s
          (fun mq => { mq with next := some queue }) different
      exact (congrArg MessageQueue.next kept).trans
        (linked.unlinked other before)

/-- A push that returned appended the queue. -/
theorem of_push
    {pushed : Queues}
    {queue : QueueId}
    (linked : Linked s nodes)
    (absent : queue ∉ nodes)
    (returned : globalQueuePush s queue = .ok pushed) :
    Linked pushed (nodes ++ [queue]) := by
  obtain ⟨expected, succeeds, appended⟩ := linked.push absent
  rw [returned] at succeeds
  injection succeeds with same
  rwa [same]

/-- Popping takes the head of the list and detaches it. -/
theorem pop
    (linked : Linked s nodes) :
    ∃ popped,
      globalQueuePop s = .ok (nodes.head?, popped) ∧
        Linked popped nodes.tail := by
  unfold globalQueuePop
  cases nodes with
  | nil =>
      have isEmpty : s.head = none := linked.chain
      rw [isEmpty]
      exact ⟨s, rfl, linked⟩
  | cons node rest =>
      obtain ⟨isHead, later⟩ := linked.chain
      obtain ⟨absent, noDuplicates⟩ := List.nodup_cons.mp linked.noDuplicates
      rw [isHead]
      have updated :
          (fun other =>
            ((s.modify node fun mq => { mq with next := none }).mq
              other).next) =
            Function.update (fun other => (s.mq other).next) node none := by
        funext other
        by_cases same : other = node
        · subst same
          simp
        · simp [same, Queues.modify_mq_of_ne s _ same]
      have detached : ∀ queue, queue ∉ rest →
          ((s.modify node fun mq => { mq with next := none }).mq
            queue).next = none := by
        intro queue outside
        by_cases same : queue = node
        · subst same
          simp
        · rw [Queues.modify_mq_of_ne s _ same]
          exact linked.unlinked queue (by simp [same, outside])
      have chain := linked.chain.tail linked.noDuplicates
      rw [← updated] at chain
      cases rest with
      | nil =>
          have last : (s.mq node).next = none := later
          have isTail : s.tail = some node := linked.tail
          simp only [last, isTail, ↓reduceIte]
          exact ⟨_, rfl, rfl, rfl, noDuplicates, detached⟩
      | cons second rest =>
          have continues : (s.mq node).next = some second := later.1
          simp only [continues]
          refine ⟨_, rfl, ?_, ?_, noDuplicates, detached⟩
          · simp only [continues] at chain
            exact chain
          · exact linked.tail.trans (by simp)

/-- A pop that returned took the head of the list. -/
theorem of_pop
    {popped : Queues}
    {taken : Option QueueId}
    (linked : Linked s nodes)
    (returned : globalQueuePop s = .ok (taken, popped)) :
    taken = nodes.head? ∧ Linked popped nodes.tail := by
  obtain ⟨expected, succeeds, rest⟩ := linked.pop
  rw [returned] at succeeds
  injection succeeds with same
  injection same with sameTaken sameState
  exact ⟨sameTaken, sameState ▸ rest⟩

end Linked

/-- Popping the global queue writes `next` pointers only. -/
theorem globalQueuePop_field
    {β : Type}
    (field : MessageQueue → β)
    (ignoresNext :
      ∀ (mq : MessageQueue) next, field { mq with next := next } = field mq)
    {s popped : Queues}
    {taken : Option QueueId}
    (returned : globalQueuePop s = .ok (taken, popped))
    (other : QueueId) :
    field (popped.mq other) = field (s.mq other) := by
  unfold globalQueuePop at returned
  cases isHead : s.head with
  | none =>
      simp only [isHead, Except.ok.injEq, Prod.mk.injEq] at returned
      rw [← returned.2]
  | some mq =>
      have kept :=
        Queues.modify_field field s mq
          (fun queue => { queue with next := none }) (ignoresNext _ _) other
      simp only [isHead] at returned
      split at returned
      · split at returned
        · injection returned with same
          injection same with _ isPopped
          subst isPopped
          exact kept
        · cases returned
      · injection returned with same
        injection same with _ isPopped
        subst isPopped
        exact kept

end SkynetCpp
