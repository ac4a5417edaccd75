import SkynetCpp.Foundation.Ring
import SkynetCpp.Harbor

namespace SkynetCpp

open Foundation

/-!
# The message queues of the harbor

A `harbor_msg_queue` is a circular buffer.  In the order in which it gives
them back, its messages form a list: a push appends to it, a pop takes its
head, and the loops of the service that pop until nothing is left see every
message once.
-/

namespace HarborMsgQueue

/-- The shape of a queue: its indices lie in its array. -/
structure WellFormed (queue : HarborMsgQueue) : Prop where
  head : queue.head < queue.size
  tail : queue.tail < queue.size
  allocated : queue.data.length = queue.size

/-- The messages in the queue, the oldest first. -/
def contents (queue : HarborMsgQueue) : List HarborMsg :=
  Ring.contents .zero queue.data queue.size queue.head queue.tail

end HarborMsgQueue

open HarborMsgQueue

theorem newQueue_wellFormed :
    newQueue.WellFormed where
  head := by decide
  tail := by decide
  allocated := List.length_replicate

@[simp] theorem newQueue_contents :
    newQueue.contents = [] :=
  Ring.contents_self _

section Push

variable {queue : HarborMsgQueue} (wellFormed : queue.WellFormed)
include wellFormed

/-- A grown queue has its messages at the front of its array. -/
theorem growQueue_wellFormed :
    (growQueue queue).WellFormed := by
  have positive : 0 < queue.size := Nat.zero_lt_of_lt wellFormed.head
  refine ⟨?_, ?_, ?_⟩
  · change 0 < queue.size * 2
    omega
  · change queue.size - 1 < queue.size * 2
    omega
  · simp only [growQueue, List.length_append, List.length_map,
      List.length_range, List.length_replicate]
    omega

theorem growQueue_free :
    Ring.advance (growQueue queue).size (growQueue queue).tail ≠
      (growQueue queue).head := by
  have positive : 0 < queue.size := Nat.zero_lt_of_lt wellFormed.head
  have behind : queue.size - 1 + 1 = queue.size := by omega
  have index : queue.size % (queue.size * 2) = queue.size :=
    Nat.mod_eq_of_lt (by omega)
  change (queue.size - 1 + 1) % (queue.size * 2) ≠ 0
  rw [behind, index]
  omega

/-- Growing a full queue keeps its messages. -/
theorem growQueue_contents
    (full : Ring.advance queue.size queue.tail = queue.head) :
    (growQueue queue).contents = queue.contents := by
  have positive : 0 < queue.size := Nat.zero_lt_of_lt wellFormed.head
  have counted : Ring.count (queue.size * 2) 0 (queue.size - 1) = queue.size - 1 := by
    simp [Ring.count]
  unfold HarborMsgQueue.contents Ring.contents
  rw [Ring.count_of_full wellFormed.tail full,
    Ring.window_eq_map _ wellFormed.head]
  change
    Ring.window HarborMsg.zero (growQueue queue).data (queue.size * 2) 0
        (Ring.count (queue.size * 2) 0 (queue.size - 1)) =
      _
  rw [counted, Ring.window_zero _ (by omega)]
  · simp [growQueue]
  · simp [growQueue]

/-- A queue that is not full, or was grown, takes one more message. -/
theorem pushQueueMsg_spec
    (m : HarborMsg) :
    (pushQueueMsg queue m).WellFormed ∧
      (pushQueueMsg queue m).contents = queue.contents ++ [m] := by
  have store :
      ∀ roomy : HarborMsgQueue, roomy.WellFormed →
        Ring.advance roomy.size roomy.tail ≠ roomy.head →
          let stored : HarborMsgQueue :=
            { roomy with
              data := roomy.data.set roomy.tail m
              tail := (roomy.tail + 1) % roomy.size }
          stored.WellFormed ∧ stored.contents = roomy.contents ++ [m] := by
    intro roomy shape free
    refine ⟨⟨shape.head, ?_, ?_⟩, ?_⟩
    · exact Ring.advance_lt (Nat.zero_lt_of_lt shape.head)
    · exact (List.length_set ..).trans shape.allocated
    · exact
        Ring.contents_push _ shape.head shape.tail shape.allocated free m
  unfold pushQueueMsg
  by_cases full : (queue.tail + 1) % queue.size = queue.head
  · simp only [if_pos full]
    have stored :=
      store (growQueue queue) (growQueue_wellFormed wellFormed)
        (growQueue_free wellFormed)
    rwa [growQueue_contents wellFormed full] at stored
  · simp only [if_neg full]
    exact store queue wellFormed full

theorem pushQueueMsg_wellFormed
    (m : HarborMsg) :
    (pushQueueMsg queue m).WellFormed :=
  (pushQueueMsg_spec wellFormed m).1

/-- A push appends. -/
theorem pushQueueMsg_contents
    (m : HarborMsg) :
    (pushQueueMsg queue m).contents = queue.contents ++ [m] :=
  (pushQueueMsg_spec wellFormed m).2

end Push

section Pop

variable {queue : HarborMsgQueue} (wellFormed : queue.WellFormed)
include wellFormed

/-- A pop finds nothing in an empty queue and leaves it alone. -/
theorem popQueue_of_nil
    (nothing : queue.contents = []) :
    popQueue queue = (none, queue) := by
  have same : queue.head = queue.tail :=
    (Ring.contents_eq_nil_iff _ wellFormed.head wellFormed.tail).mp nothing
  unfold popQueue
  rw [if_pos same]

/-- A pop takes the oldest message. -/
theorem popQueue_of_cons
    {m : HarborMsg}
    {rest : List HarborMsg}
    (queued : queue.contents = m :: rest) :
    ∃ shorter,
      popQueue queue = (some m, shorter) ∧
        shorter.WellFormed ∧ shorter.contents = rest := by
  have different : queue.head ≠ queue.tail := by
    intro same
    have nothing : queue.contents = [] :=
      (Ring.contents_eq_nil_iff _ wellFormed.head wellFormed.tail).mpr same
    exact List.cons_ne_nil m rest (queued.symm.trans nothing)
  have popped :
      queue.contents =
        queue.data.getD queue.head .zero ::
          Ring.contents .zero queue.data queue.size
            (Ring.advance queue.size queue.head) queue.tail :=
    Ring.contents_pop _ wellFormed.head wellFormed.tail different
  obtain ⟨isHead, isRest⟩ := List.cons.inj (queued.symm.trans popped)
  refine
    ⟨{ queue with head := (queue.head + 1) % queue.size }, ?_,
      ⟨Ring.advance_lt (Nat.zero_lt_of_lt wellFormed.head), wellFormed.tail,
        wellFormed.allocated⟩,
      isRest.symm⟩
  unfold popQueue
  rw [if_neg different, isHead]

end Pop

/-- `while ((m = pop_queue(queue)) != NULL)`, for a body that leaves the queue alone. -/
def popLoop
    {State : Type}
    (body : State → HarborMsg → State) :
    Nat → HarborMsgQueue → State → Except Fault (State × HarborMsgQueue)
  | 0, _, _ => .error .running
  | fuel + 1, queue, state =>
      match popQueue queue with
      | (none, queue) => .ok (state, queue)
      | (some m, queue) => popLoop body fuel queue (body state m)

/-- The loop runs its body on every message, in order, and empties the queue. -/
theorem popLoop_eq
    {State : Type}
    (body : State → HarborMsg → State)
    {fuel : Nat}
    {queue : HarborMsgQueue}
    (wellFormed : queue.WellFormed)
    (enough : queue.contents.length < fuel)
    (state : State) :
    ∃ emptied,
      popLoop body fuel queue state =
          .ok (queue.contents.foldl body state, emptied) ∧
        emptied.WellFormed ∧ emptied.contents = [] := by
  induction fuel generalizing queue state with
  | zero =>
      omega
  | succ fuel inductionHypothesis =>
      cases queued : queue.contents with
      | nil =>
          refine ⟨queue, ?_, wellFormed, queued⟩
          simp only [popLoop, popQueue_of_nil wellFormed queued]
          rfl
      | cons m rest =>
          obtain ⟨shorter, popped, shape, isRest⟩ :=
            popQueue_of_cons wellFormed queued
          rw [queued, List.length_cons] at enough
          obtain ⟨emptied, looped, emptiedShape, isEmpty⟩ :=
            inductionHypothesis shape (by rw [isRest]; omega) (body state m)
          refine ⟨emptied, ?_, emptiedShape, isEmpty⟩
          rw [isRest] at looped
          simp only [popLoop, popped, List.foldl_cons]
          exact looped

/-- As many rounds as the array has slots are enough. -/
theorem HarborMsgQueue.WellFormed.length_contents_lt
    {queue : HarborMsgQueue}
    (wellFormed : queue.WellFormed) :
    queue.contents.length < queue.size :=
  Ring.length_contents_lt _ wellFormed.head wellFormed.tail

/-- Pushing several messages appends them. -/
theorem foldl_pushQueueMsg
    {queue : HarborMsgQueue}
    (wellFormed : queue.WellFormed)
    (messages : List HarborMsg) :
    (messages.foldl pushQueueMsg queue).WellFormed ∧
      (messages.foldl pushQueueMsg queue).contents =
        queue.contents ++ messages := by
  induction messages generalizing queue with
  | nil =>
      exact ⟨wellFormed, (List.append_nil _).symm⟩
  | cons m rest inductionHypothesis =>
      have pushed := inductionHypothesis (pushQueueMsg_wellFormed wellFormed m)
      refine ⟨pushed.1, ?_⟩
      rw [List.foldl_cons, pushed.2, pushQueueMsg_contents wellFormed,
        List.append_assoc, List.singleton_append]

end SkynetCpp
