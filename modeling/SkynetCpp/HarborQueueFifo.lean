import SkynetCpp.Foundation.Fifo
import SkynetCpp.HarborQueue

namespace SkynetCpp

open Foundation HarborMsgQueue

/-!
# A harbor's message queue against the FIFO list

A queue starts as `new_queue` leaves it and answers any calls of
`push_queue_msg` and `pop_queue`.  Call by call it is the FIFO list, and its
`n`-th message that is popped is the `n`-th that was pushed.  The capacity
only doubles when as many messages as it has slots are to be held, so its
`int`s fit while the messages are fewer than `2 ^ 30`.
-/

namespace HarborQueueRun

/-- Calls on one queue. -/
inductive Call where
  | push (m : HarborMsg)
  | pop
  deriving Repr, DecidableEq

/-- The call of the abstract queue that a call stands for. -/
def Call.abstract : Call → Fifo.Call HarborMsg
  | .push m => .push m
  | .pop => .pop

/-- Perform one call on the queue. -/
def perform
    (queue : HarborMsgQueue) :
    Call → Except Fault (Fifo.Response HarborMsg × HarborMsgQueue)
  | .push m => .ok (.pushed, pushQueueMsg queue m)
  | .pop => .ok (.popped (popQueue queue).1, (popQueue queue).2)

/-- The queue after a sequence of calls, made by `new_queue`. -/
def after
    (calls : List Call) : HarborMsgQueue :=
  Fifo.reached perform newQueue calls

/-- The messages pushed by a sequence of calls. -/
def pushed
    (calls : List Call) : List HarborMsg :=
  (calls.map Call.abstract).filterMap Fifo.Call.item?

/-- The messages that a sequence of calls got from `pop_queue`. -/
def popped
    (calls : List Call) : List HarborMsg :=
  (Fifo.responses perform newQueue calls).filterMap Fifo.Response.item?

/-- What a queue owes to its callers, whatever they called before. -/
structure IsFifo
    (calls : List Call) : Prop where
  /-- Every call answers and does what the FIFO list's call does. -/
  refines : Fifo.Refines contents perform Call.abstract newQueue calls
  /-- What was popped is what was pushed first, in that order. -/
  inOrder : popped calls = (pushed calls).take (popped calls).length
  /-- The next pop returns the oldest message not yet popped, null if there is none. -/
  oldest : (popQueue (after calls)).1 = (pushed calls)[(popped calls).length]?
  /-- The messages not yet popped are in the queue, the oldest first. -/
  kept : (after calls).contents = (pushed calls).drop (popped calls).length
  /-- Growing, wherever the head is, does not touch them. -/
  grown :
    ((after calls).tail + 1) % (after calls).size = (after calls).head →
      (growQueue (after calls)).contents = (after calls).contents

/-- What `pop_queue` answers, and what it leaves. -/
theorem popQueue_spec
    {queue : HarborMsgQueue}
    (wellFormed : queue.WellFormed) :
    (popQueue queue).1 = queue.contents.head? ∧
      (popQueue queue).2.WellFormed ∧
        (popQueue queue).2.contents = queue.contents.tail := by
  cases queued : queue.contents with
  | nil =>
      rw [popQueue_of_nil wellFormed queued]
      exact ⟨rfl, wellFormed, queued⟩
  | cons m rest =>
      obtain ⟨shorter, answered, shape, isRest⟩ :=
        popQueue_of_cons wellFormed queued
      rw [answered]
      exact ⟨rfl, shape, isRest⟩

/-- One call is the FIFO list's call, and keeps the shape of the queue. -/
theorem perform_spec
    {queue : HarborMsgQueue}
    (wellFormed : queue.WellFormed)
    (call : Call) :
    ∃ response next,
      perform queue call = .ok (response, next) ∧
        (response, next.contents) =
          Fifo.apply queue.contents call.abstract ∧
        next.WellFormed := by
  cases call with
  | push m =>
      obtain ⟨shape, appended⟩ := pushQueueMsg_spec wellFormed m
      refine ⟨.pushed, pushQueueMsg queue m, rfl, ?_, shape⟩
      simp [Call.abstract, Fifo.apply, appended]
  | pop =>
      obtain ⟨answered, shape, shortened⟩ := popQueue_spec wellFormed
      refine ⟨_, _, rfl, ?_, shape⟩
      rw [answered, shortened]
      cases queue.contents <;> rfl

/-- Along any calls a well-formed queue is the FIFO list and stays well formed. -/
theorem refines_of_wellFormed
    {queue : HarborMsgQueue}
    (wellFormed : queue.WellFormed)
    (calls : List Call) :
    Fifo.Refines contents perform Call.abstract queue calls ∧
      (Fifo.reached perform queue calls).WellFormed := by
  induction calls generalizing queue with
  | nil =>
      exact ⟨trivial, wellFormed⟩
  | cons call rest inductionHypothesis =>
      obtain ⟨response, next, performed, same, shape⟩ :=
        perform_spec wellFormed call
      obtain ⟨refines, later⟩ := inductionHypothesis shape
      refine ⟨⟨response, next, performed, same, refines⟩, ?_⟩
      simpa only [Fifo.reached, performed] using later

theorem after_wellFormed
    (calls : List Call) :
    (after calls).WellFormed :=
  (refines_of_wellFormed newQueue_wellFormed calls).2

/-- What was popped is what the FIFO list hands out. -/
theorem popped_eq
    (calls : List Call) :
    popped calls =
      (Fifo.run [] (calls.map Call.abstract)).1.filterMap
        Fifo.Response.item? := by
  have refines := (refines_of_wellFormed newQueue_wellFormed calls).1
  unfold popped
  rw [Fifo.responses_of_refines contents perform Call.abstract refines,
    newQueue_contents]

/-- What is left in the queue is what was pushed and not popped. -/
theorem after_contents
    (calls : List Call) :
    (after calls).contents = (pushed calls).drop (popped calls).length := by
  have refines := (refines_of_wellFormed newQueue_wellFormed calls).1
  unfold after
  rw [Fifo.contents_reached contents perform Call.abstract refines,
    newQueue_contents, Fifo.run_queued, popped_eq, pushed]

/--
A queue made by `new_queue` refines the FIFO list along every sequence of
pushes and pops, and growth keeps its messages wherever its head is.
-/
theorem harborMsgQueue_isFifo
    (calls : List Call) :
    IsFifo calls where
  refines := (refines_of_wellFormed newQueue_wellFormed calls).1
  inOrder := by
    have early := Fifo.run_popped_prefix (calls.map Call.abstract)
    rw [← popped_eq] at early
    exact List.prefix_iff_eq_take.mp early
  oldest := by
    have answered := (popQueue_spec (after_wellFormed calls)).1
    rw [answered, after_contents, List.head?_drop]
  kept := after_contents calls
  grown := growQueue_contents (after_wellFormed calls)

/-- The largest `int`s that a call computes are in range. -/
def FitsInt
    (queue : HarborMsgQueue) : Call → Prop
  | .push _ =>
      queue.tail + 1 < 2 ^ 31 ∧
        ((queue.tail + 1) % queue.size = queue.head →
          queue.size * 2 < 2 ^ 31 ∧
            ∀ i < queue.size - 1, i + queue.head < 2 ^ 31)
  | .pop => queue.head + 1 < 2 ^ 31

/-- A full queue holds a message in every slot but one. -/
theorem length_contents_of_full
    {queue : HarborMsgQueue}
    (wellFormed : queue.WellFormed)
    (full : (queue.tail + 1) % queue.size = queue.head) :
    queue.contents.length + 1 = queue.size := by
  have positive : 0 < queue.size := Nat.zero_lt_of_lt wellFormed.head
  unfold HarborMsgQueue.contents Ring.contents
  rw [Ring.length_window, Ring.count_of_full wellFormed.tail full]
  omega

/-- A call grows the queue only to hold as many messages as it has slots. -/
theorem perform_size
    {queue next : HarborMsgQueue}
    {call : Call}
    {response : Fifo.Response HarborMsg}
    (wellFormed : queue.WellFormed)
    (performed : perform queue call = .ok (response, next)) :
    next.size = queue.size ∨ next.size = 2 * next.contents.length := by
  cases call with
  | push m =>
      obtain ⟨-, rfl⟩ := ok_pair_inj.mp performed
      rw [pushQueueMsg_contents wellFormed]
      by_cases full : (queue.tail + 1) % queue.size = queue.head
      · have held := length_contents_of_full wellFormed full
        have doubled : (pushQueueMsg queue m).size = queue.size * 2 := by
          simp [pushQueueMsg, full, growQueue]
        right
        rw [doubled, ← held, List.length_append, List.length_singleton]
        omega
      · left
        simp [pushQueueMsg, full]
  | pop =>
      obtain ⟨-, rfl⟩ := ok_pair_inj.mp performed
      left
      unfold popQueue
      split <;> rfl

/-- The capacity stays within twice the most messages that the queue held. -/
theorem reached_size_le
    {queue : HarborMsgQueue}
    {most : Nat}
    (wellFormed : queue.WellFormed)
    (calls : List Call)
    (small : queue.size ≤ max kDefaultQueueSize (2 * most))
    (short :
      ∀ earlier, earlier <+: calls →
        (Fifo.reached perform queue earlier).contents.length ≤ most) :
    (Fifo.reached perform queue calls).size ≤
      max kDefaultQueueSize (2 * most) := by
  induction calls generalizing queue with
  | nil =>
      exact small
  | cons call rest inductionHypothesis =>
      obtain ⟨response, next, performed, -, shape⟩ :=
        perform_spec wellFormed call
      have shortNext := short [call] ⟨rest, rfl⟩
      simp only [Fifo.reached, performed] at shortNext ⊢
      refine inductionHypothesis shape ?_ ?_
      · rcases perform_size wellFormed performed with same | doubled
        · exact same.trans_le small
        · exact le_max_of_le_right (by omega)
      · intro earlier isPrefix
        have shortLater :=
          short (call :: earlier) ((List.prefix_cons_inj call).mpr isPrefix)
        simpa only [Fifo.reached, performed] using shortLater

/-- While fewer than `2 ^ 30` messages are queued, no call overflows an `int`. -/
theorem after_fitsInt
    (calls : List Call)
    (short :
      ∀ earlier, earlier <+: calls →
        (after earlier).contents.length + 1 < 2 ^ 30)
    (call : Call) :
    FitsInt (after calls) call := by
  have wellFormed := after_wellFormed calls
  have size : (after calls).size ≤ max kDefaultQueueSize (2 * (2 ^ 30 - 2)) := by
    apply reached_size_le newQueue_wellFormed calls (by decide)
    intro earlier isPrefix
    have few : (after earlier).contents.length + 1 < 2 ^ 30 := short earlier isPrefix
    unfold after at few
    omega
  have capacity : (after calls).size < 2 ^ 31 :=
    Nat.lt_of_le_of_lt size (by decide)
  have headBound := wellFormed.head
  have tailBound := wellFormed.tail
  cases call with
  | push m =>
      refine ⟨by omega, ?_⟩
      intro full
      have held := length_contents_of_full wellFormed full
      have few := short calls List.prefix_rfl
      refine ⟨by omega, ?_⟩
      intro i bound
      omega
  | pop =>
      exact Nat.lt_of_le_of_lt headBound capacity

end HarborQueueRun

end SkynetCpp
