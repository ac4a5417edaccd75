import SkynetCpp.Foundation.Fifo
import SkynetCpp.MessageQueue

namespace SkynetCpp

open Foundation

/-!
# One message queue against the FIFO list

`MessageQueue::Pop` hands out a pointer to the front message but never removes
it, and on an empty queue it returns an uninitialised pointer.  The queue
therefore refines the FIFO list along exactly those runs that never pop a
message.
-/

namespace QueueRun

/-- Calls on one queue; a `Pop` comes with what its uninitialised local holds. -/
inductive Call where
  | push (msg : Message)
  | pop (stack : Option Message)
  | length
  deriving Repr, DecidableEq

/-- The call of the abstract queue that a call stands for. -/
def Call.abstract : Call → Fifo.Call Message
  | .push msg => .push msg
  | .pop _ => .pop
  | .length => .length

/-- The messages held by one queue. -/
def contents
    (queue : QueueId)
    (s : Queues) : List Message :=
  (s.mq queue).messageQueue

/-- Perform one call on one queue. -/
def perform
    (queue : QueueId)
    (s : Queues) : Call → Except Fault (Fifo.Response Message × Queues)
  | .push msg =>
      match messageQueuePush s queue msg with
      | .ok next => .ok (.pushed, next)
      | .error fault => .error fault
  | .pop stack =>
      let popped := messageQueuePop s queue stack
      .ok (.popped popped.1, popped.2)
  | .length =>
      .ok (.counted (messageQueueLength s queue), s)

/-- The code's calls are the abstract FIFO's calls, one by one. -/
def RefinesFifo
    (queue : QueueId)
    (s : Queues)
    (calls : List Call) : Prop :=
  Fifo.Refines (contents queue) (perform queue) Call.abstract s calls

/-- A queue as its constructor leaves it, not linked in the global queue. -/
structure Fresh
    (queue : QueueId)
    (s : Queues) : Prop where
  constructed : ∃ handle, s.mq queue = newMessageQueue handle
  unlinked : s.tail ≠ some queue

/--
No call pops a message, given how many messages were pushed before: every
`Pop` comes before the first `Push` and finds null in its uninitialised local,
and every `Length` fits an `int`.
-/
def PopsNoMessage : Nat → List Call → Prop
  | _, [] => True
  | pushed, .push _ :: rest => PopsNoMessage (pushed + 1) rest
  | pushed, .pop stack :: rest =>
      pushed = 0 ∧ stack = none ∧ PopsNoMessage pushed rest
  | pushed, .length :: rest =>
      pushed < 2 ^ 31 ∧ PopsNoMessage pushed rest

/-- What keeps `Push` from failing: a queue outside the global one is empty. -/
structure Pushable
    (queue : QueueId)
    (s : Queues) : Prop where
  detached : (s.mq queue).next = none
  unlinked : contents queue s = [] → s.tail ≠ some queue
  flagged :
    (s.mq queue).inGlobal = kMqInGlobal ∨
      (s.mq queue).inGlobal = 0 ∧ contents queue s = []

theorem Fresh.pushable
    {queue : QueueId}
    {s : Queues}
    (fresh : Fresh queue s) :
    Pushable queue s := by
  obtain ⟨handle, constructed⟩ := fresh.constructed
  refine ⟨?_, fun _ => fresh.unlinked, ?_⟩
  · simp [constructed, newMessageQueue]
  · simp [constructed, newMessageQueue]

/-- Linking a detached queue behind another one succeeds and keeps its data. -/
theorem globalQueuePush_detached
    {queue : QueueId}
    {s : Queues}
    (detached : (s.mq queue).next = none)
    (unlinked : s.tail ≠ some queue) :
    ∃ next,
      globalQueuePush s queue = .ok next ∧
        next.mq queue = s.mq queue ∧
        next.tail = some queue := by
  unfold globalQueuePush
  rw [if_pos detached]
  cases tailShape : s.tail with
  | none =>
      exact ⟨_, rfl, rfl, rfl⟩
  | some tail =>
      have different : queue ≠ tail := by
        intro same
        subst same
        exact unlinked tailShape
      refine ⟨_, rfl, ?_, rfl⟩
      simp [Queues.modify_mq_of_ne s _ different]

/-- A push on a pushable queue appends the message and stays pushable. -/
theorem perform_push
    {queue : QueueId}
    {s : Queues}
    (pushable : Pushable queue s)
    (msg : Message) :
    ∃ next,
      perform queue s (.push msg) = .ok (.pushed, next) ∧
        contents queue next = contents queue s ++ [msg] ∧
        Pushable queue next := by
  rcases pushable.flagged with inside | ⟨outside, empty⟩
  · have flagged : (s.mq queue).inGlobal ≠ 0 := by
      rw [inside]
      decide
    refine ⟨s.modify queue fun mq =>
        { mq with messageQueue := mq.messageQueue ++ [msg] }, ?_, ?_, ?_⟩
    · simp only [perform, messageQueuePush, flagged, ↓reduceIte]
    · simp [contents]
    · refine ⟨by simpa using pushable.detached, ?_, Or.inl (by simpa using inside)⟩
      intro nextEmpty
      simp [contents] at nextEmpty
  · obtain ⟨next, linked, kept, tail⟩ :=
      globalQueuePush_detached
        (s := (s.modify queue fun mq =>
            { mq with messageQueue := mq.messageQueue ++ [msg] }).modify
          queue fun mq => { mq with inGlobal := kMqInGlobal })
        (by simpa using pushable.detached)
        (pushable.unlinked empty)
    refine ⟨next, ?_, ?_, ?_, ?_, ?_⟩
    · simp [perform, messageQueuePush, outside, linked]
    · simp [contents, kept]
    · simpa [kept] using pushable.detached
    · intro nextEmpty
      simp [contents, kept] at nextEmpty
    · simp [kept]

/-- A pop on an empty queue answers the uninitialised pointer. -/
theorem perform_pop_empty
    {queue : QueueId}
    {s : Queues}
    (pushable : Pushable queue s)
    (empty : contents queue s = [])
    (stack : Option Message) :
    ∃ next,
      perform queue s (.pop stack) = .ok (.popped stack, next) ∧
        contents queue next = [] ∧
        Pushable queue next := by
  have shape : (s.mq queue).messageQueue = [] := empty
  refine ⟨s.modify queue fun mq =>
      { mq with overloadThreshold := kMqOverload, inGlobal := 0 }, ?_, ?_, ?_⟩
  · simp [perform, messageQueuePop, shape]
  · simp [contents, shape]
  · refine ⟨by simpa using pushable.detached, ?_, Or.inr ?_⟩
    · intro _
      exact pushable.unlinked empty
    · simp [contents, shape]

/-- A pop on a queue that holds messages removes none of them. -/
theorem perform_pop_nonempty
    {queue : QueueId}
    {s : Queues}
    (nonempty : contents queue s ≠ [])
    (stack : Option Message) :
    ∃ response next,
      perform queue s (.pop stack) = .ok (response, next) ∧
        contents queue next = contents queue s := by
  cases shape : (s.mq queue).messageQueue with
  | nil =>
      exact (nonempty shape).elim
  | cons front rest =>
      refine ⟨_, _, rfl, ?_⟩
      simp [contents, messageQueuePop, shape]

/-- Abstractly a pop shortens a queue that holds messages. -/
private theorem apply_pop_ne
    {items : List Message}
    (nonempty : items ≠ []) :
    (Fifo.apply items .pop).2 ≠ items := by
  cases items with
  | nil =>
      exact (nonempty rfl).elim
  | cons item rest =>
      intro same
      have lengths := congrArg List.length same
      simp [Fifo.apply] at lengths

/-- `Length` answers the number of messages exactly when it fits an `int`. -/
theorem messageQueueLength_eq_iff
    (s : Queues)
    (queue : QueueId) :
    messageQueueLength s queue = (contents queue s).length ↔
      (contents queue s).length < 2 ^ 31 := by
  constructor
  · intro exactLength
    have bound := toInt32_lt (contents queue s).length
    rw [show toInt32 (contents queue s).length =
      messageQueueLength s queue from rfl, exactLength] at bound
    exact_mod_cast bound
  · intro small
    exact toInt32_of_bounds (by omega) (by exact_mod_cast small)

/--
From a pushable queue the code refines the FIFO list exactly along the runs
that pop no message.
-/
theorem refinesFifo_iff_popsNoMessage
    {queue : QueueId}
    {s : Queues}
    (pushable : Pushable queue s)
    (calls : List Call) :
    RefinesFifo queue s calls ↔
      PopsNoMessage (contents queue s).length calls := by
  induction calls generalizing s with
  | nil =>
      simp [RefinesFifo, Fifo.Refines, PopsNoMessage]
  | cons call rest inductionHypothesis =>
      cases call with
      | push msg =>
          obtain ⟨next, performed, appended, nextPushable⟩ :=
            perform_push pushable msg
          have later := inductionHypothesis nextPushable
          rw [appended, List.length_append] at later
          simp only [RefinesFifo, Fifo.Refines, performed,
            PopsNoMessage] at later ⊢
          rw [← List.length_singleton (a := msg), ← later]
          constructor
          · rintro ⟨_, _, same, _, refines⟩
            injection same with same
            injection same with _ same
            subst same
            exact refines
          · intro refines
            exact ⟨_, _, rfl, by simp [appended, Call.abstract, Fifo.apply],
              refines⟩
      | pop stack =>
          by_cases empty : contents queue s = []
          · obtain ⟨next, performed, nextEmpty, nextPushable⟩ :=
              perform_pop_empty pushable empty stack
            have later := inductionHypothesis nextPushable
            rw [nextEmpty] at later
            simp only [RefinesFifo, Fifo.Refines, performed, empty,
              PopsNoMessage, List.length_nil, true_and] at later ⊢
            rw [← later]
            constructor
            · rintro ⟨_, _, same, answered, refines⟩
              injection same with same
              injection same with sameResponse same
              subst same
              subst sameResponse
              refine ⟨?_, refines⟩
              simpa [Call.abstract, Fifo.apply, nextEmpty] using answered
            · rintro ⟨isNull, refines⟩
              subst isNull
              exact ⟨_, _, rfl, by simp [Call.abstract, Fifo.apply, nextEmpty],
                refines⟩
          · obtain ⟨response, next, performed, kept⟩ :=
              perform_pop_nonempty empty stack
            have someHeld : (contents queue s).length ≠ 0 := by
              simpa using empty
            simp only [PopsNoMessage, someHeld, false_and, iff_false]
            rintro ⟨_, _, same, answered, _⟩
            rw [performed] at same
            injection same with same
            injection same with _ same
            subst same
            have shortened := (Prod.ext_iff.mp answered).2
            rw [kept] at shortened
            exact apply_pop_ne empty shortened.symm
      | length =>
          have later := inductionHypothesis pushable
          simp only [RefinesFifo, Fifo.Refines, perform,
            PopsNoMessage] at later ⊢
          rw [← later, ← messageQueueLength_eq_iff]
          constructor
          · rintro ⟨_, _, same, answered, refines⟩
            injection same with same
            injection same with sameResponse same
            subst same
            subst sameResponse
            refine ⟨?_, refines⟩
            simpa [Call.abstract, Fifo.apply] using answered
          · rintro ⟨fits, refines⟩
            exact ⟨_, _, rfl, by simp [Call.abstract, Fifo.apply, fits],
              refines⟩

/--
A freshly constructed queue refines the FIFO list along a run of `Push`,
`Pop` and `Length` calls exactly when the run never pops a message.
-/
theorem messageQueue_refinesFifo_iff
    {queue : QueueId}
    {s : Queues}
    (fresh : Fresh queue s)
    (calls : List Call) :
    RefinesFifo queue s calls ↔ PopsNoMessage 0 calls := by
  have empty : contents queue s = [] := by
    obtain ⟨handle, constructed⟩ := fresh.constructed
    simp [contents, constructed, newMessageQueue]
  have general := refinesFifo_iff_popsNoMessage fresh.pushable calls
  rwa [empty] at general

/-- One constructed queue and an empty global queue. -/
def solo : Queues where
  mq := fun _ => newMessageQueue 1
  head := none
  tail := none

/-- A message of 5 bytes from service 7. -/
def hello : Message where
  source := 7
  session := 0
  data := some (.bytes [104, 101, 108, 108, 111])
  sz := 5

/-- A run that pops before it pushes, and then only measures, is right. -/
theorem messageQueue_refinesFifo_solo :
    RefinesFifo 0 solo [.pop none, .push hello, .length] :=
  (messageQueue_refinesFifo_iff ⟨⟨1, rfl⟩, by decide⟩ _).mpr
    ⟨rfl, rfl, by decide, trivial⟩

/--
One message pushed and popped twice is returned twice: the second `Pop`
should have answered null.
-/
theorem pop_twice_not_refinesFifo :
    ¬ RefinesFifo 0 solo [.push hello, .pop none, .pop none] := by
  rintro ⟨_, next, pushed, _, _, _, popped, answered, _⟩
  have pushedNext :
      next = solo.modify 0 fun mq =>
        { mq with messageQueue := mq.messageQueue ++ [hello] } := by
    injection pushed with pushed
    injection pushed with _ pushed
    exact pushed.symm
  subst pushedNext
  obtain ⟨rfl, rfl⟩ := ok_pair_inj.mp popped
  have remaining := (Prod.ext_iff.mp answered).2
  revert remaining
  decide

end QueueRun

end SkynetCpp
