import SkynetCpp.Foundation.Run
import SkynetCpp.GlobalQueue

namespace SkynetCpp

open Foundation

/-!
# The global queue along every run

A run starts with no queue linked and is any sequence of `GlobalQueue::Push`
on queues that are not linked and of `GlobalQueue::Pop`.  What was pushed and
what was popped is recorded beside the pointers, and the pointers always
spell the rest: the queues pushed and not yet popped, in push order.
-/

namespace GlobalQueueRun

/-- The pointers of the global queue, and the calls' record. -/
structure Recorded where
  queues : Queues
  pushed : List QueueId
  popped : List QueueId

/-- Following `next_` from `head_` comes to the queue. -/
def IsLinked
    (s : Queues)
    (queue : QueueId) : Prop :=
  ∃ steps, walk (fun queue => (s.mq queue).next) s.head steps = some queue

/-- The calls on the global queue. -/
inductive Call where
  | push (queue : QueueId)
  | pop
  deriving Repr, DecidableEq

/-- One call that returned. -/
inductive Step : Recorded → Call → Recorded → Prop where
  | push
      {s : Recorded}
      {next : Queues}
      {queue : QueueId}
      (apart : ¬ IsLinked s.queues queue)
      (returned : globalQueuePush s.queues queue = .ok next) :
      Step s (.push queue)
        { s with queues := next, pushed := s.pushed ++ [queue] }
  | pop
      {s : Recorded}
      {next : Queues}
      {answer : Option QueueId}
      (returned : globalQueuePop s.queues = .ok (answer, next)) :
      Step s .pop
        { s with queues := next, popped := s.popped ++ answer.toList }

/-- No queue is linked: each is as its constructor left it, and so are the ends. -/
structure Empty
    (s : Queues) : Prop where
  head : s.head = none
  tail : s.tail = none
  next : ∀ queue, (s.mq queue).next = none

/-- A run that has made no call. -/
def start
    (s : Queues) : Recorded where
  queues := s
  pushed := []
  popped := []

/-- The queues pushed and not yet popped, in push order. -/
def Recorded.waiting
    (s : Recorded) : List QueueId :=
  s.pushed.drop s.popped.length

/-- What holds between any two calls. -/
structure WellFormed
    (s : Recorded) : Prop where
  /-- From `head_` on, `next_` visits the waiting queues in push order. -/
  chain :
    Chain (fun queue => (s.queues.mq queue).next) s.queues.head s.waiting
  /-- It visits each of them once. -/
  once : s.waiting.Nodup
  /-- It ends at `tail_`. -/
  last : s.queues.tail = s.waiting.getLast?
  /-- `tail_` is null exactly when `head_` is. -/
  null : s.queues.tail = none ↔ s.queues.head = none
  /-- A queue that is not linked has a null `next_`. -/
  detached :
    ∀ queue, ¬ IsLinked s.queues queue → (s.queues.mq queue).next = none
  /-- The pops so far answered the earliest pushes. -/
  inOrder : s.popped = s.pushed.take s.popped.length
  /-- The next pop fails no assertion, and answers the earliest queue not yet popped. -/
  pops :
    ∃ next,
      globalQueuePop s.queues = .ok (s.pushed[s.popped.length]?, next)
  /-- The next push of a queue that is not linked fails no assertion. -/
  pushes :
    ∀ queue, ¬ IsLinked s.queues queue →
      ∃ next, globalQueuePush s.queues queue = .ok next

/-- The pointers spell what was pushed and not popped. -/
structure Spells
    (s : Recorded)
    (nodes : List QueueId) : Prop where
  split : s.pushed = s.popped ++ nodes
  linked : Linked s.queues nodes

namespace Spells

variable
    {s : Recorded}
    {nodes : List QueueId}

theorem waiting_eq
    (spells : Spells s nodes) :
    s.waiting = nodes := by
  unfold Recorded.waiting
  rw [spells.split, List.drop_left]

/-- The pointers reach exactly the waiting queues. -/
theorem isLinked_iff
    (spells : Spells s nodes)
    {queue : QueueId} :
    IsLinked s.queues queue ↔ queue ∈ nodes :=
  spells.linked.chain.mem_iff_walk.symm

/-- A queue that is not linked is pushed behind those waiting. -/
theorem push
    {next : Queues}
    {queue : QueueId}
    (spells : Spells s nodes)
    (apart : ¬ IsLinked s.queues queue)
    (returned : globalQueuePush s.queues queue = .ok next) :
    Spells { s with queues := next, pushed := s.pushed ++ [queue] }
      (nodes ++ [queue]) := by
  have absent := spells.isLinked_iff.not.mp apart
  refine ⟨?_, spells.linked.of_push absent returned⟩
  rw [spells.split, List.append_assoc]

/-- A pop takes the first of those waiting. -/
theorem pop
    {next : Queues}
    {answer : Option QueueId}
    (spells : Spells s nodes)
    (returned : globalQueuePop s.queues = .ok (answer, next)) :
    Spells { s with queues := next, popped := s.popped ++ answer.toList }
      nodes.tail := by
  obtain ⟨isHead, linked⟩ := spells.linked.of_pop returned
  refine ⟨?_, linked⟩
  rw [spells.split, isHead, List.append_assoc]
  cases nodes <;> rfl

/-- One call of a run keeps the pointers in step with the record. -/
theorem step
    {next : Recorded}
    {call : Call}
    (spells : Spells s nodes)
    (taken : Step s call next) :
    ∃ later, Spells next later := by
  cases taken with
  | push apart returned =>
      exact ⟨_, spells.push apart returned⟩
  | pop returned =>
      exact ⟨_, spells.pop returned⟩

/-- `tail_` is null exactly when `head_` is: when no queue is waiting. -/
theorem tail_eq_none_iff
    (spells : Spells s nodes) :
    s.queues.tail = none ↔ s.queues.head = none := by
  rw [spells.linked.tail, spells.linked.head_eq]
  cases nodes <;> simp

/-- Pointers in step with the record are well formed. -/
theorem wellFormed
    (spells : Spells s nodes) :
    WellFormed s where
  chain := by
    rw [spells.waiting_eq]
    exact spells.linked.chain
  once := by
    rw [spells.waiting_eq]
    exact spells.linked.noDuplicates
  last := by
    rw [spells.waiting_eq]
    exact spells.linked.tail
  null := spells.tail_eq_none_iff
  detached := by
    intro queue apart
    exact spells.linked.unlinked queue (spells.isLinked_iff.not.mp apart)
  inOrder := by
    rw [spells.split, List.take_left]
  pops := by
    obtain ⟨next, returned, -⟩ := spells.linked.pop
    refine ⟨next, ?_⟩
    rw [returned, spells.split, List.getElem?_append_right (Nat.le_refl _),
      Nat.sub_self, List.head?_eq_getElem?]
  pushes := by
    intro queue apart
    have absent := spells.isLinked_iff.not.mp apart
    obtain ⟨next, returned, -⟩ := spells.linked.push absent
    exact ⟨next, returned⟩

end Spells

theorem Empty.spells
    {s : Queues}
    (empty : Empty s) :
    Spells (start s) [] where
  split := rfl
  linked :=
    { chain := empty.head
      tail := empty.tail
      noDuplicates := List.nodup_nil
      unlinked := fun queue _ => empty.next queue }

/--
Along every run of pushes of queues that are not linked and of pops, the
global queue is the list of the queues pushed and not yet popped, and no
assertion fails.
-/
theorem globalQueue_wellFormed
    {s : Queues}
    {past : List (Recorded × Call)}
    {final : Recorded}
    (empty : Empty s)
    (run : Run Step (start s) past final) :
    ∀ state ∈ Run.visited past final, WellFormed state := by
  have spelled :
      ∀ state ∈ Run.visited past final, ∃ nodes, Spells state nodes := by
    refine run.invariant_of_step ?_ ?_
    · exact ⟨[], empty.spells⟩
    rintro state call next ⟨nodes, spells⟩ taken
    exact spells.step taken
  intro state member
  obtain ⟨nodes, spells⟩ := spelled state member
  exact spells.wellFormed

/-- Constructed queues of which none is linked. -/
def constructed : Queues where
  mq := fun queue => newMessageQueue (UInt32.ofNat queue)
  head := none
  tail := none

theorem constructed_empty :
    Empty constructed where
  head := rfl
  tail := rfl
  next := fun _ => rfl

/-- Queues 3 and 5 are pushed, then 3 is popped and pushed again. -/
theorem globalQueue_wellFormed_repushed :
    ∃ past final,
      Run Step (start constructed) past final ∧
        final.waiting = [5, 3] ∧
          ∀ state ∈ Run.visited past final, WellFormed state := by
  have none := constructed_empty.spells
  have apart3 := none.isLinked_iff.not.mpr (show 3 ∉ [] by decide)
  have pushed3 := none.push apart3 rfl
  have apart5 := pushed3.isLinked_iff.not.mpr (show 5 ∉ [3] by decide)
  have pushed5 := pushed3.push apart5 rfl
  have popped3 := pushed5.pop rfl
  have again := popped3.isLinked_iff.not.mpr (show 3 ∉ [5] by decide)
  have run :=
    (((Run.nil.snoc (Step.push apart3 rfl)).snoc
      (Step.push apart5 rfl)).snoc (Step.pop rfl)).snoc (Step.push again rfl)
  exact ⟨_, _, run, rfl, globalQueue_wellFormed constructed_empty run⟩

end GlobalQueueRun

end SkynetCpp
