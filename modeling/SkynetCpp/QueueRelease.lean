import SkynetCpp.Dispatch
import SkynetCpp.GlobalQueue

namespace SkynetCpp

/-!
# The queue of a retired service

`MessageQueue::Release` drops what a retired service left in its queue.  Its
loop ends exactly when there is nothing to drop, because no `Pop` removes a
message and no dropped message shortens a queue.
-/

/-- Messages are only appended to the queues. -/
def Appends (s s' : System) : Prop :=
  ∀ queue,
    (s.queues.mq queue).messageQueue <+: (s'.queues.mq queue).messageQueue

namespace Appends

variable
    {s t s' : System}

theorem refl (s : System) : Appends s s :=
  fun _ => List.prefix_rfl

theorem trans
    (first : Appends s t)
    (second : Appends t s') :
    Appends s s' :=
  fun queue => (first queue).trans (second queue)

/-- A call that moves no message. -/
theorem of_eq
    (same :
      ∀ queue,
        (s'.queues.mq queue).messageQueue = (s.queues.mq queue).messageQueue) :
    Appends s s' :=
  fun queue => same queue ▸ List.prefix_rfl

theorem handleGrab
    (s : System)
    (handle : UInt32) :
    Appends s (handleGrab s handle).2 := by
  unfold SkynetCpp.handleGrab
  cases handleLookup s handle with
  | none =>
      exact refl s
  | some ctx =>
      exact of_eq fun _ => rfl

/-- No send takes a message away. -/
theorem keptBySends : KeptBySends Appends where
  refl := refl
  trans := trans
  logger := fun _ _ => of_eq fun _ => rfl
  newsession := fun _ _ => of_eq fun _ => rfl
  grab := handleGrab
  push := by
    intro s target msg queues push queue
    show _ <+: (queues.mq queue).messageQueue
    rw [messageQueuePush_messages push]
    split
    · exact List.prefix_append ..
    · exact List.prefix_rfl
  release := fun release => of_eq (contextRelease_messages release)
  delete := fun _ _ => of_eq fun _ => rfl

end Appends

section Drops

variable
    (queue : QueueId)
    (handle : UInt32)
    (stack : Nat → Option Message)

/-- The drop function is called on exactly the listed messages, in order. -/
inductive Drops : Nat → System → List Message → System → Prop where
  | nil
      {k : Nat}
      {s : System}
      {queues : Queues}
      (popped : messageQueuePop s.queues queue (stack k) = (none, queues)) :
      Drops k s [] { s with queues := queues }
  | cons
      {k : Nat}
      {s dropped s' : System}
      {queues : Queues}
      {msg : Message}
      {rest : List Message}
      (popped : messageQueuePop s.queues queue (stack k) = (some msg, queues))
      (drop : dropMessage { s with queues := queues } handle msg = .ok dropped)
      (later : Drops (k + 1) dropped rest s') :
      Drops k s (msg :: rest) s'

variable
    {queue handle stack}

/-- The loop of `MessageQueue::Release` returns exactly after finitely many drops. -/
theorem dropMessages_eq_ok_iff
    {k : Nat}
    {s s' : System} :
    (∃ fuel, dropMessages queue handle stack fuel k s = .ok s') ↔
      ∃ messages, Drops queue handle stack k s messages s' := by
  constructor
  · rintro ⟨fuel, returned⟩
    induction fuel generalizing k s with
    | zero =>
        cases returned
    | succ fuel inductionHypothesis =>
        unfold dropMessages at returned
        rcases shape : messageQueuePop s.queues queue (stack k) with
          ⟨popped, queues⟩
        rw [shape] at returned
        cases popped with
        | none =>
            injection returned with isState
            rw [← isState]
            exact ⟨[], .nil shape⟩
        | some msg =>
            simp only [bind_eq_ok_iff] at returned
            obtain ⟨t, drop, rest⟩ := returned
            obtain ⟨messages, later⟩ := inductionHypothesis rest
            exact ⟨msg :: messages, .cons shape drop later⟩
  · rintro ⟨messages, drops⟩
    induction drops with
    | nil popped =>
        refine ⟨1, ?_⟩
        unfold dropMessages
        rw [popped]
    | cons popped drop later inductionHypothesis =>
        obtain ⟨fuel, returned⟩ := inductionHypothesis
        refine ⟨fuel + 1, ?_⟩
        unfold dropMessages
        rw [popped]
        exact bind_eq_ok_iff.mpr ⟨_, drop, returned⟩

/-- The loop does not end over a queue that holds a message. -/
theorem Drops.messageQueue_eq_nil
    {k : Nat}
    {s s' : System}
    {messages : List Message}
    (drops : Drops queue handle stack k s messages s') :
    (s.queues.mq queue).messageQueue = [] := by
  induction drops with
  | @nil k s queues popped =>
      have isNone := congrArg Prod.fst popped
      exact (messageQueuePop_eq_none_iff.mp isNone).1
  | @cons k s dropped s' queues msg rest popped drop later inductionHypothesis =>
      have popKeeps :
          (queues.mq queue).messageQueue =
            (s.queues.mq queue).messageQueue := by
        have kept :=
          messageQueuePop_field MessageQueue.messageQueue (fun _ _ _ _ => rfl)
            s.queues queue (stack k) queue
        rwa [popped] at kept
      have grows := Appends.keptBySends.dropMessage drop queue
      rw [inductionHypothesis, List.prefix_nil] at grows
      exact popKeeps.symm.trans grows

/-- Nothing is dropped exactly when the local of the first `Pop` holds null. -/
theorem drops_nil_iff
    {k : Nat}
    {s : System} :
    (∃ s', Drops queue handle stack k s [] s') ↔
      (s.queues.mq queue).messageQueue = [] ∧ stack k = none := by
  rw [← messageQueuePop_eq_none_iff]
  constructor
  · rintro ⟨s', drops⟩
    cases drops with
    | nil popped =>
        rw [popped]
  · intro isNone
    rcases shape : messageQueuePop s.queues queue (stack k) with
      ⟨popped, queues⟩
    rw [shape] at isNone
    subst isNone
    exact ⟨_, .nil shape⟩

end Drops

/--
A queue that a worker took from the global queue and whose service is not
registered any more.
-/
structure Orphaned
    (s : System)
    (nodes : List QueueId)
    (queue : QueueId) : Prop where
  linked : Linked s.queues nodes
  taken : queue ∉ nodes
  unregistered : handleLookup s (s.queues.mq queue).handle = none

/--
`MessageQueue::Release` returns after dropping every message of the queue once
in order, and deletes the queue once.
-/
def ReleasesQueue
    (stack : Nat → Option Message)
    (s : System)
    (queue : QueueId) : Prop :=
  let handle := (s.queues.mq queue).handle
  ∃ fuel dropped,
    Drops queue handle stack 0 s (s.queues.mq queue).messageQueue dropped ∧
      messageQueueRelease s queue handle stack fuel =
        .ok (deleteQueue dropped queue)

/-- `MessageDispatch` links the queue again, goes on, and deletes no queue. -/
def RelinksQueue
    (callback : Callback)
    (stack : Nat → Option Message)
    (garbage : Message)
    (weight : Int)
    (s : System)
    (nodes : List QueueId)
    (queue : QueueId) : Prop :=
  ∀ fuel, ∃ relinked next s',
    globalQueuePush s.queues queue = .ok relinked ∧
      Linked relinked (nodes ++ [queue]) ∧
      globalQueuePop relinked = .ok (next, s'.queues) ∧
      next = (nodes ++ [queue]).head? ∧
      messageDispatch callback stack garbage fuel s (some queue) weight =
        .ok (next, [], s') ∧
      ∀ other, (s'.queues.mq other).deleted = (s.queues.mq other).deleted

variable
    {stack : Nat → Option Message}
    {s : System}
    {nodes : List QueueId}
    {queue : QueueId}

/-- A marked queue is released exactly when it is empty and `Pop` answers null. -/
theorem releasesQueue_iff
    (orphaned : Orphaned s nodes queue)
    (marked : (s.queues.mq queue).release = true) :
    ReleasesQueue stack s queue ↔
      (s.queues.mq queue).messageQueue = [] ∧ stack 0 = none := by
  constructor
  · rintro ⟨fuel, dropped, drops, _⟩
    have isEmpty := drops.messageQueue_eq_nil
    rw [isEmpty] at drops
    exact drops_nil_iff.mp ⟨dropped, drops⟩
  · rintro ⟨isEmpty, isNone⟩
    obtain ⟨dropped, drops⟩ := drops_nil_iff.mpr ⟨isEmpty, isNone⟩
    obtain ⟨fuel, returned⟩ := dropMessages_eq_ok_iff.mpr ⟨[], drops⟩
    refine ⟨fuel, dropped, isEmpty ▸ drops, ?_⟩
    have detached : (dropped.queues.mq queue).next = none := by
      cases drops with
      | nil popped =>
          have kept :=
            messageQueuePop_field MessageQueue.next (fun _ _ _ _ => rfl)
              s.queues queue (stack 0) queue
          rw [popped] at kept
          exact kept.trans (orphaned.linked.unlinked queue orphaned.taken)
    unfold messageQueueRelease
    rw [if_pos marked]
    refine bind_eq_ok_iff.mpr ⟨dropped, returned, ?_⟩
    rw [if_pos detached]

/-- A queue that is not marked yet is linked again. -/
theorem relinksQueue_of_unmarked
    (orphaned : Orphaned s nodes queue)
    (unmarked : (s.queues.mq queue).release = false)
    (callback : Callback)
    (stack : Nat → Option Message)
    (garbage : Message)
    (weight : Int) :
    RelinksQueue callback stack garbage weight s nodes queue := by
  intro fuel
  obtain ⟨relinked, push, linked⟩ := orphaned.linked.push orphaned.taken
  obtain ⟨queues, pop, _⟩ := linked.pop
  refine ⟨relinked, _, { s with queues := queues }, push, linked, pop, rfl,
    ?_, ?_⟩
  · unfold messageDispatch dispatchQueue handleGrab
    simp only [orphaned.unregistered]
    have releases :
        messageQueueRelease s queue (s.queues.mq queue).handle stack fuel =
          .ok { s with queues := relinked } := by
      unfold messageQueueRelease
      rw [if_neg (by simp [unmarked])]
      exact pushGlobalQueue_eq_ok_iff.mpr ⟨relinked, push, rfl⟩
    refine bind_eq_ok_iff.mpr ⟨_, releases, ?_⟩
    exact bind_eq_ok_iff.mpr
      ⟨_, popGlobalQueue_eq_ok_iff.mpr ⟨queues, pop, rfl⟩, rfl⟩
  · intro other
    have popKeeps :=
      globalQueuePop_field MessageQueue.deleted (fun _ _ => rfl) pop other
    exact popKeeps.trans
      (globalQueuePush_field MessageQueue.deleted (fun _ _ => rfl) push other)

/--
A retired service's queue is released or linked again as it should be exactly
when it holds no message, and `Pop` answers null, once it is marked.
-/
theorem orphanedQueue_iff
    (orphaned : Orphaned s nodes queue)
    (callback : Callback)
    (garbage : Message)
    (weight : Int) :
    ((s.queues.mq queue).release = true → ReleasesQueue stack s queue) ∧
        ((s.queues.mq queue).release = false →
          RelinksQueue callback stack garbage weight s nodes queue) ↔
      ((s.queues.mq queue).release = true →
        (s.queues.mq queue).messageQueue = [] ∧ stack 0 = none) := by
  constructor
  · rintro ⟨releases, _⟩ marked
    exact (releasesQueue_iff orphaned marked).mp (releases marked)
  · intro drained
    refine ⟨?_, ?_⟩
    · intro marked
      exact (releasesQueue_iff orphaned marked).mpr (drained marked)
    · intro unmarked
      exact relinksQueue_of_unmarked orphaned unmarked callback stack garbage
        weight

/-- A node whose only service was retired, with the service's queue marked. -/
def retiredSystem (messages : List Message) : System :=
  { soloSystem with
    queues := soloSystem.queues.modify 0 fun mq =>
      { mq with release := true, messageQueue := messages }
    storage := handleInit 0 }

theorem retiredSystem_orphaned
    (messages : List Message) :
    Orphaned (retiredSystem messages) [] 0 where
  linked := by
    have linked : Linked soloSystem.queues [] :=
      ⟨rfl, rfl, List.nodup_nil, fun _ _ => rfl⟩
    exact linked.congr
      (Queues.modify_field MessageQueue.next soloSystem.queues 0
        (fun mq => { mq with release := true, messageQueue := messages }) rfl)
      rfl rfl
  taken := List.not_mem_nil
  unregistered := by
    have noSlot (index : Nat) : (handleInit 0).slotAt index = none := by
      simp only [HandleStorage.slotAt, handleInit, List.getElem?_replicate]
      split
      · rfl
      · rfl
    unfold handleLookup
    simp only [retiredSystem, noSlot]

/-- An empty queue is deleted. -/
theorem retiredSystem_released :
    ReleasesQueue (fun _ => none) (retiredSystem []) 0 :=
  ((orphanedQueue_iff (retiredSystem_orphaned [])
    (fun _ s => (1, s)) (errorMessage 1 "") 0).mpr fun _ => ⟨rfl, rfl⟩).1 rfl

/-- A queue with one message is never deleted. -/
theorem retiredSystem_not_released :
    (∀ fuel s',
      messageQueueRelease (retiredSystem [errorMessage 1 "left"]) 0 1
          (fun _ => none) fuel ≠
        .ok s') ∧
      ¬ ReleasesQueue (fun _ => none)
        (retiredSystem [errorMessage 1 "left"]) 0 := by
  refine ⟨?_, ?_⟩
  · intro fuel s' returned
    unfold messageQueueRelease at returned
    rw [if_pos (by rfl), bind_eq_ok_iff] at returned
    obtain ⟨dropped, drops, _⟩ := returned
    obtain ⟨messages, drops⟩ := dropMessages_eq_ok_iff.mp ⟨fuel, drops⟩
    cases drops.messageQueue_eq_nil
  · rw [releasesQueue_iff (retiredSystem_orphaned _) rfl]
    rintro ⟨isEmpty, _⟩
    cases isEmpty

end SkynetCpp
