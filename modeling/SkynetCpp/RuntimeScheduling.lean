import SkynetCpp.RuntimeReferences
import SkynetCpp.Scheduling

namespace SkynetCpp

open Foundation

/-!
# Scheduling on the running node

Threads that push messages to services, and worker threads that go round
`MessageDispatch`, in any interleaving.  A worker holds a queue from
`GlobalQueue::Pop` until it pushes the queue back, deletes it, or gives it up
with a `Pop` that returns a pointer.
-/

namespace Scheduling

open References

/-- How often a worker holds a queue in an operation in progress. -/
def holdsQueue
    (queue : QueueId) : Frame → Nat
  | .messageDispatch (some taken) _ => if taken = queue then 1 else 0
  | .dispatchPop turns => if turns.queue = queue then 1 else 0
  | .dispatchLength turns => if turns.queue = queue then 1 else 0
  | .dispatchTurn turns => if turns.queue = queue then 1 else 0
  | .callback turns => if turns.queue = queue then 1 else 0
  | .dispatchBack turns next =>
      (if turns.queue = queue then 1 else 0) + if next = queue then 1 else 0
  | .queueRelease taken _ => if taken = queue then 1 else 0
  | .draining taken _ => if taken = queue then 1 else 0
  | _ => 0

/-- The operations of senders and of workers that the account goes through. -/
def Participates
    (s : System) : Frame → Prop
  | .contextPush .. => True
  | .pushGrabbed .. => True
  | .release _ => True
  | .delete _ => True
  | .queueRelease .. => True
  | .draining queue _ => (s.queues.mq queue).release = true
  | .messageDispatch .. => True
  | .dispatchPop turns =>
      turns.i = 0 ∧ turns.n = 1 ∧ (s.queues.mq turns.queue).release = false
  | .dispatchNext _ => True
  | _ => False

/-- What neither senders nor workers change. -/
structure SameServices (s s' : System) : Prop where
  table : SameTable s s'
  queue : ∀ ctx, (s'.contexts ctx).queue = (s.contexts ctx).queue
  release :
    ∀ queue, (s'.queues.mq queue).release = (s.queues.mq queue).release
  handle :
    ∀ queue, (s'.queues.mq queue).handle = (s.queues.mq queue).handle

/-- Contexts with holders are registered, and count the table and the holders. -/
structure Backed
    (s : System)
    (refs : ContextId → Nat) : Prop where
  counted :
    ∀ ctx, registered s ctx = 1 →
      1 + refs ctx ≤ (s.contexts ctx).ref ∧ (s.contexts ctx).ref < 2 ^ 31
  registered : ∀ ctx, 0 < refs ctx → registered s ctx = 1

/-- Registered contexts use unmarked queues; a marked queue's handle is free. -/
structure Serves (s : System) : Prop where
  unmarked :
    ∀ ctx, registered s ctx = 1 →
      (s.queues.mq (s.contexts ctx).queue).release = false
  retired :
    ∀ queue, (s.queues.mq queue).release = true →
      handleLookup s (s.queues.mq queue).handle = none

/-- What the sections of senders and workers preserve. -/
structure Kept
    (launched : QueueId → Prop)
    (s : System)
    (refs : ContextId → Nat)
    (held : QueueId → Nat) : Prop where
  placed : Placed launched s.queues held
  backed : Backed s refs
  serves : Serves s

namespace SameServices

variable {s s' : System}

theorem registered
    (same : SameServices s s')
    (ctx : ContextId) :
    registered s' ctx = registered s ctx := by
  unfold References.registered
  rw [same.table.storage]

theorem serves
    (same : SameServices s s')
    (serves : Serves s) :
    Serves s' where
  unmarked := by
    intro ctx isRegistered
    rw [same.registered] at isRegistered
    rw [same.release, same.queue]
    exact serves.unmarked ctx isRegistered
  retired := by
    intro queue marked
    rw [same.release] at marked
    rw [same.handle, same.table.lookup]
    exact serves.retired queue marked

theorem participates
    (same : SameServices s s')
    {frame : Frame}
    (participates : Participates s frame) :
    Participates s' frame := by
  cases frame <;>
    simp_all [Participates, same.release]

/-- Writing message queues apart from marks and handles. -/
theorem of_queues
    {queues : Queues}
    (sameRelease :
      ∀ queue, (queues.mq queue).release = (s.queues.mq queue).release)
    (sameHandle :
      ∀ queue, (queues.mq queue).handle = (s.queues.mq queue).handle) :
    SameServices s { s with queues := queues } where
  table := SameTable.of_contexts rfl rfl rfl
  queue := fun _ => rfl
  release := sameRelease
  handle := sameHandle

/-- Changing a context apart from its handle and queue. -/
theorem modify
    (s : System)
    (ctx : ContextId)
    (change : Context → Context)
    (keepsHandle :
      (change (s.contexts ctx)).handle = (s.contexts ctx).handle)
    (keepsQueue :
      (change (s.contexts ctx)).queue = (s.contexts ctx).queue) :
    SameServices s (s.modify ctx change) where
  table := SameTable.modify s ctx change keepsHandle
  queue := System.modify_field Context.queue s ctx change keepsQueue
  release := fun _ => rfl
  handle := fun _ => rfl

end SameServices

namespace Backed

variable
    {s s' : System}
    {refs refs' : ContextId → Nat}

theorem of_same
    (backed : Backed s refs)
    (same : SameServices s s')
    (sameRef : ∀ ctx, (s'.contexts ctx).ref = (s.contexts ctx).ref)
    (sameRefs : ∀ ctx, refs' ctx = refs ctx) :
    Backed s' refs' where
  counted := by
    intro ctx isRegistered
    rw [same.registered] at isRegistered
    rw [sameRef, sameRefs]
    exact backed.counted ctx isRegistered
  registered := by
    intro ctx held
    rw [sameRefs] at held
    rw [same.registered]
    exact backed.registered ctx held

/-- A grab of a registered context that fits is one holder more. -/
theorem grab
    {ctx : ContextId}
    (backed : Backed s refs)
    (isRegistered : References.registered s ctx = 1)
    (fits : (s.contexts ctx).ref + 1 < 2 ^ 31)
    (oneMore :
      ∀ other, refs' other = refs other + if ctx = other then 1 else 0) :
    Backed (contextGrab s ctx) refs' where
  counted := by
    intro other otherRegistered
    have count := backed.counted other otherRegistered
    rw [oneMore]
    by_cases isGrabbed : other = ctx
    · subst isGrabbed
      have grabbed :
          ((contextGrab s other).contexts other).ref =
            (s.contexts other).ref + 1 := by
        simp only [contextGrab, System.modify_contexts_self]
        exact toInt32_of_bounds (by omega) fits
      rw [grabbed, if_pos rfl]
      omega
    · rw [contextGrab, System.modify_contexts_of_ne s _ isGrabbed,
        if_neg (Ne.symm isGrabbed)]
      exact count
  registered := by
    intro other held
    by_cases isGrabbed : other = ctx
    · rw [isGrabbed]
      exact isRegistered
    · rw [oneMore, if_neg (Ne.symm isGrabbed)] at held
      exact backed.registered other held

/-- A release of a registered context is never the last one. -/
theorem release
    {ctx : ContextId}
    {inUse : Bool}
    (backed : Backed s refs)
    (returned : contextRelease s ctx = .ok (inUse, s'))
    (oneLess :
      ∀ other, refs other = refs' other + if ctx = other then 1 else 0) :
    s' = contextUnref s ctx ∧ Backed s' refs' := by
  have heldOnce : refs ctx = refs' ctx + 1 := by
    rw [oneLess, if_pos rfl]
  have isRegistered := backed.registered ctx (by omega)
  have count := backed.counted ctx isRegistered
  have isState : s' = contextUnref s ctx := by
    rcases contextRelease_cases returned with
      ⟨_, _, isReleased⟩ | ⟨isLast, _⟩
    · exact isReleased
    · omega
  refine ⟨isState, ?_, ?_⟩
  · intro other otherRegistered
    rw [isState] at otherRegistered ⊢
    have countOther := backed.counted other otherRegistered
    rw [oneLess] at countOther
    by_cases isReleased : other = ctx
    · subst isReleased
      have dropped :
          ((contextUnref s other).contexts other).ref =
            (s.contexts other).ref - 1 := by
        simp only [contextUnref, System.modify_contexts_self]
        exact toInt32_of_bounds (by omega) (by omega)
      rw [dropped]
      omega
    · rw [if_neg (Ne.symm isReleased)] at countOther
      rw [contextUnref, System.modify_contexts_of_ne s _ isReleased]
      exact countOther
  · intro other held
    rw [isState]
    exact backed.registered other (by rw [oneLess]; omega)

end Backed

/-- The grabs of an operation fit the counters. -/
def Fits
    (s : System) : Frame → Prop
  | .contextPush handle _ => GrabFits s handle
  | .messageDispatch (some queue) _ => GrabFits s (s.queues.mq queue).handle
  | _ => True

/-- A worker's `Pop` finds no message, and a pointer in its uninitialised local. -/
def PopsEmpty
    (unknown : Unknown)
    (s : System) : Frame → Prop
  | .dispatchPop turns =>
      turns.i < turns.n →
        (s.queues.mq turns.queue).messageQueue = [] ∧ unknown.stack ≠ none
  | _ => True

section Sections

variable
    {launched : QueueId → Prop}
    {unknown : Unknown}
    {s s' : System}
    {frames : List Frame}
    {refs : ContextId → Nat}
    {held : QueueId → Nat}

/-- What a section of a sender or a worker leaves. -/
structure Carried
    (launched : QueueId → Prop)
    (s s' : System)
    (refs : ContextId → Nat)
    (held : QueueId → Nat)
    (frames : List Frame) : Prop where
  same : SameServices s s'
  placed :
    Placed launched s'.queues fun queue =>
      held queue + stackWeight (holdsQueue queue) frames
  backed : Backed s' fun ctx => refs ctx + stackWeight (holds ctx) frames
  participates : ∀ frame ∈ frames, Participates s' frame

/-- A section that starts with `HandleGrab` and leaves the queues alone. -/
theorem carried_of_handleGrab
    {frame : Frame}
    {handle : UInt32}
    {found : Option ContextId}
    (kept :
      Kept launched s refs fun queue => held queue + holdsQueue queue frame)
    (fits : GrabFits s handle)
    (grabbed : handleGrab s handle = (found, s'))
    (oneMore :
      ∀ ctx, stackWeight (holds ctx) frames =
        if found = some ctx then 1 else 0)
    (sameHeld :
      ∀ queue, stackWeight (holdsQueue queue) frames =
        holdsQueue queue frame)
    (participates : ∀ frame ∈ frames, Participates s frame) :
    Carried launched s s' refs held frames := by
  unfold handleGrab at grabbed
  cases lookup : handleLookup s handle with
  | none =>
      simp only [lookup, Prod.mk.injEq] at grabbed
      obtain ⟨isFound, isState⟩ := grabbed
      subst isFound
      subst isState
      have same : SameServices s s := .of_queues (fun _ => rfl) (fun _ => rfl)
      refine ⟨same, ?_, ?_, participates⟩
      · exact kept.placed.of_sameHeld (fun queue => by rw [sameHeld])
      · exact kept.backed.of_same same (fun _ => rfl)
          (fun ctx => by simp [oneMore])
  | some ctx =>
      simp only [lookup, Prod.mk.injEq] at grabbed
      obtain ⟨isFound, isState⟩ := grabbed
      subst isFound
      subst isState
      have same : SameServices s (contextGrab s ctx) :=
        .modify s ctx
          (fun context => { context with ref := toInt32 (context.ref + 1) })
          rfl rfl
      refine ⟨same, ?_, ?_,
        fun frame member => same.participates (participates frame member)⟩
      · exact kept.placed.of_sameHeld (fun queue => by rw [sameHeld])
      · exact kept.backed.grab (registered_of_lookup lookup)
          (fits ctx lookup) (fun other => by simp [oneMore])

/-- A section of a worker that takes the head of the global queue. -/
theorem carried_of_popGlobalQueue
    {queue : Option QueueId}
    {weight : Int}
    (kept : Kept launched s refs held)
    (pops : popGlobalQueue s = .ok (queue, s')) :
    Carried launched s s' refs held [.messageDispatch queue weight] := by
  obtain ⟨queues, popped, isState⟩ := popGlobalQueue_eq_ok_iff.mp pops
  subst isState
  have same : SameServices s { s with queues := queues } :=
    .of_queues
      (globalQueuePop_field MessageQueue.release (fun _ _ => rfl) popped)
      (globalQueuePop_field MessageQueue.handle (fun _ _ => rfl) popped)
  refine ⟨same, ?_, ?_, by simp [Participates]⟩
  · refine kept.placed.take popped ?_
    intro other
    cases queue <;> simp [holdsQueue]
  · refine kept.backed.of_same same (fun _ => rfl) ?_
    cases queue <;> simp [holds, reference]

/-- A section of a worker that pushes its queue back. -/
theorem carried_of_pushGlobalQueue
    {queue : QueueId}
    (kept :
      Kept launched s refs fun other =>
        held other + if queue = other then 1 else 0)
    (pushes : pushGlobalQueue s queue = .ok s') :
    Carried launched s s' refs held [] := by
  obtain ⟨queues, pushed, isState⟩ := pushGlobalQueue_eq_ok_iff.mp pushes
  subst isState
  have same : SameServices s { s with queues := queues } :=
    .of_queues
      (globalQueuePush_field MessageQueue.release (fun _ _ => rfl) pushed)
      (globalQueuePush_field MessageQueue.handle (fun _ _ => rfl) pushed)
  refine ⟨same, ?_, ?_, by simp⟩
  · exact kept.placed.giveBack pushed (fun other => by simp)
  · exact kept.backed.of_same same (fun _ => rfl) (fun ctx => by simp)

/-- Dropping a message starts a push, which holds nothing and takes part. -/
theorem dropMessage_frames
    {handle : UInt32}
    {msg : Message}
    (drops : Frame.dropMessage s handle msg = .ok frames) :
    (∀ ctx, stackWeight (holds ctx) frames = 0) ∧
      (∀ queue, stackWeight (holdsQueue queue) frames = 0) ∧
      ∀ frame ∈ frames, ∀ t, Participates t frame := by
  rcases Frame.dropMessage_cases drops with rfl | ⟨error, rfl⟩
  · simp
  · simp [holds, reference, holdsQueue, Participates]

/-- A `Pop` changes neither marks nor handles. -/
theorem SameServices.messageQueuePop
    (s : System)
    (queue : QueueId)
    (stack : Option Message) :
    SameServices s
      { s with queues := (messageQueuePop s.queues queue stack).2 } :=
  .of_queues
    (messageQueuePop_field MessageQueue.release (fun _ _ _ _ => rfl)
      s.queues queue stack)
    (messageQueuePop_field MessageQueue.handle (fun _ _ _ _ => rfl)
      s.queues queue stack)

/-- The dropping loop of a marked queue keeps the account. -/
theorem draining_keeps
    {queue : QueueId}
    {handle : UInt32}
    (kept :
      Kept launched s refs fun other =>
        held other + if queue = other then 1 else 0)
    (marked : (s.queues.mq queue).release = true)
    (advanced :
      Frame.advance unknown s (.draining queue handle) = .ok (frames, s')) :
    Carried launched s s' refs held frames := by
  have same := SameServices.messageQueuePop s queue unknown.stack
  have stillMarked := (same.release queue).trans marked
  simp only [Frame.advance] at advanced
  rcases popped : messageQueuePop s.queues queue unknown.stack with
    ⟨_ | msg, queues⟩
  · rw [popped] at same stillMarked
    simp only [popped] at advanced
    split at advanced
    · injection advanced with advanced
      injection advanced with isFrames isState
      subst isFrames
      subst isState
      have drained : Placed launched queues held := by
        have popping :
            Placed launched
              (messageQueuePop s.queues queue unknown.stack).2 held :=
          kept.placed.drain marked
            (fun other different => by simp [Ne.symm different]) (by simp)
        rwa [popped] at popping
      have keeps {β : Type} (field : MessageQueue → β)
          (ignores :
            ∀ (mq : MessageQueue) deleted,
              field { mq with deleted := deleted } = field mq)
          (other : QueueId) :
          field ((queues.modify queue fun mq =>
              { mq with deleted := mq.deleted + 1 }).mq other) =
            field (queues.mq other) :=
        Queues.modify_field field queues queue _ (ignores _ _) other
      have deleting :
          SameServices s (deleteQueue { s with queues := queues } queue) :=
        .of_queues
          (fun other => (keeps MessageQueue.release (fun _ _ => rfl) other).trans
            (same.release other))
          (fun other => (keeps MessageQueue.handle (fun _ _ => rfl) other).trans
            (same.handle other))
      refine ⟨deleting, ?_, ?_, by simp⟩
      · exact drained.of_same rfl rfl
          (keeps MessageQueue.next (fun _ _ => rfl))
          (keeps MessageQueue.release (fun _ _ => rfl))
          (keeps MessageQueue.inGlobal (fun _ _ => rfl))
          (keeps MessageQueue.messageQueue (fun _ _ => rfl))
          (fun other => by simp)
      · exact kept.backed.of_same deleting (fun _ => rfl) (fun ctx => by simp)
    · cases advanced
  · rw [popped] at same stillMarked
    simp only [popped, bind_eq_ok_iff] at advanced
    obtain ⟨dropping, drops, advanced⟩ := advanced
    obtain ⟨rfl, rfl⟩ := ok_pair_inj.mp advanced
    obtain ⟨noReference, noQueue, participate⟩ := dropMessage_frames drops
    refine ⟨same, ?_, ?_, ?_⟩
    · have popping :
          Placed launched
            (messageQueuePop s.queues queue unknown.stack).2
            fun other =>
              held other +
                stackWeight (holdsQueue other)
                  (dropping ++ [.draining queue handle]) :=
        kept.placed.drain marked
          (fun other _ => by simp [noQueue, holdsQueue])
          (by simp [noQueue, holdsQueue])
      rwa [popped] at popping
    · refine kept.backed.of_same same (fun _ => rfl) ?_
      intro ctx
      simp [noReference, holds, reference]
    · intro frame member
      rcases List.mem_append.mp member with isDropping | isDraining
      · exact participate frame isDropping _
      · rw [List.mem_singleton.mp isDraining]
        exact stillMarked

/-- A section of a sender or a worker keeps every queue in its place. -/
theorem advance_keeps
    {frame : Frame}
    (kept :
      Kept launched s (fun ctx => refs ctx + holds ctx frame)
        fun queue => held queue + holdsQueue queue frame)
    (participates : Participates s frame)
    (fits : Fits s frame)
    (popsEmpty : PopsEmpty unknown s frame)
    (advanced : frame.advance unknown s = .ok (frames, s')) :
    Carried launched s s' refs held frames := by
  cases frame with
  | contextPush handle msg =>
      rcases grabbed : handleGrab s handle with ⟨_ | ctx, t⟩
      all_goals
        simp only [Frame.advance, grabbed, Except.ok.injEq,
          Prod.mk.injEq] at advanced
        obtain ⟨isFrames, isState⟩ := advanced
        subst isFrames
        subst isState
        exact carried_of_handleGrab kept fits grabbed
          (by simp [holds, reference]) (by simp [holdsQueue])
          (by simp [Participates])
  | pushGrabbed ctx msg =>
      simp only [Frame.advance, bind_eq_ok_iff] at advanced
      obtain ⟨queues, pushed, advanced⟩ := advanced
      obtain ⟨rfl, rfl⟩ := ok_pair_inj.mp advanced
      have isRegistered :=
        kept.backed.registered ctx (by simp [holds, reference])
      have same : SameServices s { s with queues := queues } :=
        .of_queues
          (messageQueuePush_field MessageQueue.release (fun _ _ => rfl)
            (fun _ _ _ => rfl) pushed)
          (messageQueuePush_field MessageQueue.handle (fun _ _ => rfl)
            (fun _ _ _ => rfl) pushed)
      refine ⟨same, ?_, ?_, by simp [Participates]⟩
      · exact (kept.placed.push (kept.serves.unmarked ctx isRegistered)
          pushed).of_sameHeld (by simp [holdsQueue])
      · exact kept.backed.of_same same (fun _ => rfl)
          (by simp [holds, reference])
  | release ctx =>
      simp only [Frame.advance, bind_eq_ok_iff] at advanced
      obtain ⟨⟨inUse, t⟩, released, advanced⟩ := advanced
      obtain ⟨rfl, rfl⟩ := ok_pair_inj.mp advanced
      have release :
          t = contextUnref s ctx ∧
            Backed t fun other => refs other + stackWeight (holds other) [] :=
        kept.backed.release released (by simp [holds, reference])
      obtain ⟨isState, backed⟩ := release
      have same : SameServices s t :=
        isState ▸ .modify s ctx
          (fun context => { context with ref := toInt32 (context.ref - 1) })
          rfl rfl
      refine ⟨same, ?_, backed, by simp⟩
      subst isState
      exact kept.placed.of_sameHeld (by simp [holdsQueue])
  | delete ctx =>
      obtain ⟨rfl, rfl⟩ := ok_pair_inj.mp advanced
      have same : SameServices s (deleteContext s ctx) :=
        .modify s ctx
          (fun context => { context with deleted := context.deleted + 1 })
          rfl rfl
      refine ⟨same, ?_, ?_, by simp⟩
      · exact kept.placed.of_sameHeld (by simp [holdsQueue])
      · refine kept.backed.of_same same ?_ (by simp [holds, reference])
        exact System.modify_field Context.ref s ctx
          (fun context => { context with deleted := context.deleted + 1 }) rfl
  | queueRelease queue handle =>
      simp only [Frame.advance] at advanced
      split at advanced
      · next marked =>
          obtain ⟨rfl, rfl⟩ := ok_pair_inj.mp advanced
          have same : SameServices s s :=
            .of_queues (fun _ => rfl) (fun _ => rfl)
          refine ⟨same, ?_, ?_, by simpa [Participates] using marked⟩
          · exact kept.placed.of_sameHeld (by simp [holdsQueue])
          · exact kept.backed.of_same same (fun _ => rfl)
              (by simp [holds, reference])
      · simp only [bind_eq_ok_iff] at advanced
        obtain ⟨t, pushes, advanced⟩ := advanced
        obtain ⟨rfl, rfl⟩ := ok_pair_inj.mp advanced
        exact carried_of_pushGlobalQueue kept pushes
  | draining queue handle =>
      exact draining_keeps kept participates advanced
  | messageDispatch queue weight =>
      cases queue with
      | none =>
          simp only [Frame.advance, bind_eq_ok_iff] at advanced
          obtain ⟨⟨queue, t⟩, pops, advanced⟩ := advanced
          obtain ⟨rfl, rfl⟩ := ok_pair_inj.mp advanced
          exact carried_of_popGlobalQueue kept pops
      | some queue =>
          rcases grabbed :
              handleGrab s (s.queues.mq queue).handle with ⟨_ | ctx, t⟩
          all_goals
            simp only [Frame.advance, grabbed, Except.ok.injEq,
              Prod.mk.injEq] at advanced
            obtain ⟨isFrames, isState⟩ := advanced
            subst isFrames
            subst isState
          · exact carried_of_handleGrab kept fits grabbed
              (by simp [holds, reference]) (by simp [holdsQueue])
              (by simp [Participates])
          · have unmarked : (s.queues.mq queue).release = false := by
              by_contra marked
              have free :=
                kept.serves.retired queue (Bool.eq_true_of_not_eq_false marked)
              simp [handleGrab, free] at grabbed
            exact carried_of_handleGrab kept fits grabbed
              (by simp [holds, reference]) (by simp [holdsQueue])
              (by simp [Participates, unmarked])
  | dispatchPop turns =>
      obtain ⟨isFirst, isOne, unmarked⟩ := participates
      have inLoop : turns.i < turns.n := by omega
      obtain ⟨isEmpty, notNull⟩ := popsEmpty inLoop
      obtain ⟨garbage, isGarbage⟩ := Option.ne_none_iff_exists'.mp notNull
      have pops :
          messageQueuePop s.queues turns.queue unknown.stack =
            (some garbage,
              (messageQueuePop s.queues turns.queue unknown.stack).2) := by
        simp [messageQueuePop, isEmpty, isGarbage]
      simp only [Frame.advance, inLoop, ↓reduceIte] at advanced
      rw [pops] at advanced
      obtain ⟨rfl, rfl⟩ := ok_pair_inj.mp advanced
      have same :=
        SameServices.messageQueuePop s turns.queue unknown.stack
      refine ⟨same, ?_, ?_, by simp [Participates]⟩
      · exact kept.placed.leave isEmpty (by simp [holdsQueue])
      · exact kept.backed.of_same same (fun _ => rfl)
          (by simp [holds, reference])
  | dispatchNext weight =>
      simp only [Frame.advance, bind_eq_ok_iff] at advanced
      obtain ⟨⟨queue, t⟩, pops, advanced⟩ := advanced
      obtain ⟨rfl, rfl⟩ := ok_pair_inj.mp advanced
      exact carried_of_popGlobalQueue kept pops
  | _ => exact participates.elim

end Sections

section Runs

variable
    {Thread : Type}
    [Fintype Thread]
    [DecidableEq Thread]

/-- How often workers hold a queue. -/
def workers
    (rt : Runtime Thread)
    (queue : QueueId) : Nat :=
  total (stackWeight (holdsQueue queue)) rt.stackOf

/-- Every launched queue that is not marked for release is scheduled. -/
def KeepsSchedule
    (launched : QueueId → Prop)
    (rt : Runtime Thread) : Prop :=
  ∀ queue, launched queue → (rt.system.queues.mq queue).release = false →
    Scheduled rt.system.queues queue (workers rt queue)

/-- What senders and workers do; a worker comes to its queue by itself. -/
def sendsOrWorks : Action → Bool
  | .advance _ => true
  | .call (.contextPush ..) => true
  | .call (.messageDispatch none _) => true
  | _ => false

/-- One step of a sender or a worker. -/
def schedule?
    (rt : Runtime Thread)
    (label : Thread × Action) : Option (Runtime Thread) :=
  if sendsOrWorks label.2 then rt.next? label else none

/-- The steps that raise no reference count beyond what it can hold. -/
def StepFits
    (rt : Runtime Thread) : Thread × Action → Prop
  | (thread, .advance _) =>
      ∀ frame rest, rt.stackOf thread = frame :: rest → Fits rt.system frame
  | _ => True

/-- The steps in which no worker's `Pop` finds a message, or returns null. -/
def StepPopsEmpty
    (rt : Runtime Thread) : Thread × Action → Prop
  | (thread, .advance unknown) =>
      ∀ frame rest, rt.stackOf thread = frame :: rest →
        PopsEmpty unknown rt.system frame
  | _ => True

/-- What the steps of senders and workers preserve. -/
structure Attended
    (launched : QueueId → Prop)
    (rt : Runtime Thread) : Prop where
  kept : Kept launched rt.system (outstanding rt) (workers rt)
  participates :
    ∀ thread, ∀ frame ∈ rt.stackOf thread, Participates rt.system frame

namespace Attended

variable
    {launched : QueueId → Prop}
    {rt rt' : Runtime Thread}
    {thread : Thread}

omit [DecidableEq Thread] in
theorem keepsSchedule
    (attended : Attended launched rt) :
    KeepsSchedule launched rt :=
  fun _ isLaunched unmarked =>
    attended.kept.placed.scheduled isLaunched unmarked

/-- How the queues of workers move when new frames replace the top of a stack. -/
theorem workers_top
    {frame : Frame}
    {rest frames : List Frame}
    {s : System}
    (isTop : rt.stackOf thread = frame :: rest)
    (queue : QueueId) :
    workers
        { rt with
          system := s
          stackOf := Function.update rt.stackOf thread (frames ++ rest) }
        queue =
      workers rt queue - holdsQueue queue frame +
        stackWeight (holdsQueue queue) frames := by
  have member : frame ∈ rt.stackOf thread := by simp [isTop]
  have part := weight_le_total_stack (holdsQueue queue) member
  have moved := total_replace_top (holdsQueue queue) isTop frames
  unfold workers
  dsimp only
  omega

omit [DecidableEq Thread] in
/-- What is kept, apart from what one operation in progress holds. -/
theorem kept_top
    {frame : Frame}
    {rest : List Frame}
    (attended : Attended launched rt)
    (isTop : rt.stackOf thread = frame :: rest) :
    Kept launched rt.system
      (fun ctx => (outstanding rt ctx - holds ctx frame) + holds ctx frame)
      fun queue =>
        (workers rt queue - holdsQueue queue frame) +
          holdsQueue queue frame := by
  have member : frame ∈ rt.stackOf thread := by simp [isTop]
  obtain ⟨placed, backed, serves⟩ := attended.kept
  refine ⟨placed.of_sameHeld ?_, ?_, serves⟩
  · intro queue
    have part := weight_le_total_stack (holdsQueue queue) member
    unfold workers
    omega
  · have same : SameServices rt.system rt.system :=
      .of_queues (fun _ => rfl) (fun _ => rfl)
    refine backed.of_same same (fun _ => rfl) ?_
    intro ctx
    have part := weight_le_total_stack (holds ctx) member
    unfold outstanding
    omega

/-- A section in which a worker's `Pop` finds nothing keeps the account. -/
theorem advance
    {unknown : Unknown}
    (attended : Attended launched rt)
    (fits : StepFits rt (thread, .advance unknown))
    (popsEmpty : StepPopsEmpty rt (thread, .advance unknown))
    (taken : rt.next? (thread, .advance unknown) = some rt') :
    Attended launched rt' := by
  obtain ⟨frame, rest, frames, s, isTop, advanced, isState⟩ :=
    Runtime.next?_advance taken
  subst isState
  have carried :=
    advance_keeps (attended.kept_top isTop)
      (attended.participates thread frame (by simp [isTop]))
      (fits frame rest isTop) (popsEmpty frame rest isTop) advanced
  have same : SameServices s s := .of_queues (fun _ => rfl) (fun _ => rfl)
  refine ⟨⟨?_, ?_, carried.same.serves attended.kept.serves⟩, ?_⟩
  · exact carried.placed.of_sameHeld (workers_top isTop)
  · exact carried.backed.of_same same (fun _ => rfl) (outstanding_top isTop)
  · intro other operation member
    by_cases isThread : other = thread
    · rw [isThread] at member
      simp only [Function.update_self, List.mem_append] at member
      rcases member with isNew | wasThere
      · exact carried.participates operation isNew
      · exact carried.same.participates
          (attended.participates thread operation (by simp [isTop, wasThere]))
    · simp only [Function.update_of_ne isThread] at member
      exact carried.same.participates
        (attended.participates other operation member)

/-- Starting to send or to work holds nothing yet. -/
theorem call
    {operation : Frame}
    (attended : Attended launched rt)
    (starts : sendsOrWorks (.call operation) = true)
    (taken : rt.next? (thread, .call operation) = some rt') :
    Attended launched rt' := by
  obtain ⟨_, isOperation, isState⟩ := Runtime.next?_call taken
  subst isState
  have noReference := holds_operation isOperation
  have noQueue (queue : QueueId) : holdsQueue queue operation = 0 := by
    unfold sendsOrWorks at starts
    split at starts <;> simp_all [holdsQueue]
  have takesPart : Participates rt.system operation := by
    unfold sendsOrWorks at starts
    split at starts <;> simp_all [Participates]
  have same : SameServices rt.system rt.system :=
    .of_queues (fun _ => rfl) (fun _ => rfl)
  refine ⟨⟨?_, ?_, attended.kept.serves⟩, ?_⟩
  · refine attended.kept.placed.of_sameHeld ?_
    intro queue
    have pushed :=
      total_push (holdsQueue queue) rt.stackOf thread operation
    rw [noQueue] at pushed
    exact pushed
  · refine attended.kept.backed.of_same same (fun _ => rfl) ?_
    intro ctx
    have pushed := total_push (holds ctx) rt.stackOf thread operation
    rw [noReference] at pushed
    unfold outstanding
    dsimp only
    omega
  · intro other frame member
    by_cases isThread : other = thread
    · rw [isThread] at member
      simp only [Function.update_self, List.mem_cons] at member
      rcases member with isNew | wasThere
      · rw [isNew]
        exact takesPart
      · exact attended.participates thread frame wasThere
    · simp only [Function.update_of_ne isThread] at member
      exact attended.participates other frame member

/-- A step of a sender or a worker that keeps the account. -/
theorem step
    {label : Thread × Action}
    (attended : Attended launched rt)
    (fits : StepFits rt label)
    (popsEmpty : StepPopsEmpty rt label)
    (taken : schedule? rt label = some rt') :
    Attended launched rt' := by
  obtain ⟨thread, action⟩ := label
  unfold schedule? at taken
  split at taken
  · next takesPart =>
      cases action with
      | advance unknown =>
          exact attended.advance fits popsEmpty taken
      | call operation =>
          exact attended.call takesPart taken
      | serviceCallback cb | harborStart | harborExit =>
          cases takesPart
  · cases taken

/-- After a worker's `Pop` the schedule is kept only if it found nothing. -/
theorem stepPopsEmpty
    {label : Thread × Action}
    (attended : Attended launched rt)
    (taken : schedule? rt label = some rt')
    (keeps : KeepsSchedule launched rt') :
    StepPopsEmpty rt label := by
  obtain ⟨thread, action⟩ := label
  cases action with
  | call operation | serviceCallback cb | harborStart | harborExit =>
      trivial
  | advance unknown =>
      intro frame rest isTop
      cases frame with
      | dispatchPop turns =>
          intro inLoop
          have member : Frame.dispatchPop turns ∈ rt.stackOf thread := by
            simp [isTop]
          obtain ⟨isFirst, _, unmarked⟩ :=
            attended.participates thread _ member
          have isHeld : 0 < workers rt turns.queue := by
            have part := weight_le_total_stack (holdsQueue turns.queue) member
            simp only [holdsQueue, ↓reduceIte] at part
            exact part
          have isLaunched :=
            attended.kept.placed.launched_of_held isHeld unmarked
          refine attended.kept.placed.empty_of_scheduled isHeld unmarked ?_
          have stays :
              ((messageQueuePop rt.system.queues turns.queue
                unknown.stack).2.mq turns.queue).release = false :=
            ((SameServices.messageQueuePop rt.system turns.queue
              unknown.stack).release turns.queue).trans unmarked
          obtain ⟨top, below, frames, s, isTopToo, advanced, isState⟩ :=
            Runtime.next?_advance taken
          rw [isTop] at isTopToo
          injection isTopToo with isFrame isRest
          subst isFrame
          subst isRest
          subst isState
          have after := keeps turns.queue isLaunched
          rw [workers_top isTop] at after
          simp only [Frame.advance, inLoop, ↓reduceIte] at advanced
          rcases popped :
              messageQueuePop rt.system.queues turns.queue unknown.stack with
            ⟨_ | msg, queues⟩
          · rw [popped] at stays
            simp only [popped] at advanced
            split at advanced
            all_goals
              obtain ⟨rfl, rfl⟩ := ok_pair_inj.mp advanced
              have scheduled := after stays
              simp only [holdsQueue, ↓reduceIte, stackWeight_cons,
                stackWeight_nil, Nat.add_zero,
                Nat.sub_add_cancel isHeld] at scheduled
              simpa using scheduled
          · rw [popped] at stays
            simp only [popped] at advanced
            obtain ⟨rfl, rfl⟩ := ok_pair_inj.mp advanced
            have scheduled := after stays
            simp only [holdsQueue, ↓reduceIte, stackWeight_cons,
              stackWeight_nil, Nat.add_zero] at scheduled
            simpa using scheduled
      | _ => trivial

end Attended

/--
Along a run of senders and workers every launched queue stays scheduled exactly
when every `Pop` of a worker finds no message and returns garbage for it.
-/
theorem runtime_keepsSchedule_iff
    {launched : QueueId → Prop}
    {initial final : Runtime Thread}
    {past : List (Runtime Thread × (Thread × Action))}
    (attended : Attended launched initial)
    (run : Run (Run.Steps schedule?) initial past final)
    (fits : ∀ state label, (state, label) ∈ past → StepFits state label) :
    (∀ state ∈ Run.visited past final, KeepsSchedule launched state) ↔
      ∀ state label, (state, label) ∈ past → StepPopsEmpty state label := by
  refine Run.property_visited_iff (run.restrict fits) attended ?_
    Attended.keepsSchedule ?_
  · intro state label next attended popsEmpty step
    exact attended.step step.1 popsEmpty step.2
  · intro state label next attended step keeps
    exact attended.stepPopsEmpty step.2 keeps

end Runs

/-- A node with one running service, whose queue waits in the global queue. -/
def waitingRuntime (Thread : Type) : Runtime Thread where
  system :=
    { soloSystem with
      queues :=
        { mq := fun _ => newMessageQueue 1
          head := some 0
          tail := some 0 } }
  stackOf := fun _ => []
  remote := none
  reserved := fun _ => 0

theorem attended_waitingRuntime
    {Thread : Type}
    [Fintype Thread] :
    Attended (fun queue => queue = 0) (waitingRuntime Thread) := by
  have noReference (ctx : ContextId) :
      outstanding (waitingRuntime Thread) ctx = 0 := by
    simp [outstanding, waitingRuntime, total]
  have noQueue (queue : QueueId) :
      workers (waitingRuntime Thread) queue = 0 := by
    simp [workers, waitingRuntime, total]
  refine ⟨⟨⟨[0], ⟨⟨rfl, rfl⟩, rfl, by simp, fun _ _ => rfl⟩, ?_⟩,
    ⟨?_, ?_⟩, ⟨fun _ _ => rfl, ?_⟩⟩, ?_⟩
  · intro queue
    rw [noQueue]
    by_cases isFirst : queue = 0
    · subst isFirst
      exact ⟨by simp, fun _ _ => Or.inl ⟨rfl, by simp⟩,
        fun _ notLaunched => absurd rfl notLaunched⟩
    · have absent : [0].count queue = 0 := by
        simp [Ne.symm isFirst]
      rw [absent]
      exact ⟨by simp, fun _ isLaunched => absurd isLaunched isFirst,
        fun _ _ => ⟨rfl, rfl⟩⟩
  · intro ctx _
    rw [noReference]
    exact ⟨Int.le_refl 1, (by decide : (1 : Int) < 2 ^ 31)⟩
  · intro ctx held
    rw [noReference] at held
    exact absurd held (Nat.lt_irrefl 0)
  · intro queue marked
    cases marked
  · intro thread frame member
    cases member

instance (s : System) : (frame : Frame) → Decidable (Fits s frame)
  | .contextPush handle _ => inferInstanceAs (Decidable (GrabFits s handle))
  | .messageDispatch (some queue) _ =>
      inferInstanceAs (Decidable (GrabFits s (s.queues.mq queue).handle))
  | .messageDispatch none _ | .pushGrabbed .. | .release _ | .delete _
  | .endless _ | .grab _ | .grabbed _ | .handleRetire _ | .skynetError ..
  | .newContext _ | .constructed .. | .initialising .. | .launchRelease ..
  | .launchPush _ | .launchFailed .. | .queueRelease .. | .draining ..
  | .dispatchPop _ | .dispatchLength _ | .dispatchTurn _ | .callback _
  | .dispatchBack .. | .dispatchNext _ =>
      isTrue trivial

instance
    (unknown : Unknown)
    (s : System) : (frame : Frame) → Decidable (PopsEmpty unknown s frame)
  | .dispatchPop turns =>
      inferInstanceAs
        (Decidable
          (turns.i < turns.n →
            (s.queues.mq turns.queue).messageQueue = [] ∧
              unknown.stack ≠ none))
  | .contextPush .. | .messageDispatch .. | .pushGrabbed .. | .release _
  | .delete _ | .endless _ | .grab _ | .grabbed _ | .handleRetire _
  | .skynetError .. | .newContext _ | .constructed .. | .initialising ..
  | .launchRelease .. | .launchPush _ | .launchFailed .. | .queueRelease ..
  | .draining .. | .dispatchLength _ | .dispatchTurn _ | .callback _
  | .dispatchBack .. | .dispatchNext _ =>
      isTrue trivial

/-- Whether a step fits the counters and its `Pop` finds no message. -/
def stepMeets
    {Thread : Type}
    (rt : Runtime Thread) : Thread × Action → Bool
  | (thread, .advance unknown) =>
      (rt.stackOf thread).head?.all fun frame =>
        decide (Fits rt.system frame) &&
          decide (PopsEmpty unknown rt.system frame)
  | _ => true

theorem stepMeets_spec
    {Thread : Type}
    {rt : Runtime Thread}
    {label : Thread × Action}
    (meets : stepMeets rt label = true) :
    StepFits rt label ∧ StepPopsEmpty rt label := by
  obtain ⟨thread, action⟩ := label
  cases action with
  | advance unknown =>
      refine ⟨?_, ?_⟩
      all_goals
        intro frame rest isTop
        simp only [stepMeets, isTop, List.head?_cons, Option.all_some,
          Bool.and_eq_true, decide_eq_true_eq] at meets
      · exact meets.1
      · exact meets.2
  | call _ | serviceCallback _ | harborStart | harborExit =>
      exact ⟨trivial, trivial⟩

/-- A section of a thread, with garbage wherever the code reads any. -/
def performed : Action :=
  .advance
    { stack := some { source := 1, session := 0, data := none, sz := 0 }
      garbage := { source := 1, session := 0, data := none, sz := 0 }
      answer := 0 }

/--
A worker finds the queue empty and unlinks it, a sender's push links it again,
and the worker takes it a second time.
-/
def takeTwiceLabels : List (Fin 2 × Action) :=
  [(0, .call (.messageDispatch none 0)), (0, performed), (0, performed),
    (0, performed),
    (1, .call (.contextPush 1
      { source := 1, session := 0, data := none, sz := 0 })),
    (1, performed), (1, performed), (0, performed), (0, performed),
    (1, performed)]

theorem runtime_keepsSchedule_twice :
    ∃ past, ∃ final : Runtime (Fin 2),
      Run (Run.Steps schedule?) (waitingRuntime (Fin 2)) past final ∧
        (∃ state ∈ Run.visited past final,
          (state.system.queues.mq 0).inGlobal = 0) ∧
        (final.system.queues.mq 0).messageQueue.length = 1 ∧
        workers final 0 = 1 ∧
        ∀ state ∈ Run.visited past final,
          KeepsSchedule (fun queue => queue = 0) state := by
  obtain ⟨past, final, run, facts⟩ :=
    Run.exists_of_recorded (waitingRuntime (Fin 2)) schedule? takeTwiceLabels
      (fun past final =>
        past.all (fun step => stepMeets step.1 step.2) &&
          (past.any
              (fun step =>
                decide ((step.1.system.queues.mq 0).inGlobal = 0)) &&
            decide ((final.system.queues.mq 0).messageQueue.length = 1 ∧
              workers final 0 = 1)))
      (by decide)
  simp only [Bool.and_eq_true, List.all_eq_true, List.any_eq_true,
    decide_eq_true_eq] at facts
  obtain ⟨meets, ⟨unlinked, passed, isUnlinked⟩, hasMessage, isHeld⟩ := facts
  refine
    ⟨past, final, run, ⟨unlinked.1, ?_, isUnlinked⟩, hasMessage, isHeld,
      (runtime_keepsSchedule_iff attended_waitingRuntime run ?_).mpr ?_⟩
  · exact Run.mem_visited.mpr (.inr ⟨unlinked.2, passed⟩)
  · exact fun state label member => (stepMeets_spec (meets _ member)).1
  · exact fun state label member => (stepMeets_spec (meets _ member)).2

/-- A push to the service, then a worker's `MessageDispatch` up to its `Pop`. -/
def droppingLabels : List (Unit × Action) :=
  let message : Message :=
    { source := 1, session := 0, data := none, sz := 0 }
  let performed : Action :=
    .advance { stack := none, garbage := message, answer := 0 }
  [((), .call (.contextPush 1 message)),
    ((), performed), ((), performed), ((), performed), ((), performed),
    ((), .call (.messageDispatch none 0)),
    ((), performed), ((), performed), ((), performed)]

/-- One message and one worker suffice to lose a queue for good. -/
theorem worker_drops_queue :
    (∃ past final,
        Run (Run.Steps schedule?) (waitingRuntime Unit) past final ∧
          (final.system.queues.mq 0).messageQueue.length = 1 ∧
          (final.system.queues.mq 0).inGlobal = kMqInGlobal ∧
          final.system.queues.head = none ∧
          workers final 0 = 0) ∧
      ¬ ∀ past final,
        Run (Run.Steps schedule?) (waitingRuntime Unit) past final →
          ∀ state ∈ Run.visited past final,
            KeepsSchedule (fun queue => queue = 0) state := by
  have dropped :
      ∃ past final,
        Run (Run.Steps schedule?) (waitingRuntime Unit) past final ∧
          ((final.system.queues.mq 0).release = false ∧
            (final.system.queues.mq 0).messageQueue.length = 1 ∧
            (final.system.queues.mq 0).inGlobal = kMqInGlobal ∧
            final.system.queues.head = none ∧
            workers final 0 = 0) := by
    simpa using Run.exists_of_replay (waitingRuntime Unit) schedule? droppingLabels
      (fun state =>
        (state.system.queues.mq 0).release = false ∧
          (state.system.queues.mq 0).messageQueue.length = 1 ∧
          (state.system.queues.mq 0).inGlobal = kMqInGlobal ∧
          state.system.queues.head = none ∧
          workers state 0 = 0)
      rfl
  obtain ⟨past, final, run, unmarked, hasMessage, isSet, isEmpty, notHeld⟩ :=
    dropped
  refine ⟨⟨past, final, run, hasMessage, isSet, isEmpty, notHeld⟩, ?_⟩
  intro holds
  have scheduled := holds past final run final (by simp) 0 rfl unmarked
  rcases scheduled.flag.mp isSet with ⟨steps, reached⟩ | isHeld
  · have nowhere :
        Chain (fun queue => (final.system.queues.mq queue).next)
          final.system.queues.head [] :=
      isEmpty
    rw [nowhere.walk_eq] at reached
    cases reached
  · rw [notHeld] at isHeld
    exact absurd isHeld (Nat.lt_irrefl 0)

end Scheduling

end SkynetCpp
