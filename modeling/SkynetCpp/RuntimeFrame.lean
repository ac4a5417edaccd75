import SkynetCpp.GlobalQueue
import SkynetCpp.Runtime

namespace SkynetCpp

/-!
# What the steps of the running node keep

Every section of an operation is a few writes: to a context, to the queues, to
the table and the counters, and the first one to the static of `SkynetError`.  A
relation between two states that those writes keep is kept by every step.  No
section takes a message out of a queue, which the rule may rely on.
-/

/-- The threads of a node before their first step. -/
def threadsOf
    (Thread : Type)
    (s : System) : Runtime Thread where
  system := s
  stackOf := fun _ => []
  remote := none
  reserved := fun _ => 0

/-- Every queue but a given one has all its messages, and perhaps more. -/
def MessagesKept
    (new : QueueId)
    (before after : Queues) : Prop :=
  ∀ queue,
    queue ≠ new →
      (before.mq queue).messageQueue <+: (after.mq queue).messageQueue

theorem messagesKept_of_eq
    {new : QueueId}
    {before after : Queues}
    (same :
      ∀ queue, (after.mq queue).messageQueue = (before.mq queue).messageQueue) :
    MessagesKept new before after := by
  intro queue _
  rw [same queue]

theorem messageQueuePop_messagesKept
    {new queue : QueueId}
    {s queues : Queues}
    {stack found : Option Message}
    (popped : messageQueuePop s queue stack = (found, queues)) :
    MessagesKept new s queues := by
  have same :=
    messageQueuePop_field MessageQueue.messageQueue (fun _ _ _ _ => rfl)
      s queue stack
  rw [popped] at same
  exact messagesKept_of_eq same

theorem messageQueuePush_messagesKept
    {new queue : QueueId}
    {s pushed : Queues}
    {msg : Message}
    (succeeded : messageQueuePush s queue msg = .ok pushed) :
    MessagesKept new s pushed := by
  intro other _
  rw [messageQueuePush_messages succeeded other]
  split
  · exact List.prefix_append _ _
  · exact List.prefix_rfl

theorem messageQueueOverload_messagesKept
    (new queue : QueueId)
    (s : Queues) :
    MessagesKept new s (messageQueueOverload s queue).2 := by
  refine messagesKept_of_eq fun other => ?_
  unfold messageQueueOverload
  split
  · exact Queues.modify_field MessageQueue.messageQueue s queue
      (fun mq => { mq with overload := 0 }) rfl other
  · rfl

/-- The writes of the sections, each of which keeps the relation. -/
structure KeptBySections (kept : System → System → Prop) : Prop where
  refl : ∀ s, kept s s
  trans : ∀ {s t u}, kept s t → kept t u → kept s u
  context : ∀ s ctx change, kept s (s.modify ctx change)
  queues :
    ∀ s queues,
      MessagesKept s.nextQueue s.queues queues →
        kept s { s with queues := queues }
  storage : ∀ s storage, kept s { s with storage := storage }
  allocate :
    ∀ s nextContext nextQueue,
      s.nextQueue ≤ nextQueue →
        kept s { s with nextContext := nextContext, nextQueue := nextQueue }
  total : ∀ s total, kept s { s with total := total }
  logger :
    ∀ s,
      kept s
        { s with logger := some (s.logger.getD (handleFindname s "logger")) }

namespace KeptBySections

variable
    {kept : System → System → Prop}
    {s s' : System}

theorem contextRelease
    (writes : KeptBySections kept)
    {ctx : ContextId}
    {inUse : Bool}
    (returned : contextRelease s ctx = .ok (inUse, s')) :
    kept s s' := by
  have unref : kept s (contextUnref s ctx) := writes.context s ctx _
  rcases contextRelease_cases returned with
    ⟨_, _, isReleased⟩ | ⟨_, _, queues, marked, isReleased⟩
  · rw [isReleased]
    exact unref
  · rw [isReleased]
    have deletes : kept s (deleteContext (contextUnref s ctx) ctx) :=
      writes.trans unref (writes.context _ ctx _)
    have sameMessages :=
      messageQueueMarkRelease_field MessageQueue.messageQueue
        (fun _ _ => rfl) (fun _ _ => rfl) marked
    have marks := writes.trans deletes
      (writes.queues _ queues (messagesKept_of_eq sameMessages))
    exact writes.trans marks (writes.total _ (s.total - 1))

theorem handleGrab
    (writes : KeptBySections kept)
    {handle : UInt32}
    {ctx : Option ContextId}
    (grabbed : handleGrab s handle = (ctx, s')) :
    kept s s' := by
  unfold SkynetCpp.handleGrab at grabbed
  split at grabbed
  · next found _ =>
      injection grabbed with _ isState
      rw [← isState]
      exact writes.context s found _
  · injection grabbed with _ isState
    rw [← isState]
    exact writes.refl s

theorem handleUnlink
    (writes : KeptBySections kept)
    {handle : UInt32}
    {ctx : Option ContextId}
    (unlinked : handleUnlink s handle = (ctx, s')) :
    kept s s' := by
  unfold SkynetCpp.handleUnlink at unlinked
  split at unlinked
  · injection unlinked with _ isState
    rw [← isState]
    exact writes.storage s _
  · injection unlinked with _ isState
    rw [← isState]
    exact writes.refl s

theorem handleRegister
    (writes : KeptBySections kept)
    {ctx : ContextId}
    {handle : UInt32}
    (returned : handleRegister s ctx = .ok (handle, s')) :
    kept s s' := by
  apply handleRegister_induction returned
  · intro t found _ _ isState
    rw [isState]
    exact writes.storage t _
  · intro t grown grows inductionHypothesis
    obtain ⟨_, _, _, isGrown⟩ := growSlots_rehashes grows
    rw [isGrown] at inductionHypothesis
    exact writes.trans (writes.storage t _) inductionHypothesis

theorem enrollContext
    (writes : KeptBySections kept)
    {ctx : ContextId}
    (returned : enrollContext s ctx = .ok s') :
    kept s s' := by
  unfold SkynetCpp.enrollContext at returned
  split at returned
  · next handle registered registers =>
      injection returned with isState
      rw [← isState]
      have enters := writes.trans (writes.handleRegister registers)
        (writes.context registered ctx fun context =>
          { context with handle := handle, queue := registered.nextQueue })
      have others :
          MessagesKept registered.nextQueue registered.queues
            { registered.queues with
              mq :=
                Function.update registered.queues.mq registered.nextQueue
                  (newMessageQueue handle) } := by
        intro queue notNew
        simp [notNew]
      have queues := writes.trans enters (writes.queues _ _ others)
      have allocates := writes.trans queues
        (writes.allocate _ registered.nextContext (registered.nextQueue + 1)
          (Nat.le_succ _))
      exact writes.trans allocates (writes.total _ (registered.total + 1))
  · cases returned

theorem constructContext
    (writes : KeptBySections kept)
    {ctx : ContextId}
    {mod : Module}
    (returned : constructContext s mod = .ok (ctx, s')) :
    kept s s' := by
  simp only [SkynetCpp.constructContext, bind_eq_ok_iff] at returned
  obtain ⟨enrolled, enrolls, returned⟩ := returned
  injection returned with returned
  injection returned with _ isState
  rw [← isState]
  have constructs :=
    writes.context s s.nextContext fun _ => freshContext s mod
  have allocates := writes.trans constructs
    (writes.allocate _ (s.nextContext + 1) s.nextQueue (Nat.le_refl _))
  exact writes.trans allocates (writes.enrollContext enrolls)

theorem pushGlobalQueue
    (writes : KeptBySections kept)
    {queue : QueueId}
    (pushed : pushGlobalQueue s queue = .ok s') :
    kept s s' := by
  obtain ⟨queues, links, isState⟩ := pushGlobalQueue_eq_ok_iff.mp pushed
  rw [← isState]
  exact writes.queues s queues
    (messagesKept_of_eq
      (globalQueuePush_field MessageQueue.messageQueue (fun _ _ => rfl) links))

theorem popGlobalQueue
    (writes : KeptBySections kept)
    {queue : Option QueueId}
    (popped : popGlobalQueue s = .ok (queue, s')) :
    kept s s' := by
  obtain ⟨queues, unlinks, isState⟩ := popGlobalQueue_eq_ok_iff.mp popped
  rw [← isState]
  exact writes.queues s queues
    (messagesKept_of_eq
      (globalQueuePop_field MessageQueue.messageQueue (fun _ _ => rfl) unlinks))

/-- A section that returned has returned its last state. -/
theorem of_ok
    {t : System}
    {frames frames' : List Frame}
    (returned :
      (.ok (frames', t) : Except Fault (List Frame × System)) =
        .ok (frames, s'))
    (isKept : kept s t) :
    kept s s' := by
  injection returned with returned
  injection returned with _ isState
  exact isState ▸ isKept

/-- A relation that the writes keep is kept by every section of an operation. -/
theorem advance
    (writes : KeptBySections kept)
    {frame : Frame}
    {frames : List Frame}
    {unknown : Unknown}
    (advanced : frame.advance unknown s = .ok (frames, s')) :
    kept s s' := by
  cases frame with
  | contextPush handle msg =>
      rcases grabbed : SkynetCpp.handleGrab s handle with ⟨_ | ctx, t⟩
      all_goals
        simp only [Frame.advance, grabbed, Except.ok.injEq,
          Prod.mk.injEq] at advanced
        exact advanced.2 ▸ writes.handleGrab grabbed
  | pushGrabbed ctx msg =>
      simp only [Frame.advance, bind_eq_ok_iff] at advanced
      obtain ⟨queues, pushes, advanced⟩ := advanced
      exact of_ok advanced
        (writes.queues s _ (messageQueuePush_messagesKept pushes))
  | release ctx =>
      simp only [Frame.advance, bind_eq_ok_iff] at advanced
      obtain ⟨⟨inUse, t⟩, released, advanced⟩ := advanced
      exact of_ok advanced (writes.contextRelease released)
  | delete ctx =>
      exact of_ok advanced (writes.context s ctx _)
  | endless handle =>
      rcases grabbed : SkynetCpp.handleGrab s handle with ⟨_ | ctx, t⟩
      all_goals
        simp only [Frame.advance, grabbed, Except.ok.injEq,
          Prod.mk.injEq] at advanced
        have grabs := writes.handleGrab grabbed
      · exact advanced.2 ▸ grabs
      · exact advanced.2 ▸ writes.trans grabs (writes.context t ctx _)
  | grab handle =>
      rcases grabbed : SkynetCpp.handleGrab s handle with ⟨_ | ctx, t⟩
      all_goals
        simp only [Frame.advance, grabbed, Except.ok.injEq,
          Prod.mk.injEq] at advanced
        exact advanced.2 ▸ writes.handleGrab grabbed
  | grabbed ctx =>
      exact of_ok advanced (writes.refl s)
  | handleRetire handle =>
      rcases unlinked : SkynetCpp.handleUnlink s handle with ⟨_ | ctx, t⟩
      all_goals
        simp only [Frame.advance, unlinked, Except.ok.injEq,
          Prod.mk.injEq] at advanced
        exact advanced.2 ▸ writes.handleUnlink unlinked
  | skynetError handle text =>
      simp only [Frame.advance] at advanced
      split at advanced
      · exact of_ok advanced (writes.refl s)
      · split at advanced
        all_goals
          exact of_ok advanced (writes.logger s)
  | newContext request =>
      simp only [Frame.advance, bind_eq_ok_iff] at advanced
      obtain ⟨mod, _, ⟨ctx, t⟩, constructs, advanced⟩ := advanced
      exact of_ok advanced (writes.constructContext constructs)
  | constructed ctx mod request =>
      simp only [Frame.advance, bind_eq_ok_iff] at advanced
      obtain ⟨t, enrolls, advanced⟩ := advanced
      split at advanced
      · exact of_ok advanced (writes.enrollContext enrolls)
      · cases advanced
  | initialising ctx queue request =>
      simp only [Frame.advance] at advanced
      split at advanced
      all_goals
        exact of_ok advanced (writes.refl s)
  | launchRelease ctx queue request =>
      simp only [Frame.advance, bind_eq_ok_iff] at advanced
      obtain ⟨⟨ret, t⟩, released, advanced⟩ := advanced
      have releases := writes.contextRelease released
      split at advanced
      · exact of_ok advanced releases
      · exact of_ok advanced
          (writes.trans releases (writes.context t ctx _))
  | launchPush queue =>
      simp only [Frame.advance, bind_eq_ok_iff] at advanced
      obtain ⟨t, pushes, advanced⟩ := advanced
      exact of_ok advanced (writes.pushGlobalQueue pushes)
  | launchFailed ctx queue =>
      simp only [Frame.advance, bind_eq_ok_iff] at advanced
      obtain ⟨⟨inUse, t⟩, released, advanced⟩ := advanced
      exact of_ok advanced (writes.contextRelease released)
  | queueRelease queue handle =>
      simp only [Frame.advance] at advanced
      split at advanced
      · exact of_ok advanced (writes.refl s)
      · simp only [bind_eq_ok_iff] at advanced
        obtain ⟨t, pushes, advanced⟩ := advanced
        exact of_ok advanced (writes.pushGlobalQueue pushes)
  | draining queue handle =>
      simp only [Frame.advance] at advanced
      split at advanced
      · next pops =>
          simp only [bind_eq_ok_iff] at advanced
          obtain ⟨dropping, _, advanced⟩ := advanced
          exact of_ok advanced
            (writes.queues s _ (messageQueuePop_messagesKept pops))
      · next pops =>
          split at advanced
          · have takes :=
              writes.queues s _ (messageQueuePop_messagesKept pops)
            refine of_ok advanced
              (writes.trans takes (writes.queues _ _ (messagesKept_of_eq ?_)))
            exact Queues.modify_field MessageQueue.messageQueue _ queue
              (fun mq => { mq with deleted := mq.deleted + 1 }) rfl
          · cases advanced
  | messageDispatch queue weight =>
      cases queue with
      | none =>
          simp only [Frame.advance, bind_eq_ok_iff] at advanced
          obtain ⟨⟨queue, t⟩, pops, advanced⟩ := advanced
          exact of_ok advanced (writes.popGlobalQueue pops)
      | some queue =>
          rcases grabbed :
              SkynetCpp.handleGrab s (s.queues.mq queue).handle with
            ⟨_ | ctx, t⟩
          all_goals
            simp only [Frame.advance, grabbed, Except.ok.injEq,
              Prod.mk.injEq] at advanced
            exact advanced.2 ▸ writes.handleGrab grabbed
  | dispatchPop turns =>
      simp only [Frame.advance] at advanced
      split at advanced
      · split at advanced
        · next pops =>
            exact of_ok advanced
              (writes.queues s _ (messageQueuePop_messagesKept pops))
        · next pops =>
            split at advanced
            all_goals
              exact of_ok advanced
                (writes.queues s _ (messageQueuePop_messagesKept pops))
      · split at advanced
        · simp only [bind_eq_ok_iff] at advanced
          obtain ⟨⟨queue, t⟩, pops, advanced⟩ := advanced
          cases queue with
          | none =>
              exact of_ok advanced (writes.popGlobalQueue pops)
          | some queue =>
              exact of_ok advanced (writes.popGlobalQueue pops)
        · cases advanced
  | dispatchLength turns =>
      exact of_ok advanced (writes.refl s)
  | dispatchTurn turns =>
      have looks :=
        writes.queues s (messageQueueOverload s.queues turns.queue).2
          (messageQueueOverload_messagesKept s.nextQueue turns.queue s.queues)
      simp only [Frame.advance] at advanced
      split at advanced
      · exact of_ok advanced looks
      · split at advanced
        · exact of_ok advanced
            (writes.trans looks (writes.context _ turns.ctx _))
        · cases advanced
  | callback turns =>
      exact of_ok advanced (writes.refl s)
  | dispatchBack turns next =>
      simp only [Frame.advance, bind_eq_ok_iff] at advanced
      obtain ⟨t, pushes, advanced⟩ := advanced
      exact of_ok advanced (writes.pushGlobalQueue pushes)
  | dispatchNext weight =>
      simp only [Frame.advance, bind_eq_ok_iff] at advanced
      obtain ⟨⟨queue, t⟩, pops, advanced⟩ := advanced
      exact of_ok advanced (writes.popGlobalQueue pops)

/-- A relation that the writes keep is kept by every step of a thread. -/
theorem next
    (writes : KeptBySections kept)
    {Thread : Type}
    [DecidableEq Thread]
    {rt rt' : Runtime Thread}
    {label : Thread × Action}
    (taken : rt.next? label = some rt') :
    kept rt.system rt'.system := by
  obtain ⟨thread, action⟩ := label
  cases action with
  | advance unknown =>
      obtain ⟨_, _, _, _, _, advanced, isState⟩ := Runtime.next?_advance taken
      rw [isState]
      exact writes.advance advanced
  | call operation =>
      obtain ⟨_, _, isState⟩ := Runtime.next?_call taken
      rw [isState]
      exact writes.refl _
  | serviceCallback cb =>
      obtain ⟨ctx, _, isState⟩ := Runtime.next?_serviceCallback taken
      rw [isState]
      exact writes.context rt.system ctx fun context =>
        { context with cb := cb }
  | harborStart =>
      simp only [Runtime.next?] at taken
      split at taken
      · next ctx _ =>
          injection taken with isState
          rw [← isState]
          exact writes.trans (writes.context rt.system ctx _)
            (writes.total _ (rt.system.total - 1))
      · cases taken
  | harborExit =>
      simp only [Runtime.next?] at taken
      split at taken
      · split at taken
        · injection taken with isState
          rw [← isState]
          exact writes.refl _
        · cases taken
      · cases taken

end KeptBySections

end SkynetCpp
