import SkynetCpp.Foundation.Run
import SkynetCpp.References
import SkynetCpp.Runtime

namespace SkynetCpp

open Foundation

/-!
# References of the running node

The holders of a context are the handle table, the operations in progress and
the reservations of the harbor.  Grabs, releases and the section of
`HandleRetire` keep the count equal to their number; a `delete` outside
`Context::Release`, and a second slot for one context, do not.
-/

namespace References

/-- The context on which an operation in progress holds a reference. -/
def reference : Frame → Option ContextId
  | .pushGrabbed ctx _ => some ctx
  | .release ctx => some ctx
  | .grabbed ctx => some ctx
  | .constructed ctx _ _ => some ctx
  | .initialising ctx _ _ => some ctx
  | .launchRelease ctx _ _ => some ctx
  | .launchFailed ctx _ => some ctx
  | .dispatchPop turns => some turns.ctx
  | .dispatchLength turns => some turns.ctx
  | .dispatchTurn turns => some turns.ctx
  | .callback turns => some turns.ctx
  | .dispatchBack turns _ => some turns.ctx
  | _ => none

/-- The references that an operation in progress holds on a context. -/
def holds
    (ctx : ContextId)
    (frame : Frame) : Nat :=
  if reference frame = some ctx then 1 else 0

/-- Running service code holds a reference on its context. -/
theorem holds_running
    {frame : Frame}
    {ctx : ContextId}
    (runs : frame.running = some ctx) :
    holds ctx frame = 1 := by
  unfold holds
  rw [if_pos]
  cases frame <;> simp_all [Frame.running, reference]

/-- An operation that is started holds nothing yet. -/
theorem holds_operation
    {operation : Frame}
    (starts : operation.isOperation = true)
    (ctx : ContextId) :
    holds ctx operation = 0 := by
  unfold holds
  rw [if_neg]
  cases operation <;> simp_all [Frame.isOperation, reference]

/-- A grab of the context that a handle names fits the counter. -/
def GrabFits
    (s : System)
    (handle : UInt32) : Prop :=
  ∀ ctx, handleLookup s handle = some ctx →
    (s.contexts ctx).ref + 1 < 2 ^ 31

/--
What the next section of an operation may not do: delete a context without
releasing it, take a context out of one of its slots only, enter it again after
it was taken out, or overflow a counter.
-/
def KeepsCount
    (s : System) : Frame → Prop
  | .delete _ => False
  | .handleRetire handle =>
      ∀ ctx, handleLookup s handle = some ctx →
        ∀ index, s.storage.slotAt index = some ctx →
          index = s.storage.hash handle
  | .constructed ctx _ _ => registered s ctx = 1
  | .contextPush handle _ => GrabFits s handle
  | .endless handle => GrabFits s handle
  | .grab handle => GrabFits s handle
  | .messageDispatch (some queue) _ => GrabFits s (s.queues.mq queue).handle
  | _ => True

namespace Accounted

variable
    {s s' : System}
    {held held' : ContextId → Nat}

/-- Writing neither contexts nor the table keeps the account. -/
theorem of_sameContexts
    (accounted : Accounted s held)
    (sameStorage : s'.storage = s.storage)
    (sameContexts : s'.contexts = s.contexts)
    (sameNext : s'.nextContext = s.nextContext)
    (sameHeld : ∀ ctx, held' ctx = held ctx) :
    Accounted s' held' :=
  accounted.of_same
    (SameTable.of_contexts sameStorage sameContexts sameNext)
    (fun ctx => by rw [sameContexts]) (fun ctx => by rw [sameContexts])
    sameHeld

/-- Changing a context apart from its handle, count and deletion. -/
theorem modify
    (accounted : Accounted s held)
    (ctx : ContextId)
    (change : Context → Context)
    (keepsHandle :
      (change (s.contexts ctx)).handle = (s.contexts ctx).handle)
    (keepsRef : (change (s.contexts ctx)).ref = (s.contexts ctx).ref)
    (keepsDeleted :
      (change (s.contexts ctx)).deleted = (s.contexts ctx).deleted)
    (sameHeld : ∀ other, held' other = held other) :
    Accounted (s.modify ctx change) held' :=
  accounted.of_same
    (SameTable.modify s ctx change keepsHandle)
    (System.modify_field Context.ref s ctx change keepsRef)
    (System.modify_field Context.deleted s ctx change keepsDeleted)
    sameHeld

/-- `HandleGrab` gives its caller a reference on what it finds. -/
theorem handleGrab
    {handle : UInt32}
    {ctx : ContextId}
    (accounted : Accounted s held)
    (fits : GrabFits s handle)
    (grabbed : handleGrab s handle = (some ctx, s'))
    (oneMore :
      ∀ other, held' other = held other + if ctx = other then 1 else 0) :
    Accounted s' held' := by
  unfold SkynetCpp.handleGrab at grabbed
  cases found : handleLookup s handle with
  | none =>
      simp [found] at grabbed
  | some target =>
      simp only [found, Prod.mk.injEq, Option.some.injEq] at grabbed
      obtain ⟨isTarget, isState⟩ := grabbed
      subst isTarget
      rw [← isState]
      refine accounted.grab ?_ (fits target found) oneMore
      rw [registered_of_lookup found]
      omega

end Accounted

/-- A lookup without result changes nothing. -/
theorem handleGrab_none
    {s s' : System}
    {handle : UInt32}
    (grabbed : handleGrab s handle = (none, s')) :
    s' = s := by
  unfold handleGrab at grabbed
  cases found : handleLookup s handle with
  | none =>
      simp only [found, Prod.mk.injEq] at grabbed
      exact grabbed.2.symm
  | some target =>
      simp [found] at grabbed

section Sections

variable
    {unknown : Unknown}
    {s s' : System}
    {frames : List Frame}
    {base : ContextId → Nat}

/--
What a section leaves: references counted where the new frames hold them, and
no context to delete that was not constructed.
-/
structure Carried
    (s s' : System)
    (base : ContextId → Nat)
    (frames : List Frame) : Prop where
  accounted : Accounted s' fun ctx => base ctx + stackWeight (holds ctx) frames
  next : s.nextContext ≤ s'.nextContext
  deletes : ∀ ctx, Frame.delete ctx ∈ frames → ctx < s'.nextContext

/-- What an operation holds a reference on was constructed. -/
theorem lt_of_reference
    {frame : Frame}
    {ctx : ContextId}
    (accounted : Accounted s fun ctx => base ctx + holds ctx frame)
    (isHeld : reference frame = some ctx) :
    ctx < s.nextContext := by
  apply accounted.allocated
  simp [holds, isHeld]

/-- A section that writes neither contexts nor the table passes its references on. -/
theorem carried_of_sameContexts
    {frame : Frame}
    (accounted : Accounted s fun ctx => base ctx + holds ctx frame)
    (sameStorage : s'.storage = s.storage)
    (sameContexts : s'.contexts = s.contexts)
    (sameNext : s'.nextContext = s.nextContext)
    (passes :
      ∀ ctx, stackWeight (holds ctx) frames = holds ctx frame ∧
        (Frame.delete ctx ∈ frames → reference frame = some ctx)) :
    Carried s s' base frames where
  accounted :=
    accounted.of_sameContexts sameStorage sameContexts sameNext
      (fun ctx => by rw [(passes ctx).1])
  next := Nat.le_of_eq sameNext.symm
  deletes := by
    intro ctx member
    rw [sameNext]
    exact lt_of_reference accounted ((passes ctx).2 member)

/-- A section that starts with `HandleGrab` finds nothing, or takes one reference. -/
theorem carried_of_handleGrab
    {handle : UInt32}
    {found : Option ContextId}
    (accounted : Accounted s base)
    (fits : GrabFits s handle)
    (grabbed : handleGrab s handle = (found, s'))
    (oneMore :
      ∀ ctx, stackWeight (holds ctx) frames =
          (if found = some ctx then 1 else 0) ∧
        Frame.delete ctx ∉ frames) :
    Carried s s' base frames := by
  have sameNext : s'.nextContext = s.nextContext := by
    have grabs := SameTable.handleGrab s handle
    rw [grabbed] at grabs
    exact grabs.next
  refine ⟨?_, Nat.le_of_eq sameNext.symm,
    fun ctx member => absurd member (oneMore ctx).2⟩
  cases found with
  | none =>
      rw [handleGrab_none grabbed]
      refine accounted.of_sameContexts rfl rfl rfl ?_
      intro ctx
      simp [(oneMore ctx).1]
  | some ctx =>
      refine accounted.handleGrab fits grabbed ?_
      intro other
      simp [(oneMore other).1]

/-- A section that ends with `Context::Release` gives its reference back. -/
theorem carried_of_contextRelease
    {frame : Frame}
    {ctx : ContextId}
    {inUse : Bool}
    (accounted : Accounted s fun other => base other + holds other frame)
    (released : contextRelease s ctx = .ok (inUse, s'))
    (isHeld : reference frame = some ctx)
    (noneLeft :
      ∀ other, stackWeight (holds other) frames = 0 ∧
        (Frame.delete other ∈ frames → reference frame = some other)) :
    Carried s s' base frames := by
  have sameNext := (SameTable.contextRelease released).next
  refine ⟨accounted.release released ?_, Nat.le_of_eq sameNext.symm, ?_⟩
  · intro other
    simp [(noneLeft other).1, holds, isHeld]
  · intro other member
    rw [sameNext]
    exact lt_of_reference accounted ((noneLeft other).2 member)

/-- Dropping a message starts a push, which holds nothing yet. -/
theorem holds_dropMessage
    {handle : UInt32}
    {msg : Message}
    (drops : Frame.dropMessage s handle msg = .ok frames)
    (ctx : ContextId) :
    stackWeight (holds ctx) frames = 0 ∧ Frame.delete ctx ∉ frames := by
  rcases Frame.dropMessage_cases drops with rfl | ⟨error, rfl⟩
  · simp
  · simp [holds, reference]

/-- A section moves references between their holders and counts them on the way. -/
theorem advance_carried
    {frame : Frame}
    (accounted : Accounted s fun ctx => base ctx + holds ctx frame)
    (keeps : KeepsCount s frame)
    (advanced : frame.advance unknown s = .ok (frames, s')) :
    Carried s s' base frames := by
  cases frame with
  | contextPush handle msg =>
      rcases grabbed : handleGrab s handle with ⟨_ | ctx, t⟩
      all_goals
        simp only [Frame.advance, grabbed, Except.ok.injEq,
          Prod.mk.injEq] at advanced
        obtain ⟨isFrames, isState⟩ := advanced
        subst isFrames
        subst isState
        exact carried_of_handleGrab accounted keeps grabbed
          (by simp [holds, reference])
  | pushGrabbed ctx msg =>
      simp only [Frame.advance, bind_eq_ok_iff] at advanced
      obtain ⟨queues, _, advanced⟩ := advanced
      obtain ⟨rfl, rfl⟩ := ok_pair_inj.mp advanced
      exact carried_of_sameContexts accounted rfl rfl rfl
        (by simp [holds, reference])
  | release ctx =>
      simp only [Frame.advance, bind_eq_ok_iff] at advanced
      obtain ⟨⟨inUse, t⟩, released, advanced⟩ := advanced
      obtain ⟨rfl, rfl⟩ := ok_pair_inj.mp advanced
      exact carried_of_contextRelease accounted released rfl (by simp)
  | delete ctx =>
      exact keeps.elim
  | endless handle =>
      rcases grabbed : handleGrab s handle with ⟨_ | ctx, t⟩
      all_goals
        simp only [Frame.advance, grabbed, Except.ok.injEq,
          Prod.mk.injEq] at advanced
        obtain ⟨isFrames, isState⟩ := advanced
        subst isFrames
        subst isState
      · exact carried_of_handleGrab accounted keeps grabbed (by simp)
      · have carried :
            Carried s t base [.release ctx] :=
          carried_of_handleGrab accounted keeps grabbed
            (by simp [holds, reference])
        exact ⟨carried.accounted.modify ctx
            (fun context => { context with endless := true })
            rfl rfl rfl (fun _ => rfl), carried.next, carried.deletes⟩
  | grab handle =>
      rcases grabbed : handleGrab s handle with ⟨_ | ctx, t⟩
      all_goals
        simp only [Frame.advance, grabbed, Except.ok.injEq,
          Prod.mk.injEq] at advanced
        obtain ⟨isFrames, isState⟩ := advanced
        subst isFrames
        subst isState
        exact carried_of_handleGrab accounted keeps grabbed
          (by simp [holds, reference])
  | grabbed ctx =>
      obtain ⟨rfl, rfl⟩ := ok_pair_inj.mp advanced
      exact carried_of_sameContexts accounted rfl rfl rfl
        (by simp [holds, reference])
  | handleRetire handle =>
      simp only [Frame.advance, handleUnlink] at advanced
      cases found : handleLookup s handle with
      | none =>
          simp only [found, Except.ok.injEq, Prod.mk.injEq] at advanced
          obtain ⟨isFrames, isState⟩ := advanced
          subst isFrames
          subst isState
          exact carried_of_sameContexts accounted rfl rfl rfl
            (by simp [holds, reference])
      | some ctx =>
          simp only [found, Except.ok.injEq, Prod.mk.injEq] at advanced
          obtain ⟨isFrames, isState⟩ := advanced
          subst isFrames
          subst isState
          refine ⟨accounted.unlink found (keeps ctx found) ?_,
            Nat.le_refl _, ?_⟩
          all_goals simp [holds, reference]
  | skynetError handle text =>
      simp only [Frame.advance] at advanced
      split at advanced
      all_goals try split at advanced
      all_goals
        obtain ⟨rfl, rfl⟩ := ok_pair_inj.mp advanced
        exact carried_of_sameContexts accounted rfl rfl rfl
          (by simp [holds, reference])
  | newContext request =>
      simp only [Frame.advance, bind_eq_ok_iff] at advanced
      obtain ⟨mod, _, ⟨ctx, t⟩, constructs, advanced⟩ := advanced
      obtain ⟨rfl, rfl⟩ := ok_pair_inj.mp advanced
      refine ⟨accounted.construct constructs ?_,
        (HandleTable.Keeps.constructContext constructs).2.2.next, ?_⟩
      all_goals simp [holds, reference]
  | constructed ctx mod request =>
      simp only [Frame.advance, bind_eq_ok_iff] at advanced
      obtain ⟨t, enrolls, advanced⟩ := advanced
      split at advanced
      · injection advanced with advanced
        injection advanced with isFrames isState
        subst isFrames
        subst isState
        refine ⟨accounted.enroll enrolls keeps ?_,
          Nat.le_of_eq (enrollContext_nextContext enrolls).symm, ?_⟩
        all_goals simp [holds, reference]
      · cases advanced
  | initialising ctx queue request =>
      simp only [Frame.advance] at advanced
      split at advanced
      all_goals
        obtain ⟨rfl, rfl⟩ := ok_pair_inj.mp advanced
        exact carried_of_sameContexts accounted rfl rfl rfl
          (by simp [holds, reference])
  | launchRelease ctx queue request =>
      simp only [Frame.advance, bind_eq_ok_iff] at advanced
      obtain ⟨⟨inUse, t⟩, released, advanced⟩ := advanced
      split at advanced
      all_goals
        obtain ⟨rfl, rfl⟩ := ok_pair_inj.mp advanced
      · exact carried_of_contextRelease accounted released rfl
          (by simp [holds, reference])
      · have carried :
            Carried s t base [.launchPush queue] :=
          carried_of_contextRelease accounted released rfl
            (by simp [holds, reference])
        exact ⟨carried.accounted.modify ctx
            (fun context => { context with init := true })
            rfl rfl rfl (fun _ => rfl), carried.next, carried.deletes⟩
  | launchPush queue =>
      simp only [Frame.advance, bind_eq_ok_iff,
        pushGlobalQueue_eq_ok_iff] at advanced
      obtain ⟨_, ⟨queues, _, isPushed⟩, advanced⟩ := advanced
      obtain ⟨rfl, rfl⟩ := ok_pair_inj.mp advanced
      subst isPushed
      exact carried_of_sameContexts accounted rfl rfl rfl
        (by simp [holds, reference])
  | launchFailed ctx queue =>
      simp only [Frame.advance, bind_eq_ok_iff] at advanced
      obtain ⟨⟨inUse, t⟩, released, advanced⟩ := advanced
      obtain ⟨rfl, rfl⟩ := ok_pair_inj.mp advanced
      exact carried_of_contextRelease accounted released rfl
        (by simp [holds, reference])
  | queueRelease queue handle =>
      simp only [Frame.advance] at advanced
      split at advanced
      · injection advanced with advanced
        injection advanced with isFrames isState
        subst isFrames
        subst isState
        exact carried_of_sameContexts accounted rfl rfl rfl
          (by simp [holds, reference])
      · simp only [bind_eq_ok_iff, pushGlobalQueue_eq_ok_iff] at advanced
        obtain ⟨_, ⟨queues, _, isPushed⟩, advanced⟩ := advanced
        obtain ⟨rfl, rfl⟩ := ok_pair_inj.mp advanced
        subst isPushed
        exact carried_of_sameContexts accounted rfl rfl rfl
          (by simp [holds, reference])
  | draining queue handle =>
      simp only [Frame.advance] at advanced
      rcases popped : messageQueuePop s.queues queue unknown.stack with
        ⟨_ | msg, queues⟩
      · simp only [popped] at advanced
        split at advanced
        · injection advanced with advanced
          injection advanced with isFrames isState
          subst isFrames
          subst isState
          exact carried_of_sameContexts accounted rfl rfl rfl
            (by simp [holds, reference])
        · cases advanced
      · simp only [popped, bind_eq_ok_iff] at advanced
        obtain ⟨dropping, drops, advanced⟩ := advanced
        obtain ⟨rfl, rfl⟩ := ok_pair_inj.mp advanced
        refine carried_of_sameContexts accounted rfl rfl rfl ?_
        intro ctx
        obtain ⟨noReference, noDelete⟩ := holds_dropMessage drops ctx
        rw [stackWeight_append, noReference]
        simp [holds, reference, noDelete]
  | messageDispatch queue weight =>
      cases queue with
      | none =>
          simp only [Frame.advance, bind_eq_ok_iff] at advanced
          obtain ⟨⟨queue, t⟩, pops, advanced⟩ := advanced
          obtain ⟨queues, _, isPopped⟩ := popGlobalQueue_eq_ok_iff.mp pops
          obtain ⟨rfl, rfl⟩ := ok_pair_inj.mp advanced
          rw [← isPopped]
          exact carried_of_sameContexts accounted rfl rfl rfl
            (by simp [holds, reference])
      | some queue =>
          rcases grabbed :
              handleGrab s (s.queues.mq queue).handle with ⟨_ | ctx, t⟩
          all_goals
            simp only [Frame.advance, grabbed, Except.ok.injEq,
              Prod.mk.injEq] at advanced
            obtain ⟨isFrames, isState⟩ := advanced
            subst isFrames
            subst isState
            exact carried_of_handleGrab accounted keeps grabbed
              (by simp [holds, reference])
  | dispatchPop turns =>
      simp only [Frame.advance] at advanced
      split at advanced
      · split at advanced
        · injection advanced with advanced
          injection advanced with isFrames isState
          subst isFrames
          subst isState
          exact carried_of_sameContexts accounted rfl rfl rfl
            (by simp [holds, reference])
        · split at advanced
          all_goals
            obtain ⟨rfl, rfl⟩ := ok_pair_inj.mp advanced
            exact carried_of_sameContexts accounted rfl rfl rfl
              (by simp [holds, reference])
      · split at advanced
        · simp only [bind_eq_ok_iff] at advanced
          obtain ⟨⟨next, t⟩, pops, advanced⟩ := advanced
          obtain ⟨queues, _, isPopped⟩ := popGlobalQueue_eq_ok_iff.mp pops
          cases next with
          | none | some next =>
              obtain ⟨rfl, rfl⟩ := ok_pair_inj.mp advanced
              rw [← isPopped]
              exact carried_of_sameContexts accounted rfl rfl rfl
                (by simp [holds, reference])
        · cases advanced
  | dispatchLength turns =>
      obtain ⟨rfl, rfl⟩ := ok_pair_inj.mp advanced
      exact carried_of_sameContexts accounted rfl rfl rfl
        (by simp [holds, reference])
  | dispatchTurn turns =>
      simp only [Frame.advance] at advanced
      have overloaded :
          Carried s
            { s with
              queues := (messageQueueOverload s.queues turns.queue).2 }
            base [.dispatchTurn turns] :=
        carried_of_sameContexts accounted rfl rfl rfl (by simp)
      split at advanced
      · injection advanced with advanced
        injection advanced with isFrames isState
        subst isFrames
        subst isState
        exact carried_of_sameContexts accounted rfl rfl rfl
          (by simp [holds, reference])
      · split at advanced
        · injection advanced with advanced
          injection advanced with isFrames isState
          subst isFrames
          subst isState
          refine ⟨overloaded.accounted.modify turns.ctx
            (fun context =>
              { context with
                messageCount := context.messageCount + 1
                cpuStart := if context.profile then 0 else context.cpuStart })
            rfl rfl rfl ?_, overloaded.next, ?_⟩
          all_goals simp [holds, reference]
        · cases advanced
  | callback turns =>
      obtain ⟨rfl, rfl⟩ := ok_pair_inj.mp advanced
      exact carried_of_sameContexts accounted rfl rfl rfl
        (by simp [holds, reference])
  | dispatchBack turns next =>
      simp only [Frame.advance, bind_eq_ok_iff,
        pushGlobalQueue_eq_ok_iff] at advanced
      obtain ⟨_, ⟨queues, _, isPushed⟩, advanced⟩ := advanced
      obtain ⟨rfl, rfl⟩ := ok_pair_inj.mp advanced
      subst isPushed
      exact carried_of_sameContexts accounted rfl rfl rfl
        (by simp [holds, reference])
  | dispatchNext weight =>
      simp only [Frame.advance, bind_eq_ok_iff] at advanced
      obtain ⟨⟨queue, t⟩, pops, advanced⟩ := advanced
      obtain ⟨queues, _, isPopped⟩ := popGlobalQueue_eq_ok_iff.mp pops
      obtain ⟨rfl, rfl⟩ := ok_pair_inj.mp advanced
      rw [← isPopped]
      exact carried_of_sameContexts accounted rfl rfl rfl
        (by simp [holds, reference])

/-- A grab whose result still counts the holders fitted the counter. -/
theorem grabFits_of_counted
    {handle : UInt32}
    (accounted : Accounted s base)
    (counted :
      ∀ ctx, handleLookup s handle = some ctx →
        ((contextGrab s ctx).contexts ctx).ref =
          (registered s ctx + (base ctx + 1) : Nat)) :
    GrabFits s handle := by
  intro ctx found
  have alive : 0 < registered s ctx + base ctx := by
    rw [registered_of_lookup found]
    omega
  have count := (accounted.counted ctx (accounted.allocated ctx alive)).count
  have grabbed := counted ctx found
  have upper := toInt32_lt ((s.contexts ctx).ref + 1)
  simp only [contextGrab, System.modify_contexts_self] at grabbed
  omega

/-- A section after which every count fits did nothing that breaks a count. -/
theorem keepsCount_of_counted
    {frame : Frame}
    (accounted : Accounted s fun ctx => base ctx + holds ctx frame)
    (deletes : ∀ ctx, frame = .delete ctx → ctx < s.nextContext)
    (advanced : frame.advance unknown s = .ok (frames, s'))
    (counted :
      ∀ ctx, ctx < s'.nextContext →
        Counted (s'.contexts ctx)
          (registered s' ctx + (base ctx + stackWeight (holds ctx) frames))) :
    KeepsCount s frame := by
  cases frame with
  | delete ctx =>
      injection advanced with advanced
      injection advanced with isFrames isState
      subst isState
      have below := deletes ctx rfl
      have before := (accounted.counted ctx below).deletedOnce
      have after := (counted ctx below).deletedOnce
      simp only [deleteContext, System.modify_contexts_self, before] at after
      omega
  | handleRetire handle =>
      intro ctx found index refers
      by_contra otherSlot
      simp only [Frame.advance, handleUnlink, found, Except.ok.injEq,
        Prod.mk.injEq] at advanced
      obtain ⟨isFrames, isState⟩ := advanced
      subst isFrames
      subst isState
      have wasRegistered := registered_of_lookup found
      have below := accounted.allocated_of_lookup found
      have stays : registered (unlinkAt s handle) ctx = 1 := by
        refine registered_eq_one_iff.mpr ⟨index, ?_⟩
        rw [slotAt_unlinkAt, if_neg otherSlot]
        exact refers
      have before := (accounted.counted ctx below).count
      have after := (counted ctx below).count
      rw [stays, unlinkAt_contexts, before, wasRegistered] at after
      simp [holds, reference] at after
  | constructed ctx mod request =>
      simp only [Frame.advance, bind_eq_ok_iff] at advanced
      obtain ⟨t, enrolls, advanced⟩ := advanced
      split at advanced
      · injection advanced with advanced
        injection advanced with isFrames isState
        subst isFrames
        subst isState
        have below : ctx < s.nextContext := lt_of_reference accounted rfl
        have before := (accounted.counted ctx below).count
        have after :=
          (counted ctx (enrollContext_nextContext enrolls ▸ below)).count
        rw [enrollContext_field Context.ref (fun _ _ _ => rfl) enrolls,
          before, accounted.table.registered_enrollContext enrolls,
          if_pos rfl] at after
        simp [holds, reference] at after
        show registered s ctx = 1
        omega
      · cases advanced
  | contextPush handle msg | endless handle | grab handle =>
      refine grabFits_of_counted accounted ?_
      intro ctx found
      have below := accounted.allocated_of_lookup found
      simp only [Frame.advance, handleGrab, found, Except.ok.injEq,
        Prod.mk.injEq] at advanced
      obtain ⟨isFrames, isState⟩ := advanced
      subst isFrames
      subst isState
      simpa [holds, reference] using (counted ctx below).count
  | messageDispatch queue weight =>
      cases queue with
      | none =>
          trivial
      | some queue =>
          refine grabFits_of_counted accounted ?_
          intro ctx found
          have below := accounted.allocated_of_lookup found
          simp only [Frame.advance, handleGrab, found, Except.ok.injEq,
            Prod.mk.injEq] at advanced
          obtain ⟨isFrames, isState⟩ := advanced
          subst isFrames
          subst isState
          simpa [holds, reference] using (counted ctx below).count
  | _ => trivial

end Sections

section Runs

variable
    {Thread : Type}
    [Fintype Thread]

/-- The references held outside the table: by operations and by the harbor. -/
def outstanding
    (rt : Runtime Thread)
    (ctx : ContextId) : Nat :=
  total (stackWeight (holds ctx)) rt.stackOf + rt.reserved ctx

/-- Service code that runs holds a reference on its context. -/
theorem alive_running
    {rt : Runtime Thread}
    {thread : Thread}
    {ctx : ContextId}
    (runs : (rt.stackOf thread).head?.bind Frame.running = some ctx) :
    0 < registered rt.system ctx + outstanding rt ctx := by
  obtain ⟨frame, isHead, running⟩ := Option.bind_eq_some_iff.mp runs
  have member := List.mem_of_mem_head? (Option.mem_def.mpr isHead)
  have part := weight_le_total_stack (holds ctx) member
  rw [holds_running running] at part
  unfold outstanding
  omega

/-- How the references move when new frames replace the top of a stack. -/
theorem outstanding_top
    [DecidableEq Thread]
    {rt : Runtime Thread}
    {thread : Thread}
    {frame : Frame}
    {rest frames : List Frame}
    {s : System}
    (isTop : rt.stackOf thread = frame :: rest)
    (ctx : ContextId) :
    outstanding
        { rt with
          system := s
          stackOf := Function.update rt.stackOf thread (frames ++ rest) } ctx =
      outstanding rt ctx - holds ctx frame +
        stackWeight (holds ctx) frames := by
  have member : frame ∈ rt.stackOf thread := by simp [isTop]
  have part := weight_le_total_stack (holds ctx) member
  have moved := total_replace_top (holds ctx) isTop frames
  unfold outstanding
  dsimp only
  omega

/-- A reservation is one reference more on its context. -/
theorem outstanding_reserve
    {s : System}
    {remote : Option ContextId}
    (rt : Runtime Thread)
    (ctx other : ContextId) :
    outstanding
        { rt with
          system := s
          remote := remote
          reserved :=
            Function.update rt.reserved ctx (rt.reserved ctx + 1) } other =
      outstanding rt other + if ctx = other then 1 else 0 := by
  unfold outstanding
  by_cases isReserved : other = ctx
  · simp [isReserved, Nat.add_assoc]
  · simp [isReserved, Ne.symm isReserved]

/-- Every constructed context counts its holders and is deleted with the last. -/
def CountsHolders (rt : Runtime Thread) : Prop :=
  ∀ ctx, ctx < rt.system.nextContext →
    Counted (rt.system.contexts ctx)
      (registered rt.system ctx + outstanding rt ctx)

/-- What the steps that keep the counts preserve. -/
structure Balanced (rt : Runtime Thread) : Prop where
  accounted : Accounted rt.system (outstanding rt)
  deletes :
    ∀ thread ctx, Frame.delete ctx ∈ rt.stackOf thread →
      ctx < rt.system.nextContext
  remote : ∀ ctx, rt.remote = some ctx → 0 < rt.reserved ctx

/-- The steps that keep the counts. -/
def StepKeepsCount
    (rt : Runtime Thread) : Thread × Action → Prop
  | (thread, .advance _) =>
      ∀ frame rest, rt.stackOf thread = frame :: rest →
        KeepsCount rt.system frame
  | (thread, .harborStart) =>
      ∀ ctx, (rt.stackOf thread).head?.bind Frame.running = some ctx →
        (rt.system.contexts ctx).ref + 1 < 2 ^ 31
  | _ => True

namespace Balanced

variable
    {rt rt' : Runtime Thread}
    {thread : Thread}

theorem countsHolders
    (balanced : Balanced rt) :
    CountsHolders rt :=
  balanced.accounted.counted

/-- The holders of a context apart from one operation in progress. -/
theorem accounted_top
    {frame : Frame}
    {rest : List Frame}
    (balanced : Balanced rt)
    (isTop : rt.stackOf thread = frame :: rest) :
    Accounted rt.system fun ctx =>
      (outstanding rt ctx - holds ctx frame) + holds ctx frame := by
  refine balanced.accounted.of_sameContexts rfl rfl rfl ?_
  intro ctx
  have member : frame ∈ rt.stackOf thread := by simp [isTop]
  have part := weight_le_total_stack (holds ctx) member
  unfold outstanding
  omega

variable [DecidableEq Thread]

/-- A section that keeps the counts leaves the node balanced. -/
theorem advance
    {unknown : Unknown}
    (balanced : Balanced rt)
    (keeps : StepKeepsCount rt (thread, .advance unknown))
    (taken : rt.next? (thread, .advance unknown) = some rt') :
    Balanced rt' := by
  obtain ⟨frame, rest, frames, s, isTop, advanced, isState⟩ :=
    Runtime.next?_advance taken
  subst isState
  have carried :=
    advance_carried (balanced.accounted_top isTop) (keeps frame rest isTop)
      advanced
  refine ⟨?_, ?_, balanced.remote⟩
  · exact carried.accounted.of_sameContexts rfl rfl rfl
      (outstanding_top isTop)
  · intro other ctx member
    by_cases isThread : other = thread
    · rw [isThread] at member
      simp only [Function.update_self, List.mem_append] at member
      rcases member with isNew | wasThere
      · exact carried.deletes ctx isNew
      · refine Nat.lt_of_lt_of_le ?_ carried.next
        exact balanced.deletes thread ctx (by simp [isTop, wasThere])
    · simp only [Function.update_of_ne isThread] at member
      exact Nat.lt_of_lt_of_le (balanced.deletes other ctx member)
        carried.next

/-- Starting an operation leaves the node balanced. -/
theorem push
    {operation : Frame}
    {reserved : ContextId → Nat}
    {remote : Option ContextId}
    (balanced : Balanced rt)
    (sameHeld :
      ∀ ctx, holds ctx operation + reserved ctx = rt.reserved ctx)
    (noDelete : ∀ ctx, operation ≠ .delete ctx)
    (backed : ∀ ctx, remote = some ctx → 0 < reserved ctx) :
    Balanced
      { rt with
        stackOf :=
          Function.update rt.stackOf thread
            (operation :: rt.stackOf thread)
        remote := remote
        reserved := reserved } := by
  refine ⟨?_, ?_, backed⟩
  · refine balanced.accounted.of_sameContexts rfl rfl rfl ?_
    intro ctx
    have pushed := total_push (holds ctx) rt.stackOf thread operation
    have same := sameHeld ctx
    unfold outstanding
    dsimp only
    omega
  · intro other ctx member
    by_cases isThread : other = thread
    · rw [isThread] at member
      simp only [Function.update_self, List.mem_cons] at member
      rcases member with isNew | wasThere
      · exact absurd isNew.symm (noDelete ctx)
      · exact balanced.deletes thread ctx wasThere
    · simp only [Function.update_of_ne isThread] at member
      exact balanced.deletes other ctx member

theorem call
    {operation : Frame}
    (balanced : Balanced rt)
    (taken : rt.next? (thread, .call operation) = some rt') :
    Balanced rt' := by
  obtain ⟨_, isOperation, isState⟩ := Runtime.next?_call taken
  subst isState
  refine balanced.push ?_ ?_ balanced.remote
  · intro ctx
    rw [holds_operation isOperation, Nat.zero_add]
  · intro ctx isDelete
    rw [isDelete] at isOperation
    cases isOperation

theorem serviceCallback
    {cb : Option Nat}
    (balanced : Balanced rt)
    (taken : rt.next? (thread, .serviceCallback cb) = some rt') :
    Balanced rt' := by
  obtain ⟨ctx, _, isState⟩ := Runtime.next?_serviceCallback taken
  subst isState
  exact
    ⟨balanced.accounted.modify ctx
        (fun context => { context with cb := cb })
        rfl rfl rfl (fun _ => rfl),
      balanced.deletes, balanced.remote⟩

theorem harborStart
    (balanced : Balanced rt)
    (keeps : StepKeepsCount rt (thread, .harborStart))
    (taken : rt.next? (thread, .harborStart) = some rt') :
    Balanced rt' := by
  simp only [Runtime.next?] at taken
  split at taken
  · next ctx runs =>
      injection taken with isState
      subst isState
      refine ⟨?_, balanced.deletes, ?_⟩
      · have grabbed :=
          balanced.accounted.grab (alive_running runs)
            (keeps ctx runs) (fun _ => rfl)
        exact grabbed.of_sameContexts rfl rfl rfl (outstanding_reserve rt ctx)
      · intro other isRemote
        simp only [Option.some.injEq] at isRemote
        simp [← isRemote]
  · cases taken

theorem harborExit
    (balanced : Balanced rt)
    (taken : rt.next? (thread, .harborExit) = some rt') :
    Balanced rt' := by
  simp only [Runtime.next?] at taken
  split at taken
  · next ctx isRemote =>
      split at taken
      · injection taken with isState
        subst isState
        have isReserved := balanced.remote ctx isRemote
        refine balanced.push ?_ ?_ ?_
        · intro other
          by_cases isReleased : other = ctx
          · rw [isReleased, Function.update_self]
            simp only [holds, reference, ↓reduceIte]
            omega
          · rw [Function.update_of_ne isReleased]
            simp [holds, reference, Ne.symm isReleased]
        · intro _ impossible
          cases impossible
        · intro _ impossible
          cases impossible
      · cases taken
  · cases taken

/-- A step that keeps the counts leaves the node balanced. -/
theorem step
    {label : Thread × Action}
    (balanced : Balanced rt)
    (keeps : StepKeepsCount rt label)
    (taken : Run.Steps Runtime.next? rt label rt') :
    Balanced rt' := by
  obtain ⟨thread, action⟩ := label
  cases action with
  | advance unknown =>
      exact balanced.advance keeps taken
  | call operation =>
      exact balanced.call taken
  | serviceCallback cb =>
      exact balanced.serviceCallback taken
  | harborStart =>
      exact balanced.harborStart keeps taken
  | harborExit =>
      exact balanced.harborExit taken

/-- A step after which every count fits did nothing that breaks a count. -/
theorem stepKeepsCount
    {label : Thread × Action}
    (balanced : Balanced rt)
    (taken : Run.Steps Runtime.next? rt label rt')
    (counts : CountsHolders rt') :
    StepKeepsCount rt label := by
  obtain ⟨thread, action⟩ := label
  cases action with
  | advance unknown =>
      obtain ⟨frame, rest, frames, s, isTop, advanced, isState⟩ :=
        Runtime.next?_advance taken
      subst isState
      intro top below isTopToo
      rw [isTop] at isTopToo
      injection isTopToo with isFrame
      subst isFrame
      refine keepsCount_of_counted (balanced.accounted_top isTop) ?_ advanced ?_
      · intro ctx isDelete
        exact balanced.deletes thread ctx (by simp [isTop, isDelete])
      · intro ctx allocated
        rw [← outstanding_top isTop]
        exact counts ctx allocated
  | harborStart =>
      intro ctx runs
      have alive := alive_running runs
      have allocated := balanced.accounted.allocated ctx alive
      have before := (balanced.accounted.counted ctx allocated).count
      simp only [Run.Steps, Runtime.next?, runs, Option.some.injEq] at taken
      subst taken
      have after := (counts ctx allocated).count
      have upper := toInt32_lt ((rt.system.contexts ctx).ref + 1)
      have grabbed :
          ((contextReserve rt.system ctx).contexts ctx).ref =
            toInt32 ((rt.system.contexts ctx).ref + 1) := by
        simp [contextReserve, contextGrab]
      have sameRegistered :
          registered (contextReserve rt.system ctx) ctx =
            registered rt.system ctx :=
        rfl
      rw [grabbed, sameRegistered, outstanding_reserve, if_pos rfl] at after
      omega
  | call operation | serviceCallback cb | harborExit =>
      trivial

end Balanced

/--
Along a run every context counts its holders, and is deleted with the last of
them and only then, exactly when every step keeps the counts.
-/
theorem runtime_countsHolders_iff
    [DecidableEq Thread]
    {initial final : Runtime Thread}
    {past : List (Runtime Thread × (Thread × Action))}
    (balanced : Balanced initial)
    (run : Run (Run.Steps Runtime.next?) initial past final) :
    (∀ state ∈ Run.visited past final, CountsHolders state) ↔
      ∀ state label, (state, label) ∈ past → StepKeepsCount state label :=
  Run.property_visited_iff run balanced Balanced.step
    Balanced.countsHolders Balanced.stepKeepsCount

/-- A node that was just started is balanced: it has no context. -/
theorem balanced_of_handleInit
    {rt : Runtime Thread}
    {harbor : UInt32}
    (noContext : rt.system.nextContext = 0)
    (initialised : rt.system.storage = handleInit harbor)
    (idle : ∀ thread, rt.stackOf thread = [])
    (unreserved : ∀ ctx, rt.reserved ctx = 0)
    (noHarbor : rt.remote = none) :
    Balanced rt := by
  have empty : HandleTable.Placed rt.system :=
    HandleTable.placed_of_handleInit noContext initialised
  have noSlot (index : Nat) (ctx : ContextId) :
      rt.system.storage.slotAt index ≠ some ctx := by
    intro refers
    have live := (empty.live index ctx refers).1
    rw [noContext] at live
    exact Nat.not_lt_zero _ live
  have noHolder (ctx : ContextId) :
      registered rt.system ctx + outstanding rt ctx = 0 := by
    have unregistered : registered rt.system ctx = 0 := by
      by_contra isRegistered
      obtain ⟨index, refers⟩ :=
        registered_pos_iff.mp (Nat.pos_of_ne_zero isRegistered)
      exact noSlot index ctx refers
    have unused : total (stackWeight (holds ctx)) rt.stackOf = 0 :=
      (total_eq_zero_iff _ _).mpr (fun thread => by simp [idle])
    rw [unregistered, outstanding, unused, unreserved]
  refine ⟨⟨?_, ?_, ⟨?_, empty.sized, empty.harbor⟩, ?_⟩, ?_, ?_⟩
  · intro ctx allocated
    rw [noContext] at allocated
    exact absurd allocated (Nat.not_lt_zero _)
  · intro ctx allocated
    rw [noContext] at allocated
    exact absurd allocated (Nat.not_lt_zero _)
  · exact fun index ctx refers => absurd refers (noSlot index ctx)
  · intro ctx alive
    exact absurd (noHolder ctx) (Nat.ne_of_gt alive)
  · intro thread ctx member
    rw [idle] at member
    cases member
  · intro ctx isRemote
    rw [noHarbor] at isRemote
    cases isRemote

end Runs

/-- A started node with one thread. -/
def bareRuntime : Runtime Unit where
  system := HandleTable.bareSystem
  stackOf := fun _ => []
  remote := none
  reserved := fun _ => 0

/-- A section whose service code, where any runs, answers 0. -/
def answered : Unit × Action :=
  ((),
    .advance
      { stack := none
        garbage := { source := 0, session := 0, data := none, sz := 0 }
        answer := 0 })

/-- The steps of one launch of a started node, up to its `delete`. -/
def launchLabels : List (Unit × Action) :=
  [((), .call (.newContext
      { name := "plain"
        param := ""
        mod := some { create := true, init := true, release := true }
        inst := true })),
    answered, answered, answered, answered, answered]

instance (s : System) (handle : UInt32) : Decidable (GrabFits s handle) :=
  inferInstanceAs
    (Decidable
      (∀ ctx ∈ handleLookup s handle, (s.contexts ctx).ref + 1 < 2 ^ 31))

instance (s : System) : (frame : Frame) → Decidable (KeepsCount s frame)
  | .delete _ => isFalse id
  | .handleRetire handle =>
      decidable_of_iff
        (∀ ctx ∈ handleLookup s handle, ∀ index < s.storage.slot.length,
          s.storage.slotAt index = some ctx →
            index = s.storage.hash handle) <| by
        refine forall₂_congr fun ctx _ => forall_congr' fun index => ?_
        refine ⟨fun checked refers => checked ?_ refers, fun sole _ => sole⟩
        by_contra beyond
        simp [HandleStorage.slotAt, Nat.le_of_not_lt beyond] at refers
  | .constructed ctx _ _ =>
      inferInstanceAs (Decidable (registered s ctx = 1))
  | .contextPush handle _ | .endless handle | .grab handle =>
      inferInstanceAs (Decidable (GrabFits s handle))
  | .messageDispatch (some queue) _ =>
      inferInstanceAs (Decidable (GrabFits s (s.queues.mq queue).handle))
  | .messageDispatch none _ | .pushGrabbed .. | .release _ | .grabbed _
  | .skynetError .. | .newContext _ | .initialising .. | .launchRelease ..
  | .launchPush _ | .launchFailed .. | .queueRelease .. | .draining ..
  | .dispatchPop _ | .dispatchLength _ | .dispatchTurn _ | .callback _
  | .dispatchBack .. | .dispatchNext _ =>
      isTrue trivial

instance
    {Thread : Type}
    (rt : Runtime Thread) :
    (label : Thread × Action) → Decidable (StepKeepsCount rt label)
  | (thread, .advance _) =>
      decidable_of_iff
        (∀ frame ∈ (rt.stackOf thread).head?, KeepsCount rt.system frame) <| by
        cases stack : rt.stackOf thread <;>
          simp [StepKeepsCount, stack]
  | (thread, .harborStart) =>
      inferInstanceAs
        (Decidable
          (∀ ctx ∈ (rt.stackOf thread).head?.bind Frame.running,
            (rt.system.contexts ctx).ref + 1 < 2 ^ 31))
  | (_, .call _) | (_, .serviceCallback _) | (_, .harborExit) =>
      isTrue trivial

/--
While a node launches its first service, the `init` of the service grabs the
context, reserves it for the harbor, and gives both references back: the table,
the launch and these two hold it at one point, and the table alone at the end.
-/
theorem runtime_countsHolders_launching :
    ∃ past final,
      Run (Run.Steps Runtime.next?) bareRuntime past final ∧
        (∃ state ∈ Run.visited past final,
          registered state.system 0 = 1 ∧
            (state.system.contexts 0).ref = 4) ∧
        registered final.system 0 = 1 ∧
        (final.system.contexts 0).ref = 1 ∧
        ∀ state ∈ Run.visited past final, CountsHolders state := by
  have balanced : Balanced bareRuntime :=
    balanced_of_handleInit rfl rfl (fun _ => rfl) (fun _ => rfl) rfl
  obtain ⟨past, final, run, facts⟩ :=
    Run.exists_of_recorded bareRuntime Runtime.next?
      (launchLabels.take 3 ++
        [((), .call (.grab 2)), answered, ((), .harborStart), answered,
          answered, ((), .harborExit), answered, answered, answered])
      (fun past final =>
        past.all (fun step => decide (StepKeepsCount step.1 step.2)) &&
          (past.any
              (fun step => decide (registered step.1.system 0 = 1 ∧
                (step.1.system.contexts 0).ref = 4)) &&
            decide (registered final.system 0 = 1 ∧
              (final.system.contexts 0).ref = 1)))
      rfl
  simp only [Bool.and_eq_true, List.all_eq_true, List.any_eq_true,
    decide_eq_true_eq] at facts
  obtain ⟨keeps, ⟨shared, passed, isShared⟩, isRegistered, refOne⟩ := facts
  refine
    ⟨past, final, run, ⟨shared.1, ?_, isShared⟩, isRegistered, refOne,
      (runtime_countsHolders_iff balanced run).mpr
        (fun state label member => keeps (state, label) member)⟩
  exact Run.mem_visited.mpr (.inr ⟨shared.2, passed⟩)

/--
The first launch of a node deletes its context while the handle table holds it.
-/
theorem launch_deletes_held_context :
    (∃ past final,
        Run (Run.Steps Runtime.next?) bareRuntime past final ∧
          (final.system.contexts 0).ref = 1 ∧
          registered final.system 0 = 1 ∧
          (final.system.contexts 0).deleted = 1) ∧
      ¬ ∀ past final,
        Run (Run.Steps Runtime.next?) bareRuntime past final →
          ∀ state ∈ Run.visited past final, CountsHolders state := by
  have launched :
      ∃ past final,
        Run (Run.Steps Runtime.next?) bareRuntime past final ∧
          (0 < final.system.nextContext ∧
            (final.system.contexts 0).ref = 1 ∧
            registered final.system 0 = 1 ∧
            (final.system.contexts 0).deleted = 1) := by
    simpa using Run.exists_of_replay bareRuntime Runtime.next? launchLabels
      (fun state =>
        0 < state.system.nextContext ∧
          (state.system.contexts 0).ref = 1 ∧
          registered state.system 0 = 1 ∧
          (state.system.contexts 0).deleted = 1)
      rfl
  obtain ⟨past, final, run, allocated, refOne, isRegistered, isDeleted⟩ :=
    launched
  refine ⟨⟨past, final, run, refOne, isRegistered, isDeleted⟩, ?_⟩
  intro holds
  have alive :=
    (holds past final run final (by simp) 0 allocated).alive
      (by rw [isRegistered]; omega)
  rw [isDeleted] at alive
  exact absurd alive Nat.one_ne_zero

end References

end SkynetCpp
