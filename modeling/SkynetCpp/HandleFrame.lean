import SkynetCpp.Launch

namespace SkynetCpp

/-!
# What leaves the handle table alone

Sending, releasing and dropping read the handle table but never write it, nor
the handle of a context.  `SameTable` is composed along the calls.
-/

/-- Two states with the same slots and the same handles. -/
structure SameTable (s s' : System) : Prop where
  storage : s'.storage = s.storage
  handle : ∀ ctx, (s'.contexts ctx).handle = (s.contexts ctx).handle
  next : s'.nextContext = s.nextContext

namespace SameTable

variable {s s' s'' : System}

theorem refl (s : System) : SameTable s s :=
  ⟨rfl, fun _ => rfl, rfl⟩

theorem trans
    (first : SameTable s s')
    (second : SameTable s' s'') :
    SameTable s s'' where
  storage := second.storage.trans first.storage
  handle := fun ctx => (second.handle ctx).trans (first.handle ctx)
  next := second.next.trans first.next

/-- Only the storage, the handles and the allocator matter. -/
theorem of_contexts
    (sameStorage : s'.storage = s.storage)
    (sameContexts : s'.contexts = s.contexts)
    (sameNext : s'.nextContext = s.nextContext) :
    SameTable s s' :=
  ⟨sameStorage, fun ctx => by rw [sameContexts], sameNext⟩

/-- Changing a context apart from its handle. -/
theorem modify
    (s : System)
    (ctx : ContextId)
    (change : Context → Context)
    (keepsHandle :
      (change (s.contexts ctx)).handle = (s.contexts ctx).handle) :
    SameTable s (s.modify ctx change) :=
  ⟨rfl, System.modify_field Context.handle s ctx change keepsHandle, rfl⟩

/-- `HandleGrab` and `HandleRetire` find the same contexts. -/
theorem lookup
    (same : SameTable s s')
    (handle : UInt32) :
    handleLookup s' handle = handleLookup s handle := by
  simp only [handleLookup, same.storage, same.handle]

theorem contextRelease
    {ctx : ContextId}
    {inUse : Bool}
    (returned : contextRelease s ctx = .ok (inUse, s')) :
    SameTable s s' := by
  have unref : SameTable s (contextUnref s ctx) := modify s ctx _ rfl
  rcases contextRelease_cases returned with
    ⟨_, _, isReleased⟩ | ⟨_, _, queues, _, isReleased⟩
  · rw [isReleased]
    exact unref
  · rw [isReleased]
    have deleted :
        SameTable (contextUnref s ctx)
          (deleteContext (contextUnref s ctx) ctx) :=
      modify _ ctx _ rfl
    exact (unref.trans deleted).trans (of_contexts rfl rfl rfl)

theorem handleGrab
    (s : System)
    (handle : UInt32) :
    SameTable s (handleGrab s handle).2 := by
  unfold SkynetCpp.handleGrab
  cases handleLookup s handle with
  | none =>
      exact refl s
  | some ctx =>
      exact modify s ctx
        (fun context => { context with ref := toInt32 (context.ref + 1) }) rfl

/-- The table is kept by sends. -/
theorem keptBySends : KeptBySends SameTable where
  refl := refl
  trans := trans
  logger := fun _ _ => of_contexts rfl rfl rfl
  newsession := fun s ctx =>
    modify s ctx
      (fun context => { context with sessionId := (newsession s ctx).1 }) rfl
  grab := handleGrab
  push := fun _ => of_contexts rfl rfl rfl
  release := contextRelease
  delete := fun s ctx => modify s ctx _ rfl

theorem dropMessages
    {queue : QueueId}
    {handle : UInt32}
    {stack : Nat → Option Message}
    {fuel k : Nat}
    (returned : dropMessages queue handle stack fuel k s = .ok s') :
    SameTable s s' := by
  induction fuel generalizing k s with
  | zero =>
      cases returned
  | succ fuel inductionHypothesis =>
      unfold SkynetCpp.dropMessages at returned
      rcases shape : messageQueuePop s.queues queue (stack k) with
        ⟨popped, queues⟩
      have pops : SameTable s { s with queues := queues } :=
        of_contexts rfl rfl rfl
      rw [shape] at returned
      cases popped with
      | none =>
          injection returned with isState
          rw [← isState]
          exact pops
      | some msg =>
          simp only [bind_eq_ok_iff] at returned
          obtain ⟨t, dropped, rest⟩ := returned
          exact (pops.trans (keptBySends.dropMessage dropped)).trans
            (inductionHypothesis rest)

theorem pushGlobalQueue
    {queue : QueueId}
    (returned : pushGlobalQueue s queue = .ok s') :
    SameTable s s' := by
  unfold SkynetCpp.pushGlobalQueue at returned
  split at returned
  · injection returned with isState
    rw [← isState]
    exact of_contexts rfl rfl rfl
  · cases returned

theorem messageQueueRelease
    {queue : QueueId}
    {handle : UInt32}
    {stack : Nat → Option Message}
    {fuel : Nat}
    (returned : messageQueueRelease s queue handle stack fuel = .ok s') :
    SameTable s s' := by
  unfold SkynetCpp.messageQueueRelease at returned
  split at returned
  · simp only [bind_eq_ok_iff] at returned
    obtain ⟨t, dropped, returned⟩ := returned
    split at returned
    · injection returned with isState
      rw [← isState]
      exact (dropMessages dropped).trans (of_contexts rfl rfl rfl)
    · cases returned
  · exact pushGlobalQueue returned

theorem launchSucceeded
    {request : LaunchRequest}
    {ctx : ContextId}
    {queue : QueueId}
    (returned : launchSucceeded request s ctx queue = .ok s') :
    SameTable s s' := by
  simp only [SkynetCpp.launchSucceeded, bind_eq_ok_iff] at returned
  obtain ⟨⟨inUse, t⟩, release, returned⟩ := returned
  have releases := contextRelease release
  split at returned
  · simp only [bind_eq_ok_iff] at returned
    obtain ⟨u, push, logged⟩ := returned
    have deletes : SameTable t (deleteContext t ctx) := modify t ctx _ rfl
    exact ((releases.trans deletes).trans (pushGlobalQueue push)).trans
      (keptBySends.skynetError logged)
  · have marks :
        SameTable t
          (t.modify ctx fun context => { context with init := true }) :=
      modify t ctx _ rfl
    exact (releases.trans marks).trans (pushGlobalQueue returned)

end SameTable

end SkynetCpp
