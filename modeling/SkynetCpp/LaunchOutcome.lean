import SkynetCpp.ContextTotal
import SkynetCpp.GlobalQueue
import SkynetCpp.HandleTable
import SkynetCpp.Runtime

namespace SkynetCpp

open Foundation
open ContextTotal
open HandleTable

/-!
# What a launch leaves behind

`Context::Release` answers true while the context is in use, and `NewContext`
takes that answer for the opposite: it deletes the context of a successful
launch, with its reference still in the handle table, and never sets `init_`.
A failed launch takes back the second registration only.
-/

namespace LaunchOutcome

/--
The service of a successful launch: its context exists, registered by its only
reference, its queue is linked once, and no later dispatch fails.
-/
structure Running
    (s : System)
    (ctx : ContextId) : Prop where
  undeleted : (s.contexts ctx).deleted = 0
  registered : handleLookup s (s.contexts ctx).handle = some ctx
  ref : (s.contexts ctx).ref = 1
  init : (s.contexts ctx).init = true
  linked :
    ∃ nodes,
      Linked s.queues nodes ∧ nodes.count (s.contexts ctx).queue = 1
  dispatched :
    ∀ (Thread : Type) [DecidableEq Thread]
      (start final : Runtime Thread)
      (past : List (Runtime Thread × (Thread × Action))),
      start.system = s →
        Run (Run.Steps Runtime.next?) start past final →
          ∀ rt ∈ Run.visited past final, ∀ unknown turns,
            turns.ctx = ctx →
              (Frame.dispatchTurn turns).advance unknown rt.system ≠
                .error (.assertion "ctx->init_")

/-- `NewContext` returns a running service. -/
def Succeeds
    (request : LaunchRequest)
    (stack : Nat → Option Message)
    (fuel : Nat)
    (init : ContextId → System → Except Fault (Int × System))
    (s : System) : Prop :=
  ∃ ctx after,
    newContext request stack fuel init s = .ok (some ctx, after) ∧
      Running after ctx

/-- An `init` that returns 0 leaves references to its context. -/
def KeepsService
    (init : ContextId → System → Except Fault (Int × System)) : Prop :=
  ∀ ctx before after,
    init ctx before = .ok (0, after) →
      1 < (before.contexts ctx).ref → 1 < (after.contexts ctx).ref

section Deleted

variable {s s' : System}

/-- A release takes no deletion back. -/
theorem deleted_le_contextRelease
    {ctx : ContextId}
    {inUse : Bool}
    (returned : contextRelease s ctx = .ok (inUse, s'))
    (other : ContextId) :
    (s.contexts other).deleted ≤ (s'.contexts other).deleted := by
  rcases contextRelease_cases returned with
    ⟨_, _, isReleased⟩ | ⟨_, _, queues, _, isReleased⟩
  · subst isReleased
    exact Nat.le_of_eq
      (System.modify_field Context.deleted s ctx
        (fun context => { context with ref := toInt32 (context.ref - 1) }) rfl
        other).symm
  · subst isReleased
    by_cases same : other = ctx
    · subst same
      simp [contextReleased, deleteContext, contextUnref]
    · simp [contextReleased, deleteContext, contextUnref,
        System.modify_contexts_of_ne _ _ same]

theorem deleted_le_deleteContext
    (s : System)
    (ctx other : ContextId) :
    (s.contexts other).deleted ≤ ((deleteContext s ctx).contexts other).deleted := by
  by_cases same : other = ctx
  · subst same
    simp [deleteContext]
  · simp [deleteContext, System.modify_contexts_of_ne _ _ same]

/-- Neither does any other write of a send. -/
theorem deleted_keptBySends
    (other : ContextId) :
    KeptBySends fun s s' =>
      (s.contexts other).deleted ≤ (s'.contexts other).deleted where
  refl := fun _ => Nat.le_refl _
  trans := Nat.le_trans
  logger := fun _ _ => Nat.le_refl _
  newsession := fun s ctx =>
    Nat.le_of_eq
      (System.modify_field Context.deleted s ctx
        (fun context => { context with sessionId := (newsession s ctx).1 }) rfl
        other).symm
  grab := by
    intro s handle
    unfold handleGrab
    cases handleLookup s handle with
    | none =>
        exact Nat.le_refl _
    | some ctx =>
        exact Nat.le_of_eq
          (System.modify_field Context.deleted s ctx
            (fun context => { context with ref := toInt32 (context.ref + 1) })
            rfl other).symm
  push := fun _ => Nat.le_refl _
  release := fun released => deleted_le_contextRelease released other
  delete := fun s ctx => deleted_le_deleteContext s ctx other

end Deleted

/-- Both registrations leave the two references of the constructor. -/
theorem ref_of_beginLaunch
    {request : LaunchRequest}
    {s s' : System}
    {launch : Launch}
    (begun : beginLaunch request s = .ok (launch, s')) :
    (s'.contexts launch.ctx).ref = 2 := by
  obtain ⟨mod, enrolled, isCtx, first, enrolls⟩ := beginLaunch_enrolls begun
  rw [isCtx, enrollContext_field Context.ref (fun _ _ _ => rfl) enrolls,
    enrollContext_field Context.ref (fun _ _ _ => rfl) first]
  simp [freshContext]

/-- A launch whose context is still in use deletes it. -/
theorem deleted_of_launchSucceeded
    {request : LaunchRequest}
    {s s' : System}
    {ctx : ContextId}
    {queue : QueueId}
    (inUse : 1 < (s.contexts ctx).ref)
    (returned : launchSucceeded request s ctx queue = .ok s') :
    (s'.contexts ctx).deleted ≠ 0 := by
  have notLast : (s.contexts ctx).ref ≠ 1 := by omega
  simp only [launchSucceeded, contextRelease_of_not_last notLast,
    bind_eq_ok_iff] at returned
  obtain ⟨⟨ret, t⟩, isReleased, returned⟩ := returned
  obtain ⟨rfl, rfl⟩ := ok_pair_inj.mp isReleased
  simp only [↓reduceIte, bind_eq_ok_iff] at returned
  obtain ⟨u, pushed, logged⟩ := returned
  obtain ⟨queues, _, isState⟩ := pushGlobalQueue_eq_ok_iff.mp pushed
  subst isState
  have kept := (deleted_keptBySends ctx).skynetError logged
  have deletes :
      ((deleteContext (contextUnref s ctx) ctx).contexts ctx).deleted =
        ((contextUnref s ctx).contexts ctx).deleted + 1 := by
    simp [deleteContext]
  intro undeleted
  rw [undeleted] at kept
  have positive : 0 < ((deleteContext (contextUnref s ctx) ctx).contexts ctx).deleted := by
    rw [deletes]
    exact Nat.succ_pos _
  exact Nat.not_le_of_gt positive kept

/-- No launch returns a running service. -/
theorem not_succeeds
    {init : ContextId → System → Except Fault (Int × System)}
    (keepsService : KeepsService init)
    (request : LaunchRequest)
    (stack : Nat → Option Message)
    (fuel : Nat)
    (s : System) :
    ¬ Succeeds request stack fuel init s := by
  rintro ⟨ctx, after, returned, running⟩
  rw [newContext_eq] at returned
  simp only [bind_eq_ok_iff] at returned
  obtain ⟨⟨launch, begun⟩, begins, ⟨result, initialised⟩, inits, finished⟩ :=
    returned
  have references := ref_of_beginLaunch begins
  simp only [finishLaunch] at finished
  split at finished
  · next isZero =>
      have isZero : result = 0 := isZero
      subst isZero
      simp only [bind_eq_ok_iff] at finished
      obtain ⟨last, succeeded, isResult⟩ := finished
      injection isResult with isResult
      injection isResult with isCtx isAfter
      injection isCtx with isCtx
      subst isCtx
      subst isAfter
      have inUse : 1 < (initialised.contexts launch.ctx).ref :=
        keepsService launch.ctx begun initialised inits (by rw [references]; decide)
      exact deleted_of_launchSucceeded inUse succeeded running.undeleted
  · simp only [bind_eq_ok_iff] at finished
    obtain ⟨last, _, isResult⟩ := finished
    injection isResult with isResult
    injection isResult with isNone _
    cases isNone

/-- An `init` that installs a callback and returns the given result. -/
def installs
    (result : Int)
    (ctx : ContextId)
    (s : System) : Except Fault (Int × System) :=
  .ok (result, serviceCallback s ctx (some 0))

theorem keepsService_installs : KeepsService (installs 0) := by
  intro ctx before after returned inUse
  simp only [installs, Except.ok.injEq, Prod.mk.injEq, true_and] at returned
  rw [← returned]
  simpa [serviceCallback] using inUse

theorem not_succeeds_plain :
    ¬ Succeeds plainRequest (fun _ => none) 0 (installs 0) emptyNode.system :=
  not_succeeds keepsService_installs plainRequest (fun _ => none) 0
    emptyNode.system

/--
The first launch of a node returns a context that was deleted, and whose
dispatch fails the assertion on `init_`.
-/
theorem launch_deletes :
    (∃ after,
      newContext plainRequest (fun _ => none) 0 (installs 0) emptyNode.system =
          .ok (some 0, after) ∧
        (after.contexts 0).deleted = 1 ∧
        ∀ unknown turns, turns.ctx = 0 →
          (Frame.dispatchTurn turns).advance unknown after =
            .error (.assertion "ctx->init_")) ∧
      ¬ ∀ request stack fuel init s,
        (∃ mod, createInstance request = .ok mod ∧ mod.init = true) →
          (∀ ctx before, ∃ after, init ctx before = .ok (0, after)) →
            KeepsService init → Succeeds request stack fuel init s := by
  obtain ⟨after, launched, isDeleted, noInit, hasCallback⟩ :
      ∃ after,
        newContext plainRequest (fun _ => none) 0 (installs 0)
            emptyNode.system = .ok (some 0, after) ∧
          (after.contexts 0).deleted = 1 ∧
          (after.contexts 0).init = false ∧
          (after.contexts 0).cb = some 0 :=
    ⟨_, rfl, rfl, rfl, rfl⟩
  refine ⟨⟨after, launched, isDeleted, ?_⟩, ?_⟩
  · intro unknown turns isFirst
    simp [Frame.advance, isFirst, noInit, hasCallback]
  · intro holds
    obtain ⟨ctx, last, returned, running⟩ :=
      holds plainRequest (fun _ => none) 0 (installs 0) emptyNode.system
        ⟨_, rfl, rfl⟩ (fun ctx before => ⟨_, rfl⟩) keepsService_installs
    rw [launched] at returned
    injection returned with returned
    injection returned with isFirst isAfter
    injection isFirst with isFirst
    subst isFirst
    subst isAfter
    rw [running.undeleted] at isDeleted
    cases isDeleted

/-- The error that answers a message which a failed service never got. -/
def droppedError (handle : UInt32) : Message where
  source := handle
  session := 0
  data := none
  sz := encodeSz 0 kPtypeError

/-- The errors that a queue gets for the messages its service had sent. -/
def errorsFor
    (s : System)
    (handle : UInt32)
    (pending : List Message)
    (queue : QueueId) : List Message :=
  (pending.filter fun msg =>
    (handleLookup s msg.source).map (fun ctx => (s.contexts ctx).queue) =
      some queue).map fun _ => droppedError handle

/--
The state before a launch and after its failure are the same, but for one
error for each message that was pending; what the launch created is released.
-/
structure TakenBack
    (s after : System)
    (handle : UInt32)
    (pending : List Message) : Prop where
  slots : ∀ index, after.storage.slotAt index = s.storage.slotAt index
  size : after.storage.slot.length = s.storage.slot.length
  names :
    after.storage.name.take after.storage.nameCount =
      s.storage.name.take s.storage.nameCount
  total : contextTotal after = contextTotal s
  globalQueue : ∀ nodes, Linked s.queues nodes → Linked after.queues nodes
  queues :
    ∀ queue, queue < s.nextQueue →
      (after.queues.mq queue).messageQueue =
        (s.queues.mq queue).messageQueue ++ errorsFor s handle pending queue
  context :
    ∀ ctx, s.nextContext ≤ ctx → ctx < after.nextContext →
      (after.contexts ctx).ref = 0 ∧ (after.contexts ctx).deleted = 1
  created :
    ∀ queue, s.nextQueue ≤ queue → queue < after.nextQueue →
      (after.queues.mq queue).deleted = 1

/-- `NewContext` returns the null pointer and takes back all it did. -/
def FailsCleanly
    (request : LaunchRequest)
    (stack : Nat → Option Message)
    (fuel : Nat)
    (init : ContextId → System → Except Fault (Int × System))
    (s : System) : Prop :=
  ∃ after handle pending,
    newContext request stack fuel init s = .ok (none, after) ∧
      TakenBack s after handle pending

/-- An `init` keeps what every operation keeps of the handle table. -/
def KeepsTable
    (init : ContextId → System → Except Fault (Int × System)) : Prop :=
  ∀ ctx before result after,
    init ctx before = .ok (result, after) →
      Keeps before.nextContext before after

/-- No failed launch takes back its first registration. -/
theorem not_failsCleanly
    {init : ContextId → System → Except Fault (Int × System)}
    (keepsTable : KeepsTable init)
    (request : LaunchRequest)
    (stack : Nat → Option Message)
    (fuel : Nat)
    (s : System) :
    ¬ FailsCleanly request stack fuel init s := by
  rintro ⟨after, handle, pending, returned, takenBack⟩
  obtain ⟨index, wasFree, isTaken, _⟩ :=
    newContext_misplaces
      (fun {ctx before result after} => keepsTable ctx before result after)
      returned takenBack.size
  rw [takenBack.slots, wasFree] at isTaken
  cases isTaken

/-- Operations of the services keep the table, and so does an `init` made of them. -/
theorem keepsTable_operations
    (during : List Operation)
    (cb : Option Nat)
    (result : Int) :
    KeepsTable
      (fun ctx s => do
        let s ← performAll during (serviceCallback s ctx cb)
        .ok (result, s)) :=
  fun _ _ _ _ initialised =>
    init_keeps (fun performed => performAll_keeps during performed) initialised

theorem keepsTable_installs
    (result : Int) :
    KeepsTable (installs result) :=
  keepsTable_operations [] (some 0) result

theorem not_failsCleanly_plain :
    ¬ FailsCleanly plainRequest (fun _ => none) 1 (installs 1)
      emptyNode.system :=
  not_failsCleanly (keepsTable_installs 1) plainRequest (fun _ => none) 1
    emptyNode.system

/--
A failed launch on an empty node leaves a slot with the deleted context, one
context too many in the counter, and its first queue.
-/
theorem failed_launch_leaves :
    (newContext plainRequest (fun _ => none) 1 (installs 1)
        emptyNode.system).map
        (fun returned =>
          (returned.1, returned.2.storage.slotAt 1,
            contextTotal returned.2, (returned.2.queues.mq 0).deleted)) =
        .ok (none, some 0, 1, 0) ∧
      ¬ ∀ request stack fuel init s,
        (∃ mod, createInstance request = .ok mod ∧ mod.init = true) →
          (∀ ctx before, ∃ result after,
            result ≠ 0 ∧ init ctx before = .ok (result, after)) →
            KeepsTable init → FailsCleanly request stack fuel init s := by
  have launched :
      (newContext plainRequest (fun _ => none) 1 (installs 1)
          emptyNode.system).map
        (fun returned =>
          (returned.1, returned.2.storage.slotAt 1,
            contextTotal returned.2, (returned.2.queues.mq 0).deleted)) =
        .ok (none, some 0, 1, 0) :=
    rfl
  refine ⟨launched, ?_⟩
  intro holds
  obtain ⟨after, handle, pending, returned, takenBack⟩ :=
    holds plainRequest (fun _ => none) 1 (installs 1) emptyNode.system
      ⟨_, rfl, rfl⟩ (fun ctx before => ⟨1, _, by decide, rfl⟩)
      (keepsTable_installs 1)
  rw [returned] at launched
  injection launched with launched
  simp only [Prod.mk.injEq] at launched
  have total : contextTotal after = 0 := takenBack.total
  rw [total] at launched
  exact absurd launched.2.2.1 (by decide)

end LaunchOutcome

end SkynetCpp
