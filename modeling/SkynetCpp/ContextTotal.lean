import Mathlib.Data.Finset.Card
import SkynetCpp.Foundation.Run
import SkynetCpp.Launch

namespace SkynetCpp

open Foundation

/-!
# The number of contexts

`ContextTotal` is meant to be the number of contexts that exist and were not
reserved.  `Reserve` and the last `Release` of a context keep it so, and the
constructor does.  `NewContext` counts the context a second time, before the
`init` of the module runs, and nothing takes that back.
-/

/-- `ContextTotal`. -/
def contextTotal (s : System) : Int :=
  s.total

namespace ContextTotal

/-- A call of `NewContext` while `ModuleInit` runs. -/
structure Launch where
  ctx : ContextId
  queue : QueueId
  request : LaunchRequest
  deriving Repr, DecidableEq

/-- `NewContext` up to `ModuleInit`. -/
def beginLaunch
    (request : LaunchRequest)
    (s : System) : Except Fault (Launch × System) := do
  let mod ← createInstance request
  let (ctx, s) ← constructContext s mod
  let s ← enrollContext s ctx
  if mod.init then
    .ok ({ ctx := ctx, queue := (s.contexts ctx).queue, request := request }, s)
  else
    .error (.exception "Module does not have an init function")

/-- `NewContext` after `ModuleInit` returned. -/
def finishLaunch
    (launch : Launch)
    (result : Int)
    (stack : Nat → Option Message)
    (fuel : Nat)
    (s : System) : Except Fault (Option ContextId × System) :=
  if result = 0 then
    return (some launch.ctx,
      ← launchSucceeded launch.request s launch.ctx launch.queue)
  else
    return (none,
      ← launchFailed launch.request stack fuel s launch.ctx launch.queue)

/-- `NewContext` is its two parts with the `init` of the module between them. -/
theorem newContext_eq
    (request : LaunchRequest)
    (stack : Nat → Option Message)
    (fuel : Nat)
    (init : ContextId → System → Except Fault (Int × System))
    (s : System) :
    newContext request stack fuel init s =
      beginLaunch request s >>= fun begun =>
        init begun.1.ctx begun.2 >>= fun returned =>
          finishLaunch begun.1 returned.1 stack fuel returned.2 := by
  simp only [newContext, launchContext, beginLaunch, bind_assoc]
  apply bind_congr
  intro mod
  apply bind_congr
  rintro ⟨ctx, constructed⟩
  apply bind_congr
  intro enrolled
  cases mod.init with
  | false =>
      rfl
  | true =>
      rfl

/-- The node, and what is known of its contexts. -/
structure Node where
  system : System
  /-- The contexts that `Reserve` was called for. -/
  reserved : ContextId → Bool
  /-- The launches in progress. -/
  launching : List Launch

/-- The calls that create, reserve and release contexts. -/
inductive Call where
  /-- `NewContext` up to `ModuleInit`. -/
  | newContext (request : LaunchRequest)
  /-- The rest of `NewContext`. -/
  | initReturned
      (launch : Launch)
      (result : Int)
      (stack : Nat → Option Message)
      (fuel : Nat)
  /-- `Context::Reserve`, at most once for a context. -/
  | reserve (ctx : ContextId)
  /-- The `Release` of the last reference to a context that is not reserved. -/
  | release (ctx : ContextId)

namespace Node

/-- The context exists and is not reserved. -/
def Counts
    (node : Node)
    (ctx : ContextId) : Prop :=
  (node.system.contexts ctx).deleted = 0 ∧ node.reserved ctx = false

instance
    (node : Node)
    (ctx : ContextId) : Decidable (node.Counts ctx) :=
  inferInstanceAs (Decidable (_ ∧ _))

/-- The contexts that exist and are not reserved. -/
def counted (node : Node) : Finset ContextId :=
  (Finset.range node.system.nextContext).filter node.Counts

@[simp] theorem mem_counted
    {node : Node}
    {ctx : ContextId} :
    ctx ∈ node.counted ↔
      ctx < node.system.nextContext ∧
        (node.system.contexts ctx).deleted = 0 ∧ node.reserved ctx = false := by
  simp [counted, Counts]

/-- One call; none that faults, or that its caller may not make. -/
def next?
    (node : Node) : Call → Option Node
  | .newContext request =>
      match beginLaunch request node.system with
      | .ok (launch, s) =>
          some
            { system := s
              reserved := Function.update node.reserved launch.ctx false
              launching := launch :: node.launching }
      | .error _ => none
  | .initReturned launch result stack fuel =>
      if launch ∈ node.launching then
        match finishLaunch launch result stack fuel node.system with
        | .ok (_, s) =>
            some
              { node with
                system := s
                launching := node.launching.erase launch }
        | .error _ => none
      else
        none
  | .reserve ctx =>
      if ctx ∈ node.counted then
        some
          { node with
            system := contextReserve node.system ctx
            reserved := Function.update node.reserved ctx true }
      else
        none
  | .release ctx =>
      if ctx ∈ node.counted ∧ (node.system.contexts ctx).ref = 1 then
        match contextRelease node.system ctx with
        | .ok (_, s) => some { node with system := s }
        | .error _ => none
      else
        none

end Node

/--
The counter is the number of contexts that exist and are not reserved, and so
0 exactly when only reserved contexts remain.
-/
structure Agrees (node : Node) : Prop where
  total : contextTotal node.system = node.counted.card
  zero :
    contextTotal node.system = 0 ↔
      ∀ ctx, ctx < node.system.nextContext →
        (node.system.contexts ctx).deleted = 0 → node.reserved ctx = true

/-- The call is the beginning of a launch. -/
def Launches : Call → Prop
  | .newContext _ => True
  | _ => False

/-- Entering a context counts it. -/
theorem enrollContext_total
    {s s' : System}
    {ctx : ContextId}
    (returned : enrollContext s ctx = .ok s') :
    s'.total = s.total + 1 := by
  unfold enrollContext at returned
  split at returned
  · next handle registered registers =>
      injection returned with isState
      rw [← isState, handleRegister_storage registers]
  · cases returned

/-- A launch enters a fresh context twice before the `init` of the module runs. -/
theorem beginLaunch_enrolls
    {request : LaunchRequest}
    {s s' : System}
    {launch : Launch}
    (begun : beginLaunch request s = .ok (launch, s')) :
    ∃ mod first,
      launch.ctx = s.nextContext ∧
        enrollContext
            { (s.modify s.nextContext fun _ => freshContext s mod) with
              nextContext := s.nextContext + 1 }
            s.nextContext =
          .ok first ∧
        enrollContext first s.nextContext = .ok s' := by
  simp only [beginLaunch, bind_eq_ok_iff, constructContext] at begun
  obtain ⟨mod, _, ⟨ctx, constructed⟩, ⟨enrolled, first, isConstructed⟩, second⟩ :=
    begun
  obtain ⟨last, enrolls, begun⟩ := second
  injection isConstructed with isConstructed
  injection isConstructed with isCtx isState
  subst isState
  subst isCtx
  split at begun
  · injection begun with begun
    injection begun with isLaunch isLast
    subst isLaunch
    subst isLast
    exact ⟨mod, enrolled, rfl, first, enrolls⟩
  · cases begun

/-- A launch counts its context twice before the `init` of the module runs. -/
theorem beginLaunch_counts
    {request : LaunchRequest}
    {s s' : System}
    {launch : Launch}
    (begun : beginLaunch request s = .ok (launch, s')) :
    launch.ctx = s.nextContext ∧
      s'.nextContext = s.nextContext + 1 ∧
      s'.total = s.total + 2 ∧
      (s'.contexts launch.ctx).deleted = 0 ∧
      ∀ other, other ≠ launch.ctx → s'.contexts other = s.contexts other := by
  obtain ⟨mod, enrolled, isCtx, first, enrolls⟩ := beginLaunch_enrolls begun
  rw [isCtx]
  refine ⟨rfl, ?_, ?_, ?_, ?_⟩
  · rw [enrollContext_nextContext enrolls, enrollContext_nextContext first]
  · rw [enrollContext_total enrolls, enrollContext_total first]
    show s.total + 1 + 1 = s.total + 2
    omega
  · rw [enrollContext_field Context.deleted (fun _ _ _ => rfl) enrolls,
      enrollContext_field Context.deleted (fun _ _ _ => rfl) first]
    simp [freshContext]
  · intro other different
    rw [enrollContext_of_ne enrolls different,
      enrollContext_of_ne first different]
    have others :
        (s.modify s.nextContext fun _ => freshContext s mod).contexts other =
          s.contexts other :=
      System.modify_contexts_of_ne s _ different
    exact others

/-- The second part of agreement follows from the first. -/
theorem agrees_iff
    {node : Node} :
    Agrees node ↔ contextTotal node.system = node.counted.card := by
  refine ⟨Agrees.total, fun total => ⟨total, ?_⟩⟩
  have empty :
      contextTotal node.system = 0 ↔ ∀ ctx, ctx ∉ node.counted := by
    rw [total, ← Finset.eq_empty_iff_forall_notMem, ← Finset.card_eq_zero]
    omega
  rw [empty]
  constructor
  · intro nobody ctx below undeleted
    have notCounted := nobody ctx
    rw [Node.mem_counted] at notCounted
    by_contra notReserved
    exact notCounted
      ⟨below, undeleted, Bool.eq_false_of_not_eq_true notReserved⟩
  · intro onlyReserved ctx member
    obtain ⟨below, undeleted, notReserved⟩ := Node.mem_counted.mp member
    rw [onlyReserved ctx below undeleted] at notReserved
    cases notReserved

section Steps

variable {node node' : Node}

/-- The beginning of a launch adds one context to those that count. -/
theorem counted_newContext
    {request : LaunchRequest}
    (taken : node.next? (.newContext request) = some node') :
    node'.counted.card = node.counted.card + 1 ∧
      contextTotal node'.system = contextTotal node.system + 2 := by
  simp only [Node.next?] at taken
  split at taken
  · next launch s begun =>
      injection taken with isNode
      subst isNode
      obtain ⟨isCtx, isNext, total, fresh, others⟩ := beginLaunch_counts begun
      refine ⟨?_, total⟩
      have whole :
          Node.counted
              { system := s
                reserved := Function.update node.reserved launch.ctx false
                launching := launch :: node.launching } =
            insert launch.ctx node.counted := by
        ext ctx
        by_cases same : ctx = launch.ctx
        · subst same
          simp [isNext, isCtx, isCtx ▸ fresh]
        · have notNew : ctx ≠ node.system.nextContext := isCtx ▸ same
          have sameBound :
              ctx < node.system.nextContext + 1 ↔
                ctx < node.system.nextContext :=
            ⟨fun below => Nat.lt_of_le_of_ne (Nat.le_of_lt_succ below) notNew,
              Nat.lt_succ_of_lt⟩
          simp [isNext, others ctx same, same, sameBound]
      rw [whole, Finset.card_insert_of_notMem]
      simp [isCtx]
  · cases taken

/-- A reservation takes its context from those that count, and from the counter. -/
theorem counted_reserve
    {ctx : ContextId}
    (taken : node.next? (.reserve ctx) = some node') :
    node'.counted = node.counted.erase ctx ∧ ctx ∈ node.counted ∧
      contextTotal node'.system = contextTotal node.system - 1 ∧
      node'.launching = node.launching := by
  simp only [Node.next?] at taken
  split at taken
  · next counts =>
      injection taken with isNode
      subst isNode
      refine ⟨?_, counts, rfl, rfl⟩
      ext other
      by_cases same : other = ctx
      · subst same
        simp
      · simp [contextReserve, contextGrab, same,
          System.modify_contexts_of_ne node.system _ same]
  · cases taken

/-- The last release does the same to a context that is not reserved. -/
theorem counted_release
    {ctx : ContextId}
    (taken : node.next? (.release ctx) = some node') :
    node'.counted = node.counted.erase ctx ∧ ctx ∈ node.counted ∧
      contextTotal node'.system = contextTotal node.system - 1 ∧
      node'.launching = node.launching := by
  simp only [Node.next?] at taken
  split at taken
  · next allowed =>
      obtain ⟨counts, isLast⟩ := allowed
      split at taken
      · next inUse s released =>
          injection taken with isNode
          subst isNode
          obtain ⟨_, _, queues, _, isReleased⟩ :=
            (contextRelease_cases released).resolve_left
              (fun notLast => notLast.1 isLast)
          subst isReleased
          refine ⟨?_, counts, rfl, rfl⟩
          ext other
          by_cases same : other = ctx
          · subst same
            simp [contextReleased, deleteContext]
          · simp [contextReleased, deleteContext, contextUnref, same,
              System.modify_contexts_of_ne _ _ same]
      · cases taken
  · cases taken

/-- A call that launches nothing keeps the counter right. -/
theorem agrees_next
    {call : Call}
    (agrees : Agrees node ∧ node.launching = [])
    (guarded : ¬ Launches call)
    (taken : Run.Steps Node.next? node call node') :
    Agrees node' ∧ node'.launching = [] := by
  obtain ⟨agrees, idle⟩ := agrees
  have total := agrees.total
  cases call with
  | newContext request =>
      exact absurd trivial guarded
  | initReturned launch result stack fuel =>
      simp [Run.Steps, Node.next?, idle] at taken
  | reserve ctx =>
      obtain ⟨isErased, counts, isTotal, sameLaunching⟩ :=
        counted_reserve taken
      refine ⟨agrees_iff.mpr ?_, sameLaunching.trans idle⟩
      have card := Finset.card_erase_add_one counts
      rw [isErased, isTotal, total]
      omega
  | release ctx =>
      obtain ⟨isErased, counts, isTotal, sameLaunching⟩ :=
        counted_release taken
      refine ⟨agrees_iff.mpr ?_, sameLaunching.trans idle⟩
      have card := Finset.card_erase_add_one counts
      rw [isErased, isTotal, total]
      omega

/-- A launch that gets to the `init` of its module leaves the counter wrong. -/
theorem not_agrees_newContext
    {request : LaunchRequest}
    (agrees : Agrees node)
    (taken : Run.Steps Node.next? node (.newContext request) node') :
    ¬ Agrees node' := by
  intro stillAgrees
  obtain ⟨counted, total⟩ := counted_newContext taken
  have before := agrees.total
  have after := stillAgrees.total
  omega

/--
From a node that counts right, the counter is right in every state of a run
exactly when no call of `NewContext` in it gets to the `init` of the module.
-/
theorem contextTotal_agrees_iff
    {start final : Node}
    {past : List (Node × Call)}
    (agrees : Agrees start)
    (idle : start.launching = [])
    (run : Run (Run.Steps Node.next?) start past final) :
    (∀ node ∈ Run.visited past final, Agrees node) ↔
      ∀ node call, (node, call) ∈ past → ¬ Launches call :=
  Run.property_visited_iff run ⟨agrees, idle⟩ agrees_next And.left
    fun {node call node'} holds taken stillAgrees launches => by
      cases call with
      | newContext request =>
          exact not_agrees_newContext holds.1 taken stillAgrees
      | initReturned launch result stack fuel =>
          exact launches
      | reserve ctx =>
          exact launches
      | release ctx =>
          exact launches

end Steps

/-- A node with two services, one of them about to be reserved. -/
def twoServices : Node where
  system := { soloSystem with nextContext := 2, total := 2 }
  reserved := fun _ => false
  launching := []

theorem agrees_twoServices : Agrees twoServices :=
  agrees_iff.mpr rfl

/-- One service is reserved, the other one released for the last time. -/
theorem reserve_release_agrees :
    ∃ past final,
      Run (Run.Steps Node.next?) twoServices past final ∧
        contextTotal final.system = 0 ∧
        ∀ node ∈ Run.visited past final, Agrees node := by
  obtain ⟨reserved, reserves, final, releases, isZero⟩ :
      ∃ reserved, twoServices.next? (.reserve 0) = some reserved ∧
        ∃ final, reserved.next? (.release 1) = some final ∧
          contextTotal final.system = 0 :=
    ⟨_, rfl, _, rfl, rfl⟩
  have run :
      Run (Run.Steps Node.next?) twoServices
        [(reserved, .release 1), (twoServices, .reserve 0)] final :=
    .snoc (.snoc .nil reserves) releases
  refine ⟨_, final, run, isZero, ?_⟩
  refine (contextTotal_agrees_iff agrees_twoServices rfl run).mpr ?_
  intro node call member
  simp only [List.mem_cons, Prod.mk.injEq, List.not_mem_nil, or_false] at member
  rcases member with ⟨_, isRelease⟩ | ⟨_, isReserve⟩
  · rw [isRelease]
    exact id
  · rw [isReserve]
    exact id

/-- A node without contexts. -/
def emptyNode : Node where
  system :=
    { soloSystem with
      nextContext := 0
      nextQueue := 0
      storage := handleInit 1
      total := 0 }
  reserved := fun _ => false
  launching := []

/-- A launch of a module that has every function. -/
def plainRequest : LaunchRequest where
  name := "plain"
  param := ""
  mod := some { create := true, init := true, release := true }
  inst := true

/-- The launch, whose `init` does nothing and returns the given result. -/
def plainLaunch (result : Int) : List Call :=
  [.newContext plainRequest,
    .initReturned { ctx := 0, queue := 1, request := plainRequest } result
      (fun _ => none) 1]

/--
After one launch, successful or not, no context exists; the counter is 2 or 1.
-/
theorem launch_leaves_total :
    ((Run.replay Node.next? emptyNode (plainLaunch 0)).map fun node =>
        (contextTotal node.system, node.counted.card)) = some (2, 0) ∧
      ((Run.replay Node.next? emptyNode (plainLaunch 1)).map fun node =>
        (contextTotal node.system, node.counted.card)) = some (1, 0) ∧
      ¬ ∀ past final,
        Run (Run.Steps Node.next?) emptyNode past final →
          ∀ node ∈ Run.visited past final, Agrees node := by
  have succeeded :
      ((Run.replay Node.next? emptyNode (plainLaunch 0)).map fun node =>
        (contextTotal node.system, node.counted.card)) = some (2, 0) := by
    decide +kernel
  refine ⟨succeeded, by decide +kernel, ?_⟩
  intro holds
  obtain ⟨node, replayed, isCounts⟩ := Option.map_eq_some_iff.mp succeeded
  obtain ⟨past, run⟩ := Run.extend_of_replay .nil replayed
  have agrees := (holds past node run node (by simp)).total
  simp only [Prod.mk.injEq] at isCounts
  omega

end ContextTotal

end SkynetCpp
