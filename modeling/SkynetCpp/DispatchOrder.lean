import SkynetCpp.Dispatch
import SkynetCpp.GlobalQueue

namespace SkynetCpp

open Foundation

/-!
# Which messages a dispatch hands to the callback

Both dispatching loops read a non-null `Pop` as an empty queue.  A queue that
holds a message is therefore put aside without any invocation, and an empty
one is dispatched exactly when the uninitialised pointer happens to be null.
-/

/-- The queue belongs to a registered, initialised service with a callback. -/
structure Serving
    (s : System)
    (queue : QueueId)
    (ctx : ContextId)
    (ud : Nat) : Prop where
  registered : handleLookup s (s.queues.mq queue).handle = some ctx
  initialised : (s.contexts ctx).init = true
  installed : (s.contexts ctx).cb = some ud
  owned : (s.contexts ctx).queue = queue
  inUse : 0 < (s.contexts ctx).ref
  refFits : (s.contexts ctx).ref < 2 ^ 31

/-- The messages in a queue. -/
def contentsOf
    (s : System)
    (queue : QueueId) : List Message :=
  (s.queues.mq queue).messageQueue

/-- How many of these messages one `MessageDispatch` call is to dispatch. -/
def batchSize (weight : Int) : List Message → Nat
  | [] => 0
  | _ :: left =>
      if weight < 0 then 1 else max 1 (left.length >>> weight.toNat)

/--
`MessageDispatch` returns after invoking the callback on the first messages of
the queue, as many as make a batch, and has removed exactly these.
-/
def DispatchesBatch
    (callback : Callback)
    (stack : Nat → Option Message)
    (garbage : Message)
    (fuel : Nat)
    (s : System)
    (messageQueue : Option QueueId)
    (weight : Int)
    (queue : QueueId)
    (ctx : ContextId)
    (ud : Nat) : Prop :=
  let batch := batchSize weight (contentsOf s queue)
  ∃ next invoked after,
    messageDispatch callback stack garbage fuel s messageQueue weight =
        .ok (next, invoked, after) ∧
      invoked =
        ((contentsOf s queue).take batch).map (invocation ctx ud) ∧
      ∃ sent, contentsOf after queue = (contentsOf s queue).drop batch ++ sent

/-- `DispatchAll` returns after invoking the callback on every queued message. -/
def DispatchesEverything
    (callback : Callback)
    (stack : Nat → Option Message)
    (garbage : Message)
    (s : System)
    (queue : QueueId)
    (ctx : ContextId)
    (ud : Nat) : Prop :=
  ∃ fuel dispatched,
    dispatchAll callback stack garbage fuel s ctx = .ok dispatched ∧
      dispatched.invoked = (contentsOf s queue).map (invocation ctx ud)

section Loops

variable
    {callback : Callback}
    {stack : Nat → Option Message}
    {garbage : Message}
    {s : System}
    {queue : QueueId}
    {ctx : ContextId}
    {ud : Nat}

/-- A batch of a queue that holds a message is not empty. -/
theorem take_batchSize_ne_nil
    {messages : List Message}
    (nonempty : messages ≠ [])
    (weight : Int) :
    messages.take (batchSize weight messages) ≠ [] := by
  cases messages with
  | nil =>
      exact absurd rfl nonempty
  | cons first left =>
      have atLeastOne : 0 < batchSize weight (first :: left) := by
        simp only [batchSize]
        split
        · exact Nat.one_pos
        · exact Nat.le_max_left 1 _
      obtain ⟨fewer, isSucc⟩ := Nat.exists_eq_add_of_lt atLeastOne
      simp [isSucc]

/-- Whether the `Pop` of a first turn ends the loops at once. -/
def EndsAtOnce
    (stack : Nat → Option Message)
    (messages : List Message) : Prop :=
  messages ≠ [] ∨ stack 0 ≠ none

/-- A first `Pop` answers null exactly when the loops do not end at once. -/
theorem firstPop_eq_none_iff :
    (messageQueuePop s.queues queue (stack 0)).1 = none ↔
      ¬ EndsAtOnce stack (contentsOf s queue) := by
  rw [messageQueuePop_eq_none_iff]
  simp [EndsAtOnce, contentsOf]

/-- `DispatchMessage` invokes the callback whenever it returns. -/
theorem dispatchMessage_invoked
    {msg : Message}
    {dispatched : Dispatched}
    (returned : dispatchMessage callback s ctx msg = .ok dispatched) :
    dispatched.invoked ≠ [] := by
  unfold dispatchMessage at returned
  split at returned
  · split at returned
    · injection returned with isDispatched
      simp [← isDispatched]
    · cases returned
  · cases returned

/-- A loop that ends at once invokes nothing and removes nothing. -/
theorem dispatchLoop_of_endsAtOnce
    (ends : EndsAtOnce stack (contentsOf s queue))
    (weight : Int) :
    dispatchLoop callback stack garbage queue ctx weight s =
      .ok (true,
        { invoked := []
          msg := garbage
          system :=
            { s with
              queues := (messageQueuePop s.queues queue (stack 0)).2 } }) := by
  unfold dispatchLoop
  rcases shape : messageQueuePop s.queues queue (stack 0) with ⟨popped, queues⟩
  cases popped with
  | none =>
      have isNull : (messageQueuePop s.queues queue (stack 0)).1 = none := by
        rw [shape]
      exact absurd ends (firstPop_eq_none_iff.mp isNull)
  | some front =>
      rfl

/-- A loop that does not end at once invokes the callback if there is one. -/
theorem dispatchLoop_invoked
    {weight : Int}
    {early : Bool}
    {dispatched : Dispatched}
    (goesOn : ¬ EndsAtOnce stack (contentsOf s queue))
    (installed : (s.contexts ctx).cb = some ud)
    (returned :
      dispatchLoop callback stack garbage queue ctx weight s =
        .ok (early, dispatched)) :
    dispatched.invoked ≠ [] := by
  have isNull := firstPop_eq_none_iff.mpr goesOn
  unfold dispatchLoop at returned
  rcases shape : messageQueuePop s.queues queue (stack 0) with ⟨popped, queues⟩
  rw [shape] at isNull
  subst isNull
  simp only [shape, dispatchTurn, installed, bind_eq_ok_iff] at returned
  obtain ⟨turn, invoked, ⟨restEarly, rest⟩, _, isDispatched⟩ := returned
  injection isDispatched with isDispatched
  injection isDispatched with _ isDispatched
  rw [← isDispatched]
  intro nothing
  exact dispatchMessage_invoked invoked (List.append_eq_nil_iff.mp nothing).1

/-- The loop of `DispatchAll` that ends at once returns without an invocation. -/
theorem dispatchAllLoop_of_endsAtOnce
    (ends : EndsAtOnce stack (contentsOf s queue))
    (fuel : Nat) :
    dispatchAllLoop callback stack queue ctx (fuel + 1) 0 garbage s =
      .ok
        { invoked := []
          msg := garbage
          system :=
            { s with
              queues := (messageQueuePop s.queues queue (stack 0)).2 } } := by
  unfold dispatchAllLoop
  rcases shape : messageQueuePop s.queues queue (stack 0) with ⟨popped, queues⟩
  cases popped with
  | none =>
      have isNull : (messageQueuePop s.queues queue (stack 0)).1 = none := by
        rw [shape]
      exact absurd ends (firstPop_eq_none_iff.mp isNull)
  | some front =>
      rfl

/-- The loop of `DispatchAll` that goes on invokes the callback. -/
theorem dispatchAllLoop_invoked
    {fuel : Nat}
    {dispatched : Dispatched}
    (goesOn : ¬ EndsAtOnce stack (contentsOf s queue))
    (returned :
      dispatchAllLoop callback stack queue ctx fuel 0 garbage s =
        .ok dispatched) :
    dispatched.invoked ≠ [] := by
  have isNull := firstPop_eq_none_iff.mpr goesOn
  cases fuel with
  | zero =>
      cases returned
  | succ fuel =>
      unfold dispatchAllLoop at returned
      rcases shape : messageQueuePop s.queues queue (stack 0) with
        ⟨popped, queues⟩
      rw [shape] at isNull
      subst isNull
      simp only [shape, bind_eq_ok_iff] at returned
      obtain ⟨turn, invoked, rest, _, isDispatched⟩ := returned
      injection isDispatched with isDispatched
      rw [← isDispatched]
      intro nothing
      exact dispatchMessage_invoked invoked
        (List.append_eq_nil_iff.mp nothing).1

/-- The reference that a grab adds to a context in use is not the last one. -/
theorem ref_grab_ne_one
    (inUse : 0 < (s.contexts ctx).ref)
    (refFits : (s.contexts ctx).ref < 2 ^ 31) :
    ((contextGrab s ctx).contexts ctx).ref ≠ 1 := by
  simp only [contextGrab, System.modify_contexts_self]
  by_cases small : (s.contexts ctx).ref + 1 < 2 ^ 31
  · rw [toInt32_of_bounds (by omega) small]
    omega
  · have isMax : (s.contexts ctx).ref = 2 ^ 31 - 1 := by omega
    rw [isMax]
    decide

variable (callback stack garbage)

/--
A dispatch of a queue hands over its batch exactly when the queue is empty and
the loop ends at once.
-/
theorem dispatchQueue_batch_iff
    (fuel : Nat)
    (weight : Int)
    {nodes : List QueueId}
    (serving : Serving s queue ctx ud)
    (linked : Linked s.queues nodes) :
    (∃ next invoked after,
      dispatchQueue callback stack garbage fuel weight queue s =
          .ok (next, invoked, after) ∧
        invoked =
          ((contentsOf s queue).take
            (batchSize weight (contentsOf s queue))).map
              (invocation ctx ud) ∧
        ∃ sent,
          contentsOf after queue =
            (contentsOf s queue).drop
              (batchSize weight (contentsOf s queue)) ++ sent) ↔
      contentsOf s queue = [] ∧ stack 0 ≠ none := by
  have grabbed :
      handleGrab s (s.queues.mq queue).handle =
        (some ctx, contextGrab s ctx) := by
    simp [handleGrab, serving.registered]
  have sameContents :
      contentsOf (contextGrab s ctx) queue = contentsOf s queue := rfl
  constructor
  · rintro ⟨next, invoked, after, returned, isBatch, _⟩
    simp only [dispatchQueue, grabbed, bind_eq_ok_iff] at returned
    obtain ⟨⟨early, dispatched⟩, looped, returned⟩ := returned
    have sameInvoked : invoked = dispatched.invoked := by
      cases early with
      | true =>
          simp only [↓reduceIte, bind_eq_ok_iff] at returned
          obtain ⟨_, _, _, _, isResult⟩ := returned
          simp only [Except.ok.injEq, Prod.mk.injEq] at isResult
          exact isResult.2.1.symm
      | false =>
          simp only [Bool.false_eq_true, ↓reduceIte, bind_eq_ok_iff] at returned
          obtain ⟨_, _, isResult⟩ := returned
          simp only [Except.ok.injEq, Prod.mk.injEq] at isResult
          exact isResult.2.1.symm
    by_cases ends : EndsAtOnce stack (contentsOf s queue)
    · rw [dispatchLoop_of_endsAtOnce (sameContents ▸ ends)] at looped
      injection looped with looped
      injection looped with _ isDispatched
      have nothing : invoked = [] := by
        rw [sameInvoked, ← isDispatched]
      have isEmpty : contentsOf s queue = [] := by
        by_contra nonempty
        rw [nothing] at isBatch
        exact take_batchSize_ne_nil nonempty weight
          (List.map_eq_nil_iff.mp isBatch.symm)
      rcases ends with nonempty | notNull
      · exact absurd isEmpty nonempty
      · exact ⟨isEmpty, notNull⟩
    · have something :=
        dispatchLoop_invoked (sameContents ▸ ends)
          (by simpa [contextGrab] using serving.installed) looped
      have isEmpty : contentsOf s queue = [] := by
        by_contra nonempty
        exact ends (Or.inl nonempty)
      rw [sameInvoked, isEmpty] at isBatch
      exact absurd isBatch something
  · rintro ⟨isEmpty, notNull⟩
    let popped := (messageQueuePop s.queues queue (stack 0)).2
    let looped := { contextGrab s ctx with queues := popped }
    have endsEarly :
        dispatchLoop callback stack garbage queue ctx weight
            (contextGrab s ctx) =
          .ok (true, { invoked := [], msg := garbage, system := looped }) :=
      dispatchLoop_of_endsAtOnce (Or.inr notNull) weight
    have released :
        contextRelease looped ctx = .ok (true, contextUnref looped ctx) :=
      contextRelease_of_not_last
        (ref_grab_ne_one serving.inUse serving.refFits)
    obtain ⟨rest, pops, _⟩ := (linked.messageQueuePop queue (stack 0)).pop
    have popsGlobal :
        popGlobalQueue (contextUnref looped ctx) =
          .ok (nodes.head?,
            { contextUnref looped ctx with queues := rest }) := by
      simp only [popGlobalQueue, contextUnref, System.modify_queues, looped,
        popped, pops]
    refine ⟨nodes.head?, [], { contextUnref looped ctx with queues := rest },
      ?_, ?_, [], ?_⟩
    · simp only [dispatchQueue, grabbed, endsEarly, bind_eq_ok_iff]
      refine ⟨_, rfl, ?_⟩
      simp only [↓reduceIte, bind_eq_ok_iff]
      exact ⟨_, released, _, popsGlobal, rfl⟩
    · simp [isEmpty]
    · have sameAfterPop :=
        messageQueuePop_field MessageQueue.messageQueue
          (fun _ _ _ _ => rfl) s.queues queue (stack 0) queue
      have sameAfter :=
        globalQueuePop_field MessageQueue.messageQueue
          (fun _ _ => rfl) pops queue
      have isEmptyAfter : (rest.mq queue).messageQueue = [] :=
        (sameAfter.trans sameAfterPop).trans isEmpty
      rw [contentsOf, isEmptyAfter, isEmpty]
      simp

/-- Taking a queue from the global one leaves its service serving. -/
theorem Serving.of_pop
    {taken : Option QueueId}
    {queues : Queues}
    (serving : Serving s queue ctx ud)
    (popped : globalQueuePop s.queues = .ok (taken, queues)) :
    Serving { s with queues := queues } queue ctx ud where
  registered := by
    have sameHandle :=
      globalQueuePop_field MessageQueue.handle (fun _ _ => rfl) popped queue
    show handleLookup { s with queues := queues } (queues.mq queue).handle = _
    rw [sameHandle]
    exact serving.registered
  initialised := serving.initialised
  installed := serving.installed
  owned := serving.owned
  inUse := serving.inUse
  refFits := serving.refFits

end Loops

/--
`MessageDispatch` and `DispatchAll` do what they are for exactly on an empty
queue whose first `Pop` finds a non-null pointer in its uninitialised local:
then both return without an invocation.
-/
theorem messageDispatch_batch_iff
    (callback : Callback)
    (stack : Nat → Option Message)
    (garbage : Message)
    (fuel : Nat)
    (s : System)
    (messageQueue : Option QueueId)
    (weight : Int)
    (queue : QueueId)
    (ctx : ContextId)
    (ud : Nat)
    (nodes : List QueueId)
    (linked : Linked s.queues nodes)
    (taken :
      messageQueue = some queue ∨
        messageQueue = none ∧ s.queues.head = some queue)
    (serving : Serving s queue ctx ud) :
    (DispatchesBatch callback stack garbage fuel s messageQueue weight
        queue ctx ud ↔
      contentsOf s queue = [] ∧ stack 0 ≠ none) ∧
    (DispatchesEverything callback stack garbage s queue ctx ud ↔
      contentsOf s queue = [] ∧ stack 0 ≠ none) := by
  constructor
  · rcases taken with isGiven | ⟨isNull, isHead⟩
    · subst isGiven
      exact dispatchQueue_batch_iff callback stack garbage fuel weight
        serving linked
    · subst isNull
      obtain ⟨popped, pops, rest⟩ := linked.pop
      have isFirst : nodes.head? = some queue := linked.head_eq ▸ isHead
      rw [isFirst] at pops
      have sameContents :
          contentsOf { s with queues := popped } queue = contentsOf s queue :=
        globalQueuePop_field MessageQueue.messageQueue
          (fun _ _ => rfl) pops queue
      have exactBatch :=
        dispatchQueue_batch_iff callback stack garbage fuel weight
          (serving.of_pop pops) rest
      rw [sameContents] at exactBatch
      rw [← exactBatch]
      simp only [DispatchesBatch, messageDispatch, popGlobalQueue, pops]
      rfl
  · constructor
    · rintro ⟨fuel, dispatched, returned, isAll⟩
      have loops :
          dispatchAllLoop callback stack queue ctx fuel 0 garbage s =
            .ok dispatched := by
        rw [← returned, dispatchAll, serving.owned]
      by_cases ends : EndsAtOnce stack (contentsOf s queue)
      · cases fuel with
        | zero =>
            cases loops
        | succ fuel =>
            rw [dispatchAllLoop_of_endsAtOnce ends] at loops
            injection loops with isDispatched
            rw [← isDispatched] at isAll
            have isEmpty := List.map_eq_nil_iff.mp isAll.symm
            rcases ends with nonempty | notNull
            · exact absurd isEmpty nonempty
            · exact ⟨isEmpty, notNull⟩
      · have isEmpty : contentsOf s queue = [] := by
          by_contra nonempty
          exact ends (Or.inl nonempty)
        rw [isEmpty] at isAll
        exact absurd isAll (dispatchAllLoop_invoked ends loops)
    · rintro ⟨isEmpty, notNull⟩
      have ends : EndsAtOnce stack (contentsOf s queue) := Or.inr notNull
      have returns :
          dispatchAll callback stack garbage 1 s ctx =
            dispatchAllLoop callback stack queue ctx 1 0 garbage s := by
        rw [dispatchAll, serving.owned]
      exact ⟨1, _, returns.trans (dispatchAllLoop_of_endsAtOnce ends 0),
        by simp [isEmpty]⟩

/-- A text message without payload. -/
def greeting : Message where
  source := 1
  session := 1
  data := none
  sz := encodeSz 0 kPtypeText

/-- A callback that keeps every message and changes nothing. -/
def keepAll : Callback :=
  fun _ s => (1, s)

theorem messageDispatch_batch_empty :
    DispatchesBatch keepAll (fun _ => some greeting) greeting 0 soloSystem
        (some 0) 0 0 0 0 ∧
      DispatchesEverything keepAll (fun _ => some greeting) greeting soloSystem
        0 0 0 := by
  have linked : Linked soloSystem.queues [] :=
    ⟨rfl, rfl, List.nodup_nil, fun _ _ => rfl⟩
  have serving : Serving soloSystem 0 0 0 := by
    constructor <;> decide
  have exactBatch :=
    messageDispatch_batch_iff keepAll (fun _ => some greeting) greeting 0
      soloSystem (some 0) 0 0 0 0 [] linked (Or.inl rfl) serving
  exact ⟨exactBatch.1.mpr ⟨rfl, by simp⟩, exactBatch.2.mpr ⟨rfl, by simp⟩⟩

/-- The one-service node with a message in its queue. -/
def busySystem : System :=
  { soloSystem with
    queues := soloSystem.queues.modify 0 fun mq =>
      { mq with messageQueue := [greeting] } }

/-- A queue with one message is put aside without an invocation. -/
theorem messageDispatch_skips_message :
    (messageDispatch keepAll (fun _ => none) greeting 0 busySystem
        (some 0) (-1)).map (fun result => result.2.1) = .ok [] ∧
      ¬ DispatchesBatch keepAll (fun _ => none) greeting 0 busySystem
        (some 0) (-1) 0 0 0 := by
  have skipped :
      (messageDispatch keepAll (fun _ => none) greeting 0 busySystem
        (some 0) (-1)).map (fun result => result.2.1) = .ok [] :=
    rfl
  refine ⟨skipped, ?_⟩
  rintro ⟨next, invoked, after, returned, isBatch, _⟩
  rw [returned] at skipped
  injection skipped with nothing
  subst nothing
  exact absurd isBatch (by decide)

end SkynetCpp
