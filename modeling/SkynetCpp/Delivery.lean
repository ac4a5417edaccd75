import SkynetCpp.Service
import SkynetCpp.Timer

namespace SkynetCpp

/-!
# Results of sending against delivery

`ContextPush` answers true when it delivered the message; `ServiceSend` and
`Timeout` take that answer for a failure.  Their result therefore agrees with
what happened to the queues only where no message is pushed and the failure is
reported on another path.
-/

/--
`Timeout`, on the wheel of `kTimer`.  The node is a local variable of the
call, known by its address; that its memory is used again is left out here.
-/
def timeout
    (s : System)
    (timer : Timer)
    (address : Nat)
    (handle : UInt32)
    (time session : Int) : Except Fault (Int × System × Timer) :=
  if time ≤ 0 then do
    let message : Message :=
      { source := 0
        session := session
        data := none
        sz := encodeSz 0 kPtypeResponse }
    let (pushed, s) ← contextPush s handle message
    if pushed then
      .ok (-1, s, timer)
    else
      .ok (session, s, timer)
  else
    let node : TimerNode :=
      { address := address
        expire := UInt32.ofInt time + timer.time
        handle := handle
        session := session }
    .ok (session, s, timer.addNode node)

/-- No queue holds other messages than before. -/
def QueuesUnchanged (before after : System) : Prop :=
  ∀ queue,
    (after.queues.mq queue).messageQueue =
      (before.queues.mq queue).messageQueue

/--
The destination is registered, its queue got exactly this message at its end,
and no other queue changed.
-/
def Delivered
    (before after : System)
    (destination : UInt32)
    (message : Message) : Prop :=
  ∃ ctx,
    handleLookup before destination = some ctx ∧
      ∀ queue,
        (after.queues.mq queue).messageQueue =
          if queue = (before.contexts ctx).queue then
            (before.queues.mq queue).messageQueue ++ [message]
          else
            (before.queues.mq queue).messageQueue

/-- The result of a send tells what happened to the message. -/
structure ResultAgrees
    (before after : System)
    (destination : UInt32)
    (message : Message)
    (result : Int) : Prop where
  session : result = message.session ↔ Delivered before after destination message
  negative : result < 0 ↔ QueuesUnchanged before after

/-- The session of a message: under `kPtypeTagAllocsession` a fresh one. -/
def messageSession
    (s : System)
    (ctx : Option ContextId)
    (type : UInt32)
    (session : Int) : Int :=
  if type &&& kPtypeTagAllocsession ≠ 0 then
    (ctx.map fun ctx => (newsession s ctx).1).getD session
  else
    session

/-- The message that a `ServiceSend` call means to deliver. -/
def sentMessage
    (s : System)
    (ctx : Option ContextId)
    (source : UInt32)
    (type : UInt32)
    (session : Int)
    (data : Option Payload)
    (sz : UInt64) : Message where
  source :=
    if source = 0 then
      (ctx.map fun ctx => (s.contexts ctx).handle).getD 0
    else
      source
  session := messageSession s ctx type session
  data :=
    if type &&& kPtypeTagDontcopy = 0 then data.map (copyPayload sz) else data
  sz := encodeSz sz (type &&& 0xff)

/-- The response that a `Timeout` call means to deliver at once. -/
def timeoutMessage (session : Int) : Message where
  source := 0
  session := session
  data := none
  sz := encodeSz 0 kPtypeResponse

/-- `ServiceSend` returns, and its result agrees with the delivery. -/
def ServiceSendAgrees
    (s : System)
    (ctx : Option ContextId)
    (source destination : UInt32)
    (type : UInt32)
    (session : Int)
    (data : Option Payload)
    (sz : UInt64) : Prop :=
  ∃ result after,
    serviceSend s ctx source destination type session data sz =
      .ok (result, after) ∧
    ResultAgrees s after destination
      (sentMessage s ctx source type session data sz) result

/-- `Timeout` returns, and its result agrees with the delivery. -/
def TimeoutAgrees
    (s : System)
    (timer : Timer)
    (address : Nat)
    (handle : UInt32)
    (time session : Int) : Prop :=
  ∃ result after timer',
    timeout s timer address handle time session =
      .ok (result, after, timer') ∧
    ResultAgrees s after handle (timeoutMessage session) result

/-- A push to a handle that is not registered does nothing. -/
theorem contextPush_of_unregistered
    {s : System}
    {handle : UInt32}
    (unregistered : handleLookup s handle = none)
    (msg : Message) :
    contextPush s handle msg = .ok (false, s) := by
  simp [contextPush, handleGrab, unregistered]

/-- A push to a registered handle that returns answers true and delivers. -/
theorem contextPush_of_registered
    {s after : System}
    {handle : UInt32}
    {ctx : ContextId}
    {msg : Message}
    {pushed : Bool}
    (registered : handleLookup s handle = some ctx)
    (returned : contextPush s handle msg = .ok (pushed, after)) :
    pushed = true ∧ Delivered s after handle msg := by
  simp only [contextPush, handleGrab, registered, bind_eq_ok_iff] at returned
  obtain ⟨queues, appended, ⟨inUse, released⟩, dropped, isAfter⟩ := returned
  simp only [Except.ok.injEq, Prod.mk.injEq] at isAfter
  obtain ⟨isTrue, isAfter⟩ := isAfter
  have sameQueue :
      ((contextGrab s ctx).contexts ctx).queue = (s.contexts ctx).queue := by
    simp [contextGrab]
  refine ⟨isTrue.symm, ctx, registered, ?_⟩
  intro queue
  have kept := contextRelease_messages dropped queue
  have delivered := messageQueuePush_messages appended queue
  rw [sameQueue] at delivered
  rw [← isAfter]
  exact kept.trans delivered

/-- A delivered message changes a queue. -/
theorem Delivered.not_unchanged
    {before after : System}
    {destination : UInt32}
    {message : Message}
    (delivered : Delivered before after destination message) :
    ¬ QueuesUnchanged before after := by
  intro unchanged
  obtain ⟨ctx, _, appended⟩ := delivered
  have same := unchanged (before.contexts ctx).queue
  rw [appended] at same
  simp at same

/-- A fresh session is a positive number. -/
theorem newsession_pos
    (s : System)
    (ctx : ContextId) :
    0 < (newsession s ctx).1 := by
  simp only [newsession]
  split
  · exact Int.one_pos
  · next positive =>
      exact Int.not_le.mp positive

/-- A lookup reads the table and the handles of the contexts only. -/
theorem handleLookup_congr
    {s s' : System}
    (sameStorage : s'.storage = s.storage)
    (sameHandle : ∀ ctx, (s'.contexts ctx).handle = (s.contexts ctx).handle)
    (handle : UInt32) :
    handleLookup s' handle = handleLookup s handle := by
  simp only [handleLookup, sameStorage, sameHandle]

/-- `_FilterArgs` changes nothing but the session counter of the sender. -/
structure SameButSession (s s' : System) : Prop where
  storage : s'.storage = s.storage
  queues : s'.queues = s.queues
  harbor : s'.harbor = s.harbor
  handle : ∀ ctx, (s'.contexts ctx).handle = (s.contexts ctx).handle
  queue : ∀ ctx, (s'.contexts ctx).queue = (s.contexts ctx).queue

theorem SameButSession.refl (s : System) : SameButSession s s :=
  ⟨rfl, rfl, rfl, fun _ => rfl, fun _ => rfl⟩

theorem sameButSession_newsession
    (s : System)
    (ctx : ContextId) :
    SameButSession s (newsession s ctx).2 where
  storage := rfl
  queues := rfl
  harbor := rfl
  handle := fun other => by
    by_cases same : other = ctx
    · simp [newsession, same]
    · simp [newsession, System.modify_contexts_of_ne s _ same]
  queue := fun other => by
    by_cases same : other = ctx
    · simp [newsession, same]
    · simp [newsession, System.modify_contexts_of_ne s _ same]

/-- A delivery after a change of session counters is a delivery before it. -/
theorem SameButSession.delivered
    {s s' after : System}
    (same : SameButSession s s')
    {destination : UInt32}
    {message : Message}
    (delivered : Delivered s' after destination message) :
    Delivered s after destination message := by
  obtain ⟨ctx, registered, appended⟩ := delivered
  refine ⟨ctx, ?_, ?_⟩
  · rw [← handleLookup_congr same.storage same.handle]
    exact registered
  · intro queue
    rw [appended, same.queues, same.queue]

/-- What `_FilterArgs` computes when it returns. -/
theorem filterArgs_eq
    {s s' : System}
    {ctx : Option ContextId}
    (source : UInt32)
    {type : UInt32}
    {session : Int}
    {data : Option Payload}
    {sz : UInt64}
    {args : Filtered}
    (filtered : filterArgs s ctx type session data sz = .ok (args, s')) :
    SameButSession s s' ∧
      args.session = (sentMessage s ctx source type session data sz).session ∧
      args.data = (sentMessage s ctx source type session data sz).data ∧
      args.sz = (sentMessage s ctx source type session data sz).sz := by
  unfold filterArgs at filtered
  by_cases allocates : type &&& kPtypeTagAllocsession ≠ 0
  · rw [if_pos allocates] at filtered
    split at filtered
    · cases ctx with
      | none =>
          cases filtered
      | some ctx =>
          simp only [Except.ok.injEq, Prod.mk.injEq] at filtered
          obtain ⟨isArgs, isState⟩ := filtered
          subst isArgs
          subst isState
          refine ⟨sameButSession_newsession s ctx, ?_, rfl, rfl⟩
          simp [sentMessage, messageSession, allocates]
    · cases filtered
  · rw [if_neg allocates] at filtered
    simp only [Except.ok.injEq, Prod.mk.injEq] at filtered
    obtain ⟨isArgs, isState⟩ := filtered
    subst isArgs
    subst isState
    refine ⟨SameButSession.refl s, ?_, rfl, rfl⟩
    simp only [sentMessage, messageSession, if_neg allocates]

/-- `sz` fits the bits below the message type. -/
def FitsMask (sz : UInt64) : Prop :=
  sz &&& kMessageTypeMask = sz

instance (sz : UInt64) : Decidable (FitsMask sz) :=
  inferInstanceAs (Decidable (sz &&& kMessageTypeMask = sz))

/--
A local send of a message that fits, when it returns: to a registered
destination it delivers and answers -1, to any other it answers the session.
-/
theorem serviceSend_of_fits
    {s after : System}
    {ctx : Option ContextId}
    {source destination type : UInt32}
    {session result : Int}
    {data : Option Payload}
    {sz : UInt64}
    (nonzero : destination ≠ 0)
    (isLocal : harborMessageIsRemote s destination = .ok false)
    (fits : FitsMask sz)
    (returned :
      serviceSend s ctx source destination type session data sz =
        .ok (result, after)) :
    result = -1 ∧
        Delivered s after destination
          (sentMessage s ctx source type session data sz) ∨
      result = (sentMessage s ctx source type session data sz).session ∧
        handleLookup s destination = none := by
  unfold FitsMask at fits
  simp only [serviceSend, fits, ne_eq, not_true_eq_false, ↓reduceIte,
    bind_eq_ok_iff, nonzero] at returned
  obtain ⟨⟨args, s'⟩, filtered, sender, hasSource, remote, judged, returned⟩ :=
    returned
  obtain ⟨same, sameSession, sameData, sameSz⟩ :=
    filterArgs_eq source filtered
  have stillLocal : harborMessageIsRemote s' destination = .ok false := by
    simpa [harborMessageIsRemote, same.harbor] using isLocal
  rw [stillLocal] at judged
  injection judged with isLocal
  subst isLocal
  simp only [Bool.false_eq_true, ↓reduceIte, bind_eq_ok_iff] at returned
  obtain ⟨⟨pushed, s''⟩, push, returned⟩ := returned
  have isMessage :
      ({ source := sender
         session := args.session
         data := args.data
         sz := args.sz } : Message) =
        sentMessage s ctx source type session data sz := by
    rw [sameSession, sameData, sameSz, Message.mk.injEq]
    refine ⟨?_, rfl, rfl, rfl⟩
    unfold sendingSource at hasSource
    unfold sentMessage
    split at hasSource
    · next isZero =>
        cases ctx with
        | none =>
            cases hasSource
        | some ctx =>
            injection hasSource with isSender
            simp [isZero, ← isSender, same.handle]
    · next notZero =>
        injection hasSource with isSender
        rw [if_neg notZero, isSender]
  cases lookup : handleLookup s' destination with
  | none =>
      rw [contextPush_of_unregistered lookup] at push
      injection push with push
      injection push with isFalse isState
      subst isFalse
      simp only [Bool.false_eq_true, ↓reduceIte, Except.ok.injEq,
        Prod.mk.injEq] at returned
      right
      rw [handleLookup_congr same.storage same.handle] at lookup
      exact ⟨returned.1 ▸ sameSession, lookup⟩
  | some target =>
      obtain ⟨isTrue, delivered⟩ := contextPush_of_registered lookup push
      subst isTrue
      simp only [↓reduceIte, Except.ok.injEq, Prod.mk.injEq] at returned
      obtain ⟨isResult, isAfter⟩ := returned
      subst isAfter
      left
      rw [isMessage] at delivered
      exact ⟨isResult.symm, same.delivered delivered⟩

/-- A message that is too large is refused before anything else happens. -/
theorem serviceSend_of_too_large
    {s : System}
    {ctx : Option ContextId}
    {source destination type : UInt32}
    {session : Int}
    {data : Option Payload}
    {sz : UInt64}
    (tooLarge : ¬ FitsMask sz) :
    serviceSend s ctx source destination type session data sz =
      .ok (-2, s) := by
  unfold FitsMask at tooLarge
  simp only [serviceSend, ne_eq, tooLarge, not_false_eq_true, ↓reduceIte]

/-- The session of a message is -2 only when the caller says so. -/
theorem messageSession_eq_neg_two_iff
    {s : System}
    {ctx : Option ContextId}
    {type : UInt32}
    {session : Int} :
    messageSession s ctx type session = -2 ↔
      session = -2 ∧ (type &&& kPtypeTagAllocsession = 0 ∨ ctx = none) := by
  unfold messageSession
  by_cases allocates : type &&& kPtypeTagAllocsession = 0
  · simp [allocates]
  · rw [if_pos allocates]
    cases ctx with
    | none =>
        simp
    | some ctx =>
        have positive := newsession_pos s ctx
        simp only [Option.map_some, Option.getD_some, allocates,
          reduceCtorEq, or_self, and_false, iff_false]
        intro isNegative
        rw [isNegative] at positive
        exact absurd positive (by decide)

/-- Nothing is delivered where nothing changes. -/
theorem not_delivered_self
    (s : System)
    (destination : UInt32)
    (message : Message) :
    ¬ Delivered s s destination message := by
  intro delivered
  exact delivered.not_unchanged (fun _ => rfl)

/-- A message that fits always gets a result that disagrees with its delivery. -/
theorem not_serviceSendAgrees_of_fits
    {s : System}
    {ctx : Option ContextId}
    {source destination type : UInt32}
    {session : Int}
    {data : Option Payload}
    {sz : UInt64}
    (nonzero : destination ≠ 0)
    (isLocal : harborMessageIsRemote s destination = .ok false)
    (fits : FitsMask sz) :
    ¬ ServiceSendAgrees s ctx source destination type session data sz := by
  rintro ⟨result, after, returned, agrees⟩
  rcases serviceSend_of_fits nonzero isLocal fits returned with
    ⟨isNegative, delivered⟩ | ⟨isSession, unregistered⟩
  · have unchanged := agrees.negative.mp (by rw [isNegative]; decide)
    exact delivered.not_unchanged unchanged
  · obtain ⟨target, registered, _⟩ := agrees.session.mp isSession
    rw [unregistered] at registered
    cases registered

/--
A local `ServiceSend` agrees with the delivery exactly when the message is too
large and its session is not the result -2 that says so; a `Timeout` that
pushes at once never agrees with it.
-/
theorem serviceSend_agrees_iff
    (s : System)
    (ctx : Option ContextId)
    (source destination type : UInt32)
    (session : Int)
    (data : Option Payload)
    (sz : UInt64)
    (nonzero : destination ≠ 0)
    (isLocal : harborMessageIsRemote s destination = .ok false) :
    (ServiceSendAgrees s ctx source destination type session data sz ↔
      ¬ FitsMask sz ∧
        ¬ (session = -2 ∧
          (type &&& kPtypeTagAllocsession = 0 ∨ ctx = none))) ∧
      ∀ timer address handle time timeoutSession,
        time ≤ 0 →
          ¬ TimeoutAgrees s timer address handle time timeoutSession := by
  refine ⟨⟨?_, ?_⟩, ?_⟩
  · intro agrees
    have tooLarge : ¬ FitsMask sz := fun fits =>
      not_serviceSendAgrees_of_fits nonzero isLocal fits agrees
    refine ⟨tooLarge, ?_⟩
    rw [← messageSession_eq_neg_two_iff (s := s)]
    intro isResult
    obtain ⟨result, after, returned, agrees⟩ := agrees
    rw [serviceSend_of_too_large tooLarge] at returned
    obtain ⟨rfl, rfl⟩ := ok_pair_inj.mp returned
    exact not_delivered_self s destination _ (agrees.session.mp isResult.symm)
  · rintro ⟨tooLarge, notResult⟩
    rw [← messageSession_eq_neg_two_iff (s := s)] at notResult
    refine ⟨-2, s, serviceSend_of_too_large tooLarge, ?_, ?_⟩
    · constructor
      · intro isSession
        exact absurd isSession.symm notResult
      · intro delivered
        exact absurd delivered (not_delivered_self s destination _)
    · exact ⟨fun _ _ => rfl, fun _ => by decide⟩
  · rintro timer address handle time timeoutSession atOnce
      ⟨result, after, timer', returned, agrees⟩
    simp only [timeout, atOnce, ↓reduceIte, bind_eq_ok_iff] at returned
    obtain ⟨⟨pushed, s'⟩, push, returned⟩ := returned
    cases lookup : handleLookup s handle with
    | none =>
        rw [contextPush_of_unregistered lookup] at push
        injection push with push
        injection push with isFalse isState
        subst isFalse
        simp only [Bool.false_eq_true, ↓reduceIte, Except.ok.injEq,
          Prod.mk.injEq] at returned
        obtain ⟨target, registered, _⟩ := agrees.session.mp returned.1.symm
        rw [lookup] at registered
        cases registered
    | some target =>
        obtain ⟨isTrue, delivered⟩ := contextPush_of_registered lookup push
        subst isTrue
        simp only [↓reduceIte, Except.ok.injEq, Prod.mk.injEq] at returned
        obtain ⟨isResult, isAfter, _⟩ := returned
        subst isAfter
        have unchanged :=
          agrees.negative.mp (by rw [← isResult]; decide)
        exact delivered.not_unchanged unchanged

theorem serviceSend_agrees_too_large :
    ServiceSendAgrees soloSystem none 1 1 kPtypeText 7 none 0x100000000000000 ∧
      ¬ TimeoutAgrees soloSystem (Timer.empty 0) 0 1 0 7 := by
  have exact :=
    serviceSend_agrees_iff soloSystem none 1 1 kPtypeText 7 none 0x100000000000000
      (by decide) rfl
  exact ⟨exact.1.mpr (by decide), exact.2 (Timer.empty 0) 0 1 0 7 (by decide)⟩

/-- A small message to a running service is delivered and answered with -1. -/
theorem serviceSend_delivered_as_failure :
    (serviceSend soloSystem none 1 1 kPtypeText 7 none 0).map Prod.fst =
        .ok (-1) ∧
      ¬ ∀ s ctx source destination type session data sz,
        destination ≠ 0 →
          harborMessageIsRemote s destination = .ok false →
            ServiceSendAgrees s ctx source destination type session data sz := by
  refine ⟨rfl, ?_⟩
  intro holds
  obtain ⟨result, after, returned, agrees⟩ :=
    holds soloSystem none 1 1 kPtypeText 7 none 0 (by decide) rfl
  have registered : handleLookup soloSystem 1 = some 0 := by decide
  rcases serviceSend_of_fits (by decide) rfl (by decide) returned with
    ⟨isNegative, delivered⟩ | ⟨_, unregistered⟩
  · have unchanged := agrees.negative.mp (by rw [isNegative]; decide)
    exact delivered.not_unchanged unchanged
  · rw [registered] at unregistered
    cases unregistered

end SkynetCpp
