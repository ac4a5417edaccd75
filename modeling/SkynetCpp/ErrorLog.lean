import SkynetCpp.Delivery
import SkynetCpp.Foundation.Run
import SkynetCpp.Foundation.Utf8
import SkynetCpp.HandleNames
import SkynetCpp.RemoteSend

namespace SkynetCpp

open Foundation

/-!
# What `SkynetError` logs

`SkynetError` looks the name `logger` up once and keeps the handle for good.
The size of its message is that of a pointer, whatever the text; the text is a
parameter by value, which is destroyed when the call returns.
-/

/-- The name `logger` stands for the handle of a live service. -/
def LoggerBound
    (s : System)
    (ctx : ContextId) : Prop :=
  ∃ entry,
    s.storage.entry "logger" = some entry ∧
      handleLookup s entry.handle = some ctx

/-- The value of the static `logger` in a call of `SkynetError`. -/
def cachedLogger (s : System) : UInt32 :=
  s.logger.getD (handleFindname s "logger")

/-- The service that a call of `SkynetError` sends to. -/
def cachedService (s : System) : Option ContextId :=
  if cachedLogger s = 0 then none else handleLookup s (cachedLogger s)

/-- The queue got this message at its end, and no other queue changed. -/
def PushesOne
    (before after : System)
    (queue : QueueId)
    (message : Message) : Prop :=
  ∀ other,
    (after.queues.mq other).messageQueue =
      if other = queue then
        (before.queues.mq other).messageQueue ++ [message]
      else
        (before.queues.mq other).messageQueue

/--
The text of a message as its size delimits it.  `memory` is what the receiver
finds at the address of a text, which is not allocated any more.
-/
def loggedText
    (memory : List UInt8 → Nat → UInt8)
    (message : Message) : List UInt8 :=
  match message.data with
  | some (.bytes content) =>
      (List.range (message.sz &&& kMessageTypeMask).toNat).map (memory content)
  | _ => []

/-- The service got one text message from the handle, with the text as given. -/
def Logged
    (memory : List UInt8 → Nat → UInt8)
    (before : System)
    (ctx : ContextId)
    (handle : UInt32)
    (msg : String)
    (after : System) : Prop :=
  ∃ message,
    PushesOne before after (before.contexts ctx).queue message ∧
      message.source = handle ∧
      (message.sz >>> kMessageTypeShift).toNat = kPtypeText.toNat ∧
      loggedText memory message = msg.toUTF8.toList

/-- A call logs to the bound logger, and does nothing when there is none. -/
structure LogsRightly
    (memory : List UInt8 → Nat → UInt8)
    (before : System)
    (handle : UInt32)
    (msg : String)
    (after : System) : Prop where
  bound :
    ∀ ctx, LoggerBound before ctx → Logged memory before ctx handle msg after
  unbound : (∀ ctx, ¬ LoggerBound before ctx) → QueuesUnchanged before after

/-- The text has the size of a pointer, and its memory still holds it. -/
def TextIntact
    (memory : List UInt8 → Nat → UInt8)
    (msg : String) : Prop :=
  (List.range 8).map (memory msg.toUTF8.toList) = msg.toUTF8.toList

/-- The cached handle reaches the bound logger and the text is delimited. -/
structure CacheRight
    (memory : List UInt8 → Nat → UInt8)
    (s : System)
    (msg : String) : Prop where
  bound :
    ∀ ctx,
      LoggerBound s ctx →
        (∃ cached,
          cachedService s = some cached ∧
            (s.contexts cached).queue = (s.contexts ctx).queue) ∧
          TextIntact memory msg
  unbound : (∀ ctx, ¬ LoggerBound s ctx) → cachedService s = none

section Call

variable
    {memory : List UInt8 → Nat → UInt8}
    {s after : System}
    {handle : UInt32}
    {msg : String}

theorem errorMessage_type
    (handle : UInt32)
    (msg : String) :
    ((errorMessage handle msg).sz >>> kMessageTypeShift).toNat =
      kPtypeText.toNat :=
  encodeSz_shiftRight (by decide) (by decide)

/-- The receiver reads eight bytes, whatever the text. -/
theorem loggedText_errorMessage
    (memory : List UInt8 → Nat → UInt8)
    (handle : UInt32)
    (msg : String) :
    loggedText memory (errorMessage handle msg) =
      (List.range 8).map (memory msg.toUTF8.toList) := by
  have isSize : (errorMessage handle msg).sz &&& kMessageTypeMask = 8 :=
    encodeSz_and_mask (by decide) (by decide)
  rw [loggedText, isSize]
  rfl

/-- Two messages that were appended are one, to the same queue. -/
theorem PushesOne.unique
    {queue queue' : QueueId}
    {message message' : Message}
    (appends : PushesOne s after queue message)
    (appends' : PushesOne s after queue' message') :
    queue = queue' ∧ message = message' := by
  have both := (appends queue).symm.trans (appends' queue)
  rw [if_pos rfl] at both
  by_cases same : queue = queue'
  · rw [if_pos same] at both
    injection List.append_cancel_left both with same'
    exact ⟨same, same'⟩
  · rw [if_neg same] at both
    simp at both

theorem PushesOne.not_unchanged
    {queue : QueueId}
    {message : Message}
    (appends : PushesOne s after queue message) :
    ¬ QueuesUnchanged s after := by
  intro unchanged
  have same := unchanged queue
  rw [appends, if_pos rfl] at same
  simp at same

/-- `SkynetError` in terms of the handle that it caches. -/
theorem skynetError_eq
    (notNone : handle ≠ 0xffffffff) :
    skynetError s handle msg =
      if cachedLogger s = 0 then
        .ok { s with logger := some (cachedLogger s) }
      else do
        return (← contextPush { s with logger := some (cachedLogger s) }
          (cachedLogger s) (errorMessage handle msg)).2 := by
  rw [skynetError, if_neg notNone]
  rfl

/-- A call sends to the service of its cached handle, if there is one. -/
theorem skynetError_cases
    (notNone : handle ≠ 0xffffffff)
    (returned : skynetError s handle msg = .ok after) :
    cachedService s = none ∧ QueuesUnchanged s after ∨
      ∃ cached,
        cachedService s = some cached ∧
          PushesOne s after (s.contexts cached).queue (errorMessage handle msg) := by
  rw [skynetError_eq notNone] at returned
  unfold cachedService
  by_cases isZero : cachedLogger s = 0
  · rw [if_pos isZero] at returned ⊢
    injection returned with isAfter
    subst isAfter
    exact Or.inl ⟨rfl, fun _ => rfl⟩
  · rw [if_neg isZero] at returned ⊢
    simp only [bind_eq_ok_iff] at returned
    obtain ⟨⟨pushed, next⟩, push, isAfter⟩ := returned
    injection isAfter with isAfter
    subst isAfter
    have sameLookup :
        handleLookup { s with logger := some (cachedLogger s) }
            (cachedLogger s) =
          handleLookup s (cachedLogger s) :=
      rfl
    cases lookup : handleLookup s (cachedLogger s) with
    | none =>
        rw [contextPush_of_unregistered (sameLookup.trans lookup)] at push
        cases push
        exact Or.inl ⟨rfl, fun _ => rfl⟩
    | some cached =>
        obtain ⟨_, ctx, registered, appended⟩ :=
          contextPush_of_registered (sameLookup.trans lookup) push
        cases registered.symm.trans (sameLookup.trans lookup)
        exact Or.inr ⟨cached, rfl, appended⟩

/-- A call logs rightly exactly when its cached handle is right. -/
theorem skynetError_logsRightly_iff
    (notNone : handle ≠ 0xffffffff)
    (returned : skynetError s handle msg = .ok after) :
    LogsRightly memory s handle msg after ↔ CacheRight memory s msg := by
  rcases skynetError_cases notNone returned with
    ⟨noService, unchanged⟩ | ⟨cached, isCached, appends⟩
  · constructor
    · intro rightly
      refine ⟨fun ctx bound => ?_, fun _ => noService⟩
      obtain ⟨message, appends, _⟩ := rightly.bound ctx bound
      exact absurd unchanged appends.not_unchanged
    · intro right
      refine ⟨fun ctx bound => ?_, fun _ => unchanged⟩
      obtain ⟨⟨cached, isCached, _⟩, _⟩ := right.bound ctx bound
      rw [noService] at isCached
      cases isCached
  · constructor
    · intro rightly
      refine
        ⟨fun ctx bound => ?_, fun unbound =>
          absurd (rightly.unbound unbound) appends.not_unchanged⟩
      obtain ⟨message, appends', _, _, isText⟩ := rightly.bound ctx bound
      obtain ⟨sameQueue, sameMessage⟩ := appends.unique appends'
      subst sameMessage
      rw [loggedText_errorMessage] at isText
      exact ⟨⟨cached, isCached, sameQueue⟩, isText⟩
    · intro right
      refine ⟨fun ctx bound => ?_, fun unbound => ?_⟩
      · obtain ⟨⟨other, isOther, sameQueue⟩, isText⟩ := right.bound ctx bound
        cases isCached.symm.trans isOther
        refine
          ⟨errorMessage handle msg, sameQueue ▸ appends, rfl,
            errorMessage_type handle msg, ?_⟩
        rw [loggedText_errorMessage]
        exact isText
      · rw [right.unbound unbound] at isCached
        cases isCached

end Call

/-- What may happen between two calls of `SkynetError`. -/
inductive ErrorAction where
  | skynetError (handle : UInt32) (msg : String)
  | handleNamehandle (handle : UInt32) (name : String)
  | handleRetire (handle : UInt32)
  /-- Anything else; the static of `SkynetError` is its own. -/
  | elsewhere

/-- One call that returns, or something that leaves the static alone. -/
inductive ErrorStep : System → ErrorAction → System → Prop where
  | skynetError
      {s after : System}
      {handle : UInt32}
      {msg : String}
      (notNone : handle ≠ 0xffffffff)
      (returned : SkynetCpp.skynetError s handle msg = .ok after) :
      ErrorStep s (.skynetError handle msg) after
  | handleNamehandle
      {s after : System}
      {handle : UInt32}
      {name result : String}
      (returned : SkynetCpp.handleNamehandle s handle name = .ok (result, after)) :
      ErrorStep s (.handleNamehandle handle name) after
  | handleRetire
      {s after : System}
      {handle : UInt32}
      {result : Int}
      (returned : SkynetCpp.handleRetire s handle = .ok (result, after)) :
      ErrorStep s (.handleRetire handle) after
  | elsewhere
      {s after : System}
      (sameLogger : after.logger = s.logger) :
      ErrorStep s .elsewhere after

/-- What the first call of a history, latest first, found for the logger. -/
def firstFound : List (System × ErrorAction) → Option UInt32
  | [] => none
  | (s, .skynetError _ _) :: earlier =>
      some ((firstFound earlier).getD (handleFindname s "logger"))
  | _ :: earlier => firstFound earlier

section Cached

variable {s after : System}

theorem contextRelease_logger
    {ctx : ContextId}
    {inUse : Bool}
    (returned : contextRelease s ctx = .ok (inUse, after)) :
    after.logger = s.logger := by
  rcases contextRelease_cases returned with
    ⟨_, _, isReleased⟩ | ⟨_, _, queues, _, isReleased⟩
  · rw [isReleased]
    rfl
  · rw [isReleased]
    rfl

theorem contextPush_logger
    {handle : UInt32}
    {message : Message}
    {pushed : Bool}
    (returned : contextPush s handle message = .ok (pushed, after)) :
    after.logger = s.logger := by
  cases registered : handleLookup s handle with
  | none =>
      rw [contextPush_of_unregistered registered] at returned
      cases returned
      rfl
  | some ctx =>
      simp only [contextPush, handleGrab, registered, bind_eq_ok_iff] at returned
      obtain ⟨queues, _, ⟨inUse, released⟩, dropped, isAfter⟩ := returned
      cases isAfter
      exact (contextRelease_logger dropped).trans rfl

theorem handleRetire_logger
    {handle : UInt32}
    {result : Int}
    (returned : handleRetire s handle = .ok (result, after)) :
    after.logger = s.logger := by
  rcases handleRetire_cases returned with ⟨_, isSame⟩ | ⟨ctx, inUse, _, released⟩
  · rw [isSame]
  · exact (contextRelease_logger released).trans rfl

theorem handleNamehandle_logger
    {handle : UInt32}
    {name result : String}
    (returned : handleNamehandle s handle name = .ok (result, after)) :
    after.logger = s.logger := by
  unfold handleNamehandle at returned
  split at returned
  · cases returned
    rfl
  · split at returned
    · cases returned
    · cases returned
      rfl

/-- A call leaves the handle that it used in the static. -/
theorem skynetError_logger
    {handle : UInt32}
    {msg : String}
    (notNone : handle ≠ 0xffffffff)
    (returned : skynetError s handle msg = .ok after) :
    after.logger = some (cachedLogger s) := by
  rw [skynetError_eq notNone] at returned
  split at returned
  · cases returned
    rfl
  · simp only [bind_eq_ok_iff] at returned
    obtain ⟨⟨pushed, next⟩, push, isAfter⟩ := returned
    cases isAfter
    exact contextPush_logger push

variable
    {initial final : System}
    {past : List (System × ErrorAction)}

/-- The static is what the first call found, in every state of a run. -/
theorem logger_eq_firstFound
    (unset : initial.logger = none)
    (run : Run ErrorStep initial past final) :
    final.logger = firstFound past := by
  induction run with
  | nil =>
      exact unset
  | @snoc past last next action earlier taken inductionHypothesis =>
      cases taken with
      | skynetError notNone returned =>
          rw [skynetError_logger notNone returned, cachedLogger,
            inductionHypothesis]
          rfl
      | handleNamehandle returned =>
          exact (handleNamehandle_logger returned).trans inductionHypothesis
      | handleRetire returned =>
          exact (handleRetire_logger returned).trans inductionHypothesis
      | elsewhere sameLogger =>
          exact sameLogger.trans inductionHypothesis

end Cached

/-- Every call of a history logged rightly. -/
def AllLogRightly
    (memory : List UInt8 → Nat → UInt8)
    (past : List (System × ErrorAction)) : Prop :=
  ∀ s handle msg after,
    (s, .skynetError handle msg) ∈ past →
      skynetError s handle msg = .ok after →
        LogsRightly memory s handle msg after

section Runs

variable
    {initial final : System}
    {past : List (System × ErrorAction)}

/-- Every call of a run was made with a handle other than -1, and returned. -/
theorem skynetError_of_mem
    (run : Run ErrorStep initial past final)
    {s : System}
    {handle : UInt32}
    {msg : String}
    (member : (s, .skynetError handle msg) ∈ past) :
    handle ≠ 0xffffffff ∧ ∃ after, skynetError s handle msg = .ok after := by
  obtain ⟨after, _, taken⟩ := run.exists_next member
  cases taken with
  | skynetError notNone returned =>
      exact ⟨notNone, after, returned⟩

/--
The calls of a run log rightly exactly when each finds the handle that the
first one found to be that of the bound logger, and its text has eight bytes
that outlive it.
-/
theorem errorRun_logs_iff
    (memory : List UInt8 → Nat → UInt8)
    (unset : initial.logger = none)
    (run : Run ErrorStep initial past final) :
    (AllLogRightly memory past ↔
      ∀ s handle msg,
        (s, .skynetError handle msg) ∈ past → CacheRight memory s msg) ∧
      final.logger = firstFound past := by
  refine ⟨⟨?_, ?_⟩, logger_eq_firstFound unset run⟩
  · intro rightly s handle msg member
    obtain ⟨notNone, after, returned⟩ := skynetError_of_mem run member
    exact
      (skynetError_logsRightly_iff notNone returned).mp
        (rightly s handle msg after member returned)
  · intro right s handle msg after member returned
    obtain ⟨notNone, _⟩ := skynetError_of_mem run member
    exact
      (skynetError_logsRightly_iff notNone returned).mpr
        (right s handle msg member)

end Runs

section Solo

/-- A memory that keeps every text, with zeros behind it. -/
def keptMemory (content : List UInt8) (i : Nat) : UInt8 :=
  content.getD i 0

theorem stopping_intact : TextIntact keptMemory "stopping" := by
  rw [TextIntact, utf8_eq_flatMap]
  decide

/-- A registered logger is sent a text of eight bytes. -/
theorem namedLogger_logsRightly :
    ∃ past final message,
      Run ErrorStep soloSystem past final ∧
        past.map Prod.snd =
          [.skynetError 1 "stopping", .handleNamehandle 1 "logger"] ∧
        AllLogRightly keptMemory past ∧
        final.logger = some 1 ∧
        (final.queues.mq 0).messageQueue = [message] ∧
        loggedText keptMemory message = "stopping".toUTF8.toList := by
  obtain ⟨bound, named, lookup, isCached, sameQueue, after, returned, sent⟩ :
      ∃ bound,
        handleNamehandle soloSystem 1 "logger" = .ok ("logger", bound) ∧
          handleLookup bound 1 = some 0 ∧
          cachedService bound = some 0 ∧
          (∀ ctx, (bound.contexts ctx).queue = 0) ∧
          ∃ after,
            skynetError bound 1 "stopping" = .ok after ∧
              (after.queues.mq 0).messageQueue = [errorMessage 1 "stopping"] :=
    ⟨_, rfl, rfl, rfl, fun _ => rfl, _, rfl, rfl⟩
  have notNone : (1 : UInt32) ≠ 0xffffffff := by decide
  have run :
      Run ErrorStep soloSystem
        [(bound, .skynetError 1 "stopping"),
          (soloSystem, .handleNamehandle 1 "logger")]
        after :=
    (Run.nil.snoc (.handleNamehandle named)).snoc
      (.skynetError notNone returned)
  obtain ⟨logs, isFirst⟩ := errorRun_logs_iff keptMemory rfl run
  refine
    ⟨_, _, _, run, rfl, logs.mpr ?_, ?_, sent,
      (loggedText_errorMessage ..).trans stopping_intact⟩
  · intro s handle msg member
    simp only [List.mem_cons, Prod.mk.injEq, ErrorAction.skynetError.injEq,
      reduceCtorEq, and_false, List.not_mem_nil, or_false] at member
    obtain ⟨isBound, _, isText⟩ := member
    subst isBound
    subst isText
    refine
      ⟨fun ctx _ =>
        ⟨⟨0, isCached, (sameQueue 0).trans (sameQueue ctx).symm⟩,
          stopping_intact⟩, ?_⟩
    intro unbound
    cases named
    exact absurd ⟨_, rfl, lookup⟩ (unbound 0)
  · rw [isFirst]
    cases named
    rfl

/--
A call before the logger is registered stops the later ones from being logged.
-/
theorem earlyCall_not_logsRightly :
    ∃ past final bound,
      Run ErrorStep soloSystem past final ∧
        past.map Prod.snd =
          [.skynetError 1 "stopping", .handleNamehandle 1 "logger",
            .skynetError 1 "starting"] ∧
        (bound, .skynetError 1 "stopping") ∈ past ∧
        LoggerBound bound 0 ∧
        QueuesUnchanged bound final ∧
        ¬ AllLogRightly keptMemory past := by
  obtain ⟨bound, named, isBound, isZero⟩ :
      ∃ bound,
        handleNamehandle { soloSystem with logger := some 0 } 1 "logger" =
            .ok ("logger", bound) ∧
          LoggerBound bound 0 ∧ bound.logger = some 0 :=
    ⟨_, rfl, ⟨_, rfl, rfl⟩, rfl⟩
  have notNone : (1 : UInt32) ≠ 0xffffffff := by decide
  have returned : skynetError bound 1 "stopping" = .ok bound := by
    rw [skynetError_eq notNone]
    have isCached : cachedLogger bound = 0 := by
      rw [cachedLogger, isZero]
      rfl
    rw [isCached, if_pos rfl, ← isZero]
  have started :
      Run ErrorStep soloSystem [(soloSystem, .skynetError 1 "starting")]
        { soloSystem with logger := some 0 } :=
    Run.nil.snoc (.skynetError notNone rfl)
  have run :=
    (started.snoc (.handleNamehandle named)).snoc (.skynetError notNone returned)
  refine
    ⟨_, _, bound, run, rfl, List.mem_cons_self .., isBound, fun _ => rfl, ?_⟩
  intro rightly
  obtain ⟨message, appends, _⟩ :=
    (rightly bound 1 "stopping" bound (List.mem_cons_self ..) returned).bound 0
      isBound
  exact appends.not_unchanged fun _ => rfl

end Solo

end SkynetCpp
