import SkynetCpp.ErrorLog
import SkynetCpp.Locality
import SkynetCpp.RuntimeFrame

namespace SkynetCpp

open Foundation

/-!
# Booting the node

`SkynetStart` up to the threads.  It launches the log service and names it
`logger` afterwards, while `NewContext` reports the launch through
`SkynetError`, which looks that name up once and for all.
-/

/-- `struct Config`, as far as the log service depends on it. -/
structure Config where
  harbor : Int
  profile : Int
  logger : String
  logservice : String
  deriving Repr, DecidableEq

/-- What `SkynetStart` initialises before the first `NewContext`. -/
def initialise
    (config : Config)
    (s : System) : System :=
  { s with
    storage := handleInit 1
    queues := { s.queues with head := none, tail := none }
    profile := config.profile ≠ 0
    harbor := Locality.harborInit config.harbor }

/--
`logger_init`; the argument tells whether it has a file to write to, which may
be `stdout`.
-/
def loggerInit
    (opened : Bool)
    (ctx : ContextId)
    (s : System) : Except Fault (Int × System) :=
  if opened then .ok (0, serviceCallback s ctx (some 0)) else .ok (1, s)

/--
`SkynetStart` up to the threads, for what the module system answers and the
`init` of the log service does; no context means that it calls `exit(1)`.
-/
def skynetStart
    (config : Config)
    (mod : Option Module)
    (inst : Bool)
    (init : ContextId → System → Except Fault (Int × System))
    (stack : Nat → Option Message)
    (fuel : Nat)
    (s : System) : Except Fault (Option ContextId × System) := do
  let request : LaunchRequest :=
    { name := config.logservice
      param := config.logger
      mod := mod
      inst := inst }
  match ← newContext request stack fuel init (initialise config s) with
  | (none, s) => .ok (none, s)
  | (some ctx, s) => do
      let (_, s) ← handleNamehandle s (s.contexts ctx).handle "logger"
      .ok (some ctx, s)

/-- The table of harbor 1 with one context in slot 1. -/
def enteredOnce (ctx : ContextId) : HandleStorage where
  harbor := 0x1000000
  handleIndex := 2
  slot := [none, some ctx, none, none]
  nameCount := 0
  name := List.replicate 2 { name := "", handle := 0 }

/-- The table of harbor 1 with one context in slots 1 and 2. -/
def enteredTwice (ctx : ContextId) : HandleStorage where
  harbor := 0x1000000
  handleIndex := 3
  slot := [none, some ctx, some ctx, none]
  nameCount := 0
  name := List.replicate 2 { name := "", handle := 0 }

/-- The log service after it was launched: registered twice, and deleted. -/
def loggerContext
    (config : Config)
    (mod : Module)
    (s : System) : Context where
  mod := mod
  handle := 0x1000002
  ref := 1
  queue := s.nextQueue + 1
  cb := some 0
  sessionId := 0
  init := false
  endless := false
  messageCount := 0
  profile := config.profile ≠ 0
  cpuCost := 0
  cpuStart := 0
  deleted := 1

/--
The node before its threads are started: one service under the second handle it
got, its queue alone in the global queue, the queue of its first handle lost.
-/
def booted
    (config : Config)
    (mod : Module)
    (s : System) : System where
  contexts :=
    Function.update s.contexts s.nextContext (loggerContext config mod s)
  nextContext := s.nextContext + 1
  queues :=
    { mq :=
        Function.update
          (Function.update s.queues.mq s.nextQueue (newMessageQueue 0x1000001))
          (s.nextQueue + 1) (newMessageQueue 0x1000002)
      head := some (s.nextQueue + 1)
      tail := some (s.nextQueue + 1) }
  nextQueue := s.nextQueue + 2
  storage :=
    { enteredTwice s.nextContext with
      nameCount := 1
      name :=
        [{ name := "logger", handle := 0x1000002 }, { name := "", handle := 0 }] }
  total := s.total + 2
  profile := config.profile ≠ 0
  harbor := Locality.harborInit config.harbor
  logger := some 0

section Start

variable
    {s : System}
    {ctx : ContextId}

theorem handleRegister_initialised
    (fresh : s.storage = handleInit 1)
    (ctx : ContextId) :
    handleRegister s ctx =
      .ok (0x1000001, { s with storage := enteredOnce ctx }) := by
  obtain ⟨contexts, nextContext, queues, nextQueue, storage, total, profile,
    harbor, logger⟩ := s
  subst fresh
  simp [handleRegister, registerLoop, HandleStorage.probe,
    HandleStorage.slotAt, HandleStorage.hash, kHandleMask, registerAt,
    HandleStorage.setSlot, handleInit, kHandleRemoteShift, enteredOnce,
    kDefaultSoltSize, List.replicate]
  decide

theorem handleRegister_enteredOnce
    (once : s.storage = enteredOnce ctx) :
    handleRegister s ctx =
      .ok (0x1000002, { s with storage := enteredTwice ctx }) := by
  obtain ⟨contexts, nextContext, queues, nextQueue, storage, total, profile,
    harbor, logger⟩ := s
  subst once
  simp [handleRegister, registerLoop, HandleStorage.probe,
    HandleStorage.slotAt, HandleStorage.hash, kHandleMask, registerAt,
    HandleStorage.setSlot, enteredOnce, enteredTwice]
  decide

theorem handleFindname_enteredTwice
    (twice : s.storage = enteredTwice ctx) :
    handleFindname s "logger" = 0 := by
  obtain ⟨contexts, nextContext, queues, nextQueue, storage, total, profile,
    harbor, logger⟩ := s
  subst twice
  rfl

theorem handleNamehandle_enteredTwice
    (twice : s.storage = enteredTwice ctx) :
    handleNamehandle s 0x1000002 "logger" =
      .ok
        ("logger",
          { s with
            storage :=
              { enteredTwice ctx with
                nameCount := 1
                name :=
                  [{ name := "logger", handle := 0x1000002 },
                    { name := "", handle := 0 }] } }) := by
  obtain ⟨contexts, nextContext, queues, nextQueue, storage, total, profile,
    harbor, logger⟩ := s
  subst twice
  rfl

/-- The node with a context under a new handle, in the given table. -/
def entered
    (s : System)
    (ctx : ContextId)
    (handle : UInt32)
    (storage : HandleStorage) : System :=
  { s.modify ctx fun context =>
      { context with handle := handle, queue := s.nextQueue } with
    storage := storage
    queues :=
      { s.queues with
        mq := Function.update s.queues.mq s.nextQueue (newMessageQueue handle) }
    nextQueue := s.nextQueue + 1
    total := s.total + 1 }

theorem enrollContext_initialised
    (fresh : s.storage = handleInit 1)
    (ctx : ContextId) :
    enrollContext s ctx = .ok (entered s ctx 0x1000001 (enteredOnce ctx)) := by
  rw [enrollContext, handleRegister_initialised fresh]
  rfl

theorem enrollContext_enteredOnce
    (once : s.storage = enteredOnce ctx) :
    enrollContext s ctx = .ok (entered s ctx 0x1000002 (enteredTwice ctx)) := by
  rw [enrollContext, handleRegister_enteredOnce once]
  rfl

/-- A launch that succeeds reports itself to nobody while nothing is named. -/
theorem launchSucceeded_enteredTwice
    (twice : s.storage = enteredTwice ctx)
    (unset : s.logger = none)
    (referenced : (s.contexts ctx).ref = 2)
    (handled : (s.contexts ctx).handle = 0x1000002)
    {queue : QueueId}
    (unlinked : (s.queues.mq queue).next = none)
    (idle : s.queues.tail = none)
    (request : LaunchRequest) :
    launchSucceeded request s ctx queue =
      .ok
        { deleteContext (contextUnref s ctx) ctx with
          queues := { s.queues with head := some queue, tail := some queue }
          logger := some 0 } := by
  have notLast : (s.contexts ctx).ref ≠ 1 := by
    rw [referenced]
    decide
  have released := contextRelease_of_not_last notLast
  have pushed :
      pushGlobalQueue (deleteContext (contextUnref s ctx) ctx) queue =
        .ok
          { deleteContext (contextUnref s ctx) ctx with
            queues := { s.queues with head := some queue, tail := some queue } } := by
    simp [pushGlobalQueue, globalQueuePush, deleteContext, contextUnref,
      unlinked, idle]
  have notNone :
      ((deleteContext (contextUnref s ctx) ctx).contexts ctx).handle ≠
        0xffffffff := by
    simp [deleteContext, contextUnref, handled]
  simp only [launchSucceeded, released, bind, Except.bind, if_true, pushed]
  rw [skynetError_eq notNone]
  have isZero (t : System) (sameStorage : t.storage = enteredTwice ctx)
      (sameLogger : t.logger = none) :
      cachedLogger t = 0 := by
    rw [cachedLogger, sameLogger, handleFindname_enteredTwice sameStorage]
    rfl
  rw [isZero _ (by exact twice) (by exact unset), if_pos rfl]

end Start

/-- The node when the constructor of the log service returns. -/
def constructedLogger
    (config : Config)
    (mod : Module)
    (s : System) : System :=
  entered
    { ((initialise config s).modify s.nextContext
        fun _ => freshContext (initialise config s) mod) with
      nextContext := s.nextContext + 1 }
    s.nextContext 0x1000001 (enteredOnce s.nextContext)

theorem constructContext_initialise
    (config : Config)
    (mod : Module)
    (s : System) :
    constructContext (initialise config s) mod =
      .ok (s.nextContext, constructedLogger config mod s) := by
  unfold constructContext
  dsimp only
  rw [enrollContext_initialised (by rfl)]
  rfl

/-- The node when `logger_init` has installed its callback. -/
def callbackLogger
    (config : Config)
    (mod : Module)
    (s : System) : System :=
  serviceCallback
    (entered (constructedLogger config mod s) s.nextContext 0x1000002
      (enteredTwice s.nextContext))
    s.nextContext (some 0)

/-- The queue of the second registration. -/
theorem queue_enteredTwice
    (config : Config)
    (mod : Module)
    (s : System) :
    ((entered (constructedLogger config mod s) s.nextContext 0x1000002
      (enteredTwice s.nextContext)).contexts s.nextContext).queue =
        s.nextQueue + 1 := by
  simp [entered, constructedLogger, initialise, System.modify]

theorem contexts_callbackLogger
    (config : Config)
    (mod : Module)
    (s : System) :
    (callbackLogger config mod s).contexts =
      Function.update s.contexts s.nextContext
        { loggerContext config mod s with ref := 2, deleted := 0 } := by
  simp [callbackLogger, serviceCallback, entered, constructedLogger,
    System.modify, freshContext, initialise, loggerContext]

theorem queues_callbackLogger
    (config : Config)
    (mod : Module)
    (s : System) :
    (callbackLogger config mod s).queues =
      { (booted config mod s).queues with head := none, tail := none } := by
  simp [callbackLogger, serviceCallback, entered, constructedLogger,
    System.modify, initialise, booted]

/-- The launch of the log service reports to nobody. -/
theorem launchSucceeded_callbackLogger
    {config : Config}
    {mod : Module}
    {s : System}
    (unset : s.logger = none)
    (request : LaunchRequest) :
    launchSucceeded request (callbackLogger config mod s) s.nextContext
        (s.nextQueue + 1) =
      .ok { booted config mod s with storage := enteredTwice s.nextContext } := by
  have context :
      (callbackLogger config mod s).contexts s.nextContext =
        { loggerContext config mod s with ref := 2, deleted := 0 } := by
    rw [contexts_callbackLogger, Function.update_self]
  have queues := queues_callbackLogger config mod s
  rw [launchSucceeded_enteredTwice (s := callbackLogger config mod s) rfl unset
    (by rw [context]) (by rw [context]; rfl)
    (by rw [queues]; simp [booted, newMessageQueue]) (by rw [queues])]
  have twice : s.total + 1 + 1 = s.total + 2 := by omega
  simp [deleteContext, contextUnref, System.modify, callbackLogger,
    serviceCallback, entered, constructedLogger, freshContext, initialise,
    booted, loggerContext, twice, toInt32]

theorem launchContext_opened
    {config : Config}
    {mod : Module}
    {s : System}
    (unset : s.logger = none)
    (inits : mod.init = true)
    (request : LaunchRequest)
    (stack : Nat → Option Message)
    (fuel : Nat) :
    launchContext request stack fuel (loggerInit true) mod s.nextContext
        (constructedLogger config mod s) =
      .ok
        (some s.nextContext,
          { booted config mod s with storage := enteredTwice s.nextContext }) := by
  rw [launchContext, enrollContext_enteredOnce (by rfl)]
  simp only [bind, Except.bind, inits, if_true, loggerInit, queue_enteredTwice]
  rw [← callbackLogger, launchSucceeded_callbackLogger unset]
  rfl

theorem launchContext_closed
    {request : LaunchRequest}
    {stack : Nat → Option Message}
    {fuel : Nat}
    {mod : Module}
    {ctx : ContextId}
    {s s' : System}
    {launched : Option ContextId}
    (returned :
      launchContext request stack fuel (loggerInit false) mod ctx s =
        .ok (launched, s')) :
    launched = none := by
  simp only [launchContext, bind_eq_ok_iff] at returned
  obtain ⟨_, _, returned⟩ := returned
  split at returned
  · simp only [bind_eq_ok_iff] at returned
    obtain ⟨⟨result, _⟩, inits, returned⟩ := returned
    cases inits
    rw [if_neg (by simp)] at returned
    simp only [bind_eq_ok_iff] at returned
    obtain ⟨_, _, returned⟩ := returned
    cases returned
    rfl
  · cases returned

theorem createInstance_mod
    {request : LaunchRequest}
    {found : Module}
    (created : createInstance request = .ok found) :
    request.mod = some found := by
  unfold createInstance at created
  split at created
  · cases created
  · next mod isMod =>
      split at created
      · split at created
        · injection created with isFound
          rw [isMod, isFound]
        · cases created
      · cases created

/-- Booting succeeds with any module that can create and initialise a log service. -/
theorem skynetStart_opened
    {config : Config}
    {mod : Module}
    {s : System}
    (unset : s.logger = none)
    (creates : mod.create = true)
    (inits : mod.init = true)
    (stack : Nat → Option Message)
    (fuel : Nat) :
    skynetStart config (some mod) true (loggerInit true) stack fuel s =
      .ok (some s.nextContext, booted config mod s) := by
  have isHandle :
      ((booted config mod s).contexts s.nextContext).handle = 0x1000002 := by
    simp [booted, loggerContext]
  simp only [skynetStart, newContext, createInstance, creates, if_true, bind,
    Except.bind, constructContext_initialise]
  rw [launchContext_opened unset inits]
  simp only [isHandle]
  rw [handleNamehandle_enteredTwice (by rfl)]
  rfl

/-- Booting ends without a log service, or in the node described above. -/
theorem skynetStart_cases
    {config : Config}
    {mod : Option Module}
    {inst opened : Bool}
    {stack : Nat → Option Message}
    {fuel : Nat}
    {s started : System}
    {ctx : ContextId}
    (unset : s.logger = none)
    (returned :
      skynetStart config mod inst (loggerInit opened) stack fuel s =
        .ok (some ctx, started)) :
    ∃ found,
      mod = some found ∧ ctx = s.nextContext ∧
        started = booted config found s := by
  simp only [skynetStart, newContext, bind_eq_ok_iff] at returned
  obtain
    ⟨⟨launched, s1⟩, ⟨found, created, ⟨ctx1, s2⟩, constructs, launches⟩,
      returned⟩ := returned
  rw [constructContext_initialise] at constructs
  cases constructs
  cases opened with
  | false =>
      rw [launchContext_closed launches] at returned
      cases returned
  | true =>
      cases inits : found.init with
      | false =>
          simp [launchContext, bind_eq_ok_iff, inits] at launches
      | true =>
          rw [launchContext_opened unset inits] at launches
          cases launches
          have isHandle :
              ((booted config found s).contexts s.nextContext).handle =
                0x1000002 := by
            simp [booted, loggerContext]
          simp only [isHandle, bind_eq_ok_iff] at returned
          obtain ⟨⟨text, s3⟩, named, returned⟩ := returned
          rw [handleNamehandle_enteredTwice (by rfl)] at named
          cases named
          cases returned
          exact ⟨found, createInstance_mod created, rfl, rfl⟩

theorem context_booted
    (config : Config)
    (mod : Module)
    (s : System) :
    (booted config mod s).contexts s.nextContext =
      loggerContext config mod s :=
  Function.update_self ..

theorem handleFindname_booted
    (config : Config)
    (mod : Module)
    (s : System) :
    handleFindname (booted config mod s) "logger" = 0x1000002 := by
  simp [handleFindname, booted, findnameLoop]

theorem handleLookup_booted
    (config : Config)
    (mod : Module)
    (s : System) :
    handleLookup (booted config mod s) 0x1000002 = some s.nextContext := by
  rw [handleLookup_eq_some_iff, context_booted]
  refine ⟨?_, rfl⟩
  simp [HandleStorage.slotAt, HandleStorage.hash, booted, enteredTwice]

/-- Two states of which the second has the static that the first one has set. -/
def KeepsLogger (s s' : System) : Prop :=
  ∀ handle, s.logger = some handle → s'.logger = some handle

/-- No section gives the static of `SkynetError` a second value. -/
theorem keptBySections_keepsLogger : KeptBySections KeepsLogger where
  refl := fun _ _ isSet => isSet
  trans := fun first second handle isSet => second handle (first handle isSet)
  context := fun _ _ _ _ isSet => isSet
  queues := fun _ _ _ _ isSet => isSet
  storage := fun _ _ _ isSet => isSet
  allocate := fun _ _ _ _ _ isSet => isSet
  total := fun _ _ _ isSet => isSet
  logger := by
    intro s handle isSet
    simp [isSet]

/-- With a static of 0, a call of `SkynetError` changes nothing. -/
theorem skynetError_muted
    {s : System}
    (muted : s.logger = some 0)
    (handle : UInt32)
    (msg : String) :
    skynetError s handle msg = .ok s := by
  unfold skynetError
  split
  · rfl
  · simp only [muted, Option.getD_some, ↓reduceIte]
    rw [← muted]

/--
Once `SkynetStart` has launched the log service, the name `logger` leads to its
context, which is registered though deleted, and still no text of `SkynetError`
ever reaches a queue: whatever the threads do, the call leaves the node as it
is, because its static was set by the report of the launch, before the name was
bound.
-/
theorem skynetStart_mutes_skynetError
    {config : Config}
    {mod : Option Module}
    {inst opened : Bool}
    {stack : Nat → Option Message}
    {fuel : Nat}
    {s started : System}
    {ctx : ContextId}
    (unset : s.logger = none)
    (returned :
      skynetStart config mod inst (loggerInit opened) stack fuel s =
        .ok (some ctx, started))
    {Thread : Type}
    [DecidableEq Thread]
    {past : List (Runtime Thread × (Thread × Action))}
    {final : Runtime Thread}
    (run : Run (Run.Steps Runtime.next?) (threadsOf Thread started) past final) :
    handleFindname started "logger" = (started.contexts ctx).handle ∧
      handleLookup started (handleFindname started "logger") = some ctx ∧
      (started.contexts ctx).deleted = 1 ∧
      ∀ rt ∈ Run.visited past final, ∀ handle msg unknown,
        skynetError rt.system handle msg = .ok rt.system ∧
          Frame.advance unknown rt.system (.skynetError handle msg) =
            .ok ([], rt.system) := by
  obtain ⟨found, _, rfl, rfl⟩ := skynetStart_cases unset returned
  refine ⟨?_, ?_, ?_, ?_⟩
  · rw [handleFindname_booted, context_booted]
    rfl
  · rw [handleFindname_booted]
    exact handleLookup_booted config found s
  · rw [context_booted]
    rfl
  · intro rt member handle msg unknown
    have kept : ∀ rt ∈ Run.visited past final, rt.system.logger = some 0 :=
      run.invariant_of_step rfl fun isSet taken =>
        keptBySections_keepsLogger.next taken 0 isSet
    have muted := kept rt member
    refine ⟨skynetError_muted muted handle msg, ?_⟩
    simp only [Frame.advance, muted, Option.getD_some, ↓reduceIte]
    split
    · rfl
    · rw [← muted]

/-- A configuration of harbor 1, with the log on `stdout`. -/
def soloConfig : Config where
  harbor := 1
  profile := 0
  logger := ""
  logservice := "logger"

/-- The node of that configuration, in which a thread reports a text. -/
theorem soloConfig_muted :
    ∃ past final,
      Run (Run.Steps Runtime.next?)
          (threadsOf Unit (booted soloConfig soloContext.mod soloSystem))
          past final ∧
        final.stackOf () = [.skynetError 0x1000002 "text"] ∧
        handleLookup (booted soloConfig soloContext.mod soloSystem)
            (handleFindname (booted soloConfig soloContext.mod soloSystem)
              "logger") = some 1 ∧
        Frame.advance Locality.quietUnknown final.system
            (.skynetError 0x1000002 "text") =
          .ok ([], final.system) := by
  have starts :
      skynetStart soloConfig (some soloContext.mod) true (loggerInit true)
          (fun _ => none) 0 soloSystem =
        .ok (some 1, booted soloConfig soloContext.mod soloSystem) :=
    skynetStart_opened rfl rfl rfl (fun _ => none) 0
  obtain ⟨past, final, run, calls⟩ :=
    Run.exists_of_replay
      (threadsOf Unit (booted soloConfig soloContext.mod soloSystem))
      Runtime.next? [((), .call (.skynetError 0x1000002 "text"))]
      (fun rt => rt.stackOf () = [.skynetError 0x1000002 "text"])
      (by decide +kernel)
  obtain ⟨_, found, _, mutes⟩ := skynetStart_mutes_skynetError rfl starts run
  exact
    ⟨past, final, run, of_decide_eq_true calls, found,
      (mutes final List.mem_cons_self 0x1000002 "text"
        Locality.quietUnknown).2⟩

end SkynetCpp
