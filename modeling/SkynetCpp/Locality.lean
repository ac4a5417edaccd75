import SkynetCpp.Foundation.Bits
import SkynetCpp.Foundation.Run
import SkynetCpp.HarborService
import SkynetCpp.Runtime

namespace SkynetCpp

open Foundation

/-!
# Which handles are local

The handle table, `HarborMessageIsRemote`, `ServiceIsRemote` and the two tests
of the harbor service each keep a copy of the id of the node, or none.  The
table always gets the id 1, whatever is configured, so that the copies agree
for that id only, and `ServiceIsRemote` for the handles of that id and for
those without one.
-/

namespace Locality

/-- `HarborInit`. -/
def harborInit (harbor : Int) : UInt32 :=
  UInt32.ofInt harbor <<< kHandleRemoteShift

/-- What `SkynetStart` has initialised before the first `NewContext`. -/
structure Initialised
    (harbor : Int)
    (s : System) : Prop where
  harbor : s.harbor = harborInit harbor
  storage : s.storage = handleInit 1

/-- `ServiceIsRemote`: the result, and what it stores through `harbor`. -/
def serviceIsRemote (handle : UInt32) : Int × Int :=
  (0, (handle >>> kHandleRemoteShift).toNat)

end Locality

namespace HarborService

/-- The test of `remote_send_handle` for a handle of this node. -/
def sendsLocally
    (h : HarborService)
    (destination : UInt32) : Bool :=
  ((destination >>> kHandleRemoteShift).toNat : Int) = h.id

/-- The test of `dispatch_name_queue` for a name of this node. -/
def dispatchesLocally
    (h : HarborService)
    (handle : UInt32) : Bool :=
  (handle >>> kHandleRemoteShift).toNat =
    (h.slave >>> kHandleRemoteShift).toNat

/-- A message to a handle of this node is sent on the node. -/
theorem remoteSendHandle_of_sendsLocally
    {h : HarborService}
    {destination : UInt32}
    (isLocal : h.sendsLocally destination)
    (source type : UInt32)
    (session : Int)
    (msg : List UInt8)
    (sz : Nat) :
    h.remoteSendHandle source destination type session msg sz =
      (true, h,
        [.action (.call (.serviceSend source destination
          (type ||| kPtypeTagDontcopy) session (some (msg.take sz))
          (UInt64.ofNat sz)))]) := by
  have sameId := of_decide_eq_true isLocal
  simp only [remoteSendHandle, sameId, ↓reduceIte]

end HarborService

namespace Locality

/-- All places that decide whether a handle is local agree. -/
structure Agree
    (id : Nat)
    (slave handle : UInt32)
    (s : System) : Prop where
  handleRegister :
    ∀ ctx registered after,
      SkynetCpp.handleRegister s ctx = .ok (registered, after) →
        harborMessageIsRemote s registered = .ok false
  serviceIsRemote :
    harborMessageIsRemote s handle =
      .ok (decide ((Locality.serviceIsRemote handle).1 ≠ 0))
  remoteSendHandle :
    ∀ h : HarborService, h.id = id →
      handle >>> kHandleRemoteShift ≠ 0 →
        harborMessageIsRemote s handle = .ok (!h.sendsLocally handle)
  dispatchNameQueue :
    ∀ h : HarborService, h.slave = slave →
      handle >>> kHandleRemoteShift ≠ 0 →
        harborMessageIsRemote s handle = .ok (!h.dispatchesLocally handle)

/-- The ids that two states of the node hold are the same. -/
structure SameIds (s s' : System) : Prop where
  harbor : s'.harbor = s.harbor
  storage : s'.storage.harbor = s.storage.harbor

namespace SameIds

variable {s s' s'' : System}

theorem refl (s : System) : SameIds s s :=
  ⟨rfl, rfl⟩

theorem trans
    (first : SameIds s s')
    (second : SameIds s' s'') :
    SameIds s s'' :=
  ⟨second.harbor.trans first.harbor, second.storage.trans first.storage⟩

theorem contextRelease
    {ctx : ContextId}
    {inUse : Bool}
    (returned : contextRelease s ctx = .ok (inUse, s')) :
    SameIds s s' := by
  rcases contextRelease_cases returned with
    ⟨_, _, isReleased⟩ | ⟨_, _, queues, _, isReleased⟩
  · subst isReleased
    exact ⟨rfl, rfl⟩
  · subst isReleased
    exact ⟨rfl, rfl⟩

theorem handleGrab
    {handle : UInt32}
    {ctx : Option ContextId}
    (grabbed : handleGrab s handle = (ctx, s')) :
    SameIds s s' := by
  unfold SkynetCpp.handleGrab at grabbed
  split at grabbed
  · injection grabbed with _ isState
    subst isState
    exact ⟨rfl, rfl⟩
  · injection grabbed with _ isState
    subst isState
    exact refl s

theorem handleUnlink
    {handle : UInt32}
    {ctx : Option ContextId}
    (unlinked : handleUnlink s handle = (ctx, s')) :
    SameIds s s' := by
  unfold SkynetCpp.handleUnlink at unlinked
  split at unlinked
  · injection unlinked with _ isState
    subst isState
    exact ⟨rfl, rfl⟩
  · injection unlinked with _ isState
    subst isState
    exact refl s

theorem pushGlobalQueue
    {queue : QueueId}
    (pushed : pushGlobalQueue s queue = .ok s') :
    SameIds s s' := by
  obtain ⟨queues, _, isState⟩ := pushGlobalQueue_eq_ok_iff.mp pushed
  subst isState
  exact ⟨rfl, rfl⟩

theorem popGlobalQueue
    {queue : Option QueueId}
    (popped : popGlobalQueue s = .ok (queue, s')) :
    SameIds s s' := by
  obtain ⟨queues, _, isState⟩ := popGlobalQueue_eq_ok_iff.mp popped
  subst isState
  exact ⟨rfl, rfl⟩

/-- A growth step copies the id. -/
theorem growSlots
    (returned : growSlots s = .ok s') :
    SameIds s s' := by
  obtain ⟨newSlot, -, -, rfl⟩ := growSlots_rehashes returned
  exact ⟨rfl, rfl⟩

/-- A registration writes no id. -/
theorem handleRegister
    {ctx : ContextId}
    {handle : UInt32}
    (returned : handleRegister s ctx = .ok (handle, s')) :
    SameIds s s' := by
  apply handleRegister_induction returned
  · intro t found _ _ isState
    subst isState
    exact ⟨rfl, rfl⟩
  · intro t grown grows inductionHypothesis
    exact (growSlots grows).trans inductionHypothesis

theorem enrollContext
    {ctx : ContextId}
    (returned : enrollContext s ctx = .ok s') :
    SameIds s s' := by
  unfold SkynetCpp.enrollContext at returned
  split at returned
  · next handle registered registers =>
      injection returned with isState
      subst isState
      exact (handleRegister registers).trans ⟨rfl, rfl⟩
  · cases returned

theorem constructContext
    {ctx : ContextId}
    {mod : Module}
    (returned : constructContext s mod = .ok (ctx, s')) :
    SameIds s s' := by
  simp only [SkynetCpp.constructContext, bind_eq_ok_iff] at returned
  obtain ⟨enrolled, enrolls, returned⟩ := returned
  injection returned with returned
  injection returned with _ isState
  subst isState
  have kept := enrollContext enrolls
  exact ⟨kept.harbor, kept.storage⟩

/-- A section that returned has returned its last state. -/
theorem of_ok
    {t : System}
    {frames frames' : List Frame}
    (returned :
      (.ok (frames', t) : Except Fault (List Frame × System)) =
        .ok (frames, s'))
    (same : SameIds s t) :
    SameIds s s' := by
  injection returned with returned
  injection returned with _ isState
  exact isState ▸ same

/-- No section of an operation writes an id. -/
theorem advance
    {frame : Frame}
    {frames : List Frame}
    {unknown : Unknown}
    (advanced : frame.advance unknown s = .ok (frames, s')) :
    SameIds s s' := by
  cases frame with
  | contextPush handle msg =>
      rcases grabbed : SkynetCpp.handleGrab s handle with ⟨_ | ctx, t⟩
      all_goals
        simp only [Frame.advance, grabbed, Except.ok.injEq,
          Prod.mk.injEq] at advanced
        exact advanced.2 ▸ handleGrab grabbed
  | pushGrabbed ctx msg =>
      simp only [Frame.advance, bind_eq_ok_iff] at advanced
      obtain ⟨queues, _, advanced⟩ := advanced
      exact of_ok advanced ⟨rfl, rfl⟩
  | release ctx =>
      simp only [Frame.advance, bind_eq_ok_iff] at advanced
      obtain ⟨⟨inUse, t⟩, released, advanced⟩ := advanced
      exact of_ok advanced (contextRelease released)
  | delete ctx =>
      exact of_ok advanced ⟨rfl, rfl⟩
  | endless handle =>
      rcases grabbed : SkynetCpp.handleGrab s handle with ⟨_ | ctx, t⟩
      all_goals
        simp only [Frame.advance, grabbed, Except.ok.injEq,
          Prod.mk.injEq] at advanced
        exact advanced.2 ▸ (handleGrab grabbed).trans ⟨rfl, rfl⟩
  | grab handle =>
      rcases grabbed : SkynetCpp.handleGrab s handle with ⟨_ | ctx, t⟩
      all_goals
        simp only [Frame.advance, grabbed, Except.ok.injEq,
          Prod.mk.injEq] at advanced
        exact advanced.2 ▸ handleGrab grabbed
  | grabbed ctx =>
      exact of_ok advanced (refl s)
  | handleRetire handle =>
      rcases unlinked : SkynetCpp.handleUnlink s handle with ⟨_ | ctx, t⟩
      all_goals
        simp only [Frame.advance, unlinked, Except.ok.injEq,
          Prod.mk.injEq] at advanced
        exact advanced.2 ▸ handleUnlink unlinked
  | skynetError handle text =>
      simp only [Frame.advance] at advanced
      split at advanced
      · exact of_ok advanced (refl s)
      · split at advanced
        all_goals
          exact of_ok advanced ⟨rfl, rfl⟩
  | newContext request =>
      simp only [Frame.advance, bind_eq_ok_iff] at advanced
      obtain ⟨mod, _, ⟨ctx, t⟩, constructs, advanced⟩ := advanced
      exact of_ok advanced (constructContext constructs)
  | constructed ctx mod request =>
      simp only [Frame.advance, bind_eq_ok_iff] at advanced
      obtain ⟨t, enrolls, advanced⟩ := advanced
      split at advanced
      · exact of_ok advanced (enrollContext enrolls)
      · cases advanced
  | initialising ctx queue request =>
      simp only [Frame.advance] at advanced
      split at advanced
      all_goals
        exact of_ok advanced (refl s)
  | launchRelease ctx queue request =>
      simp only [Frame.advance, bind_eq_ok_iff] at advanced
      obtain ⟨⟨ret, t⟩, released, advanced⟩ := advanced
      split at advanced
      all_goals
        exact of_ok advanced ((contextRelease released).trans ⟨rfl, rfl⟩)
  | launchPush queue =>
      simp only [Frame.advance, bind_eq_ok_iff] at advanced
      obtain ⟨t, pushes, advanced⟩ := advanced
      exact of_ok advanced (pushGlobalQueue pushes)
  | launchFailed ctx queue =>
      simp only [Frame.advance, bind_eq_ok_iff] at advanced
      obtain ⟨⟨inUse, t⟩, released, advanced⟩ := advanced
      exact of_ok advanced (contextRelease released)
  | queueRelease queue handle =>
      simp only [Frame.advance] at advanced
      split at advanced
      · exact of_ok advanced (refl s)
      · simp only [bind_eq_ok_iff] at advanced
        obtain ⟨t, pushes, advanced⟩ := advanced
        exact of_ok advanced (pushGlobalQueue pushes)
  | draining queue handle =>
      simp only [Frame.advance] at advanced
      split at advanced
      · simp only [bind_eq_ok_iff] at advanced
        obtain ⟨dropping, _, advanced⟩ := advanced
        exact of_ok advanced ⟨rfl, rfl⟩
      · split at advanced
        · exact of_ok advanced ⟨rfl, rfl⟩
        · cases advanced
  | messageDispatch queue weight =>
      cases queue with
      | none =>
          simp only [Frame.advance, bind_eq_ok_iff] at advanced
          obtain ⟨⟨queue, t⟩, pops, advanced⟩ := advanced
          exact of_ok advanced (popGlobalQueue pops)
      | some queue =>
          rcases grabbed :
              SkynetCpp.handleGrab s (s.queues.mq queue).handle with
            ⟨_ | ctx, t⟩
          all_goals
            simp only [Frame.advance, grabbed, Except.ok.injEq,
              Prod.mk.injEq] at advanced
            exact advanced.2 ▸ handleGrab grabbed
  | dispatchPop turns =>
      simp only [Frame.advance] at advanced
      split at advanced
      · split at advanced
        · exact of_ok advanced ⟨rfl, rfl⟩
        · split at advanced
          all_goals
            exact of_ok advanced ⟨rfl, rfl⟩
      · split at advanced
        · simp only [bind_eq_ok_iff] at advanced
          obtain ⟨⟨queue, t⟩, pops, advanced⟩ := advanced
          cases queue with
          | none =>
              exact of_ok advanced (popGlobalQueue pops)
          | some queue =>
              exact of_ok advanced (popGlobalQueue pops)
        · cases advanced
  | dispatchLength turns =>
      exact of_ok advanced (refl s)
  | dispatchTurn turns =>
      simp only [Frame.advance] at advanced
      split at advanced
      · exact of_ok advanced ⟨rfl, rfl⟩
      · split at advanced
        · exact of_ok advanced ⟨rfl, rfl⟩
        · cases advanced
  | callback turns =>
      exact of_ok advanced (refl s)
  | dispatchBack turns next =>
      simp only [Frame.advance, bind_eq_ok_iff] at advanced
      obtain ⟨t, pushes, advanced⟩ := advanced
      exact of_ok advanced (pushGlobalQueue pushes)
  | dispatchNext weight =>
      simp only [Frame.advance, bind_eq_ok_iff] at advanced
      obtain ⟨⟨queue, t⟩, pops, advanced⟩ := advanced
      exact of_ok advanced (popGlobalQueue pops)

/-- No step of a thread writes an id. -/
theorem next
    {Thread : Type}
    [DecidableEq Thread]
    {rt rt' : Runtime Thread}
    {label : Thread × Action}
    (taken : rt.next? label = some rt') :
    SameIds rt.system rt'.system := by
  obtain ⟨thread, action⟩ := label
  cases action with
  | advance unknown =>
      obtain ⟨_, _, _, _, _, advanced, isState⟩ := Runtime.next?_advance taken
      subst isState
      exact advance advanced
  | call operation =>
      obtain ⟨_, _, isState⟩ := Runtime.next?_call taken
      subst isState
      exact refl _
  | serviceCallback cb =>
      obtain ⟨_, _, isState⟩ := Runtime.next?_serviceCallback taken
      subst isState
      exact ⟨rfl, rfl⟩
  | harborStart =>
      simp only [Runtime.next?] at taken
      split at taken
      · injection taken with isState
        subst isState
        exact ⟨rfl, rfl⟩
      · cases taken
  | harborExit =>
      simp only [Runtime.next?] at taken
      split at taken
      · split at taken
        · injection taken with isState
          subst isState
          exact refl _
        · cases taken
      · cases taken

end SameIds

/-- The harbor id in a handle. -/
def highByte (handle : UInt32) : Nat :=
  (handle >>> kHandleRemoteShift).toNat

theorem highByte_eq_div
    (handle : UInt32) :
    highByte handle = handle.toNat / 2 ^ 24 :=
  UInt32.toNat_shiftRight_of_lt rfl (by decide) handle

/-- The bits above the mask are the harbor id in its place. -/
theorem toNat_and_not_mask
    (handle : UInt32) :
    (handle &&& ~~~kHandleMask).toNat = highByte handle * 2 ^ 24 := by
  have isMask : (~~~kHandleMask).toNat = (2 ^ 8 - 1) <<< 24 := by decide
  rw [UInt32.toNat_and, isMask, highByte_eq_div, ← Nat.shiftRight_eq_div_pow,
    ← Nat.shiftLeft_eq]
  apply Nat.eq_of_testBit_eq
  intro bit
  rw [Nat.testBit_and, Nat.testBit_shiftLeft, Nat.testBit_shiftLeft,
    Nat.testBit_two_pow_sub_one, Nat.testBit_shiftRight]
  by_cases low : bit < 24
  · simp [Nat.not_le.mpr low]
  · have restored : 24 + (bit - 24) = bit := by omega
    rw [restored]
    by_cases inWord : bit < 32
    · have inByte : bit - 24 < 8 := by omega
      simp [Nat.not_lt.mp low, inByte]
    · have outside : handle.toNat.testBit bit = false :=
        Nat.testBit_lt_two_pow
          (Nat.lt_of_lt_of_le handle.toNat_lt
            (Nat.pow_le_pow_right (by decide) (Nat.not_lt.mp inWord)))
      simp [outside]

/-- A configured id of one byte stands in the high bits. -/
theorem toNat_harborInit
    {id : Nat}
    (oneByte : id ≤ 255) :
    (harborInit id).toNat = id * 2 ^ 24 := by
  have isId : (UInt32.ofInt (id : Int)).toNat = id := by
    rw [Foundation.UInt32.ofInt_natCast, UInt32.toNat_ofNat']
    omega
  rw [harborInit, UInt32.toNat_shiftLeft, isId,
    show kHandleRemoteShift.toNat % 32 = 24 from rfl, Nat.shiftLeft_eq]
  omega

/-- `HarborMessageIsRemote` compares the id in the handle. -/
theorem harborMessageIsRemote_eq
    {s : System}
    {id : Nat}
    (configured : s.harbor = harborInit id)
    (oneByte : id ≤ 255)
    (handle : UInt32) :
    harborMessageIsRemote s handle =
      .ok (decide (highByte handle ≠ id ∧ highByte handle ≠ 0)) := by
  have isId := toNat_harborInit oneByte
  have isSet : s.harbor ≠ 0xffffffff := by
    rw [configured]
    intro unset
    rw [unset] at isId
    have word : (0xffffffff : UInt32).toNat = 4294967295 := rfl
    omega
  have high := toNat_and_not_mask handle
  have other :
      handle &&& ~~~kHandleMask ≠ s.harbor ↔ highByte handle ≠ id := by
    rw [configured, Ne, ← UInt32.toNat_inj, high, isId]
    omega
  have some :
      handle &&& ~~~kHandleMask ≠ 0 ↔ highByte handle ≠ 0 := by
    rw [Ne, ← UInt32.toNat_inj, high]
    show ¬ _ = 0 ↔ _
    omega
  simp only [harborMessageIsRemote, isSet, ↓reduceIte, other, some]

/-- The table of a started node gives every handle the id 1. -/
theorem highByte_of_handleRegister
    {s after : System}
    {ctx : ContextId}
    {handle : UInt32}
    (configured : s.storage.harbor = (handleInit 1).harbor)
    (returned : handleRegister s ctx = .ok (handle, after)) :
    highByte handle = 1 := by
  revert configured
  apply handleRegister_induction returned
  · intro t found scanned isHandle _ configured
    have small := HandleStorage.le_mask_of_probe scanned
    have noHighByte : found.toNat >>> 24 = 0 := by
      have bound : found.toNat ≤ 2 ^ 24 - 1 := UInt32.le_iff_toNat_le.mp small
      rw [Nat.shiftRight_eq_div_pow]
      omega
    have one : (handleInit 1).harbor.toNat >>> 24 = 1 := rfl
    rw [isHandle, configured, highByte_eq_div, UInt32.toNat_or,
      ← Nat.shiftRight_eq_div_pow, Nat.shiftRight_or_distrib, noHighByte,
      one, Nat.zero_or]
  · intro t grown grows inductionHypothesis configured
    have kept := (SameIds.growSlots grows).storage
    exact inductionHypothesis (kept.trans configured)

/-- A started node gives its first handle. -/
theorem Initialised.registers
    {harbor : Int}
    {s : System}
    (initialised : Initialised harbor s)
    (ctx : ContextId) :
    ∃ handle after, handleRegister s ctx = .ok (handle, after) := by
  have found :
      s.storage.probe s.storage.slot.length s.storage.handleIndex = some 1 := by
    rw [initialised.storage]
    rfl
  refine ⟨1 ||| s.storage.harbor, registerAt s ctx 1, ?_⟩
  unfold handleRegister registerLoop
  rw [found]

/-- What a started node holds of its id, in every later state. -/
structure Configured
    (harbor : Int)
    (s : System) : Prop where
  harbor : s.harbor = harborInit harbor
  storage : s.storage.harbor = (handleInit 1).harbor

theorem Initialised.configured
    {harbor : Int}
    {s : System}
    (initialised : Initialised harbor s) :
    Configured harbor s :=
  ⟨initialised.harbor, by rw [initialised.storage]⟩

theorem highByte_ne_zero
    {handle : UInt32}
    (nonzero : handle >>> kHandleRemoteShift ≠ 0) :
    highByte handle ≠ 0 := by
  intro isZero
  exact nonzero (UInt32.toNat_inj.mp isZero)

/-- The test of `remote_send_handle` is right for every id. -/
theorem Configured.remoteSendHandle
    {s : System}
    {id : Nat}
    (configured : Configured id s)
    (oneByte : id ≤ 255)
    {h : HarborService}
    (isId : h.id = id)
    {handle : UInt32}
    (nonzero : handle >>> kHandleRemoteShift ≠ 0) :
    harborMessageIsRemote s handle = .ok (!h.sendsLocally handle) := by
  rw [harborMessageIsRemote_eq configured.harbor oneByte]
  have tested :
      h.sendsLocally handle = decide (highByte handle = id) := by
    rw [HarborService.sendsLocally, isId]
    exact decide_eq_decide.mpr Int.natCast_inj
  rw [tested]
  simp [highByte_ne_zero nonzero]

/-- A configured node agrees on a handle when its id is 1 and the handle has it or none. -/
theorem Configured.agree
    {s : System}
    {slave handle : UInt32}
    (configured : Configured 1 s)
    (slaveHere : highByte slave = 1)
    (here : highByte handle ≤ 1) :
    Agree 1 slave handle s := by
  have configuredOne : Configured ((1 : Nat) : Int) s := configured
  have judged (other : UInt32) :=
    harborMessageIsRemote_eq configuredOne.harbor (by decide) other
  refine ⟨?_, ?_, ?_, ?_⟩
  · intro ctx registered after returned
    rw [judged, highByte_of_handleRegister configured.storage returned]
    rfl
  · rw [judged]
    have isLocal : ¬ (highByte handle ≠ 1 ∧ highByte handle ≠ 0) := by omega
    simp [isLocal, serviceIsRemote]
  · intro h isId nonzero
    exact configuredOne.remoteSendHandle (by decide) isId nonzero
  · intro h isSlave nonzero
    have tested :
        h.dispatchesLocally handle = decide (highByte handle = 1) := by
      rw [← slaveHere, ← isSlave]
      rfl
    rw [judged, tested]
    simp [highByte_ne_zero nonzero]

/--
All places agree on a handle, in every state of a run, exactly when the node
is configured as harbor 1 and the handle has that id or none.
-/
theorem localTests_agree_iff
    {Thread : Type}
    [DecidableEq Thread]
    {id : Nat}
    (positive : 1 ≤ id)
    (oneByte : id ≤ 255)
    {start final : Runtime Thread}
    {past : List (Runtime Thread × (Thread × Action))}
    (initialised : Initialised id start.system)
    (run : Run (Run.Steps Runtime.next?) start past final)
    (handle : UInt32) :
    (∀ rt ∈ Run.visited past final,
        ∀ before ∈ Run.visited past final, ∀ ctx slave after,
          handleRegister before.system ctx = .ok (slave, after) →
            Agree id slave handle rt.system) ↔
      id = 1 ∧ (highByte handle = 0 ∨ highByte handle = 1) := by
  constructor
  · intro agree
    obtain ⟨first, after, registers⟩ := initialised.registers 0
    have whole : start ∈ Run.visited past final := Run.initial_mem_visited run
    have agreed := agree start whole start whole 0 first after registers
    have judged (other : UInt32) :=
      harborMessageIsRemote_eq initialised.harbor oneByte other
    have ownLocal := agreed.handleRegister 0 first after registers
    have ownId :=
      highByte_of_handleRegister initialised.configured.storage registers
    have stub := agreed.serviceIsRemote
    rw [judged, ownId] at ownLocal
    rw [judged] at stub
    simp only [Except.ok.injEq, decide_eq_false_iff_not] at ownLocal
    simp only [serviceIsRemote, ne_eq, not_true_eq_false, decide_false,
      Except.ok.injEq, decide_eq_false_iff_not] at stub
    omega
  · rintro ⟨rfl, here⟩
    have configured :
        ∀ rt ∈ Run.visited past final, Configured (1 : Nat) rt.system :=
      Run.invariant_of_step run initialised.configured
        fun {rt label rt'} holds taken => by
          have same : SameIds rt.system rt'.system := SameIds.next taken
          exact
            ⟨same.harbor.trans holds.harbor, same.storage.trans holds.storage⟩
    intro rt member before earlier ctx slave after registers
    exact
      (configured rt member).agree
        (highByte_of_handleRegister (configured before earlier).storage registers)
        (by omega)

/-- A node that `SkynetStart` has initialised, with nothing running. -/
def startedRuntime (harbor : Int) : Runtime Unit where
  system :=
    { soloSystem with
      nextContext := 0
      nextQueue := 0
      storage := handleInit 1
      total := 0
      harbor := harborInit harbor }
  stackOf := fun _ => []
  remote := none
  reserved := fun _ => 0

theorem initialised_startedRuntime
    (harbor : Int) :
    Initialised harbor (startedRuntime harbor).system :=
  ⟨rfl, rfl⟩

/-- An uninitialised local that happens to be empty. -/
def quietUnknown : Unknown where
  stack := none
  garbage := { source := 0, session := 0, data := none, sz := 0 }
  answer := 0

/-- The launch of a service on harbor 1, and its second handle. -/
theorem launch_localTests_agree :
    ∃ past final,
      Run (Run.Steps Runtime.next?) (startedRuntime 1) past final ∧
        (final.system.contexts 0).handle = 0x1000002 ∧
        ∀ rt ∈ Run.visited past final,
          ∀ before ∈ Run.visited past final, ∀ ctx slave after,
            handleRegister before.system ctx = .ok (slave, after) →
              Agree 1 slave 0x1000002 rt.system := by
  obtain ⟨past, final, run, isHandle⟩ :=
    Run.exists_of_replay (startedRuntime 1) Runtime.next?
      [((), .call (.newContext
          { name := "snlua"
            param := ""
            mod := some { create := true, init := true, release := true }
            inst := true })),
        ((), .advance quietUnknown), ((), .advance quietUnknown)]
      (fun rt => (rt.system.contexts 0).handle = 0x1000002)
      (by decide +kernel)
  exact
    ⟨past, final, run, of_decide_eq_true isHandle,
      (localTests_agree_iff (by decide) (by decide)
        (initialised_startedRuntime 1) run 0x1000002).mpr
        ⟨rfl, Or.inr rfl⟩⟩

/-- On harbor 2 the first handle is that of another harbor. -/
theorem harborTwo_registers_remote :
    (∃ after,
      handleRegister (startedRuntime 2).system 0 = .ok (0x1000001, after) ∧
        harborMessageIsRemote (startedRuntime 2).system 0x1000001 = .ok true) ∧
      ¬ ∀ (id : Nat) (handle slave : UInt32) (s after : System)
          (ctx : ContextId),
        1 ≤ id → id ≤ 255 → Initialised id s →
          handleRegister s ctx = .ok (slave, after) →
            Agree id slave handle s := by
  have isRemote :
      harborMessageIsRemote (startedRuntime 2).system 0x1000001 = .ok true :=
    rfl
  have registers :
      handleRegister (startedRuntime 2).system 0 =
        .ok (0x1000001, registerAt (startedRuntime 2).system 0 1) :=
    rfl
  refine ⟨⟨_, registers, isRemote⟩, ?_⟩
  intro holds
  have agreed :=
    holds 2 0x1000001 0x1000001 (startedRuntime 2).system _ 0 (by decide)
      (by decide) (initialised_startedRuntime 2) registers
  have isLocal := agreed.handleRegister 0 _ _ registers
  rw [isRemote] at isLocal
  cases isLocal

end Locality

end SkynetCpp
