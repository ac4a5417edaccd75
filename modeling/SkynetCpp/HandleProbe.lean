import SkynetCpp.Foundation.Bits
import SkynetCpp.Foundation.Run
import SkynetCpp.Foundation.Scan
import SkynetCpp.HandleFrame

namespace SkynetCpp

open Foundation

/-!
# The scan of `HandleRegister`

`HandleRegister` tries one handle after the other and goes on from 1 behind
`kHandleMask`.  What it finds is the handle of no registered context.  Since the
scan leaves out 0, it misses slot 0 when it starts over on its way through the
slots.
-/

namespace HandleProbe

section Scan

variable {storage : HandleStorage}

theorem toNat_kHandleMask : kHandleMask.toNat = 0xffffff := rfl

/-- The slot of a handle in a table of power-of-two size. -/
theorem hash_eq
    {k : Nat}
    (sized : storage.slot.length = 2 ^ k)
    (handle : UInt32) :
    storage.hash handle = handle.toNat % storage.slot.length := by
  rw [HandleStorage.hash, sized, Nat.and_two_pow_sub_one_eq_mod]

/-- The handle that the scan tries first. -/
def firstTried (start : UInt32) : UInt32 :=
  if start > kHandleMask then 1 else start

theorem probe_succ
    (turns : Nat)
    (start : UInt32) :
    storage.probe (turns + 1) start =
      if storage.slotAt (storage.hash (firstTried start)) = none then
        some (firstTried start)
      else
        storage.probe turns (firstTried start + 1) :=
  rfl

theorem toNat_firstTried
    {start : UInt32}
    (inRange : start.toNat ≤ 2 ^ 24) :
    (firstTried start).toNat = scanned 0xffffff start.toNat 0 := by
  unfold firstTried scanned
  by_cases isLast : start > kHandleMask
  · have behind : 0xffffff < start.toNat := UInt32.lt_iff_toNat_lt.mp isLast
    rw [if_pos isLast, if_neg (by omega)]
    show 1 = _
    omega
  · have before : start.toNat ≤ 0xffffff :=
      UInt32.le_iff_toNat_le.mp (UInt32.not_lt.mp isLast)
    rw [if_neg isLast, if_pos (by omega), Nat.add_zero]

/-- After its first turn the scan goes on as a scan from the next handle. -/
theorem scanned_firstTried
    {start : UInt32}
    (turn : Nat)
    (inRange : start.toNat ≤ 2 ^ 24)
    (short : turn + 1 < 0xffffff) :
    (firstTried start + 1).toNat ≤ 2 ^ 24 ∧
      scanned 0xffffff (firstTried start + 1).toNat turn =
        scanned 0xffffff start.toNat (turn + 1) := by
  have isTried := toNat_firstTried inRange
  have isNext :
      (firstTried start + 1).toNat = scanned 0xffffff start.toNat 0 + 1 := by
    have small : (firstTried start).toNat ≤ 0xffffff := by
      rw [isTried]
      exact scanned_le inRange (by omega)
    rw [isTried] at small
    rw [UInt32.toNat_add, isTried]
    show (_ + 1) % 2 ^ 32 = _
    exact Nat.mod_eq_of_lt (by omega)
  rw [isNext]
  unfold scanned
  constructor
  · split <;> omega
  · split <;> split <;> split <;> omega

/-- The scan finds nothing when every handle that it tries has a taken slot. -/
theorem probe_eq_none_iff
    {k turns : Nat}
    (sized : storage.slot.length = 2 ^ k)
    {start : UInt32}
    (inRange : start.toNat ≤ 2 ^ 24)
    (short : turns < 0xffffff) :
    storage.probe turns start = none ↔
      ∀ turn < turns,
        storage.slotAt
          (scanned 0xffffff start.toNat turn % storage.slot.length) ≠ none := by
  induction turns generalizing start with
  | zero =>
      simp [HandleStorage.probe]
  | succ turns inductionHypothesis =>
      have tried :
          storage.hash (firstTried start) =
            scanned 0xffffff start.toNat 0 % storage.slot.length := by
        rw [hash_eq sized, toNat_firstTried inRange]
      rw [probe_succ, tried]
      by_cases isFree :
          storage.slotAt
            (scanned 0xffffff start.toNat 0 % storage.slot.length) = none
      · rw [if_pos isFree]
        constructor
        · intro impossible
          cases impossible
        · intro allTaken
          exact absurd isFree (allTaken 0 (Nat.succ_pos turns))
      · rw [if_neg isFree]
        cases turns with
        | zero =>
            refine ⟨fun _ turn isFirst => ?_, fun _ => rfl⟩
            obtain rfl : turn = 0 := by omega
            exact isFree
        | succ turns =>
            have nextInRange :=
              (scanned_firstTried 0 inRange (by omega)).1
            rw [inductionHypothesis nextInRange (by omega)]
            constructor
            · intro laterTaken turn inTime
              cases turn with
              | zero =>
                  exact isFree
              | succ turn =>
                  have later := laterTaken turn (by omega)
                  rwa [(scanned_firstTried turn inRange (by omega)).2] at later
            · intro allTaken turn inTime
              rw [(scanned_firstTried turn inRange (by omega)).2]
              exact allTaken (turn + 1) (by omega)

/-- A scan that begins above 0 finds no handle 0. -/
theorem probe_ne_zero
    {turns : Nat}
    {start found : UInt32}
    (positive : start ≠ 0)
    (scanned : storage.probe turns start = some found) :
    found ≠ 0 := by
  induction turns generalizing start with
  | zero =>
      cases scanned
  | succ turns inductionHypothesis =>
      have tried : firstTried start ≠ 0 ∧ firstTried start ≤ kHandleMask := by
        unfold firstTried
        split
        · decide
        · next inMask =>
            exact ⟨positive, UInt32.not_lt.mp inMask⟩
      rw [probe_succ] at scanned
      split at scanned
      · injection scanned with isFound
        rw [← isFound]
        exact tried.1
      · refine inductionHypothesis ?_ scanned
        intro isZero
        have bound := UInt32.le_iff_toNat_le.mp tried.2
        have wraps := congrArg UInt32.toNat isZero
        rw [UInt32.toNat_add, Nat.mod_eq_of_lt] at wraps
        · cases wraps
        · show _ + 1 < 2 ^ 32
          rw [toNat_kHandleMask] at bound
          omega

end Scan

section Full

/-- `HandleRegister` returns, and the table did not grow. -/
def FindsSlot
    (s : System)
    (ctx : ContextId) : Prop :=
  ∃ handle registered,
    handleRegister s ctx = .ok (handle, registered) ∧
      registered.storage.slot.length = s.storage.slot.length

/-- No registered context sits in a slot that is not the one of its handle. -/
def InSlots (s : System) : Prop :=
  ∀ index ctx,
    s.storage.slotAt index = some ctx →
      s.storage.hash (s.contexts ctx).handle = index

/--
A slot other than slot 0 is free, or the scan does not start over on its way
through the slots.
-/
def Reaches (storage : HandleStorage) : Prop :=
  (∃ index < storage.slot.length, storage.slotAt index = none ∧ index ≠ 0) ∨
    storage.handleIndex.toNat + storage.slot.length ≤ 2 ^ 24 ∨
    storage.handleIndex.toNat = 2 ^ 24

/-- The table does not grow exactly when the scan finds a slot. -/
theorem findsSlot_iff_probe
    (s : System)
    (ctx : ContextId) :
    FindsSlot s ctx ↔
      s.storage.probe s.storage.slot.length s.storage.handleIndex ≠ none := by
  constructor
  · rintro ⟨handle, registered, returned, sameSize⟩
    rcases handleRegister_cases returned with ⟨found, scanned, _⟩ | ⟨larger, _⟩
    · rw [scanned]
      exact Option.some_ne_none found
    · exact absurd sameSize (Nat.ne_of_gt larger)
  · intro scans
    obtain ⟨found, scanned⟩ := Option.ne_none_iff_exists'.mp scans
    refine ⟨found ||| s.storage.harbor, registerAt s ctx found, ?_, ?_⟩
    · unfold handleRegister registerLoop
      rw [scanned]
    · simp [registerAt]

/--
With a free slot somewhere the scan finds one, unless only slot 0 is free and
the scan starts over on its way.
-/
theorem findsSlot_iff
    (s : System)
    (ctx : ContextId)
    {k : Nat}
    (small : k ≤ 23)
    (sized : s.storage.slot.length = 2 ^ k)
    (inRange : s.storage.handleIndex.toNat ≤ 2 ^ 24)
    (isFree :
      ∃ index < s.storage.slot.length, s.storage.slotAt index = none) :
    FindsSlot s ctx ↔ Reaches s.storage := by
  have positive : 0 < s.storage.slot.length := sized ▸ Nat.two_pow_pos k
  have bounded : s.storage.slot.length ≤ 2 ^ 23 :=
    sized ▸ Nat.pow_le_pow_right (by decide) small
  have divides : s.storage.slot.length ∣ 0xffffff + 1 := by
    rw [sized]
    exact Nat.pow_dvd_pow 2 (Nat.le_trans small (by decide : 23 ≤ 24))
  have finds
      {index : Nat}
      (inTable : index < s.storage.slot.length) :
      (∃ turn < s.storage.slot.length,
        scanned 0xffffff s.storage.handleIndex.toNat turn %
            s.storage.slot.length = index) ↔
        index ≠ 0 ∨
          s.storage.handleIndex.toNat + s.storage.slot.length ≤ 0xffffff + 1 ∨
          s.storage.handleIndex.toNat = 0xffffff + 1 :=
    exists_scanned_iff divides positive inRange inTable
  rw [findsSlot_iff_probe, ne_eq,
    probe_eq_none_iff sized inRange (by omega)]
  simp only [not_forall, not_not]
  constructor
  · rintro ⟨turn, inTime, vacant⟩
    have inTable := Nat.mod_lt
      (scanned 0xffffff s.storage.handleIndex.toNat turn) positive
    rcases (finds inTable).mp ⟨turn, inTime, rfl⟩ with nonzero | reached
    · exact Or.inl ⟨_, inTable, vacant, nonzero⟩
    · exact Or.inr reached
  · intro reaches
    have reachable :
        ∃ index < s.storage.slot.length,
          s.storage.slotAt index = none ∧
            (index ≠ 0 ∨
              s.storage.handleIndex.toNat + s.storage.slot.length ≤ 2 ^ 24 ∨
              s.storage.handleIndex.toNat = 2 ^ 24) := by
      rcases reaches with ⟨index, inTable, vacant, nonzero⟩ | reached
      · exact ⟨index, inTable, vacant, Or.inl nonzero⟩
      · obtain ⟨index, inTable, vacant⟩ := isFree
        exact ⟨index, inTable, vacant, Or.inr reached⟩
    obtain ⟨index, inTable, vacant, reached⟩ := reachable
    obtain ⟨turn, inTime, here⟩ := (finds inTable).mpr reached
    exact ⟨turn, inTime, here ▸ vacant⟩

theorem soloSystem_findsSlot :
    FindsSlot soloSystem 1 ↔ Reaches soloSystem.storage :=
  findsSlot_iff soloSystem 1 (by decide : 2 ≤ 23) rfl (by decide)
    ⟨0, by decide, rfl⟩

/-- Services 1, 2 and 3 in their slots, and the last handle to try first. -/
def lateSystem : System :=
  { soloSystem with
    contexts := fun ctx => { soloContext with handle := UInt32.ofNat ctx }
    nextContext := 4
    storage :=
      { handleInit 0 with
        handleIndex := 0xffffff
        slot := [none, some 1, some 2, some 3] } }

theorem inSlots_lateSystem : InSlots lateSystem := by
  intro index ctx occupied
  match index with
  | 0 => cases occupied
  | 1 | 2 | 3 =>
      injection occupied with isContext
      subst isContext
      decide
  | index + 4 => cases occupied

/-- Slot 0 is free, and the registration fails an assertion of the growth. -/
theorem lateSystem_grows :
    handleRegister lateSystem 4 =
        .error (.assertion "kHandleStorage->slot[hash] == nullptr") ∧
      ¬ ∀ s ctx k,
        k ≤ 23 →
        s.storage.slot.length = 2 ^ k →
        InSlots s →
        s.storage.handleIndex ≠ 0 →
        s.storage.handleIndex.toNat ≤ 2 ^ 24 →
        (∃ index < s.storage.slot.length, s.storage.slotAt index = none) →
          FindsSlot s ctx := by
  have fails :
      handleRegister lateSystem 4 =
        .error (.assertion "kHandleStorage->slot[hash] == nullptr") :=
    rfl
  refine ⟨fails, fun holds => ?_⟩
  obtain ⟨handle, registered, returned, _⟩ :=
    holds lateSystem 4 2 (by decide) rfl inSlots_lateSystem (by decide)
      (by decide) ⟨0, by decide, rfl⟩
  rw [fails] at returned
  cases returned

end Full

section Fresh

/-- Every live context sits in the slot of its handle. -/
def Seated
    (s : System)
    (live : ContextId → Prop) : Prop :=
  ∀ ctx, live ctx →
    s.storage.slotAt (s.storage.hash (s.contexts ctx).handle) = some ctx

/-- The context stores the handle that it was given. -/
def storeHandle
    (s : System)
    (ctx : ContextId)
    (handle : UInt32) : System :=
  s.modify ctx fun context => { context with handle := handle }

/-- What a registration returns and does to the table. -/
structure Registration
    (s : System)
    (live : ContextId → Prop)
    (harbor : UInt32)
    (ctx : ContextId)
    (handle : UInt32)
    (registered : System) : Prop where
  low :
    1 ≤ (handle &&& kHandleMask).toNat ∧
      (handle &&& kHandleMask).toNat ≤ 0xffffff
  high : handle >>> kHandleRemoteShift = harbor &&& 0xff
  fresh : ∀ other, live other → (s.contexts other).handle ≠ handle
  free : s.storage.slotAt (s.storage.hash handle) = none
  taken :
    ∀ index,
      registered.storage.slotAt index =
        if index = s.storage.hash handle then some ctx
        else s.storage.slotAt index
  contexts : registered.contexts = s.contexts
  seated :
    Seated (storeHandle registered ctx handle) fun other =>
      live other ∨ other = ctx

section Bits

variable {found harbor : UInt32}

/-- The low bits of a handle are the number that the scan found. -/
theorem low_or_harbor
    (inMask : found ≤ kHandleMask)
    (highBits : harbor &&& kHandleMask = 0) :
    (found ||| harbor) &&& kHandleMask = found := by
  have low : found &&& kHandleMask = found := by
    apply UInt32.toNat_inj.mp
    rw [Foundation.UInt32.toNat_and_mask (k := 24) kHandleMask rfl]
    exact Nat.mod_eq_of_lt
      (Nat.lt_succ_of_le (UInt32.le_iff_toNat_le.mp inMask))
  have split :
      (found ||| harbor) &&& kHandleMask =
        (found &&& kHandleMask) ||| (harbor &&& kHandleMask) :=
    UInt32.toBitVec_inj.mp BitVec.and_or_distrib_right
  rw [split, low, highBits, UInt32.or_zero]

/-- The high byte of a handle is the harbor of the table. -/
theorem high_or_harbor
    (inMask : found ≤ kHandleMask) :
    (found ||| harbor) >>> kHandleRemoteShift =
      harbor >>> kHandleRemoteShift := by
  have noHigh : found >>> kHandleRemoteShift = 0 := by
    apply UInt32.toNat_inj.mp
    rw [Foundation.UInt32.toNat_shiftRight_of_lt (k := 24) rfl (by decide)]
    exact Nat.div_eq_of_lt
      (Nat.lt_succ_of_le (UInt32.le_iff_toNat_le.mp inMask))
  rw [UInt32.shiftRight_or, noHigh, UInt32.zero_or]

/-- The harbor that `HandleInit` stores has no low bits. -/
theorem handleInit_harbor_low
    (harbor : UInt32) :
    (handleInit harbor).harbor &&& kHandleMask = 0 := by
  apply UInt32.toNat_inj.mp
  rw [Foundation.UInt32.toNat_and_mask (k := 24) kHandleMask rfl]
  have isShift : kHandleRemoteShift.toNat % 32 = 24 := rfl
  simp only [handleInit, UInt32.toNat_shiftLeft, isShift, Nat.shiftLeft_eq]
  show _ = 0
  omega

/-- The harbor that `HandleInit` stores is the low byte of the given one. -/
theorem handleInit_harbor_high
    (harbor : UInt32) :
    (handleInit harbor).harbor >>> kHandleRemoteShift = harbor &&& 0xff := by
  have small : (harbor &&& 0xff).toNat < 2 ^ 8 := by
    rw [Foundation.UInt32.toNat_and_mask (k := 8) 0xff rfl]
    exact Nat.mod_lt _ (by decide)
  have shifted :
      (handleInit harbor).harbor.toNat = (harbor &&& 0xff).toNat * 2 ^ 24 := by
    have isShift : kHandleRemoteShift.toNat % 32 = 24 := rfl
    rw [handleInit, UInt32.toNat_shiftLeft, isShift, Nat.shiftLeft_eq]
    exact Nat.mod_eq_of_lt (by omega)
  apply UInt32.toNat_inj.mp
  rw [Foundation.UInt32.toNat_shiftRight_of_lt (k := 24) rfl (by decide),
    shifted, Nat.mul_div_cancel _ (Nat.two_pow_pos 24)]

end Bits

section OneCall

variable
    {s registered : System}
    {ctx : ContextId}
    {handle found : UInt32}

/-- Entering a context takes the slot of the handle and no other. -/
theorem slotAt_registerAt
    (nonempty : 0 < s.storage.slot.length)
    (index : Nat) :
    (registerAt s ctx found).storage.slotAt index =
      if index = s.storage.hash found then some ctx
      else s.storage.slotAt index := by
  split
  · next here =>
      rw [here]
      exact HandleStorage.slotAt_setSlot_self s.storage
        (HandleStorage.hash_lt nonempty found) (some ctx)
  · next elsewhere =>
      exact HandleStorage.slotAt_setSlot_of_ne s.storage elsewhere (some ctx)

/--
A registration that does not grow the table returns the handle of no live
context, and takes the free slot of that handle.
-/
theorem registration
    {k : Nat}
    (small : k ≤ 24)
    (sized : s.storage.slot.length = 2 ^ k)
    (positive : s.storage.handleIndex ≠ 0)
    {harbor : UInt32}
    (isHarbor : s.storage.harbor = (handleInit harbor).harbor)
    {live : ContextId → Prop}
    (seated : Seated s live)
    (returned : handleRegister s ctx = .ok (handle, registered))
    (sameSize : registered.storage.slot.length = s.storage.slot.length) :
    Registration s live harbor ctx handle registered := by
  obtain ⟨found, scanned, rfl, rfl⟩ :=
    (handleRegister_cases returned).resolve_right
      fun grown => Nat.ne_of_gt grown.1 sameSize
  have inMask := HandleStorage.le_mask_of_probe scanned
  have highBits : s.storage.harbor &&& kHandleMask = 0 := by
    rw [isHarbor]
    exact handleInit_harbor_low harbor
  have bounded : s.storage.slot.length ≤ 2 ^ 24 :=
    sized ▸ Nat.pow_le_pow_right (by decide) small
  have nonempty : 0 < s.storage.slot.length := sized ▸ Nat.two_pow_pos k
  have sameSlot := HandleStorage.hash_or_harbor bounded highBits found
  have free :
      s.storage.slotAt (s.storage.hash (found ||| s.storage.harbor)) = none := by
    rw [sameSlot]
    exact HandleStorage.slotAt_of_probe scanned
  have slots (index : Nat) :
      (registerAt s ctx found).storage.slotAt index =
        if index = s.storage.hash (found ||| s.storage.harbor) then some ctx
        else s.storage.slotAt index := by
    rw [sameSlot]
    exact slotAt_registerAt nonempty index
  have sameHash (other : UInt32) :
      (registerAt s ctx found).storage.hash other = s.storage.hash other := by
    simp [registerAt, HandleStorage.hash]
  refine ⟨?_, ?_, ?_, free, slots, rfl, ?_⟩
  · rw [low_or_harbor inMask highBits]
    have nonzero : found.toNat ≠ 0 := fun isZero =>
      probe_ne_zero positive scanned (UInt32.toNat_inj.mp isZero)
    exact ⟨Nat.one_le_iff_ne_zero.mpr nonzero,
      UInt32.le_iff_toNat_le.mp inMask⟩
  · rw [high_or_harbor inMask, isHarbor]
    exact handleInit_harbor_high harbor
  · intro other isLive same
    have occupied := seated other isLive
    rw [same, free] at occupied
    cases occupied
  · intro other isLive
    by_cases isNew : other = ctx
    · subst isNew
      simp only [storeHandle, System.modify_storage,
        System.modify_contexts_self, sameHash, slots, if_pos]
    · have occupied :=
        seated other (isLive.resolve_right isNew)
      simp only [storeHandle, System.modify_storage,
        System.modify_contexts_of_ne _ _ isNew, sameHash, slots]
      rw [if_neg]
      · exact occupied
      · intro same
        change s.storage.hash (s.contexts other).handle = _ at same
        rw [same, free] at occupied
        cases occupied

end OneCall

end Fresh

section Order

/-- The scan sets its handle back to 1. -/
def Resets (storage : HandleStorage) : Nat → UInt32 → Prop
  | 0, _ => False
  | turns + 1, handle =>
      handle > kHandleMask ∨
        storage.slotAt (storage.hash handle) ≠ none ∧
          Resets storage turns (handle + 1)

/-- One of the scans of `HandleRegister` sets its handle back to 1. -/
def LoopResets : Nat → System → Prop
  | 0, _ => False
  | turns + 1, s =>
      Resets s.storage s.storage.slot.length s.storage.handleIndex ∨
        s.storage.probe s.storage.slot.length s.storage.handleIndex = none ∧
          ∃ grown, growSlots s = .ok grown ∧ LoopResets turns grown

/-- The registration goes past the last handle. -/
def RegisterResets (s : System) : Prop :=
  LoopResets 26 s

/-- A scan that does not start over finds no handle below its start. -/
theorem le_of_probe
    {storage : HandleStorage}
    {turns : Nat}
    {start found : UInt32}
    (goesOn : ¬ Resets storage turns start)
    (scanned : storage.probe turns start = some found) :
    start ≤ found := by
  induction turns generalizing start with
  | zero =>
      cases scanned
  | succ turns inductionHypothesis =>
      unfold Resets at goesOn
      simp only [not_or, not_and] at goesOn
      obtain ⟨inMask, later⟩ := goesOn
      rw [probe_succ, firstTried, if_neg inMask] at scanned
      split at scanned
      · injection scanned with isFound
        exact UInt32.le_of_eq isFound
      · next occupied =>
          have next := inductionHypothesis (later occupied) scanned
          rw [UInt32.le_iff_toNat_le, UInt32.toNat_add, Nat.mod_eq_of_lt] at next
          · exact UInt32.le_iff_toNat_le.mpr (Nat.le_of_succ_le next)
          · have bound := UInt32.le_iff_toNat_le.mp (UInt32.not_lt.mp inMask)
            rw [toNat_kHandleMask] at bound
            show _ + 1 < 2 ^ 32
            omega

/-- A growth step keeps the harbor and the next handle. -/
theorem growSlots_keeps
    {s grown : System}
    (returned : growSlots s = .ok grown) :
    grown.storage.handleIndex = s.storage.handleIndex ∧
      grown.storage.harbor = s.storage.harbor := by
  obtain ⟨newSlot, -, -, rfl⟩ := growSlots_rehashes returned
  exact ⟨rfl, rfl⟩

/-- What a registration returns, whether the table grew or not. -/
theorem handleRegister_index
    {s registered : System}
    {ctx : ContextId}
    {handle : UInt32}
    (goesOn : ¬ RegisterResets s)
    (returned : handleRegister s ctx = .ok (handle, registered)) :
    ∃ found,
      handle = found ||| s.storage.harbor ∧
        s.storage.handleIndex ≤ found ∧
        found ≤ kHandleMask ∧
        registered.storage.handleIndex = found + 1 ∧
        registered.storage.harbor = s.storage.harbor := by
  unfold RegisterResets at goesOn
  unfold handleRegister at returned
  generalize 26 = turns at goesOn returned
  induction turns generalizing s with
  | zero =>
      cases returned
  | succ turns inductionHypothesis =>
      unfold LoopResets at goesOn
      simp only [not_or, not_and, not_exists] at goesOn
      obtain ⟨firstGoesOn, laterGoesOn⟩ := goesOn
      unfold registerLoop at returned
      split at returned
      · next found scanned =>
          injection returned with returned
          injection returned with isHandle isRegistered
          rw [← isHandle, ← isRegistered]
          exact ⟨found, rfl, le_of_probe firstGoesOn scanned,
            HandleStorage.le_mask_of_probe scanned, rfl, rfl⟩
      · next full =>
          split at returned
          · next grown grows =>
              obtain ⟨sameIndex, sameHarbor⟩ := growSlots_keeps grows
              have later :=
                inductionHypothesis (laterGoesOn full grown grows) returned
              rwa [sameIndex, sameHarbor] at later
          · cases returned

/-- A call of the handle table, with the handle that it returns or is given. -/
inductive TableCall where
  | register (ctx : ContextId) (handle : UInt32)
  | retire (handle : UInt32)

/-- A registration whose handle the context stores, or a retirement. -/
def TableStep
    (s : System) :
    TableCall → System → Prop
  | .register ctx handle, next =>
      ∃ registered,
        handleRegister s ctx = .ok (handle, registered) ∧
          next = storeHandle registered ctx handle
  | .retire handle, next =>
      ∃ result, handleRetire s handle = .ok (result, next)

/-- The call is a registration that goes past the last handle. -/
def GoesPast
    (s : System) :
    TableCall → Prop
  | .register _ _ => RegisterResets s
  | .retire _ => False

/-- The low bits of the handle that a call returns. -/
def TableCall.issued? : TableCall → Option UInt32
  | .register _ handle => some (handle &&& kHandleMask)
  | .retire _ => none

/-- The low bits of the handles that a run returned, the last one first. -/
def issued (past : List (System × TableCall)) : List UInt32 :=
  past.filterMap fun step => step.2.issued?

/-- What calls keep: the harbor, and a next handle that only grows. -/
structure Advances (s next : System) : Prop where
  harbor : next.storage.harbor = s.storage.harbor
  index : s.storage.handleIndex ≤ next.storage.handleIndex

/-- A retirement touches neither the harbor nor the next handle. -/
theorem Advances.handleRetire
    {s next : System}
    {handle : UInt32}
    {result : Int}
    (returned : handleRetire s handle = .ok (result, next)) :
    Advances s next := by
  rcases handleRetire_cases returned with
    ⟨_, isSame⟩ | ⟨ctx, inUse, _, release⟩
  · rw [isSame]
    exact ⟨rfl, UInt32.le_refl _⟩
  · have sameTable := SameTable.contextRelease release
    constructor
    · rw [sameTable.storage]
      rfl
    · rw [sameTable.storage]
      exact UInt32.le_refl _

/-- A registration that goes on issues a handle below the next one. -/
theorem Advances.register
    {s next : System}
    {ctx : ContextId}
    {handle : UInt32}
    (highBits : s.storage.harbor &&& kHandleMask = 0)
    (goesOn : ¬ RegisterResets s)
    (step : TableStep s (.register ctx handle) next) :
    Advances s next ∧
      s.storage.handleIndex ≤ handle &&& kHandleMask ∧
      handle &&& kHandleMask < next.storage.handleIndex := by
  obtain ⟨registered, returned, rfl⟩ := step
  obtain ⟨found, rfl, above, inMask, isIndex, sameHarbor⟩ :=
    handleRegister_index goesOn returned
  have isNext : (storeHandle registered ctx
      (found ||| s.storage.harbor)).storage.handleIndex = found + 1 :=
    isIndex
  have below : found < found + 1 := by
    have bound := UInt32.le_iff_toNat_le.mp inMask
    rw [toNat_kHandleMask] at bound
    rw [UInt32.lt_iff_toNat_lt, UInt32.toNat_add, Nat.mod_eq_of_lt]
    · exact Nat.lt_succ_self _
    · show _ + 1 < 2 ^ 32
      omega
  rw [low_or_harbor inMask highBits, isNext]
  refine ⟨⟨sameHarbor, ?_⟩, above, below⟩
  rw [isNext]
  exact UInt32.le_trans above (UInt32.le_of_lt below)

section

variable
    {initial final : System}
    {past : List (System × TableCall)}

/-- Along a run that goes on, the next handle stays above every issued one. -/
theorem issued_bounded
    (highBits : initial.storage.harbor &&& kHandleMask = 0)
    (run : Run TableStep initial past final)
    (goesOn : ∀ state call, (state, call) ∈ past → ¬ GoesPast state call) :
    Advances initial final ∧
      (issued past).Pairwise (· > ·) ∧
      ∀ low ∈ issued past,
        initial.storage.handleIndex ≤ low ∧ low < final.storage.handleIndex := by
  induction run with
  | nil =>
      refine ⟨⟨rfl, UInt32.le_refl _⟩, List.Pairwise.nil, ?_⟩
      intro low member
      cases member
  | @snoc past state next call earlier taken inductionHypothesis =>
      obtain ⟨advances, decreasing, bounded⟩ :=
        inductionHypothesis fun earlierState earlierCall member =>
          goesOn _ _ (List.mem_cons_of_mem _ member)
      have here := goesOn state call List.mem_cons_self
      cases call with
      | retire handle =>
          obtain ⟨result, returned⟩ := taken
          have retires := Advances.handleRetire returned
          refine ⟨⟨retires.harbor.trans advances.harbor,
            UInt32.le_trans advances.index retires.index⟩, decreasing, ?_⟩
          intro low member
          obtain ⟨above, below⟩ := bounded low member
          exact ⟨above, UInt32.lt_of_lt_of_le below retires.index⟩
      | register ctx handle =>
          have sameBits : state.storage.harbor &&& kHandleMask = 0 := by
            rw [advances.harbor]
            exact highBits
          obtain ⟨registers, above, below⟩ :=
            Advances.register sameBits here taken
          have isIssued :
              issued ((state, .register ctx handle) :: past) =
                (handle &&& kHandleMask) :: issued past :=
            rfl
          rw [isIssued]
          refine ⟨⟨registers.harbor.trans advances.harbor,
            UInt32.le_trans advances.index registers.index⟩, ?_, ?_⟩
          · refine List.Pairwise.cons ?_ decreasing
            intro low member
            exact UInt32.lt_of_lt_of_le (bounded low member).2 above
          · intro low member
            rcases List.mem_cons.mp member with rfl | isEarlier
            · exact ⟨UInt32.le_trans advances.index above, below⟩
            · obtain ⟨lowAbove, lowBelow⟩ := bounded low isEarlier
              exact ⟨lowAbove, UInt32.lt_of_lt_of_le lowBelow registers.index⟩

end

/--
No handle that was issued before it was retired is issued again.  A handle
below the next handle of the first state was issued before the run.
-/
def NeverReissued
    (initial : System)
    (past : List (System × TableCall)) : Prop :=
  ∀ later state handle earlier,
    past = later ++ (state, .retire handle) :: earlier →
    (handle &&& kHandleMask ∈ issued earlier ∨
      handle &&& kHandleMask < initial.storage.handleIndex) →
      handle &&& kHandleMask ∉ issued later

theorem neverReissued_of_pairwise
    {initial : System}
    {past : List (System × TableCall)}
    (decreasing : (issued past).Pairwise (· > ·))
    (above : ∀ low ∈ issued past, initial.storage.handleIndex ≤ low) :
    NeverReissued initial past := by
  rintro later state handle earlier rfl wasIssued again
  have parts :
      issued (later ++ (state, .retire handle) :: earlier) =
        issued later ++ issued earlier := by
    simp [issued, List.filterMap_append, TableCall.issued?]
  rw [parts] at decreasing above
  rcases wasIssued with isEarlier | below
  · exact UInt32.lt_irrefl _
      ((List.pairwise_append.mp decreasing).2.2 _ again _ isEarlier)
  · exact UInt32.lt_irrefl _
      (UInt32.lt_of_lt_of_le below
        (above _ (List.mem_append_left _ again)))

/--
A registration returns the handle of no live context, with the low bits in
range, the harbor on top and a free slot of its own; and over a run the low bits
increase until a registration goes past the last handle.
-/
theorem registrations_fresh
    {s : System}
    {k : Nat}
    (small : k ≤ 24)
    (sized : s.storage.slot.length = 2 ^ k)
    (positive : s.storage.handleIndex ≠ 0)
    {harbor : UInt32}
    (isHarbor : s.storage.harbor = (handleInit harbor).harbor)
    {live : ContextId → Prop}
    (seated : Seated s live) :
    (∀ ctx handle registered,
      handleRegister s ctx = .ok (handle, registered) →
      registered.storage.slot.length = s.storage.slot.length →
        Registration s live harbor ctx handle registered) ∧
      ∀ past final,
        Run TableStep s past final →
        (∀ state call, (state, call) ∈ past → ¬ GoesPast state call) →
          (issued past).Pairwise (· > ·) ∧ NeverReissued s past := by
  refine ⟨fun ctx handle registered => ?_, fun past final run goesOn => ?_⟩
  · exact registration small sized positive isHarbor seated
  · have highBits : s.storage.harbor &&& kHandleMask = 0 := by
      rw [isHarbor]
      exact handleInit_harbor_low harbor
    obtain ⟨_, decreasing, bounded⟩ := issued_bounded highBits run goesOn
    exact ⟨decreasing, neverReissued_of_pairwise decreasing
      fun low member => (bounded low member).1⟩

theorem seated_soloSystem : Seated soloSystem (· = 0) := by
  rintro ctx rfl
  rfl

/-- A registration goes on when the slot of the next handle is free. -/
theorem not_registerResets
    {s : System}
    (nonempty : 0 < s.storage.slot.length)
    (inMask : ¬ s.storage.handleIndex > kHandleMask)
    (free : s.storage.slotAt (s.storage.hash s.storage.handleIndex) = none) :
    ¬ RegisterResets s := by
  obtain ⟨turns, isLength⟩ := Nat.exists_eq_succ_of_ne_zero nonempty.ne'
  unfold RegisterResets LoopResets
  rw [isLength]
  rintro (resets | ⟨full, _⟩)
  · rcases resets with behind | ⟨occupied, _⟩
    · exact inMask behind
    · exact occupied free
  · rw [probe_succ, firstTried, if_neg inMask, if_pos free] at full
    cases full

/-- The second service of a node gets handle 2, and the third handle 3. -/
theorem soloSystem_registrations :
    (∃ registered, Registration soloSystem (· = 0) 0 1 2 registered) ∧
      ∃ past final,
        Run TableStep soloSystem past final ∧
          issued past = [3, 2] ∧ (issued past).Pairwise (· > ·) := by
  have isHarbor : soloSystem.storage.harbor = (handleInit 0).harbor := rfl
  have fresh :=
    registrations_fresh (by decide : 2 ≤ 24) rfl (by decide) isHarbor
      seated_soloSystem
  have first :
      handleRegister soloSystem 1 = .ok (2, registerAt soloSystem 1 2) :=
    rfl
  have run :
      Run TableStep soloSystem
        [(_, .register 2 3), (_, .retire 2), (soloSystem, .register 1 2)] _ :=
    ((Run.nil.snoc ⟨_, first, rfl⟩).snoc ⟨1, rfl⟩).snoc ⟨_, rfl, rfl⟩
  refine ⟨⟨_, fresh.1 1 2 _ first rfl⟩, _, _, run, rfl,
    (fresh.2 _ _ run ?_).1⟩
  intro state call member
  simp only [List.mem_cons, Prod.mk.injEq, List.not_mem_nil, or_false] at member
  rcases member with ⟨rfl, rfl⟩ | ⟨rfl, rfl⟩ | ⟨rfl, rfl⟩
  · exact not_registerResets (by decide) (by decide) rfl
  · exact id
  · exact not_registerResets (by decide) (by decide) rfl

end Order

end HandleProbe

end SkynetCpp
