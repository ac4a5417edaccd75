import SkynetCpp.System

namespace SkynetCpp

/-!
# Handles

`handle.cpp` in state-passing form.  Every function is one section under the
table's lock, except that `HandleRetire` releases the context after its
section; the section alone is `handleUnlink`.
-/

namespace HandleStorage

/-- `handle & (slot.size() - 1)`. -/
def hash
    (storage : HandleStorage)
    (handle : UInt32) : Nat :=
  handle.toNat &&& (storage.slot.length - 1)

/-- The context that a slot refers to. -/
def slotAt
    (storage : HandleStorage)
    (index : Nat) : Option ContextId :=
  (storage.slot[index]?).join

/-- Write a slot. -/
def setSlot
    (storage : HandleStorage)
    (index : Nat)
    (ctx : Option ContextId) : HandleStorage :=
  { storage with slot := storage.slot.set index ctx }

@[simp] theorem length_setSlot
    (storage : HandleStorage)
    (index : Nat)
    (ctx : Option ContextId) :
    (storage.setSlot index ctx).slot.length = storage.slot.length := by
  simp [setSlot]

@[simp] theorem hash_setSlot
    (storage : HandleStorage)
    (index : Nat)
    (ctx : Option ContextId)
    (handle : UInt32) :
    (storage.setSlot index ctx).hash handle = storage.hash handle := by
  simp [hash]

theorem slotAt_setSlot_self
    (storage : HandleStorage)
    {index : Nat}
    (inTable : index < storage.slot.length)
    (ctx : Option ContextId) :
    (storage.setSlot index ctx).slotAt index = ctx := by
  simp [slotAt, setSlot, inTable]

theorem slotAt_setSlot_of_ne
    (storage : HandleStorage)
    {index other : Nat}
    (different : other ≠ index)
    (ctx : Option ContextId) :
    (storage.setSlot index ctx).slotAt other = storage.slotAt other := by
  simp [slotAt, setSlot, Ne.symm different]

/-- A slot that refers to a context lies in the table. -/
theorem lt_of_slotAt
    {storage : HandleStorage}
    {index : Nat}
    {ctx : ContextId}
    (occupied : storage.slotAt index = some ctx) :
    index < storage.slot.length := by
  by_contra outside
  simp [slotAt, List.getElem?_eq_none (Nat.le_of_not_lt outside)] at occupied

/-- The contexts of a table are those its slots refer to. -/
theorem mem_slot_iff
    {storage : HandleStorage}
    {ctx : ContextId} :
    some ctx ∈ storage.slot ↔ ∃ index, storage.slotAt index = some ctx := by
  simp [slotAt, List.mem_iff_getElem?, Option.join_eq_some_iff]

/-- The slot of a handle lies in a table that has slots. -/
theorem hash_lt
    {storage : HandleStorage}
    (nonempty : 0 < storage.slot.length)
    (handle : UInt32) :
    storage.hash handle < storage.slot.length := by
  have bound : storage.hash handle ≤ storage.slot.length - 1 :=
    Nat.and_le_right
  omega

/-- Or-ing in bits above the mask of the table keeps the slot of a handle. -/
theorem hash_or_harbor
    {storage : HandleStorage}
    (sized : storage.slot.length ≤ 2 ^ 24)
    (highBits : storage.harbor &&& kHandleMask = 0)
    (handle : UInt32) :
    storage.hash (handle ||| storage.harbor) = storage.hash handle := by
  have noLowBits : storage.harbor.toNat % 2 ^ 24 = 0 := by
    have low := congrArg UInt32.toNat highBits
    rw [UInt32.toNat_and] at low
    exact (Nat.and_two_pow_sub_one_eq_mod _ 24).symm.trans low
  have belowMask :
      storage.slot.length - 1 =
        (2 ^ 24 - 1) &&& (storage.slot.length - 1) := by
    rw [Nat.and_comm, Nat.and_two_pow_sub_one_eq_mod]
    exact (Nat.mod_eq_of_lt (by omega)).symm
  have noHarbor :
      storage.harbor.toNat &&& (storage.slot.length - 1) = 0 := by
    rw [belowMask, ← Nat.and_assoc, Nat.and_two_pow_sub_one_eq_mod, noLowBits,
      Nat.zero_and]
  simp only [hash, UInt32.toNat_or, Nat.and_or_distrib_right, noHarbor,
    Nat.or_zero]

/--
The scan of `HandleRegister`: the first handle from the given one whose slot
is free.  Past `kHandleMask` it goes on from 1, as 0 is reserved.
-/
def probe (storage : HandleStorage) : Nat → UInt32 → Option UInt32
  | 0, _ => none
  | turns + 1, handle =>
      let handle := if handle > kHandleMask then 1 else handle
      if storage.slotAt (storage.hash handle) = none then
        some handle
      else
        probe storage turns (handle + 1)

/-- A probed handle has a free slot. -/
theorem slotAt_of_probe
    {storage : HandleStorage}
    {turns : Nat}
    {start handle : UInt32}
    (found : storage.probe turns start = some handle) :
    storage.slotAt (storage.hash handle) = none := by
  induction turns generalizing start with
  | zero =>
      simp [probe] at found
  | succ turns inductionHypothesis =>
      simp only [probe] at found
      generalize (if start > kHandleMask then 1 else start) = tried at found
      by_cases free : storage.slotAt (storage.hash tried) = none
      · simp only [free, ↓reduceIte, Option.some.injEq] at found
        rw [← found]
        exact free
      · simp only [free, ↓reduceIte] at found
        exact inductionHypothesis found

/-- A probed handle has no bits above the mask. -/
theorem le_mask_of_probe
    {storage : HandleStorage}
    {turns : Nat}
    {start handle : UInt32}
    (found : storage.probe turns start = some handle) :
    handle ≤ kHandleMask := by
  induction turns generalizing start with
  | zero =>
      simp [probe] at found
  | succ turns inductionHypothesis =>
      simp only [probe] at found
      generalize isTried :
        (if start > kHandleMask then 1 else start) = tried at found
      by_cases free : storage.slotAt (storage.hash tried) = none
      · simp only [free, ↓reduceIte, Option.some.injEq] at found
        rw [← found, ← isTried]
        split
        · decide
        · next inMask =>
            exact UInt32.not_lt.mp inMask
      · simp only [free, ↓reduceIte] at found
        exact inductionHypothesis found

/-- A scan that finds nothing tried an occupied slot. -/
theorem occupied_of_probe
    {storage : HandleStorage}
    {turns : Nat}
    {start : UInt32}
    (scans : 0 < turns)
    (full : storage.probe turns start = none) :
    ∃ handle, storage.slotAt (storage.hash handle) ≠ none := by
  cases turns with
  | zero =>
      cases scans
  | succ turns =>
      simp only [probe] at full
      generalize (if start > kHandleMask then 1 else start) = tried at full
      refine ⟨tried, ?_⟩
      intro free
      rw [if_pos free] at full
      cases full

end HandleStorage

/--
The rehashing loop of `HandleRegister` over the remaining slots.  The position
and the vacancy check both use the table that is being replaced.
-/
def rehash (s : System) :
    List (Option ContextId) → List (Option ContextId) →
      Except Fault (List (Option ContextId))
  | [], newSlot => .ok newSlot
  | none :: rest, newSlot => rehash s rest newSlot
  | some ctx :: rest, newSlot =>
      let hash := s.storage.hash (s.contexts ctx).handle
      if s.storage.slotAt hash = none then
        rehash s rest (newSlot.set hash (some ctx))
      else
        .error (.assertion "kHandleStorage->slot[hash] == nullptr")

/--
The growth step of `HandleRegister`.  Sizes are `size_t`, so that taking 1 from
the size of an empty table would wrap and fail the assertion as well.
-/
def growSlots (s : System) : Except Fault System :=
  let size := s.storage.slot.length
  if 0 < size ∧ size * 2 - 1 ≤ kHandleMask.toNat then
    match rehash s s.storage.slot (List.replicate (size * 2) none) with
    | .ok newSlot =>
        .ok { s with storage := { s.storage with slot := newSlot } }
    | .error fault => .error fault
  else
    .error (.assertion "(kHandleStorage->slot.size() * 2 - 1) <= kHandleMask")

/-- Enter a context in the slot of a handle that the scan found. -/
def registerAt
    (s : System)
    (ctx : ContextId)
    (handle : UInt32) : System :=
  { s with
    storage :=
      { s.storage.setSlot (s.storage.hash handle) (some ctx) with
        handleIndex := handle + 1 } }

/-- The outer loop of `HandleRegister`. -/
def registerLoop (ctx : ContextId) : Nat → System → Except Fault (UInt32 × System)
  | 0, _ => .error .running
  | turns + 1, s =>
      match s.storage.probe s.storage.slot.length s.storage.handleIndex with
      | some handle =>
          .ok (handle ||| s.storage.harbor, registerAt s ctx handle)
      | none =>
          match growSlots s with
          | .ok grown => registerLoop ctx turns grown
          | .error fault => .error fault

/--
`HandleRegister`.  Every turn but the last doubles the table, which
`kHandleMask` allows at most 24 times.
-/
def handleRegister
    (s : System)
    (ctx : ContextId) : Except Fault (UInt32 × System) :=
  registerLoop ctx 26 s

/-- Rehashing fills a table of the given size. -/
theorem length_rehash
    {s : System}
    {slots newSlot filled : List (Option ContextId)}
    (rehashed : rehash s slots newSlot = .ok filled) :
    filled.length = newSlot.length := by
  induction slots generalizing newSlot with
  | nil =>
      injection rehashed with isFilled
      rw [isFilled]
  | cons slot rest inductionHypothesis =>
      cases slot with
      | none =>
          exact inductionHypothesis rehashed
      | some ctx =>
          unfold rehash at rehashed
          dsimp only at rehashed
          split at rehashed
          · simpa using inductionHypothesis rehashed
          · cases rehashed

/-- A growth step that returns has rehashed into twice as many slots. -/
theorem growSlots_rehashes
    {s grown : System}
    (returned : growSlots s = .ok grown) :
    ∃ newSlot,
      0 < s.storage.slot.length ∧
        rehash s s.storage.slot
            (List.replicate (s.storage.slot.length * 2) none) =
          .ok newSlot ∧
        grown = { s with storage := { s.storage with slot := newSlot } } := by
  dsimp only [growSlots] at returned
  split at returned
  · next sized =>
      split at returned
      · next newSlot rehashed =>
          injection returned with isGrown
          exact ⟨newSlot, sized.1, rehashed, isGrown.symm⟩
      · cases returned
  · cases returned

/-- A growth step that returns makes the table larger and changes nothing else. -/
theorem growSlots_grows
    {s grown : System}
    (returned : growSlots s = .ok grown) :
    s.storage.slot.length < grown.storage.slot.length ∧
      grown.contexts = s.contexts ∧ grown.nextContext = s.nextContext := by
  obtain ⟨newSlot, positive, rehashed, rfl⟩ := growSlots_rehashes returned
  have doubled := length_rehash rehashed
  rw [List.length_replicate] at doubled
  refine ⟨?_, rfl, rfl⟩
  show s.storage.slot.length < newSlot.length
  omega

/--
What holds of the table that a context is entered in, and of every table whose
growth has it, holds of the table that a registration starts with.
-/
theorem handleRegister_induction
    {motive : System → Prop}
    {s registered : System}
    {ctx : ContextId}
    {handle : UInt32}
    (returned : handleRegister s ctx = .ok (handle, registered))
    (enters :
      ∀ {t : System} {found : UInt32},
        t.storage.probe t.storage.slot.length t.storage.handleIndex =
            some found →
          handle = found ||| t.storage.harbor →
            registered = registerAt t ctx found → motive t)
    (grows :
      ∀ {t grown : System}, growSlots t = .ok grown → motive grown → motive t) :
    motive s := by
  unfold handleRegister at returned
  generalize 26 = turns at returned
  induction turns generalizing s with
  | zero =>
      cases returned
  | succ turns inductionHypothesis =>
      unfold registerLoop at returned
      split at returned
      · next found scanned =>
          injection returned with returned
          injection returned with isHandle isRegistered
          exact enters scanned isHandle.symm isRegistered.symm
      · split at returned
        · next grown isGrown =>
            exact grows isGrown (inductionHypothesis returned)
        · cases returned

/--
A registration enters the context in the first free slot of the scan, unless
the table grew.
-/
theorem handleRegister_cases
    {s registered : System}
    {ctx : ContextId}
    {handle : UInt32}
    (returned : handleRegister s ctx = .ok (handle, registered)) :
    (∃ found,
      s.storage.probe s.storage.slot.length s.storage.handleIndex =
          some found ∧
        handle = found ||| s.storage.harbor ∧
        registered = registerAt s ctx found) ∨
      s.storage.slot.length < registered.storage.slot.length ∧
        registered.contexts = s.contexts ∧
        registered.nextContext = s.nextContext := by
  apply handleRegister_induction returned
  · intro t found scanned isHandle isRegistered
    exact Or.inl ⟨found, scanned, isHandle, isRegistered⟩
  · intro t grown grows inductionHypothesis
    right
    obtain ⟨larger, sameContexts, sameNext⟩ := growSlots_grows grows
    rcases inductionHypothesis with
      ⟨found, _, _, isRegistered⟩ | ⟨largerYet, later⟩
    · subst isRegistered
      refine ⟨?_, sameContexts, sameNext⟩
      simpa [registerAt] using larger
    · exact ⟨Nat.lt_trans larger largerYet,
        later.1.trans sameContexts, later.2.trans sameNext⟩

/-- A registration writes the table only. -/
theorem handleRegister_storage
    {s registered : System}
    {ctx : ContextId}
    {handle : UInt32}
    (returned : handleRegister s ctx = .ok (handle, registered)) :
    registered = { s with storage := registered.storage } := by
  apply handleRegister_induction returned
  · intro t found _ _ isRegistered
    rw [isRegistered]
    rfl
  · intro t grown grows inductionHypothesis
    obtain ⟨newSlot, -, -, rfl⟩ := growSlots_rehashes grows
    exact inductionHypothesis

/-- A registration writes no context. -/
theorem handleRegister_contexts
    {s registered : System}
    {ctx : ContextId}
    {handle : UInt32}
    (returned : handleRegister s ctx = .ok (handle, registered)) :
    registered.contexts = s.contexts := by
  rw [handleRegister_storage returned]

/-- The context that a handle names, as `HandleGrab` and `HandleRetire` look it up. -/
def handleLookup
    (s : System)
    (handle : UInt32) : Option ContextId :=
  match s.storage.slotAt (s.storage.hash handle) with
  | some ctx =>
      if (s.contexts ctx).handle = handle then some ctx else none
  | none => none

/-- A handle names the context of its slot when the context carries it. -/
theorem handleLookup_eq_some_iff
    {s : System}
    {handle : UInt32}
    {ctx : ContextId} :
    handleLookup s handle = some ctx ↔
      s.storage.slotAt (s.storage.hash handle) = some ctx ∧
        (s.contexts ctx).handle = handle := by
  unfold handleLookup
  cases occupied : s.storage.slotAt (s.storage.hash handle) with
  | none =>
      simp
  | some other =>
      by_cases carries : (s.contexts other).handle = handle
      · simp only [carries, ↓reduceIte, Option.some.injEq]
        constructor
        · intro same
          exact ⟨same, same ▸ carries⟩
        · exact And.left
      · simp only [carries, ↓reduceIte, reduceCtorEq, false_iff]
        rintro ⟨same, carried⟩
        injection same with same
        exact carries (same ▸ carried)

/--
The loop of `HandleRetire` over the names: entries of the handle are blanked,
later ones move down.  `i` reads, `j` writes.
-/
def retireNames (handle : UInt32) :
    Nat → Nat → Nat → List HandleName → List HandleName × Nat
  | 0, _, j, name => (name, j)
  | turns + 1, i, j, name =>
      match name[i]? with
      | none => (name, j)
      | some entry =>
          if entry.handle = handle then
            retireNames handle turns (i + 1) j
              (name.set i { entry with name := "" })
          else if i ≠ j then
            retireNames handle turns (i + 1) (j + 1) (name.set j entry)
          else
            retireNames handle turns (i + 1) (j + 1) name

/-- Clear the slot of a handle and drop its names. -/
def unlinkAt
    (s : System)
    (handle : UInt32) : System :=
  let retired := retireNames handle s.storage.nameCount 0 0 s.storage.name
  { s with
    storage :=
      { s.storage.setSlot (s.storage.hash handle) none with
        name := retired.1
        nameCount := retired.2 } }

@[simp] theorem unlinkAt_contexts
    (s : System)
    (handle : UInt32) :
    (unlinkAt s handle).contexts = s.contexts :=
  rfl

@[simp] theorem hash_unlinkAt
    (s : System)
    (handle other : UInt32) :
    (unlinkAt s handle).storage.hash other = s.storage.hash other :=
  HandleStorage.hash_setSlot s.storage (s.storage.hash handle) none other

/-- Only the slot of the handle is cleared. -/
theorem slotAt_unlinkAt
    (s : System)
    (handle : UInt32)
    (index : Nat) :
    (unlinkAt s handle).storage.slotAt index =
      if index = s.storage.hash handle then none
      else s.storage.slotAt index := by
  by_cases same : index = s.storage.hash handle
  · subst same
    by_cases inTable : s.storage.hash handle < s.storage.slot.length
    · rw [if_pos rfl]
      exact HandleStorage.slotAt_setSlot_self s.storage inTable none
    · have outside := Nat.le_of_not_lt inTable
      simp [unlinkAt, HandleStorage.slotAt, HandleStorage.setSlot,
        List.set_eq_of_length_le outside, List.getElem?_eq_none outside]
  · rw [if_neg same]
    exact HandleStorage.slotAt_setSlot_of_ne s.storage same none

/-- The locked section of `HandleRetire`: the context taken out, if any. -/
def handleUnlink
    (s : System)
    (handle : UInt32) : Option ContextId × System :=
  match handleLookup s handle with
  | some ctx => (some ctx, unlinkAt s handle)
  | none => (none, s)

/-- `HandleRetire`. -/
def handleRetire
    (s : System)
    (handle : UInt32) : Except Fault (Int × System) :=
  let unlinked := handleUnlink s handle
  match unlinked.1 with
  | some ctx =>
      match contextRelease unlinked.2 ctx with
      | .ok (_, released) => .ok (1, released)
      | .error fault => .error fault
  | none => .ok (0, unlinked.2)

/-- A retirement that returns found nothing, or released what it unlinked. -/
theorem handleRetire_cases
    {s s' : System}
    {handle : UInt32}
    {result : Int}
    (returned : handleRetire s handle = .ok (result, s')) :
    handleLookup s handle = none ∧ s' = s ∨
      ∃ ctx inUse,
        handleLookup s handle = some ctx ∧
          contextRelease (unlinkAt s handle) ctx = .ok (inUse, s') := by
  unfold handleRetire handleUnlink at returned
  cases found : handleLookup s handle with
  | none =>
      simp only [found, Except.ok.injEq, Prod.mk.injEq] at returned
      exact Or.inl ⟨rfl, returned.2.symm⟩
  | some ctx =>
      right
      simp only [found] at returned
      split at returned
      · next inUse released release =>
          injection returned with returned
          injection returned with _ isState
          exact ⟨ctx, inUse, rfl, isState ▸ release⟩
      · cases returned

/-- `HandleGrab`. -/
def handleGrab
    (s : System)
    (handle : UInt32) : Option ContextId × System :=
  match handleLookup s handle with
  | some ctx => (some ctx, contextGrab s ctx)
  | none => (none, s)

/-- The binary search of `HandleFindname`; 0 when the name is not bound. -/
def findnameLoop
    (names : List HandleName)
    (name : String) : Nat → Int → Int → UInt32
  | 0, _, _ => 0
  | turns + 1, start, stop =>
      if start ≤ stop then
        let mid := (start + stop) / 2
        match names[mid.toNat]? with
        | none => 0
        | some entry =>
            if entry.name = name then entry.handle
            else if entry.name < name then
              findnameLoop names name turns (mid + 1) stop
            else
              findnameLoop names name turns start (mid - 1)
      else
        0

/-- `HandleFindname`. -/
def handleFindname
    (s : System)
    (name : String) : UInt32 :=
  findnameLoop s.storage.name name (s.storage.nameCount + 1)
    0 (s.storage.nameCount - 1)

/-- The table that `HandleInit` sets up. -/
def handleInit (harbor : UInt32) : HandleStorage where
  harbor := (harbor &&& 0xff) <<< kHandleRemoteShift
  handleIndex := 1
  slot := List.replicate kDefaultSoltSize none
  nameCount := 0
  name := List.replicate 2 { name := "", handle := 0 }

/-- A running service with handle 1. -/
def soloContext : Context where
  mod := { create := true, init := true, release := true }
  handle := 1
  ref := 1
  queue := 0
  cb := some 0
  sessionId := 0
  init := true
  endless := false
  messageCount := 0
  profile := true
  cpuCost := 0
  cpuStart := 0
  deleted := 0

/-- A node with one running service, whose queue is empty and not linked. -/
def soloSystem : System where
  contexts := fun _ => soloContext
  nextContext := 1
  queues :=
    { mq := fun _ => { newMessageQueue 1 with inGlobal := 0 }
      head := none
      tail := none }
  nextQueue := 1
  storage :=
    { handleInit 0 with
      handleIndex := 2
      slot := [none, some 0, none, none] }
  total := 1
  profile := true
  harbor := 0
  logger := none

end SkynetCpp
