import SkynetCpp.Foundation.Run
import SkynetCpp.HandleFrame

namespace SkynetCpp

open Foundation

/-!
# The handle table over launches and retirements

The constructor of a context registers it, and `NewContext` registers it once
more.  The second registration takes a second slot and changes the handle, so
that the first slot keeps referring to a context whose handle leads elsewhere.
No later operation can clear that slot.  Retirements alone keep the table and
the contexts in agreement.
-/

namespace HandleTable

/-- A context that was constructed and not deleted. -/
def Live
    (s : System)
    (ctx : ContextId) : Prop :=
  ctx < s.nextContext ∧ (s.contexts ctx).deleted = 0

/-- The table and the live contexts agree. -/
structure Agrees (s : System) : Prop where
  slot :
    ∀ ctx, Live s ctx →
      ∀ index,
        s.storage.slotAt index = some ctx ↔
          index = s.storage.hash (s.contexts ctx).handle
  nonzero :
    ∀ ctx, Live s ctx → (s.contexts ctx).handle &&& kHandleMask ≠ 0
  distinct :
    ∀ first second,
      Live s first → Live s second →
        (s.contexts first).handle = (s.contexts second).handle →
          first = second
  grab :
    ∀ handle ctx,
      (handleGrab s handle).1 = some ctx ↔
        Live s ctx ∧ (s.contexts ctx).handle = handle
  retire :
    ∀ ctx, Live s ctx →
      ∀ result after,
        handleRetire s (s.contexts ctx).handle = .ok (result, after) →
          ∀ index, after.storage.slotAt index ≠ some ctx
  retired :
    ∀ index ctx, s.storage.slotAt index = some ctx → Live s ctx

/--
One operation on the table.  The `init` of a launched service installs a
callback, performs operations of its own and answers a result.
-/
inductive Operation where
  | handleRetire (handle : UInt32)
  | newContext
      (request : LaunchRequest)
      (stack : Nat → Option Message)
      (fuel : Nat)
      (cb : Option Nat)
      (during : List Operation)
      (result : Int)

mutual

/-- Perform one operation. -/
def perform : Operation → System → Except Fault System
  | .handleRetire handle, s => do
      let (_, s) ← handleRetire s handle
      .ok s
  | .newContext request stack fuel cb during result, s => do
      let (_, s) ←
        newContext request stack fuel
          (fun ctx s => do
            let s ← performAll during (serviceCallback s ctx cb)
            .ok (result, s))
          s
      .ok s

/-- Perform operations one after the other. -/
def performAll : List Operation → System → Except Fault System
  | [], s => .ok s
  | operation :: rest, s => do
      let s ← perform operation s
      performAll rest s

end

/-- A completed operation in which the table did not grow. -/
def Step
    (s : System)
    (operation : Operation)
    (next : System) : Prop :=
  perform operation s = .ok next ∧
    next.storage.slot.length = s.storage.slot.length

/-- A slot refers to a context whose handle leads to another slot. -/
def Misplaced
    (s : System)
    (ctx : ContextId)
    (index : Nat) : Prop :=
  s.storage.slotAt index = some ctx ∧
    s.storage.hash (s.contexts ctx).handle ≠ index

/-- A misplaced context, live or not, is a disagreement. -/
theorem Misplaced.not_agrees
    {s : System}
    {ctx : ContextId}
    {index : Nat}
    (misplaced : Misplaced s ctx index) :
    ¬ Agrees s := by
  intro agrees
  have live := agrees.retired index ctx misplaced.1
  exact misplaced.2 ((agrees.slot ctx live index).mp misplaced.1).symm

/--
What every operation does to the contexts below a bound: while the table keeps
its size, a misplaced one stays misplaced.
-/
structure Keeps
    (bound : ContextId)
    (s s' : System) : Prop where
  size : s.storage.slot.length ≤ s'.storage.slot.length
  next : s.nextContext ≤ s'.nextContext
  misplaced :
    s'.storage.slot.length = s.storage.slot.length →
      ∀ ctx, ctx < bound →
        ∀ index, Misplaced s ctx index → Misplaced s' ctx index

namespace Keeps

variable
    {bound : ContextId}
    {s s' s'' : System}

theorem trans
    (first : Keeps bound s s')
    (second : Keeps bound s' s'') :
    Keeps bound s s'' where
  size := Nat.le_trans first.size second.size
  next := Nat.le_trans first.next second.next
  misplaced := by
    intro sameSize ctx below index misplaced
    have sameFirst : s'.storage.slot.length = s.storage.slot.length :=
      Nat.le_antisymm (sameSize ▸ second.size) first.size
    exact second.misplaced (sameSize.trans sameFirst.symm) ctx below index
      (first.misplaced sameFirst ctx below index misplaced)

theorem mono
    {smaller : ContextId}
    (keeps : Keeps bound s s')
    (le : smaller ≤ bound) :
    Keeps smaller s s' where
  size := keeps.size
  next := keeps.next
  misplaced := fun sameSize ctx below =>
    keeps.misplaced sameSize ctx (Nat.lt_of_lt_of_le below le)

theorem of_sameTable
    (same : SameTable s s') :
    Keeps bound s s' where
  size := Nat.le_of_eq (by rw [same.storage])
  next := Nat.le_of_eq same.next.symm
  misplaced := by
    intro _ ctx _ index misplaced
    unfold Misplaced at misplaced ⊢
    rw [same.storage, same.handle]
    exact misplaced

/-- Clearing the slot of a handle spares the slots of misplaced contexts. -/
theorem unlinkAt
    {handle : UInt32}
    {target : ContextId}
    (found : handleLookup s handle = some target) :
    Keeps bound s (unlinkAt s handle) := by
  obtain ⟨occupied, carries⟩ := handleLookup_eq_some_iff.mp found
  refine ⟨by simp [SkynetCpp.unlinkAt], Nat.le_refl _, ?_⟩
  rintro _ ctx _ index ⟨refers, elsewhere⟩
  have otherSlot : index ≠ s.storage.hash handle := by
    intro same
    rw [same, occupied] at refers
    injection refers with sameContext
    rw [← sameContext, carries] at elsewhere
    exact elsewhere same.symm
  constructor
  · rw [slotAt_unlinkAt, if_neg otherSlot]
    exact refers
  · rwa [hash_unlinkAt, unlinkAt_contexts]

theorem handleRetire
    {handle : UInt32}
    {result : Int}
    (returned : handleRetire s handle = .ok (result, s')) :
    Keeps bound s s' := by
  rcases handleRetire_cases returned with
    ⟨_, isSame⟩ | ⟨target, inUse, found, release⟩
  · rw [isSame]
    exact of_sameTable (SameTable.refl s)
  · exact (unlinkAt found).trans
      (of_sameTable (SameTable.contextRelease release))

/-- Entering another context takes a free slot. -/
theorem enrollContext
    {ctx : ContextId}
    (returned : enrollContext s ctx = .ok s') :
    Keeps ctx s s' := by
  unfold SkynetCpp.enrollContext at returned
  split at returned
  · next handle registered registers =>
      injection returned with isState
      subst isState
      rcases handleRegister_cases registers with
        ⟨found, scanned, _, isRegistered⟩ | ⟨larger, sameContexts, sameNext⟩
      · subst isRegistered
        refine ⟨by simp [registerAt], Nat.le_refl _, ?_⟩
        rintro _ other below index ⟨refers, elsewhere⟩
        have otherContext : other ≠ ctx := Nat.ne_of_lt below
        have otherSlot : index ≠ s.storage.hash found := by
          intro same
          rw [same, HandleStorage.slotAt_of_probe scanned] at refers
          cases refers
        constructor
        · exact (HandleStorage.slotAt_setSlot_of_ne s.storage otherSlot
            (some ctx)).trans refers
        · simpa [registerAt, HandleStorage.hash,
            System.modify_contexts_of_ne _ _ otherContext] using elsewhere
      · refine ⟨Nat.le_of_lt larger, Nat.le_of_eq sameNext.symm, ?_⟩
        intro sameSize
        exact absurd sameSize (Nat.ne_of_gt larger)
  · cases returned

/-- Constructing a context spares the contexts that were there before. -/
theorem constructContext
    {mod : Module}
    {ctx : ContextId}
    (returned : constructContext s mod = .ok (ctx, s')) :
    ctx = s.nextContext ∧ ctx < s'.nextContext ∧ Keeps ctx s s' := by
  simp only [SkynetCpp.constructContext, bind_eq_ok_iff] at returned
  obtain ⟨t, enrolls, isResult⟩ := returned
  obtain ⟨rfl, rfl⟩ := ok_pair_inj.mp isResult
  have allocates :
      Keeps s.nextContext s
        { (s.modify s.nextContext fun _ => freshContext s mod) with
          nextContext := s.nextContext + 1 } := by
    refine ⟨Nat.le_refl _, Nat.le_succ _, ?_⟩
    rintro _ ctx below index ⟨refers, elsewhere⟩
    have different : ctx ≠ s.nextContext := Nat.ne_of_lt below
    refine ⟨refers, ?_⟩
    simpa [System.modify_contexts_of_ne s _ different] using elsewhere
  have enrolled := enrollContext enrolls
  exact ⟨rfl, enrolled.next, allocates.trans enrolled⟩

theorem launchFailed
    {request : LaunchRequest}
    {stack : Nat → Option Message}
    {fuel : Nat}
    {ctx : ContextId}
    {queue : QueueId}
    (returned : launchFailed request stack fuel s ctx queue = .ok s') :
    Keeps bound s s' := by
  simp only [SkynetCpp.launchFailed, bind_eq_ok_iff] at returned
  obtain ⟨t, logged, ⟨inUse, u⟩, release, ⟨result, v⟩, retire, drained⟩ :=
    returned
  have released :=
    (SameTable.keptBySends.skynetError logged).trans
      (SameTable.contextRelease release)
  exact ((of_sameTable released).trans (handleRetire retire)).trans
    (of_sameTable (SameTable.messageQueueRelease drained))

/-- After the second registration the contexts of the launch are only kept. -/
theorem launchContext
    {request : LaunchRequest}
    {stack : Nat → Option Message}
    {fuel : Nat}
    {init : ContextId → System → Except Fault (Int × System)}
    {mod : Module}
    {ctx : ContextId}
    {created : Option ContextId}
    (initKeeps :
      ∀ {ctx before result after},
        init ctx before = .ok (result, after) →
          Keeps before.nextContext before after)
    (returned : launchContext request stack fuel init mod ctx s = .ok (created, s')) :
    ∃ enrolled,
      SkynetCpp.enrollContext s ctx = .ok enrolled ∧
        Keeps enrolled.nextContext enrolled s' := by
  simp only [SkynetCpp.launchContext, bind_eq_ok_iff] at returned
  obtain ⟨enrolled, enrolls, returned⟩ := returned
  refine ⟨enrolled, enrolls, ?_⟩
  split at returned
  · simp only [bind_eq_ok_iff] at returned
    obtain ⟨⟨result, t⟩, initialised, returned⟩ := returned
    have inits := initKeeps initialised
    split at returned
    · simp only [bind_eq_ok_iff] at returned
      obtain ⟨u, succeeded, isResult⟩ := returned
      injection isResult with isResult
      injection isResult with _ isState
      rw [← isState]
      exact inits.trans (of_sameTable (SameTable.launchSucceeded succeeded))
    · simp only [bind_eq_ok_iff] at returned
      obtain ⟨u, failed, isResult⟩ := returned
      injection isResult with isResult
      injection isResult with _ isState
      rw [← isState]
      exact inits.trans (launchFailed failed)
  · cases returned

/-- A `NewContext` that returns went through both registrations. -/
theorem newContext_cases
    {request : LaunchRequest}
    {stack : Nat → Option Message}
    {fuel : Nat}
    {init : ContextId → System → Except Fault (Int × System)}
    {created : Option ContextId}
    (initKeeps :
      ∀ {ctx before result after},
        init ctx before = .ok (result, after) →
          Keeps before.nextContext before after)
    (returned : newContext request stack fuel init s = .ok (created, s')) :
    ∃ mod ctx constructed enrolled,
      SkynetCpp.constructContext s mod = .ok (ctx, constructed) ∧
        SkynetCpp.enrollContext constructed ctx = .ok enrolled ∧
        Keeps enrolled.nextContext enrolled s' := by
  simp only [SkynetCpp.newContext, bind_eq_ok_iff] at returned
  obtain ⟨mod, _, ⟨ctx, constructed⟩, constructs, launches⟩ := returned
  obtain ⟨enrolled, enrolls, keeps⟩ := launchContext initKeeps launches
  exact ⟨mod, ctx, constructed, enrolled, constructs, enrolls, keeps⟩

theorem newContext
    {request : LaunchRequest}
    {stack : Nat → Option Message}
    {fuel : Nat}
    {init : ContextId → System → Except Fault (Int × System)}
    {created : Option ContextId}
    (initKeeps :
      ∀ {ctx before result after},
        init ctx before = .ok (result, after) →
          Keeps before.nextContext before after)
    (returned : newContext request stack fuel init s = .ok (created, s')) :
    Keeps s.nextContext s s' := by
  obtain ⟨mod, ctx, constructed, enrolled, constructs, enrolls, keeps⟩ :=
    newContext_cases initKeeps returned
  obtain ⟨isNext, below, constructing⟩ := constructContext constructs
  have enrolling := enrollContext enrolls
  have bound : ctx ≤ enrolled.nextContext :=
    Nat.le_trans (Nat.le_of_lt below) enrolling.next
  rw [← isNext]
  exact (constructing.trans enrolling).trans (keeps.mono bound)

end Keeps

/-- The `init` of a launch keeps what its operations keep. -/
theorem init_keeps
    {during : List Operation}
    (kept :
      ∀ {s s'}, performAll during s = .ok s' → Keeps s.nextContext s s')
    {cb : Option Nat}
    {result answer : Int}
    {ctx : ContextId}
    {before after : System}
    (initialised :
      (do
        let s ← performAll during (serviceCallback before ctx cb)
        .ok (result, s)) = .ok (answer, after)) :
    Keeps before.nextContext before after := by
  simp only [bind_eq_ok_iff] at initialised
  obtain ⟨t, performed, isAnswer⟩ := initialised
  injection isAnswer with isAnswer
  injection isAnswer with _ isState
  rw [← isState]
  have installs : SameTable before (serviceCallback before ctx cb) :=
    SameTable.modify before ctx _ rfl
  exact (Keeps.of_sameTable installs).trans (kept performed)

mutual

/-- Every operation that returns keeps the contexts that were there before. -/
theorem perform_keeps
    (operation : Operation)
    {s s' : System}
    (performed : perform operation s = .ok s') :
    Keeps s.nextContext s s' := by
  cases operation with
  | handleRetire handle =>
      simp only [perform, bind_eq_ok_iff] at performed
      obtain ⟨⟨result, t⟩, retired, isResult⟩ := performed
      injection isResult with isResult
      rw [← isResult]
      exact Keeps.handleRetire retired
  | newContext request stack fuel cb during result =>
      simp only [perform, bind_eq_ok_iff] at performed
      obtain ⟨⟨created, t⟩, launched, isResult⟩ := performed
      injection isResult with isResult
      rw [← isResult]
      exact Keeps.newContext
        (init_keeps (fun performed => performAll_keeps during performed))
        launched

/-- Operations one after the other keep the contexts that were there before. -/
theorem performAll_keeps
    (operations : List Operation)
    {s s' : System}
    (performed : performAll operations s = .ok s') :
    Keeps s.nextContext s s' := by
  cases operations with
  | nil =>
      injection performed with isSame
      rw [isSame]
      exact Keeps.of_sameTable (SameTable.refl s')
  | cons operation rest =>
      simp only [performAll, bind_eq_ok_iff] at performed
      obtain ⟨t, first, later⟩ := performed
      have firstKeeps := perform_keeps operation first
      exact firstKeeps.trans
        ((performAll_keeps rest later).mono firstKeeps.next)

end

/-- Entering a context in a table that does not grow takes one free slot. -/
theorem enrollContext_of_same_size
    {s s' : System}
    {ctx : ContextId}
    (returned : enrollContext s ctx = .ok s')
    (sameSize : s'.storage.slot.length = s.storage.slot.length) :
    ∃ found,
      s.storage.slotAt (s.storage.hash found) = none ∧
        s'.storage.slotAt (s.storage.hash found) = some ctx ∧
        (∀ index, index ≠ s.storage.hash found →
          s'.storage.slotAt index = s.storage.slotAt index) ∧
        (s'.contexts ctx).handle = found ||| s.storage.harbor ∧
        s'.storage.harbor = s.storage.harbor := by
  unfold enrollContext at returned
  split at returned
  · next handle registered registers =>
      injection returned with isState
      subst isState
      rcases handleRegister_cases registers with
        ⟨found, scanned, isHandle, isRegistered⟩ | ⟨larger, _⟩
      · subst isRegistered
        have nonempty : 0 < s.storage.slot.length := by
          by_contra isEmpty
          rw [Nat.eq_zero_of_not_pos isEmpty] at scanned
          cases scanned
        have inTable := HandleStorage.hash_lt nonempty found
        refine ⟨found, HandleStorage.slotAt_of_probe scanned, ?_, ?_, ?_, rfl⟩
        · exact HandleStorage.slotAt_setSlot_self s.storage inTable (some ctx)
        · intro index different
          exact HandleStorage.slotAt_setSlot_of_ne s.storage different (some ctx)
        · simp [isHandle]
      · exact absurd sameSize (Nat.ne_of_gt larger)
  · cases returned

/--
A `NewContext` that returns leaves the new context in two slots that were free,
so in one that is not the slot of its handle.
-/
theorem newContext_misplaces
    {s s' : System}
    {request : LaunchRequest}
    {stack : Nat → Option Message}
    {fuel : Nat}
    {init : ContextId → System → Except Fault (Int × System)}
    {created : Option ContextId}
    (initKeeps :
      ∀ {ctx before result after},
        init ctx before = .ok (result, after) →
          Keeps before.nextContext before after)
    (returned : newContext request stack fuel init s = .ok (created, s'))
    (sameSize : s'.storage.slot.length = s.storage.slot.length) :
    ∃ index,
      s.storage.slotAt index = none ∧ Misplaced s' s.nextContext index := by
  obtain ⟨mod, ctx, constructed, enrolled, constructs, enrolls, keeps⟩ :=
    Keeps.newContext_cases initKeeps returned
  obtain ⟨_, below, constructing⟩ := Keeps.constructContext constructs
  have enrolling := Keeps.enrollContext enrolls
  have constructedSize :
      constructed.storage.slot.length = s.storage.slot.length :=
    Nat.le_antisymm
      (sameSize ▸ Nat.le_trans enrolling.size keeps.size) constructing.size
  have enrolledSize :
      enrolled.storage.slot.length = constructed.storage.slot.length :=
    Nat.le_antisymm
      (constructedSize ▸ sameSize ▸ keeps.size) enrolling.size
  have keptSize :
      s'.storage.slot.length = enrolled.storage.slot.length :=
    sameSize.trans (enrolledSize.trans constructedSize).symm
  simp only [constructContext, bind_eq_ok_iff] at constructs
  obtain ⟨t, firstEnrolls, isResult⟩ := constructs
  obtain ⟨rfl, rfl⟩ := ok_pair_inj.mp isResult
  obtain ⟨first, firstFree, firstTaken, firstOthers, _, _⟩ :=
    enrollContext_of_same_size firstEnrolls constructedSize
  obtain ⟨second, secondFree, secondTaken, othersKept, _, _⟩ :=
    enrollContext_of_same_size enrolls enrolledSize
  have twoSlots : s.storage.hash first ≠ t.storage.hash second := by
    intro same
    rw [← same] at secondFree
    exact absurd (firstTaken.symm.trans secondFree) (Option.some_ne_none _)
  have below' : s.nextContext < enrolled.nextContext :=
    Nat.lt_of_lt_of_le below enrolling.next
  by_cases isFirst :
      enrolled.storage.hash (enrolled.contexts s.nextContext).handle =
        s.storage.hash first
  · refine ⟨t.storage.hash second, ?_,
      keeps.misplaced keptSize s.nextContext below' _ ⟨secondTaken, ?_⟩⟩
    · exact (firstOthers _ twoSlots.symm).symm.trans secondFree
    · rw [isFirst]
      exact twoSlots
  · exact
      ⟨s.storage.hash first, firstFree,
        keeps.misplaced keptSize s.nextContext below' _
          ⟨(othersKept _ twoSlots).trans firstTaken, isFirst⟩⟩

/--
What retirements preserve: the slots hold the live contexts, each in the slot
of its handle, and the table holds the only reference to each.
-/
structure Placed (s : System) : Prop where
  slot :
    ∀ ctx, Live s ctx →
      ∀ index,
        s.storage.slotAt index = some ctx ↔
          index = s.storage.hash (s.contexts ctx).handle
  live : ∀ index ctx, s.storage.slotAt index = some ctx → Live s ctx
  nonzero :
    ∀ ctx, Live s ctx → (s.contexts ctx).handle &&& kHandleMask ≠ 0
  owned : ∀ ctx, Live s ctx → (s.contexts ctx).ref = 1
  sized : s.storage.slot.length ≤ 2 ^ 24
  harbor : s.storage.harbor &&& kHandleMask = 0

namespace Placed

variable
    {s s' : System}

/-- A lookup finds exactly the live contexts by their handles. -/
theorem lookup_iff
    (placed : Placed s)
    {handle : UInt32}
    {ctx : ContextId} :
    handleLookup s handle = some ctx ↔
      Live s ctx ∧ (s.contexts ctx).handle = handle := by
  rw [handleLookup_eq_some_iff]
  constructor
  · rintro ⟨occupied, carries⟩
    exact ⟨placed.live _ ctx occupied, carries⟩
  · rintro ⟨live, carries⟩
    refine ⟨(placed.slot ctx live _).mpr ?_, carries⟩
    rw [carries]

/-- Retiring a live context deletes it and leaves every other one in place. -/
theorem handleRetire
    (placed : Placed s)
    {handle : UInt32}
    {result : Int}
    (returned : handleRetire s handle = .ok (result, s')) :
    Placed s' ∧
      ∀ ctx, Live s ctx → (s.contexts ctx).handle = handle →
        ∀ index, s'.storage.slotAt index ≠ some ctx := by
  rcases handleRetire_cases returned with
    ⟨notFound, isSame⟩ | ⟨target, inUse, found, release⟩
  · subst isSame
    refine ⟨placed, ?_⟩
    intro ctx live carries
    rw [placed.lookup_iff.mpr ⟨live, carries⟩] at notFound
    cases notFound
  · obtain ⟨targetLive, carries⟩ := placed.lookup_iff.mp found
    have sameTable := SameTable.contextRelease release
    have slots (index : Nat) :
        s'.storage.slotAt index =
          if index = s.storage.hash handle then none
          else s.storage.slotAt index := by
      rw [sameTable.storage, slotAt_unlinkAt]
    have hashes (other : UInt32) :
        s'.storage.hash other = s.storage.hash other := by
      rw [sameTable.storage, hash_unlinkAt]
    have isLast : ((unlinkAt s handle).contexts target).ref = 1 :=
      placed.owned target targetLive
    obtain ⟨_, _, queues, _, isReleased⟩ :=
      (contextRelease_cases release).resolve_left
        (fun notLast => notLast.1 isLast)
    have others {ctx : ContextId} (different : ctx ≠ target) :
        s'.contexts ctx = s.contexts ctx := by
      rw [isReleased]
      simp [contextReleased, deleteContext, contextUnref,
        System.modify_contexts_of_ne _ _ different]
    have gone : ¬ Live s' target := by
      rintro ⟨_, undeleted⟩
      rw [isReleased] at undeleted
      simp [contextReleased, deleteContext] at undeleted
    have nextContext : s'.nextContext = s.nextContext := sameTable.next
    have stays {ctx : ContextId} :
        Live s' ctx ↔ ctx ≠ target ∧ Live s ctx := by
      constructor
      · intro live
        have different : ctx ≠ target := by
          intro same
          exact gone (same ▸ live)
        refine ⟨different, ?_⟩
        unfold Live at live ⊢
        rwa [nextContext, others different] at live
      · rintro ⟨different, live⟩
        unfold Live at live ⊢
        rwa [nextContext, others different]
    have clearsTarget (index : Nat) : s'.storage.slotAt index ≠ some target := by
      rw [slots]
      split
      · exact fun impossible => nomatch impossible
      · next otherSlot =>
          intro refers
          have isSlot := (placed.slot target targetLive index).mp refers
          rw [carries] at isSlot
          exact otherSlot isSlot
    refine ⟨⟨?_, ?_, ?_, ?_, ?_, ?_⟩, ?_⟩
    · intro ctx live index
      obtain ⟨different, wasLive⟩ := stays.mp live
      rw [slots, hashes, others different]
      split
      · next isTargetSlot =>
          constructor
          · intro impossible
            cases impossible
          · intro isSlot
            have refers := (placed.slot ctx wasLive index).mpr isSlot
            rw [isTargetSlot, (handleLookup_eq_some_iff.mp found).1] at refers
            injection refers with same
            exact absurd same.symm different
      · exact placed.slot ctx wasLive index
    · intro index ctx refers
      have different : ctx ≠ target := by
        intro same
        exact clearsTarget index (same ▸ refers)
      rw [slots] at refers
      split at refers
      · cases refers
      · exact stays.mpr ⟨different, placed.live index ctx refers⟩
    · intro ctx live
      obtain ⟨different, wasLive⟩ := stays.mp live
      rw [others different]
      exact placed.nonzero ctx wasLive
    · intro ctx live
      obtain ⟨different, wasLive⟩ := stays.mp live
      rw [others different]
      exact placed.owned ctx wasLive
    · rw [sameTable.storage]
      simpa [unlinkAt] using placed.sized
    · rw [sameTable.storage]
      exact placed.harbor
    · intro ctx live carriesToo
      have isTarget : ctx = target := by
        have foundToo := placed.lookup_iff.mpr ⟨live, carriesToo⟩
        rw [found] at foundToo
        injection foundToo with same
        exact same.symm
      rw [isTarget]
      exact clearsTarget

/-- Placed contexts agree with the table. -/
theorem agrees
    (placed : Placed s) :
    Agrees s where
  slot := placed.slot
  nonzero := placed.nonzero
  distinct := by
    intro first second firstLive secondLive sameHandle
    have firstSlot := (placed.slot first firstLive _).mpr rfl
    have secondSlot := (placed.slot second secondLive _).mpr rfl
    rw [← sameHandle, firstSlot] at secondSlot
    injection secondSlot
  grab := by
    intro handle ctx
    rw [← placed.lookup_iff]
    unfold handleGrab
    cases handleLookup s handle <;> rfl
  retire := by
    intro ctx live result after returned
    exact (placed.handleRetire returned).2 ctx live rfl
  retired := placed.live

end Placed

/-- The operation is a retirement, not a launch. -/
def Retires : Operation → Prop
  | .handleRetire _ => True
  | .newContext .. => False

/-- A launch that returns leaves the table in disagreement. -/
theorem not_agrees_of_newContext
    {s s' : System}
    {request : LaunchRequest}
    {stack : Nat → Option Message}
    {fuel : Nat}
    {cb : Option Nat}
    {during : List Operation}
    {result : Int}
    (step : Step s (.newContext request stack fuel cb during result) s') :
    ¬ Agrees s' := by
  obtain ⟨performed, sameSize⟩ := step
  simp only [perform, bind_eq_ok_iff] at performed
  obtain ⟨⟨created, t⟩, launched, isState⟩ := performed
  injection isState with isState
  subst isState
  obtain ⟨index, _, misplaced⟩ :=
    newContext_misplaces
      (init_keeps (fun performed => performAll_keeps during performed))
      launched sameSize
  exact misplaced.not_agrees

/-- The table of a started node is placed: it is empty. -/
theorem placed_of_handleInit
    {s : System}
    {harbor : UInt32}
    (noContext : s.nextContext = 0)
    (initialised : s.storage = handleInit harbor) :
    Placed s := by
  have nobody (ctx : ContextId) : ¬ Live s ctx := by
    rintro ⟨below, _⟩
    rw [noContext] at below
    exact Nat.not_lt_zero _ below
  refine ⟨?_, ?_, ?_, ?_, ?_, ?_⟩
  · exact fun ctx live => absurd live (nobody ctx)
  · intro index ctx refers
    have noSlot : s.storage.slotAt index = none := by
      rw [initialised]
      simp only [HandleStorage.slotAt, handleInit, List.getElem?_replicate]
      split <;> rfl
    rw [noSlot] at refers
    cases refers
  · exact fun ctx live => absurd live (nobody ctx)
  · exact fun ctx live => absurd live (nobody ctx)
  · rw [initialised]
    simp [handleInit, kDefaultSoltSize]
  · rw [initialised]
    apply UInt32.toNat_inj.mp
    have isMask : kHandleMask.toNat = 2 ^ 24 - 1 := rfl
    have isShift : kHandleRemoteShift.toNat % 32 = 24 := rfl
    simp only [handleInit, UInt32.toNat_and, UInt32.toNat_shiftLeft, isMask,
      isShift, Nat.and_two_pow_sub_one_eq_mod, Nat.shiftLeft_eq]
    show _ = 0
    omega

/--
As long as the table does not grow, it agrees with the live contexts in every
state of a run exactly when the run launches nothing.
-/
theorem handleTable_agrees_iff
    {initial final : System}
    {past : List (System × Operation)}
    (placed : Placed initial)
    (run : Run Step initial past final) :
    (∀ state ∈ Run.visited past final, Agrees state) ↔
      ∀ state operation, (state, operation) ∈ past → Retires operation := by
  refine Run.property_visited_iff run placed ?_ Placed.agrees ?_
  · intro s operation next placed retires step
    cases operation with
    | handleRetire handle =>
        obtain ⟨performed, _⟩ := step
        simp only [perform, bind_eq_ok_iff] at performed
        obtain ⟨⟨result, t⟩, retired, isState⟩ := performed
        injection isState with isState
        rw [← isState]
        exact (placed.handleRetire retired).1
    | newContext request stack fuel cb during result =>
        exact retires.elim
  · intro s operation next placed step agrees
    cases operation with
    | handleRetire handle =>
        trivial
    | newContext request stack fuel cb during result =>
        exact absurd agrees (not_agrees_of_newContext step)

theorem placed_soloSystem : Placed soloSystem := by
  have isZero {ctx : ContextId} (live : Live soloSystem ctx) : ctx = 0 :=
    Nat.lt_one_iff.mp live.1
  have slots (index ctx : Nat) :
      soloSystem.storage.slotAt index = some ctx ↔ index = 1 ∧ ctx = 0 := by
    match index with
    | 0 | 2 | 3 =>
        simp [soloSystem, HandleStorage.slotAt]
    | 1 =>
        simp [soloSystem, HandleStorage.slotAt, eq_comm]
    | index + 4 =>
        simp [soloSystem, HandleStorage.slotAt]
  refine ⟨?_, ?_, ?_, ?_, by decide, by decide⟩
  · intro ctx live index
    rw [slots, isZero live]
    exact ⟨fun both => both.1, fun isOne => ⟨isOne, rfl⟩⟩
  · intro index ctx refers
    rw [((slots index ctx).mp refers).2]
    exact ⟨Nat.one_pos, rfl⟩
  · intro ctx _
    show (1 : UInt32) &&& kHandleMask ≠ 0
    decide
  · exact fun _ _ => rfl

theorem handleTable_agrees_retiring :
    ∃ past final,
      Run Step soloSystem past final ∧ past ≠ [] ∧
        ∀ state ∈ Run.visited past final, Agrees state := by
  have retires :
      ∃ final, Step soloSystem (.handleRetire 1) final :=
    ⟨_, rfl, rfl⟩
  obtain ⟨final, step⟩ := retires
  have run :
      Run Step soloSystem [(soloSystem, .handleRetire 1)] final :=
    .snoc .nil step
  refine ⟨_, final, run, by simp, ?_⟩
  refine (handleTable_agrees_iff placed_soloSystem run).mpr ?_
  intro state operation member
  simp only [List.mem_singleton, Prod.mk.injEq] at member
  rw [member.2]
  trivial

/-- A node without services. -/
def bareSystem : System :=
  { soloSystem with
    nextContext := 0
    nextQueue := 0
    storage := handleInit 0
    total := 0 }

/-- A launch whose module has every function and whose `init` returns 0. -/
def plainLaunch : Operation :=
  .newContext
    { name := "plain"
      param := ""
      mod := some { create := true, init := true, release := true }
      inst := true }
    (fun _ => none) 0 (some 0) [] 0

/-- The first launch of a node ends with a context in two slots, and deleted. -/
theorem launch_registers_twice :
    (perform plainLaunch bareSystem).map (fun s =>
        (s.storage.slotAt 1, s.storage.slotAt 2, s.contexts 0 |>.handle,
          s.contexts 0 |>.deleted)) =
        .ok (some 0, some 0, 2, 1) ∧
      ¬ ∀ past final,
        Run Step bareSystem past final →
          ∀ state ∈ Run.visited past final, Agrees state := by
  have launched :
      (perform plainLaunch bareSystem).map (fun s =>
        (s.storage.slotAt 1, s.storage.slotAt 2, s.contexts 0 |>.handle,
          s.contexts 0 |>.deleted)) =
        .ok (some 0, some 0, 2, 1) :=
    rfl
  have sized :
      (perform plainLaunch bareSystem).map
        (fun s => s.storage.slot.length) = .ok 4 :=
    rfl
  refine ⟨launched, ?_⟩
  intro holds
  cases performed : perform plainLaunch bareSystem with
  | error fault =>
      rw [performed] at launched
      cases launched
  | ok final =>
      rw [performed] at launched sized
      injection launched with launched
      injection sized with sized
      simp only [Prod.mk.injEq] at launched
      have agrees :=
        holds _ final (.snoc .nil ⟨performed, sized⟩) final (by simp)
      have live := agrees.retired 1 0 launched.1
      rw [Live, launched.2.2.2] at live
      exact absurd live.2 Nat.one_ne_zero

end HandleTable

end SkynetCpp
