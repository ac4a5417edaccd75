import SkynetCpp.HandleTable

namespace SkynetCpp

/-!
# References to contexts

The reference count of a context against the number of its holders: the handle
table, and whoever else holds it.  Every function that grabs, releases or
registers a context keeps the account of one holder more or less.
-/

namespace References

/-- The reference that the table holds on a context. -/
def registered
    (s : System)
    (ctx : ContextId) : Nat :=
  if some ctx ∈ s.storage.slot then 1 else 0

/-- A context whose count and deletion fit the number of its holders. -/
structure Counted
    (context : Context)
    (holders : Nat) : Prop where
  count : context.ref = holders
  deletedOnce : context.deleted = if context.ref = 0 then 1 else 0
  alive : 0 < holders → context.deleted = 0

/-- A held context fits when it counts its holders and was not deleted. -/
theorem Counted.of_held
    {context : Context}
    {holders : Nat}
    (held : 0 < holders)
    (count : context.ref = holders)
    (undeleted : context.deleted = 0) :
    Counted context holders where
  count := count
  deletedOnce := by
    rw [undeleted, if_neg]
    omega
  alive := fun _ => undeleted

/-- The table leads from every occupied slot to the slot of its context's handle. -/
structure TableSound (s : System) : Prop where
  slot :
    ∀ index ctx, s.storage.slotAt index = some ctx →
      s.storage.slotAt (s.storage.hash (s.contexts ctx).handle) = some ctx
  sized : s.storage.slot.length ≤ 2 ^ 24
  harbor : s.storage.harbor &&& kHandleMask = 0

/-- The contexts of a state against the references held outside the table. -/
structure Accounted
    (s : System)
    (held : ContextId → Nat) : Prop where
  counted :
    ∀ ctx, ctx < s.nextContext →
      Counted (s.contexts ctx) (registered s ctx + held ctx)
  bounded : ∀ ctx, ctx < s.nextContext → (s.contexts ctx).ref < 2 ^ 31
  table : TableSound s
  allocated :
    ∀ ctx, 0 < registered s ctx + held ctx → ctx < s.nextContext

/-- The table holds a reference on what its slots refer to. -/
theorem registered_pos_iff
    {s : System}
    {ctx : ContextId} :
    0 < registered s ctx ↔ ∃ index, s.storage.slotAt index = some ctx := by
  unfold registered
  rw [← HandleStorage.mem_slot_iff]
  split <;> simp_all

theorem registered_eq_one_iff
    {s : System}
    {ctx : ContextId} :
    registered s ctx = 1 ↔ ∃ index, s.storage.slotAt index = some ctx := by
  rw [← registered_pos_iff]
  unfold registered
  split <;> simp

/-- The reference of the table depends on what its slots refer to only. -/
theorem registered_congr
    {s s' : System}
    {ctx : ContextId}
    (same :
      (∃ index, s'.storage.slotAt index = some ctx) ↔
        ∃ index, s.storage.slotAt index = some ctx) :
    registered s' ctx = registered s ctx := by
  have sameMember :
      some ctx ∈ s'.storage.slot ↔ some ctx ∈ s.storage.slot := by
    rw [HandleStorage.mem_slot_iff, HandleStorage.mem_slot_iff]
    exact same
  unfold registered
  simp only [sameMember]

@[simp] theorem registered_modify
    (s : System)
    (ctx other : ContextId)
    (change : Context → Context) :
    registered (s.modify ctx change) other = registered s other :=
  rfl

@[simp] theorem registered_contextGrab
    (s : System)
    (ctx other : ContextId) :
    registered (contextGrab s ctx) other = registered s other :=
  rfl

/-- A context that the table names is registered. -/
theorem registered_of_lookup
    {s : System}
    {handle : UInt32}
    {ctx : ContextId}
    (found : handleLookup s handle = some ctx) :
    registered s ctx = 1 :=
  registered_eq_one_iff.mpr ⟨_, (handleLookup_eq_some_iff.mp found).1⟩

section Table

variable {s s' : System}

/-- Rehashing stops at the first context whose slot is occupied. -/
theorem rehash_fails
    {slots newSlot filled : List (Option ContextId)}
    {ctx : ContextId}
    (member : some ctx ∈ slots)
    (occupied :
      ∀ ctx, some ctx ∈ slots →
        s.storage.slotAt (s.storage.hash (s.contexts ctx).handle) ≠ none) :
    rehash s slots newSlot ≠ .ok filled := by
  induction slots generalizing newSlot with
  | nil =>
      simp at member
  | cons slot rest inductionHypothesis =>
      cases slot with
      | none =>
          have inRest : some ctx ∈ rest := by simpa using member
          exact inductionHypothesis inRest
            (fun other isIn => occupied other (by simp [isIn]))
      | some first =>
          unfold rehash
          rw [if_neg (occupied first (by simp))]
          intro impossible
          cases impossible

/-- A table with occupied slots that lead to their contexts cannot grow. -/
theorem growSlots_fails
    {grown : System}
    {index : Nat}
    {ctx : ContextId}
    (sound : TableSound s)
    (occupied : s.storage.slotAt index = some ctx) :
    growSlots s ≠ .ok grown := by
  have member := HandleStorage.mem_slot_iff.mpr ⟨index, occupied⟩
  have leads :
      ∀ other, some other ∈ s.storage.slot →
        s.storage.slotAt (s.storage.hash (s.contexts other).handle) ≠
          none := by
    intro other isIn
    obtain ⟨place, refers⟩ := HandleStorage.mem_slot_iff.mp isIn
    rw [sound.slot place other refers]
    exact Option.some_ne_none other
  intro grows
  obtain ⟨newSlot, -, rehashed, -⟩ := growSlots_rehashes grows
  exact rehash_fails member leads rehashed

/-- A registration that returns did not grow a sound table. -/
theorem length_handleRegister
    {registered : System}
    {ctx : ContextId}
    {handle : UInt32}
    (sound : TableSound s)
    (returned : handleRegister s ctx = .ok (handle, registered)) :
    registered.storage.slot.length = s.storage.slot.length := by
  unfold handleRegister registerLoop at returned
  split at returned
  · injection returned with returned
    injection returned with _ isRegistered
    rw [← isRegistered]
    simp [registerAt]
  · next full =>
      split at returned
      · next grown grows =>
          obtain ⟨newSlot, nonempty, -, -⟩ := growSlots_rehashes grows
          obtain ⟨tried, occupied⟩ :=
            HandleStorage.occupied_of_probe nonempty full
          obtain ⟨other, refers⟩ := Option.ne_none_iff_exists'.mp occupied
          exact absurd grows (growSlots_fails sound refers)
      · cases returned

end Table

namespace TableSound

variable {s s' : System}

theorem of_sameTable
    (sound : TableSound s)
    (same : SameTable s s') :
    TableSound s' where
  slot := by
    intro index ctx refers
    rw [same.storage] at refers ⊢
    rw [same.handle]
    exact sound.slot index ctx refers
  sized := same.storage ▸ sound.sized
  harbor := same.storage ▸ sound.harbor

/-- Taking out a context that occupies one slot leaves the others in place. -/
theorem unlinkAt
    {handle : UInt32}
    {ctx : ContextId}
    (sound : TableSound s)
    (found : handleLookup s handle = some ctx)
    (sole :
      ∀ index, s.storage.slotAt index = some ctx →
        index = s.storage.hash handle) :
    TableSound (unlinkAt s handle) where
  slot := by
    intro index other refers
    rw [slotAt_unlinkAt] at refers
    split at refers
    · cases refers
    · next otherSlot =>
        have occupied := (handleLookup_eq_some_iff.mp found).1
        have leads := sound.slot index other refers
        have elsewhere :
            s.storage.hash (s.contexts other).handle ≠
              s.storage.hash handle := by
          intro same
          rw [same, occupied] at leads
          injection leads with isTarget
          exact otherSlot (sole index (isTarget ▸ refers))
        rw [hash_unlinkAt, unlinkAt_contexts, slotAt_unlinkAt,
          if_neg elsewhere]
        exact leads
  sized := by simpa [SkynetCpp.unlinkAt] using sound.sized
  harbor := sound.harbor

/-- A sound table does not grow when it takes in a context. -/
theorem length_enrollContext
    {ctx : ContextId}
    (sound : TableSound s)
    (returned : enrollContext s ctx = .ok s') :
    s'.storage.slot.length = s.storage.slot.length := by
  unfold SkynetCpp.enrollContext at returned
  split at returned
  · next handle registered registers =>
      injection returned with isState
      have sameSize := length_handleRegister sound registers
      rw [← isState]
      exact sameSize
  · cases returned

theorem enrollContext
    {ctx : ContextId}
    (sound : TableSound s)
    (returned : enrollContext s ctx = .ok s') :
    TableSound s' := by
  have sameSize := sound.length_enrollContext returned
  obtain ⟨found, free, taken, others, newHandle, sameHarbor⟩ :=
    HandleTable.enrollContext_of_same_size returned sameSize
  have sameHash (handle : UInt32) :
      s'.storage.hash handle = s.storage.hash handle := by
    simp only [HandleStorage.hash, sameSize]
  have leads : s'.storage.hash (s'.contexts ctx).handle =
      s.storage.hash found := by
    rw [newHandle, sameHash,
      HandleStorage.hash_or_harbor sound.sized sound.harbor]
  refine ⟨?_, sameSize ▸ sound.sized, sameHarbor ▸ sound.harbor⟩
  intro index other refers
  by_cases isEntered : other = ctx
  · rw [isEntered, leads]
    exact taken
  · have otherSlot : index ≠ s.storage.hash found := by
      intro same
      rw [same, taken] at refers
      injection refers with isOther
      exact isEntered isOther.symm
    rw [others index otherSlot] at refers
    have wasThere := sound.slot index other refers
    have elsewhere :
        s.storage.hash (s.contexts other).handle ≠ s.storage.hash found := by
      intro same
      rw [same, free] at wasThere
      cases wasThere
    rw [enrollContext_of_ne returned isEntered, sameHash, others _ elsewhere]
    exact wasThere

/-- The table then holds the entered context, and the ones it held before. -/
theorem registered_enrollContext
    {ctx : ContextId}
    (sound : TableSound s)
    (returned : SkynetCpp.enrollContext s ctx = .ok s')
    (other : ContextId) :
    registered s' other = if other = ctx then 1 else registered s other := by
  obtain ⟨found, free, taken, others, _, _⟩ :=
    HandleTable.enrollContext_of_same_size returned
      (sound.length_enrollContext returned)
  split
  · next isEntered =>
      rw [isEntered]
      exact registered_eq_one_iff.mpr ⟨_, taken⟩
  · next different =>
      refine registered_congr (exists_congr fun index => ?_)
      by_cases isSlot : index = s.storage.hash found
      · rw [isSlot, taken, free]
        simp [Ne.symm different]
      · rw [others index isSlot]

end TableSound

namespace Accounted

variable
    {s s' : System}
    {held held' : ContextId → Nat}

/-- A context with a holder is not deleted. -/
theorem undeleted
    (accounted : Accounted s held)
    {ctx : ContextId}
    (alive : 0 < registered s ctx + held ctx) :
    (s.contexts ctx).deleted = 0 :=
  (accounted.counted ctx (accounted.allocated ctx alive)).alive alive

/-- What the table names was constructed. -/
theorem allocated_of_lookup
    {handle : UInt32}
    {ctx : ContextId}
    (accounted : Accounted s held)
    (found : handleLookup s handle = some ctx) :
    ctx < s.nextContext := by
  apply accounted.allocated
  rw [registered_of_lookup found]
  omega

/-- Changes that touch neither the table nor a count keep the account. -/
theorem of_same
    (accounted : Accounted s held)
    (same : SameTable s s')
    (sameRef : ∀ ctx, (s'.contexts ctx).ref = (s.contexts ctx).ref)
    (sameDeleted :
      ∀ ctx, (s'.contexts ctx).deleted = (s.contexts ctx).deleted)
    (sameHeld : ∀ ctx, held' ctx = held ctx) :
    Accounted s' held' := by
  have sameRegistered (ctx : ContextId) :
      registered s' ctx = registered s ctx := by
    unfold registered
    rw [same.storage]
  refine ⟨?_, ?_, accounted.table.of_sameTable same, ?_⟩
  · intro ctx below
    rw [same.next] at below
    obtain ⟨count, deletedOnce, alive⟩ := accounted.counted ctx below
    rw [sameRegistered, sameHeld]
    exact
      ⟨(sameRef ctx).trans count,
        by rw [sameRef, sameDeleted]; exact deletedOnce,
        by rw [sameDeleted]; exact alive⟩
  · intro ctx below
    rw [same.next] at below
    rw [sameRef]
    exact accounted.bounded ctx below
  · intro ctx alive
    rw [sameRegistered, sameHeld] at alive
    rw [same.next]
    exact accounted.allocated ctx alive

/-- Recounting one context that leaves the others as they were. -/
theorem recount
    {ctx : ContextId}
    (accounted : Accounted s held)
    (same : SameTable s s')
    (others : ∀ other, other ≠ ctx → s'.contexts other = s.contexts other)
    (heldOthers : ∀ other, other ≠ ctx → held' other = held other)
    (allocated : ctx < s.nextContext)
    (counted : Counted (s'.contexts ctx) (registered s ctx + held' ctx))
    (bounded : (s'.contexts ctx).ref < 2 ^ 31) :
    Accounted s' held' := by
  have sameRegistered (other : ContextId) :
      registered s' other = registered s other := by
    unfold registered
    rw [same.storage]
  refine ⟨?_, ?_, accounted.table.of_sameTable same, ?_⟩
  · intro other below
    rw [same.next] at below
    rw [sameRegistered]
    by_cases isCounted : other = ctx
    · rw [isCounted]
      exact counted
    · rw [others other isCounted, heldOthers other isCounted]
      exact accounted.counted other below
  · intro other below
    rw [same.next] at below
    by_cases isCounted : other = ctx
    · rw [isCounted]
      exact bounded
    · rw [others other isCounted]
      exact accounted.bounded other below
  · intro other alive
    rw [same.next]
    by_cases isCounted : other = ctx
    · rw [isCounted]
      exact allocated
    · rw [sameRegistered, heldOthers other isCounted] at alive
      exact accounted.allocated other alive

/-- A grab of a held context that does not overflow is one holder more. -/
theorem grab
    {ctx : ContextId}
    (accounted : Accounted s held)
    (alive : 0 < registered s ctx + held ctx)
    (fits : (s.contexts ctx).ref + 1 < 2 ^ 31)
    (oneMore :
      ∀ other, held' other = held other + if ctx = other then 1 else 0) :
    Accounted (contextGrab s ctx) held' := by
  have allocated := accounted.allocated ctx alive
  have count := (accounted.counted ctx allocated).count
  have grabbed :
      ((contextGrab s ctx).contexts ctx).ref = (s.contexts ctx).ref + 1 := by
    simp only [contextGrab, System.modify_contexts_self]
    exact toInt32_of_bounds (by omega) fits
  refine accounted.recount
    (SameTable.modify s ctx
      (fun context => { context with ref := toInt32 (context.ref + 1) }) rfl)
    (fun other different => System.modify_contexts_of_ne s _ different)
    ?_ allocated ?_ (by rw [grabbed]; exact fits)
  · intro other different
    rw [oneMore, if_neg (Ne.symm different), Nat.add_zero]
  · refine Counted.of_held ?_ ?_ ?_
    · rw [oneMore, if_pos rfl]
      exact Nat.succ_pos _
    · rw [grabbed, count, oneMore, if_pos rfl]
      push_cast
      exact Int.add_assoc _ _ _
    · simpa [contextGrab] using accounted.undeleted alive

/-- `Context::Release` is one holder less; the last one deletes the context. -/
theorem release
    {ctx : ContextId}
    {inUse : Bool}
    (accounted : Accounted s held)
    (returned : contextRelease s ctx = .ok (inUse, s'))
    (oneLess :
      ∀ other, held other = held' other + if ctx = other then 1 else 0) :
    Accounted s' held' := by
  have heldOnce : held ctx = held' ctx + 1 := by
    rw [oneLess, if_pos rfl]
  have alive : 0 < registered s ctx + held ctx := by omega
  have allocated := accounted.allocated ctx alive
  have count := (accounted.counted ctx allocated).count
  have bounded := accounted.bounded ctx allocated
  have undeleted := accounted.undeleted alive
  have dropped :
      ((contextUnref s ctx).contexts ctx).ref = (s.contexts ctx).ref - 1 := by
    simp only [contextUnref, System.modify_contexts_self]
    exact toInt32_of_bounds (by omega) (by omega)
  have heldOthers (other : ContextId) (different : other ≠ ctx) :
      held' other = held other := by
    rw [oneLess, if_neg (Ne.symm different), Nat.add_zero]
  rcases contextRelease_cases returned with
    ⟨notLast, _, isReleased⟩ | ⟨isLast, _, queues, _, isReleased⟩
  · subst isReleased
    refine accounted.recount (SameTable.contextRelease returned)
      (fun other different => System.modify_contexts_of_ne s _ different)
      heldOthers allocated (Counted.of_held ?_ ?_ ?_)
      (by rw [dropped]; omega)
    · omega
    · rw [dropped]
      omega
    · simpa [contextUnref] using undeleted
  · have noHolder : registered s ctx + held' ctx = 0 := by omega
    have counted :
        Counted (s'.contexts ctx) (registered s ctx + held' ctx) := by
      have isZero : (s'.contexts ctx).ref = 0 := by
        rw [isReleased]
        simp only [contextReleased, deleteContext, System.modify_contexts_self,
          dropped]
        omega
      refine ⟨?_, ?_, ?_⟩
      · rw [isZero, noHolder]
        rfl
      · rw [isZero, isReleased]
        simp [contextReleased, deleteContext, contextUnref, undeleted]
      · intro impossible
        exact absurd noHolder (Nat.ne_of_gt impossible)
    refine accounted.recount (SameTable.contextRelease returned) ?_
      heldOthers allocated counted ?_
    · intro other different
      rw [isReleased]
      simp [contextReleased, deleteContext, contextUnref,
        System.modify_contexts_of_ne _ _ different]
    · rw [counted.count, noHolder]
      decide

/-- The reference of the table passes to the retirement that takes a context out. -/
theorem unlink
    {handle : UInt32}
    {ctx : ContextId}
    (accounted : Accounted s held)
    (found : handleLookup s handle = some ctx)
    (sole :
      ∀ index, s.storage.slotAt index = some ctx →
        index = s.storage.hash handle)
    (oneMore :
      ∀ other, held' other = held other + if ctx = other then 1 else 0) :
    Accounted (unlinkAt s handle) held' := by
  have occupied := (handleLookup_eq_some_iff.mp found).1
  have wasRegistered := registered_of_lookup found
  have gone : registered (unlinkAt s handle) ctx = 0 := by
    by_contra stays
    obtain ⟨index, refers⟩ :=
      registered_pos_iff.mp (Nat.pos_of_ne_zero stays)
    rw [slotAt_unlinkAt] at refers
    split at refers
    · cases refers
    · next otherSlot =>
        exact otherSlot (sole index refers)
  have others (other : ContextId) (different : other ≠ ctx) :
      registered (unlinkAt s handle) other = registered s other := by
    refine registered_congr (exists_congr fun index => ?_)
    rw [slotAt_unlinkAt]
    split
    · next isSlot =>
        rw [isSlot, occupied]
        simp [Ne.symm different]
    · rfl
  have sameHolders (other : ContextId) :
      registered (unlinkAt s handle) other + held' other =
        registered s other + held other := by
    rw [oneMore]
    by_cases isTaken : other = ctx
    · rw [isTaken, gone, wasRegistered, if_pos rfl]
      omega
    · rw [others other isTaken, if_neg (Ne.symm isTaken), Nat.add_zero]
  refine ⟨?_, accounted.bounded, accounted.table.unlinkAt found sole, ?_⟩
  · intro other below
    rw [sameHolders]
    exact accounted.counted other below
  · intro other alive
    rw [sameHolders] at alive
    exact accounted.allocated other alive

/-- Entering a context that the table already holds gives it no reference more. -/
theorem enroll
    {ctx : ContextId}
    (accounted : Accounted s held)
    (returned : enrollContext s ctx = .ok s')
    (wasRegistered : registered s ctx = 1)
    (sameHeld : ∀ other, held' other = held other) :
    Accounted s' held' := by
  have sameNext := enrollContext_nextContext returned
  have sameRegistered (other : ContextId) :
      registered s' other = registered s other := by
    rw [accounted.table.registered_enrollContext returned]
    split
    · next isEntered =>
        rw [isEntered, wasRegistered]
    · rfl
  have sameRef :=
    enrollContext_field Context.ref (fun _ _ _ => rfl) returned
  have sameDeleted :=
    enrollContext_field Context.deleted (fun _ _ _ => rfl) returned
  refine ⟨?_, ?_, accounted.table.enrollContext returned, ?_⟩
  · intro other below
    rw [sameNext] at below
    obtain ⟨count, deletedOnce, alive⟩ := accounted.counted other below
    rw [sameRegistered, sameHeld]
    exact
      ⟨(sameRef other).trans count,
        by rw [sameRef, sameDeleted]; exact deletedOnce,
        by rw [sameDeleted]; exact alive⟩
  · intro other below
    rw [sameNext] at below
    rw [sameRef]
    exact accounted.bounded other below
  · intro other alive
    rw [sameRegistered, sameHeld] at alive
    rw [sameNext]
    exact accounted.allocated other alive

/-- A new context has two holders: the table and the launch that constructs it. -/
theorem construct
    {mod : Module}
    {ctx : ContextId}
    (accounted : Accounted s held)
    (returned : constructContext s mod = .ok (ctx, s'))
    (oneMore :
      ∀ other, held' other = held other + if ctx = other then 1 else 0) :
    Accounted s' held' := by
  simp only [constructContext, bind_eq_ok_iff] at returned
  obtain ⟨t, enrolls, isResult⟩ := returned
  obtain ⟨rfl, rfl⟩ := ok_pair_inj.mp isResult
  have unheld : registered s s.nextContext + held s.nextContext = 0 := by
    by_contra alive
    exact Nat.lt_irrefl _
      (accounted.allocated _ (Nat.pos_of_ne_zero alive))
  have sound :
      TableSound
        { (s.modify s.nextContext fun _ => freshContext s mod) with
          nextContext := s.nextContext + 1 } := by
    refine ⟨?_, accounted.table.sized, accounted.table.harbor⟩
    intro index other refers
    have isRegistered : registered s other = 1 :=
      registered_eq_one_iff.mpr ⟨index, refers⟩
    have different : other ≠ s.nextContext := by
      intro isFresh
      rw [isFresh] at isRegistered
      exact absurd unheld (by rw [isRegistered]; omega)
    have leads := accounted.table.slot index other refers
    simpa [System.modify_contexts_of_ne s _ different] using leads
  have sameNext := enrollContext_nextContext enrolls
  have registeredAfter := sound.registered_enrollContext enrolls
  have sameRef :=
    enrollContext_field Context.ref (fun _ _ _ => rfl) enrolls
  have sameDeleted :=
    enrollContext_field Context.deleted (fun _ _ _ => rfl) enrolls
  have others {other : ContextId} (different : other ≠ s.nextContext) :
      t.contexts other = s.contexts other := by
    rw [enrollContext_of_ne enrolls different]
    exact System.modify_contexts_of_ne s (fun _ => freshContext s mod) different
  have sameHolders {other : ContextId} (different : other ≠ s.nextContext) :
      registered t other + held' other =
        registered s other + held other := by
    rw [registeredAfter, if_neg different, oneMore,
      if_neg (Ne.symm different), Nat.add_zero]
    rfl
  have isFresh : (t.contexts s.nextContext).ref = 2 := by
    rw [sameRef]
    simp [freshContext]
  refine ⟨?_, ?_, sound.enrollContext enrolls, ?_⟩
  · intro other below
    rw [sameNext] at below
    by_cases isNew : other = s.nextContext
    · have two : registered t other + held' other = 2 := by
        rw [registeredAfter, if_pos isNew, oneMore, if_pos isNew.symm, isNew]
        omega
      rw [two, isNew]
      refine Counted.of_held (by decide) isFresh ?_
      rw [sameDeleted]
      simp [freshContext]
    · rw [others isNew, sameHolders isNew]
      exact accounted.counted other
        (Nat.lt_of_le_of_ne (Nat.le_of_lt_succ below) isNew)
  · intro other below
    rw [sameNext] at below
    by_cases isNew : other = s.nextContext
    · rw [isNew, isFresh]
      decide
    · rw [others isNew]
      exact accounted.bounded other
        (Nat.lt_of_le_of_ne (Nat.le_of_lt_succ below) isNew)
  · intro other alive
    rw [sameNext]
    by_cases isNew : other = s.nextContext
    · rw [isNew]
      exact Nat.lt_succ_self _
    · rw [sameHolders isNew] at alive
      exact Nat.lt_succ_of_lt (accounted.allocated other alive)

end Accounted

end References

end SkynetCpp
