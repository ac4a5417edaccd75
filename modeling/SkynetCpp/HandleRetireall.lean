import SkynetCpp.HandleNames
import SkynetCpp.HandleTable

namespace SkynetCpp

open Foundation

/-!
# `HandleRetireall`

The loop ends with a pass that meets no occupied slot.  A pass clears every slot
whose context carries a handle of that slot; a context in another slot, as every
`NewContext` leaves one, is counted by every pass and never retired from there.
-/

/--
A pass of `HandleRetireall` from a slot on, over so many slots: the number of
occupied slots that it met, added to the given one.
-/
def retireallPass : Nat → Nat → Nat → System → Except Fault (Nat × System)
  | 0, _, n, s => .ok (n, s)
  | turns + 1, i, n, s =>
      match s.storage.slotAt i with
      | none => retireallPass turns (i + 1) n s
      | some ctx =>
          let handle := (s.contexts ctx).handle
          if handle = 0 then
            retireallPass turns (i + 1) (n + 1) s
          else do
            let (_, s) ← handleRetire s handle
            retireallPass turns (i + 1) (n + 1) s

/-- `HandleRetireall`, over so many passes. -/
def handleRetireall : Nat → System → Except Fault System
  | 0, _ => .error .running
  | passes + 1, s => do
      let (n, s) ← retireallPass s.storage.slot.length 0 0 s
      if n = 0 then .ok s else handleRetireall passes s

namespace HandleRetireall

open HandleTable

/-- A context that a slot refers to. -/
def Registered
    (s : System)
    (ctx : ContextId) : Prop :=
  ∃ index, s.storage.slotAt index = some ctx

/-- Every registered context was released once, and no other one was touched. -/
structure ReleasedOnce (s s' : System) : Prop where
  registered :
    ∀ ctx, Registered s ctx →
      (s'.contexts ctx).ref = (s.contexts ctx).ref - 1 ∧
        (s'.contexts ctx).deleted = (s.contexts ctx).deleted + 1
  others : ∀ ctx, ¬ Registered s ctx → s'.contexts ctx = s.contexts ctx

/-- `HandleRetireall` ends, with an empty table and every context released once. -/
def RetiresAll (s : System) : Prop :=
  ∃ passes s',
    handleRetireall passes s = .ok s' ∧
      (∀ ctx, ¬ Registered s' ctx) ∧
      s'.storage.nameCount = 0 ∧
      ReleasedOnce s s'

/-- A queue that its last release can link into the global queue. -/
structure Linkable
    (s : Queues)
    (queue : QueueId) : Prop where
  unmarked : (s.mq queue).release = false
  unlinked :
    (s.mq queue).inGlobal ≠ kMqInGlobal →
      (s.mq queue).next = none ∧ s.tail ≠ some queue

/--
What retirements rest on, besides the placement of the contexts: the modules have
a release function, the queues can be linked, and names stand for registered
contexts.
-/
structure Settled (s : System) : Prop where
  placed : Placed s
  release : ∀ ctx, Live s ctx → (s.contexts ctx).mod.release = true
  linkable : ∀ ctx, Live s ctx → Linkable s.queues (s.contexts ctx).queue
  ownQueue :
    ∀ first second, Live s first → Live s second →
      (s.contexts first).queue = (s.contexts second).queue → first = second
  room : s.storage.nameCount ≤ s.storage.name.length
  named :
    ∀ entry ∈ s.storage.bound,
      ∃ ctx, Live s ctx ∧ (s.contexts ctx).handle = entry.handle

section Queues

variable
    {s pushed : Queues}
    {queue other : QueueId}

/-- Marking another queue leaves a linkable one linkable. -/
theorem Linkable.mark
    (linkable : Linkable s other)
    (different : other ≠ queue) :
    Linkable (s.modify queue fun mq => { mq with release := true }) other := by
  have same :=
    Queues.modify_mq_of_ne s (fun mq => { mq with release := true }) different
  constructor
  · rw [same]
    exact linkable.unmarked
  · rw [same]
    exact linkable.unlinked

/-- Linking another queue leaves a linkable one linkable. -/
theorem Linkable.push
    (linkable : Linkable s other)
    (different : other ≠ queue)
    (returned : globalQueuePush s queue = .ok pushed) :
    Linkable pushed other := by
  have sameRelease :=
    globalQueuePush_field MessageQueue.release (fun _ _ => rfl) returned other
  have sameInGlobal :=
    globalQueuePush_field MessageQueue.inGlobal (fun _ _ => rfl) returned other
  refine ⟨sameRelease.trans linkable.unmarked, fun outside => ?_⟩
  rw [sameInGlobal] at outside
  obtain ⟨isEnd, notTail⟩ := linkable.unlinked outside
  unfold globalQueuePush at returned
  split at returned
  · split at returned
    · next tail isTail =>
        injection returned with isPushed
        rw [← isPushed]
        have notHere : other ≠ tail := fun same => notTail (same ▸ isTail)
        refine ⟨?_, fun same => different (Option.some.inj same).symm⟩
        exact (congrArg MessageQueue.next
          (Queues.modify_mq_of_ne s
            (fun mq => { mq with next := some queue }) notHere)).trans isEnd
    · injection returned with isPushed
      rw [← isPushed]
      exact ⟨isEnd, fun same => different (Option.some.inj same).symm⟩
  · cases returned

/-- Marking a linkable queue succeeds, and spares the other ones. -/
theorem Linkable.markRelease
    (linkable : Linkable s queue) :
    ∃ marked,
      messageQueueMarkRelease s queue = .ok marked ∧
        ∀ other, other ≠ queue → Linkable s other → Linkable marked other := by
  unfold messageQueueMarkRelease
  rw [if_pos linkable.unmarked]
  by_cases outside : (s.mq queue).inGlobal ≠ kMqInGlobal
  · obtain ⟨isEnd, _⟩ := linkable.unlinked outside
    have marksEnd :
        ((s.modify queue fun mq => { mq with release := true }).mq queue).next =
          none := by
      rw [Queues.modify_mq_self]
      exact isEnd
    obtain ⟨pushed, returned⟩ :
        ∃ pushed,
          globalQueuePush
            (s.modify queue fun mq => { mq with release := true }) queue =
              .ok pushed := by
      unfold globalQueuePush
      rw [if_pos marksEnd]
      split <;> exact ⟨_, rfl⟩
    refine ⟨pushed, ?_, fun other different others =>
      (others.mark different).push different returned⟩
    simp only [outside, ne_eq, not_false_eq_true, ↓reduceIte, returned]
  · exact ⟨_, if_neg outside, fun other different others =>
      others.mark different⟩

end Queues

section Retire

variable
    {s s' : System}
    {index : Nat}
    {ctx : ContextId}

/-- What retiring a registered context does. -/
structure Retired
    (s : System)
    (index : Nat)
    (ctx : ContextId)
    (s' : System) : Prop where
  slots :
    ∀ other,
      s'.storage.slotAt other =
        if other = index then none else s.storage.slotAt other
  size : s'.storage.slot.length = s.storage.slot.length
  released :
    (s'.contexts ctx).ref = (s.contexts ctx).ref - 1 ∧
      (s'.contexts ctx).deleted = (s.contexts ctx).deleted + 1
  others : ∀ other, other ≠ ctx → s'.contexts other = s.contexts other

/-- In a settled state the last release of a registered context returns. -/
theorem Settled.contextRelease
    (settled : Settled s)
    (live : Live s ctx)
    (handle : UInt32) :
    ∃ queues,
      contextRelease (unlinkAt s handle) ctx =
          .ok (false, contextReleased (unlinkAt s handle) ctx queues) ∧
        ∀ other, other ≠ (s.contexts ctx).queue →
          Linkable s.queues other → Linkable queues other := by
  obtain ⟨queues, marked, others⟩ := (settled.linkable ctx live).markRelease
  refine ⟨queues, ?_, others⟩
  have isLast : ((unlinkAt s handle).contexts ctx).ref = 1 :=
    settled.placed.owned ctx live
  have hasRelease : ((unlinkAt s handle).contexts ctx).mod.release = true :=
    settled.release ctx live
  have marks :
      messageQueueMarkRelease (unlinkAt s handle).queues
          ((unlinkAt s handle).contexts ctx).queue =
        .ok queues :=
    marked
  unfold SkynetCpp.contextRelease contextReleased
  simp only [isLast, hasRelease, marks, ↓reduceIte]

/-- A context that a release touched is not live, and the others are untouched. -/
theorem live_contextReleased
    {t : System}
    {queues : Queues}
    {other : ContextId} :
    (other ≠ ctx → (contextReleased t ctx queues).contexts other = t.contexts other) ∧
      (Live (contextReleased t ctx queues) other ↔
        other ≠ ctx ∧ Live t other) := by
  have untouched (different : other ≠ ctx) :
      (contextReleased t ctx queues).contexts other = t.contexts other := by
    simp [contextReleased, deleteContext, contextUnref,
      System.modify_contexts_of_ne _ _ different]
  refine ⟨untouched, fun live => ?_, ?_⟩
  · have different : other ≠ ctx := by
      rintro rfl
      have undeleted := live.2
      simp [contextReleased, deleteContext] at undeleted
    refine ⟨different, live.1, ?_⟩
    rw [← untouched different]
    exact live.2
  · rintro ⟨different, live⟩
    refine ⟨live.1, ?_⟩
    rw [untouched different]
    exact live.2

/-- What a retirement leaves of a settled state is settled. -/
theorem Settled.of_released
    (settled : Settled s)
    (live : Live s ctx)
    {queues : Queues}
    (linkables :
      ∀ other, other ≠ (s.contexts ctx).queue →
        Linkable s.queues other → Linkable queues other)
    (placed :
      Placed
        (contextReleased (unlinkAt s (s.contexts ctx).handle) ctx queues)) :
    Settled
      (contextReleased (unlinkAt s (s.contexts ctx).handle) ctx queues) := by
  have stays
      {other : ContextId}
      (isLive :
        Live (contextReleased (unlinkAt s (s.contexts ctx).handle) ctx queues)
          other) :
      other ≠ ctx ∧ Live s other ∧
        (contextReleased (unlinkAt s (s.contexts ctx).handle) ctx
            queues).contexts other = s.contexts other := by
    obtain ⟨different, wasLive⟩ := live_contextReleased.2.mp isLive
    exact ⟨different, wasLive, live_contextReleased.1 different⟩
  constructor
  · exact placed
  · intro other isLive
    obtain ⟨_, wasLive, same⟩ := stays isLive
    rw [same]
    exact settled.release other wasLive
  · intro other isLive
    obtain ⟨different, wasLive, same⟩ := stays isLive
    rw [same]
    refine linkables _ (fun sameQueue => different ?_)
      (settled.linkable other wasLive)
    exact settled.ownQueue other ctx wasLive live sameQueue
  · intro first second firstLive secondLive sameQueue
    obtain ⟨_, firstWas, firstSame⟩ := stays firstLive
    obtain ⟨_, secondWas, secondSame⟩ := stays secondLive
    rw [firstSame, secondSame] at sameQueue
    exact settled.ownQueue first second firstWas secondWas sameQueue
  · exact room_unlinkAt settled.room (s.contexts ctx).handle
  · intro entry member
    have kept :
        entry ∈ s.storage.bound.filter fun entry =>
          !decide (entry.handle = (s.contexts ctx).handle) := by
      rw [← bound_unlinkAt settled.room]
      exact member
    obtain ⟨wasBound, another⟩ := List.mem_filter.mp kept
    obtain ⟨other, otherLive, carries⟩ := settled.named entry wasBound
    have different : other ≠ ctx := by
      rintro rfl
      simp [carries] at another
    refine ⟨other, live_contextReleased.2.mpr ⟨different, otherLive⟩, ?_⟩
    exact (congrArg Context.handle
      (live_contextReleased.1 different)).trans carries

/-- Retiring a registered context succeeds and keeps the state settled. -/
theorem Settled.retire
    (settled : Settled s)
    (occupied : s.storage.slotAt index = some ctx) :
    ∃ s',
      handleRetire s (s.contexts ctx).handle = .ok (1, s') ∧
        Settled s' ∧ Retired s index ctx s' := by
  have live := settled.placed.live index ctx occupied
  have isSlot := (settled.placed.slot ctx live index).mp occupied
  have found : handleLookup s (s.contexts ctx).handle = some ctx :=
    settled.placed.lookup_iff.mpr ⟨live, rfl⟩
  obtain ⟨queues, released, linkables⟩ :=
    settled.contextRelease live (s.contexts ctx).handle
  have returned :
      handleRetire s (s.contexts ctx).handle =
        .ok (1,
          contextReleased (unlinkAt s (s.contexts ctx).handle) ctx queues) := by
    unfold handleRetire handleUnlink
    simp only [found, released]
  have isLast : (s.contexts ctx).ref = 1 := settled.placed.owned ctx live
  refine ⟨_, returned, settled.of_released live linkables
    (settled.placed.handleRetire returned).1, ?_⟩
  constructor
  · intro other
    rw [isSlot]
    exact slotAt_unlinkAt s (s.contexts ctx).handle other
  · exact HandleStorage.length_setSlot s.storage _ none
  · simp only [contextReleased, deleteContext, contextUnref,
      System.modify_contexts_self, unlinkAt_contexts, isLast]
    exact ⟨rfl, trivial⟩
  · intro other different
    exact live_contextReleased.1 different

/-- Every retirement that returns keeps the state settled. -/
theorem Settled.handleRetire
    (settled : Settled s)
    {handle : UInt32}
    {result : Int}
    (returned : handleRetire s handle = .ok (result, s')) :
    Settled s' := by
  cases found : handleLookup s handle with
  | none =>
      simp only [SkynetCpp.handleRetire, handleUnlink, found, Except.ok.injEq,
        Prod.mk.injEq] at returned
      rw [← returned.2]
      exact settled
  | some ctx =>
      obtain ⟨occupied, carries⟩ := handleLookup_eq_some_iff.mp found
      obtain ⟨after, retires, settledAfter, _⟩ := settled.retire occupied
      rw [carries, returned] at retires
      cases retires
      exact settledAfter

end Retire

section Passes

variable
    {s s' : System}

/-- Releasing a context and then the others releases every one once. -/
theorem ReleasedOnce.of_retired
    {t : System}
    {index : Nat}
    {ctx : ContextId}
    (placed : Placed s)
    (occupied : s.storage.slotAt index = some ctx)
    (retired : Retired s index ctx t)
    (later : ReleasedOnce t s') :
    ReleasedOnce s s' := by
  have gone : ¬ Registered t ctx := by
    rintro ⟨other, refers⟩
    rw [retired.slots] at refers
    split at refers
    · cases refers
    · next elsewhere =>
        have live := placed.live index ctx occupied
        have here := (placed.slot ctx live index).mp occupied
        have there := (placed.slot ctx live other).mp refers
        exact elsewhere (there.trans here.symm)
  have stays
      {other : ContextId}
      (different : other ≠ ctx) :
      Registered t other ↔ Registered s other := by
    constructor
    · rintro ⟨position, refers⟩
      rw [retired.slots] at refers
      split at refers
      · cases refers
      · exact ⟨position, refers⟩
    · rintro ⟨position, refers⟩
      refine ⟨position, ?_⟩
      rw [retired.slots, if_neg]
      · exact refers
      · rintro rfl
        exact different (Option.some.inj (refers.symm.trans occupied))
  constructor
  · intro other registered
    by_cases same : other = ctx
    · subst same
      rw [later.others other gone]
      exact retired.released
    · rw [← retired.others other same]
      exact later.registered other ((stays same).mpr registered)
  · intro other unregistered
    have different : other ≠ ctx := by
      rintro rfl
      exact unregistered ⟨index, occupied⟩
    rw [later.others other fun registered =>
      unregistered ((stays different).mp registered)]
    exact retired.others other different

/-- A pass from a slot on, the ones before being free, empties a settled table. -/
theorem Settled.retireallPass
    (settled : Settled s)
    {turns i : Nat}
    (isRest : s.storage.slot.length ≤ i + turns)
    (before : ∀ index < i, s.storage.slotAt index = none)
    (n : Nat) :
    ∃ met s',
      SkynetCpp.retireallPass turns i n s = .ok (met, s') ∧
        (met = n → s' = s) ∧
        n ≤ met ∧
        Settled s' ∧
        (∀ ctx, ¬ Registered s' ctx) ∧
        ReleasedOnce s s' := by
  induction turns generalizing s i n with
  | zero =>
      have empty : ∀ ctx, ¬ Registered s ctx := by
        rintro ctx ⟨index, refers⟩
        have inTable := HandleStorage.lt_of_slotAt refers
        rw [before index (by omega)] at refers
        cases refers
      exact ⟨n, s, rfl, fun _ => rfl, Nat.le_refl n, settled, empty,
        fun ctx registered => absurd registered (empty ctx), fun _ _ => rfl⟩
  | succ turns inductionHypothesis =>
      unfold SkynetCpp.retireallPass
      have isRest' : s.storage.slot.length ≤ i + 1 + turns := by omega
      cases occupied : s.storage.slotAt i with
      | none =>
          refine inductionHypothesis settled isRest' ?_ n
          intro index inFront
          rcases Nat.lt_succ_iff_lt_or_eq.mp inFront with isEarlier | rfl
          · exact before index isEarlier
          · exact occupied
      | some ctx =>
          obtain ⟨t, retires, settledAfter, retired⟩ := settled.retire occupied
          have live := settled.placed.live i ctx occupied
          have nonzero : (s.contexts ctx).handle ≠ 0 := by
            intro isZero
            refine settled.placed.nonzero ctx live ?_
            rw [isZero]
            rfl
          have beforeAfter : ∀ index < i + 1, t.storage.slotAt index = none := by
            intro index inFront
            rw [retired.slots]
            split
            · rfl
            · exact before index (by omega)
          obtain ⟨met, s', passes, _, more, settled', empty, released⟩ :=
            inductionHypothesis settledAfter (retired.size ▸ isRest')
              beforeAfter (n + 1)
          refine ⟨met, s', ?_, fun same => by omega, by omega, settled', empty,
            released.of_retired settled.placed occupied retired⟩
          simp only [nonzero, ↓reduceIte, retires]
          exact passes

/-- A pass over an empty table meets nothing. -/
theorem retireallPass_of_empty
    (empty : ∀ ctx, ¬ Registered s ctx)
    (turns i n : Nat) :
    retireallPass turns i n s = .ok (n, s) := by
  induction turns generalizing i with
  | zero =>
      rfl
  | succ turns inductionHypothesis =>
      have isFree : s.storage.slotAt i = none :=
        Option.eq_none_iff_forall_ne_some.mpr fun ctx refers =>
          empty ctx ⟨i, refers⟩
      unfold retireallPass
      simp only [isFree]
      exact inductionHypothesis (i + 1)

/-- A settled table without contexts binds no name. -/
theorem Settled.nameCount_eq_zero
    (settled : Settled s)
    (empty : ∀ ctx, ¬ Registered s ctx) :
    s.storage.nameCount = 0 := by
  have noName : s.storage.bound = [] := by
    refine List.eq_nil_iff_forall_not_mem.mpr fun entry member => ?_
    obtain ⟨ctx, live, _⟩ := settled.named entry member
    exact empty ctx ⟨_, (settled.placed.slot ctx live _).mpr rfl⟩
  have room := settled.room
  rcases List.take_eq_nil_iff.mp noName with isZero | isNil
  · exact isZero
  · rw [isNil] at room
    exact Nat.le_zero.mp room

/-- From a settled state `HandleRetireall` ends and retires everything. -/
theorem Settled.retiresAll
    (settled : Settled s) :
    RetiresAll s := by
  have whole : s.storage.slot.length ≤ 0 + s.storage.slot.length :=
    Nat.le_add_left _ 0
  obtain ⟨met, s', passes, nothing, _, settled', empty, released⟩ :=
    settled.retireallPass whole (fun index impossible => absurd impossible
      (Nat.not_lt_zero index)) 0
  have noName := settled'.nameCount_eq_zero empty
  refine ⟨2, s', ?_, empty, noName, released⟩
  unfold handleRetireall
  rw [passes]
  change (if met = 0 then .ok s' else handleRetireall 1 s') = _
  split
  · rfl
  · unfold handleRetireall
    rw [retireallPass_of_empty empty]
    rfl

end Passes

section Misplaced

variable
    {s s' : System}
    {ctx : ContextId}
    {index : Nat}

/-- A retirement neither grows nor shrinks the table. -/
theorem length_handleRetire
    {handle : UInt32}
    {result : Int}
    (returned : handleRetire s handle = .ok (result, s')) :
    s'.storage.slot.length = s.storage.slot.length := by
  rcases handleRetire_storage returned with ⟨_, same⟩ | ⟨_, same⟩
  · rw [same]
  · rw [same]
    exact HandleStorage.length_setSlot s.storage _ none

/-- A misplaced context survives every retirement in its slot. -/
theorem misplaced_handleRetire
    {handle : UInt32}
    {result : Int}
    (misplaced : Misplaced s ctx index)
    (returned : handleRetire s handle = .ok (result, s')) :
    Misplaced s' ctx index :=
  (Keeps.handleRetire returned).misplaced (length_handleRetire returned) ctx
    (Nat.lt_succ_self ctx) index misplaced

/-- A pass that comes by a misplaced context counts it and leaves it there. -/
theorem retireallPass_of_misplaced
    {turns i n met : Nat}
    (misplaced : Misplaced s ctx index)
    (returned : retireallPass turns i n s = .ok (met, s')) :
    Misplaced s' ctx index ∧
      s'.storage.slot.length = s.storage.slot.length ∧
      n ≤ met ∧
      (i ≤ index → index < i + turns → n < met) := by
  induction turns generalizing s i n with
  | zero =>
      cases returned
      exact ⟨misplaced, rfl, Nat.le_refl _, fun _ _ => by omega⟩
  | succ turns inductionHypothesis =>
      unfold retireallPass at returned
      split at returned
      · next isFree =>
          obtain ⟨stays, size, more, meets⟩ :=
            inductionHypothesis misplaced returned
          refine ⟨stays, size, more, fun low high => ?_⟩
          have notHere : i ≠ index := by
            rintro rfl
            cases isFree.symm.trans misplaced.1
          exact meets (by omega) (by omega)
      · next other occupied =>
          have passes :
              ∃ t,
                Misplaced t ctx index ∧
                  t.storage.slot.length = s.storage.slot.length ∧
                  retireallPass turns (i + 1) (n + 1) t = .ok (met, s') := by
            dsimp only at returned
            split at returned
            · exact ⟨s, misplaced, rfl, returned⟩
            · simp only [bind_eq_ok_iff] at returned
              obtain ⟨⟨result, t⟩, retires, later⟩ := returned
              exact ⟨t, misplaced_handleRetire misplaced retires,
                length_handleRetire retires, later⟩
          obtain ⟨t, stillThere, sameSize, later⟩ := passes
          obtain ⟨stays, size, more, _⟩ := inductionHypothesis stillThere later
          exact ⟨stays, size.trans sameSize, by omega, fun _ _ => by omega⟩

/-- `HandleRetireall` never ends while a context is misplaced. -/
theorem handleRetireall_of_misplaced
    (misplaced : Misplaced s ctx index)
    (passes : Nat) :
    handleRetireall passes s ≠ .ok s' := by
  intro returned
  induction passes generalizing s with
  | zero =>
      cases returned
  | succ passes inductionHypothesis =>
      simp only [handleRetireall, bind_eq_ok_iff] at returned
      obtain ⟨⟨met, t⟩, pass, returned⟩ := returned
      obtain ⟨stays, _, _, meets⟩ := retireallPass_of_misplaced misplaced pass
      have inTable := HandleStorage.lt_of_slotAt misplaced.1
      have positive : 0 < met := meets (Nat.zero_le index) (by omega)
      simp only [positive.ne', ↓reduceIte] at returned
      exact inductionHypothesis stays returned

theorem not_retiresAll_of_misplaced
    (misplaced : Misplaced s ctx index) :
    ¬ RetiresAll s := by
  rintro ⟨passes, s', returned, _⟩
  exact handleRetireall_of_misplaced misplaced passes returned

end Misplaced

section Runs

/-- A completed operation. -/
def Performs
    (s : System)
    (operation : Operation)
    (next : System) : Prop :=
  perform operation s = .ok next

/-- The table grew during the operation. -/
def Grows
    (s : System)
    (operation : Operation) : Prop :=
  ∃ next,
    Performs s operation next ∧
      s.storage.slot.length < next.storage.slot.length

/-- The state after a launch without growth is not retired by any number of passes. -/
theorem not_retiresAll_of_newContext
    {s next : System}
    {operation : Operation}
    (performed : Performs s operation next)
    (launches : ¬ Retires operation)
    (stays : ¬ Grows s operation) :
    ¬ RetiresAll next := by
  have larger := (perform_keeps operation performed).size
  have sameSize : next.storage.slot.length = s.storage.slot.length :=
    Nat.le_antisymm
      (Nat.not_lt.mp fun grew => stays ⟨next, performed, grew⟩) larger
  cases operation with
  | handleRetire handle =>
      exact absurd trivial launches
  | newContext request stack fuel cb during result =>
      unfold Performs at performed
      simp only [perform, bind_eq_ok_iff] at performed
      obtain ⟨⟨created, t⟩, launched, isState⟩ := performed
      injection isState with isState
      subst isState
      obtain ⟨index, _, misplaced⟩ :=
        newContext_misplaces
          (init_keeps (fun performed => performAll_keeps during performed))
          launched sameSize
      exact not_retiresAll_of_misplaced misplaced

variable
    {initial final : System}
    {past : List (System × Operation)}

/--
`HandleRetireall` ends and retires everything in every state of a run without
launches; and where it does so in every state of a run, the run launched nothing,
or the table grew in the launch.
-/
theorem retiresAll_visited
    (settled : Settled initial)
    (run : Run Performs initial past final) :
    ((∀ state operation, (state, operation) ∈ past → Retires operation) →
      ∀ state ∈ Run.visited past final, RetiresAll state) ∧
      ((∀ state ∈ Run.visited past final, RetiresAll state) →
        ∀ state operation, (state, operation) ∈ past →
          Retires operation ∨ Grows state operation) := by
  constructor
  · intro retires state visited
    refine Settled.retiresAll
      (Run.invariant_visited run settled ?_ (fun {state operation} =>
        retires state operation) state visited)
    intro s operation next isSettled isRetirement performed
    cases operation with
    | handleRetire handle =>
        unfold Performs at performed
        simp only [perform, bind_eq_ok_iff] at performed
        obtain ⟨⟨result, t⟩, retired, isState⟩ := performed
        injection isState with isState
        rw [← isState]
        exact isSettled.handleRetire retired
    | newContext request stack fuel cb during result =>
        exact isRetirement.elim
  · intro ends state operation member
    obtain ⟨next, visited, performed⟩ := run.exists_next member
    by_contra neither
    rw [not_or] at neither
    exact not_retiresAll_of_newContext performed neither.1 neither.2
      (ends next visited)

/-- The state of a started node is settled: nothing is registered or bound. -/
theorem settled_of_handleInit
    {s : System}
    {harbor : UInt32}
    (noContext : s.nextContext = 0)
    (initialised : s.storage = handleInit harbor) :
    Settled s := by
  have nobody (ctx : ContextId) : ¬ Live s ctx := by
    rintro ⟨below, _⟩
    rw [noContext] at below
    exact Nat.not_lt_zero _ below
  refine ⟨placed_of_handleInit noContext initialised, ?_, ?_, ?_, ?_, ?_⟩
  · exact fun ctx live => absurd live (nobody ctx)
  · exact fun ctx live => absurd live (nobody ctx)
  · exact fun first _ live => absurd live (nobody first)
  · rw [initialised]
    exact Nat.zero_le _
  · rw [initialised]
    exact fun entry member => nomatch member

theorem settled_soloSystem : Settled soloSystem := by
  refine ⟨placed_soloSystem, fun _ _ => rfl, ?_, ?_, Nat.zero_le _, ?_⟩
  · exact fun ctx _ => ⟨rfl, fun _ => ⟨rfl, fun impossible => nomatch impossible⟩⟩
  · intro first second firstLive secondLive _
    exact (Nat.lt_one_iff.mp firstLive.1).trans
      (Nat.lt_one_iff.mp secondLive.1).symm
  · exact fun entry member => nomatch member

theorem soloSystem_retiresAll :
    ∃ past final,
      Run Performs soloSystem past final ∧ past ≠ [] ∧
        ∀ state ∈ Run.visited past final, RetiresAll state := by
  obtain ⟨final, performed⟩ :
      ∃ final, Performs soloSystem (.handleRetire 7) final :=
    ⟨_, rfl⟩
  have run :
      Run Performs soloSystem [(soloSystem, .handleRetire 7)] final :=
    .snoc .nil performed
  refine ⟨_, final, run, by simp, ?_⟩
  refine (retiresAll_visited settled_soloSystem run).1 ?_
  intro state operation member
  simp only [List.mem_singleton, Prod.mk.injEq] at member
  rw [member.2]
  trivial

/-- After the first launch of a node `HandleRetireall` never ends. -/
theorem launch_never_retired :
    (∃ final,
      Performs bareSystem plainLaunch final ∧
        ∀ passes s', handleRetireall passes final ≠ .ok s') ∧
      ¬ ∀ past final,
        Run Performs bareSystem past final →
          ∀ state ∈ Run.visited past final, RetiresAll state := by
  have launched :
      (perform plainLaunch bareSystem).map (fun s =>
        (s.storage.slotAt 1, s.storage.slot.length, (s.contexts 0).handle)) =
        .ok (some 0, 4, 2) :=
    rfl
  cases performed : perform plainLaunch bareSystem with
  | error fault =>
      rw [performed] at launched
      cases launched
  | ok final =>
      rw [performed] at launched
      injection launched with launched
      simp only [Prod.mk.injEq] at launched
      obtain ⟨refers, isLength, isHandle⟩ := launched
      have misplaced : Misplaced final 0 1 := by
        refine ⟨refers, ?_⟩
        rw [HandleStorage.hash, isHandle, isLength]
        decide
      refine ⟨⟨final, performed, fun passes s' =>
        handleRetireall_of_misplaced misplaced passes⟩, fun holds => ?_⟩
      exact not_retiresAll_of_misplaced misplaced
        (holds _ final (.snoc .nil performed) final (by simp))

end Runs

end HandleRetireall

end SkynetCpp
