import Mathlib.Data.Finset.Card
import Mathlib.Order.Interval.Finset.Nat
import SkynetCpp.HandleProbe
import SkynetCpp.HandleTable

namespace SkynetCpp

open Foundation

/-!
# How many services a node can launch

A `NewContext` leaves its context in two slots, and only the slot of its last
handle is ever cleared.  The table does not grow, because its growth step fails
in a full table.  So the slots of `HandleInit` run out.
-/

namespace HandleTable

section Full

variable
    {s registered : System}
    {ctx : ContextId}
    {handle : UInt32}

/-- Rehashing a table without a free slot stops at the first context. -/
theorem rehash_of_full
    (full : ∀ index, s.storage.slotAt (s.storage.hash index) ≠ none)
    {slots newSlot filled : List (Option ContextId)}
    {ctx : ContextId}
    (member : some ctx ∈ slots) :
    rehash s slots newSlot ≠ .ok filled := by
  induction slots with
  | nil =>
      cases member
  | cons slot rest inductionHypothesis =>
      cases slot with
      | none =>
          simp only [List.mem_cons, reduceCtorEq, false_or] at member
          exact inductionHypothesis member
      | some other =>
          simp [rehash, full]

/-- `HandleRegister` does not return from a table without a free slot. -/
theorem not_handleRegister_of_full
    (positive : 0 < s.storage.slot.length)
    (full : ∀ index < s.storage.slot.length, s.storage.slotAt index ≠ none) :
    handleRegister s ctx ≠ .ok (handle, registered) := by
  intro returned
  have occupied (handle : UInt32) :
      s.storage.slotAt (s.storage.hash handle) ≠ none :=
    full _ (HandleStorage.hash_lt positive handle)
  unfold handleRegister registerLoop at returned
  split at returned
  · next found scanned =>
      exact occupied found (HandleStorage.slotAt_of_probe scanned)
  · split at returned
    · next grown grows =>
        obtain ⟨newSlot, _, rehashed, _⟩ := growSlots_rehashes grows
        obtain ⟨first, holds⟩ := Option.ne_none_iff_exists'.mp (full 0 positive)
        have found : s.storage.slot[0]? = some (some first) := by
          simpa [HandleStorage.slotAt, Option.join_eq_some_iff] using holds
        exact rehash_of_full occupied (List.mem_of_getElem? found) rehashed
    · cases returned

/-- A scan that does not start over and finds nothing has seen every slot. -/
theorem full_of_probe
    {storage : HandleStorage}
    {k : Nat}
    (small : k ≤ 23)
    (sized : storage.slot.length = 2 ^ k)
    (early : storage.handleIndex.toNat + storage.slot.length ≤ 2 ^ 24)
    (missed :
      storage.probe storage.slot.length storage.handleIndex = none) :
    ∀ index < storage.slot.length, storage.slotAt index ≠ none := by
  have positive : 0 < storage.slot.length := sized ▸ Nat.two_pow_pos k
  have bounded : storage.slot.length ≤ 2 ^ 23 :=
    sized ▸ Nat.pow_le_pow_right (by decide) small
  have divides : storage.slot.length ∣ 0xffffff + 1 := by
    rw [sized]
    exact Nat.pow_dvd_pow 2 (Nat.le_trans small (by decide : 23 ≤ 24))
  have taken :=
    (HandleProbe.probe_eq_none_iff sized (by omega) (by omega)).mp missed
  intro index inTable
  have seen :
      ∃ turn < storage.slot.length,
        scanned 0xffffff storage.handleIndex.toNat turn %
            storage.slot.length = index :=
    (exists_scanned_iff divides positive (by omega) inTable).mpr
      (.inr (.inl early))
  obtain ⟨turn, inTime, here⟩ := seen
  rw [← here]
  exact taken turn inTime

/--
As long as the scan does not start over, a registration enters the context in a
table of the same size, under a handle behind the last one.
-/
theorem handleRegister_of_early
    {k : Nat}
    (small : k ≤ 23)
    (sized : s.storage.slot.length = 2 ^ k)
    (early : s.storage.handleIndex.toNat + s.storage.slot.length ≤ 2 ^ 24)
    (returned : handleRegister s ctx = .ok (handle, registered)) :
    ∃ found,
      s.storage.probe s.storage.slot.length s.storage.handleIndex =
          some found ∧
        registered = registerAt s ctx found := by
  cases scanned :
      s.storage.probe s.storage.slot.length s.storage.handleIndex with
  | none =>
      have positive : 0 < s.storage.slot.length := sized ▸ Nat.two_pow_pos k
      exact absurd returned
        (not_handleRegister_of_full positive
          (full_of_probe small sized early scanned))
  | some found =>
      unfold handleRegister registerLoop at returned
      rw [scanned] at returned
      injection returned with same
      injection same with _ isRegistered
      exact ⟨found, rfl, isRegistered.symm⟩

/-- A scan that does not start over stays close to where it starts. -/
theorem lt_of_probe
    {storage : HandleStorage}
    {turns : Nat}
    {start found : UInt32}
    (early : start.toNat + turns ≤ 2 ^ 24)
    (scanned : storage.probe turns start = some found) :
    found.toNat < start.toNat + turns := by
  induction turns generalizing start with
  | zero =>
      cases scanned
  | succ turns inductionHypothesis =>
      have inMask : ¬ start > kHandleMask := by
        intro behind
        have above : 0xffffff < start.toNat := UInt32.lt_iff_toNat_lt.mp behind
        omega
      rw [HandleProbe.probe_succ, HandleProbe.firstTried, if_neg inMask]
        at scanned
      split at scanned
      · injection scanned with isFound
        rw [← isFound]
        omega
      · have isNext : (start + 1).toNat = start.toNat + 1 := by
          rw [UInt32.toNat_add]
          exact Nat.mod_eq_of_lt (by show _ + 1 < 2 ^ 32; omega)
        have later := inductionHypothesis (by omega) scanned
        omega

end Full

section Leaked

/-- So many slots refer to contexts that no handle leads to. -/
def Stale
    (launched : Nat)
    (s : System) : Prop :=
  ∃ stale : Finset Nat,
    stale.card = launched ∧
      ∀ index ∈ stale, ∃ ctx < s.nextContext, Misplaced s ctx index

/-- What so many launches leave of the table of `HandleInit`. -/
structure Leaked
    (launched : Nat)
    (s : System) : Prop where
  few : launched ≤ 3
  size : s.storage.slot.length = kDefaultSoltSize
  stale : Stale launched s
  index : s.storage.handleIndex.toNat ≤ 1 + 8 * launched

variable
    {launched : Nat}
    {s s' : System}
    {ctx : ContextId}

theorem leaked_handleInit
    {harbor : UInt32}
    (fresh : s.storage = handleInit harbor) :
    Leaked 0 s where
  few := by decide
  size := by rw [fresh]; rfl
  stale := ⟨∅, rfl, by simp⟩
  index := by rw [fresh]; exact Nat.le_refl 1

/-- A stale slot is in use. -/
theorem not_mem_stale
    {stale : Finset Nat}
    (isStale : ∀ index ∈ stale, ∃ ctx < s.nextContext, Misplaced s ctx index)
    {index : Nat}
    (isFree : s.storage.slotAt index = none) :
    index ∉ stale := by
  intro member
  obtain ⟨ctx, _, refers, _⟩ := isStale index member
  rw [isFree] at refers
  cases refers

/-- Whatever keeps the misplaced contexts in a table of the same size. -/
theorem Stale.keeps
    (stale : Stale launched s)
    (keeps : Keeps s.nextContext s s')
    (sameSize : s'.storage.slot.length = s.storage.slot.length) :
    Stale launched s' := by
  obtain ⟨slots, isCard, isStale⟩ := stale
  refine ⟨slots, isCard, fun index member => ?_⟩
  obtain ⟨ctx, below, misplaced⟩ := isStale index member
  exact ⟨ctx, Nat.lt_of_lt_of_le below keeps.next,
    keeps.misplaced sameSize ctx below index misplaced⟩

/-- What keeps the misplaced contexts keeps the stale slots, and may add one. -/
theorem Stale.grow
    (stale : Stale launched s)
    (keeps : Keeps s.nextContext s s')
    (sameSize : s'.storage.slot.length = s.storage.slot.length)
    {index : Nat}
    (isFree : s.storage.slotAt index = none)
    (below : ctx < s'.nextContext)
    (misplaced : Misplaced s' ctx index) :
    Stale (launched + 1) s' := by
  obtain ⟨slots, isCard, isStale⟩ := stale
  refine ⟨insert index slots, ?_, fun other member => ?_⟩
  · rw [Finset.card_insert_of_notMem (not_mem_stale isStale isFree), isCard]
  · rcases Finset.mem_insert.mp member with rfl | wasStale
    · exact ⟨ctx, below, misplaced⟩
    · obtain ⟨old, wasBelow, wasMisplaced⟩ := isStale other wasStale
      exact ⟨old, Nat.lt_of_lt_of_le wasBelow keeps.next,
        keeps.misplaced sameSize old wasBelow other wasMisplaced⟩

/-- What neither registers nor grows leaves the table as leaked as it was. -/
theorem Leaked.keeps
    (leaked : Leaked launched s)
    (keeps : Keeps s.nextContext s s')
    (sameSize : s'.storage.slot.length = s.storage.slot.length)
    (sameIndex : s'.storage.handleIndex = s.storage.handleIndex) :
    Leaked launched s' where
  few := leaked.few
  size := sameSize.trans leaked.size
  stale := leaked.stale.keeps keeps sameSize
  index := by
    rw [sameIndex]
    exact leaked.index

theorem Leaked.sameTable
    (leaked : Leaked launched s)
    (same : SameTable s s') :
    Leaked launched s' :=
  leaked.keeps (Keeps.of_sameTable same) (by rw [same.storage])
    (by rw [same.storage])

/-- A retirement gives none of the stale slots back. -/
theorem Leaked.handleRetire
    (leaked : Leaked launched s)
    {handle : UInt32}
    {result : Int}
    (returned : handleRetire s handle = .ok (result, s')) :
    Leaked launched s' := by
  have keeps : Keeps s.nextContext s s' := Keeps.handleRetire returned
  rcases handleRetire_cases returned with
    ⟨_, isSame⟩ | ⟨target, inUse, found, release⟩
  · rw [isSame]
    exact leaked
  · have same := SameTable.contextRelease release
    exact leaked.keeps keeps (by rw [same.storage]; simp [unlinkAt])
      (by rw [same.storage]; rfl)

/-- Entering a context in a table of four slots that has leaked a few. -/
theorem enrollContext_of_early
    (size : s.storage.slot.length = kDefaultSoltSize)
    (early : s.storage.handleIndex.toNat ≤ 100)
    (returned : enrollContext s ctx = .ok s') :
    s'.storage.slot.length = s.storage.slot.length ∧
      s'.storage.handleIndex.toNat ≤ s.storage.handleIndex.toNat + 4 := by
  have sized : s.storage.slot.length = 2 ^ 2 := size
  unfold enrollContext at returned
  split at returned
  · next handle registered registers =>
      injection returned with isState
      subst isState
      have inTime : s.storage.handleIndex.toNat + s.storage.slot.length ≤ 2 ^ 24 := by
        omega
      obtain ⟨found, scanned, isRegistered⟩ :=
        handleRegister_of_early (by decide) sized inTime registers
      have near := lt_of_probe inTime scanned
      subst isRegistered
      refine ⟨by simp [registerAt], ?_⟩
      show (found + 1).toNat ≤ _
      rw [UInt32.toNat_add]
      exact (Nat.mod_le _ _).trans (by show _ + 1 ≤ _; omega)
  · cases returned

/-- Two slots that were free, next to the stale ones, are two more of the four. -/
theorem Leaked.two_free
    (leaked : Leaked launched s)
    {first second : Nat}
    (firstFree : s.storage.slotAt first = none)
    (secondFree : s.storage.slotAt second = none)
    (firstIn : first < s.storage.slot.length)
    (secondIn : second < s.storage.slot.length)
    (different : first ≠ second) :
    launched + 2 ≤ kDefaultSoltSize := by
  obtain ⟨stale, isCard, isStale⟩ := leaked.stale
  have inTable :
      insert first (insert second stale) ⊆ Finset.range kDefaultSoltSize := by
    intro index member
    rw [Finset.mem_range, ← leaked.size]
    rcases Finset.mem_insert.mp member with rfl | member
    · exact firstIn
    rcases Finset.mem_insert.mp member with rfl | member
    · exact secondIn
    obtain ⟨ctx, _, refers, _⟩ := isStale index member
    exact HandleStorage.lt_of_slotAt refers
  have notFirst : first ∉ insert second stale := by
    simp [different, not_mem_stale isStale firstFree]
  have size := Finset.card_le_card inTable
  rw [Finset.card_insert_of_notMem notFirst,
    Finset.card_insert_of_notMem (not_mem_stale isStale secondFree), isCard,
    Finset.card_range] at size
  exact size

/--
A context that is entered twice takes two free slots, and its handle leads to at
most one of them.
-/
theorem enrollContext_twice
    {once twice : System}
    (size : s.storage.slot.length = kDefaultSoltSize)
    (early : s.storage.handleIndex.toNat ≤ 50)
    (first : enrollContext s ctx = .ok once)
    (second : enrollContext once ctx = .ok twice) :
    (∃ index other,
      s.storage.slotAt index = none ∧ s.storage.slotAt other = none ∧
        index ≠ other ∧ other < s.storage.slot.length ∧
        Misplaced twice ctx index) ∧
      twice.storage.slot.length = s.storage.slot.length ∧
      twice.storage.handleIndex.toNat ≤ s.storage.handleIndex.toNat + 8 := by
  obtain ⟨firstSize, firstIndex⟩ := enrollContext_of_early size (by omega) first
  obtain ⟨secondSize, secondIndex⟩ :=
    enrollContext_of_early (firstSize.trans size) (by omega) second
  obtain ⟨found, firstFree, firstTaken, firstOthers, _, _⟩ :=
    enrollContext_of_same_size first firstSize
  obtain ⟨found', secondFree, secondTaken, secondOthers, _, _⟩ :=
    enrollContext_of_same_size second secondSize
  refine ⟨?_, secondSize.trans firstSize, by omega⟩
  have nonempty : 0 < s.storage.slot.length := size ▸ (by decide)
  have firstIn := HandleStorage.hash_lt nonempty found
  have secondIn := HandleStorage.hash_lt (firstSize ▸ nonempty) found'
  rw [firstSize] at secondIn
  have twoSlots : s.storage.hash found ≠ once.storage.hash found' := by
    intro same
    rw [← same, firstTaken] at secondFree
    cases secondFree
  have secondWasFree :
      s.storage.slotAt (once.storage.hash found') = none := by
    rw [← firstOthers _ twoSlots.symm]
    exact secondFree
  by_cases isFirst :
      twice.storage.hash (twice.contexts ctx).handle = s.storage.hash found
  · refine ⟨_, _, secondWasFree, firstFree, twoSlots.symm, firstIn, secondTaken, ?_⟩
    rw [isFirst]
    exact twoSlots
  · exact ⟨_, _, firstFree, secondWasFree, twoSlots, secondIn,
      (secondOthers _ twoSlots).trans firstTaken, isFirst⟩

/-- The two registrations of a launch leave one more slot stale. -/
theorem Leaked.registeredTwice
    (leaked : Leaked launched s)
    {mod : Module}
    {constructed enrolled : System}
    (constructs : constructContext s mod = .ok (ctx, constructed))
    (enrolls : enrollContext constructed ctx = .ok enrolled) :
    Leaked (launched + 1) enrolled := by
  obtain ⟨_, below, constructing⟩ := Keeps.constructContext constructs
  have enrolling := Keeps.enrollContext enrolls
  have keeps := constructing.trans enrolling
  simp only [constructContext, bind_eq_ok_iff] at constructs
  obtain ⟨t, firstEnrolls, isResult⟩ := constructs
  obtain ⟨rfl, rfl⟩ := ok_pair_inj.mp isResult
  have index := leaked.index
  have few := leaked.few
  let allocated : System :=
    { (s.modify s.nextContext fun _ => freshContext s mod) with
      nextContext := s.nextContext + 1 }
  have early : allocated.storage.handleIndex.toNat ≤ 50 :=
    index.trans (by omega)
  obtain ⟨⟨slot, other, isFree, otherFree, different, otherIn, misplaced⟩,
      sameSize, nextIndex⟩ :=
    enrollContext_twice (s := allocated) leaked.size early firstEnrolls enrolls
  have inTable : slot < s.storage.slot.length :=
    sameSize ▸ HandleStorage.lt_of_slotAt misplaced.1
  have enough := leaked.two_free isFree otherFree inTable otherIn different
  exact
    { few := Nat.le_of_succ_le_succ enough
      size := sameSize.trans leaked.size
      stale :=
        leaked.stale.grow keeps sameSize isFree
          (Nat.lt_of_lt_of_le below enrolling.next) misplaced
      index := nextIndex.trans (Nat.add_le_add_right index 8) }

/-- What a failed launch does to the table is a retirement. -/
theorem Leaked.launchFailed
    (leaked : Leaked launched s)
    {request : LaunchRequest}
    {stack : Nat → Option Message}
    {fuel : Nat}
    {queue : QueueId}
    (returned : launchFailed request stack fuel s ctx queue = .ok s') :
    Leaked launched s' := by
  simp only [SkynetCpp.launchFailed, bind_eq_ok_iff] at returned
  obtain ⟨t, logged, ⟨inUse, u⟩, release, ⟨result, v⟩, retire, drained⟩ :=
    returned
  have released :=
    (SameTable.keptBySends.skynetError logged).trans
      (SameTable.contextRelease release)
  exact ((leaked.sameTable released).handleRetire retire).sameTable
    (SameTable.messageQueueRelease drained)

/-- A launch leaks one slot, whatever comes of it, and what its `init` leaks. -/
theorem Leaked.newContext
    (leaked : Leaked launched s)
    {nested : Nat}
    {request : LaunchRequest}
    {stack : Nat → Option Message}
    {fuel : Nat}
    {init : ContextId → System → Except Fault (Int × System)}
    {created : Option ContextId}
    (initLeaks :
      ∀ {before result after ctx},
        Leaked (launched + 1) before →
          init ctx before = .ok (result, after) →
            Leaked (launched + 1 + nested) after)
    (returned : newContext request stack fuel init s = .ok (created, s')) :
    Leaked (launched + 1 + nested) s' := by
  simp only [SkynetCpp.newContext, launchContext, bind_eq_ok_iff] at returned
  obtain ⟨mod, _, ⟨ctx, constructed⟩, constructs, enrolled, enrolls, returned⟩ :=
    returned
  have registered := leaked.registeredTwice constructs enrolls
  split at returned
  · simp only [bind_eq_ok_iff] at returned
    obtain ⟨⟨result, t⟩, initialised, returned⟩ := returned
    have inits := initLeaks registered initialised
    split at returned
    · simp only [bind_eq_ok_iff] at returned
      obtain ⟨u, succeeded, isResult⟩ := returned
      cases isResult
      exact inits.sameTable (SameTable.launchSucceeded succeeded)
    · simp only [bind_eq_ok_iff] at returned
      obtain ⟨u, failed, isResult⟩ := returned
      cases isResult
      exact inits.launchFailed failed
  · cases returned

mutual

/-- How many launches an operation makes, those of its `init` included. -/
def launches : Operation → Nat
  | .handleRetire _ => 0
  | .newContext _ _ _ _ during _ => 1 + launchesAll during

/-- How many launches some operations make. -/
def launchesAll : List Operation → Nat
  | [] => 0
  | operation :: rest => launches operation + launchesAll rest

end

mutual

/-- Every launch of an operation that returns has leaked its slot. -/
theorem Leaked.perform
    {launched : Nat}
    {s s' : System}
    (leaked : Leaked launched s)
    (operation : Operation)
    (performed : perform operation s = .ok s') :
    Leaked (launched + launches operation) s' := by
  cases operation with
  | handleRetire handle =>
      simp only [HandleTable.perform, bind_eq_ok_iff] at performed
      obtain ⟨⟨result, t⟩, retired, isResult⟩ := performed
      cases isResult
      exact leaked.handleRetire retired
  | newContext request stack fuel cb during result =>
      simp only [HandleTable.perform, bind_eq_ok_iff] at performed
      obtain ⟨⟨created, t⟩, returned, isResult⟩ := performed
      cases isResult
      rw [launches, ← Nat.add_assoc]
      refine leaked.newContext (fun {before answer after ctx} starts inits => ?_)
        returned
      simp only [bind_eq_ok_iff] at inits
      obtain ⟨t, during_, isAnswer⟩ := inits
      cases isAnswer
      have installs : SameTable before (serviceCallback before ctx cb) :=
        SameTable.modify before ctx _ rfl
      exact (starts.sameTable installs).performAll during during_

/-- So has every launch of some operations one after the other. -/
theorem Leaked.performAll
    {launched : Nat}
    {s s' : System}
    (leaked : Leaked launched s)
    (operations : List Operation)
    (performed : performAll operations s = .ok s') :
    Leaked (launched + launchesAll operations) s' := by
  cases operations with
  | nil =>
      cases performed
      exact leaked
  | cons operation rest =>
      simp only [HandleTable.performAll, bind_eq_ok_iff] at performed
      obtain ⟨t, first, later⟩ := performed
      rw [launchesAll, ← Nat.add_assoc]
      exact (leaked.perform operation first).performAll rest later

end

/--
From the table that `HandleInit` sets up, no more than three launches ever
return, however they end, and whatever is retired before, between and during
them.
-/
theorem launches_le_three
    {harbor : UInt32}
    {operations : List Operation}
    (fresh : s.storage = handleInit harbor)
    (performed : performAll operations s = .ok s') :
    launchesAll operations ≤ 3 := by
  have leaked := (leaked_handleInit fresh).performAll operations performed
  have few := leaked.few
  omega

/-- Three launches, each retired before the next one. -/
def threeLaunches : List Operation :=
  [plainLaunch, .handleRetire 2, plainLaunch, .handleRetire 4, plainLaunch,
    .handleRetire 8]

/-- The three launches return, and a fourth one fails. -/
theorem launches_le_three_plain :
    ∃ s',
      performAll threeLaunches bareSystem = .ok s' ∧
        launchesAll threeLaunches = 3 ∧ launchesAll threeLaunches ≤ 3 ∧
        ∃ fault, perform plainLaunch s' = .error fault := by
  have checked :
      (performAll threeLaunches bareSystem).toOption.any
        (fun s => (perform plainLaunch s).toOption.isNone) = true := by
    decide +kernel
  cases performed : performAll threeLaunches bareSystem with
  | error fault =>
      rw [performed] at checked
      cases checked
  | ok s' =>
      have fresh : bareSystem.storage = handleInit 0 := rfl
      refine ⟨s', rfl, ?_, launches_le_three fresh performed, ?_⟩
      · simp [threeLaunches, plainLaunch, launchesAll, launches]
      cases fourth : perform plainLaunch s' with
      | error fault =>
          exact ⟨fault, rfl⟩
      | ok s'' =>
          rw [performed] at checked
          simp [Except.toOption, fourth] at checked

end Leaked

end HandleTable

end SkynetCpp
