import SkynetCpp.Handle

namespace SkynetCpp

/-!
# Growing the handle table

The growth step of `HandleRegister` looks for a vacancy in the table it is
replacing, under the mask of that table.  In a full table every slot is taken,
so the step fails its assertion at the first context.
-/

/-- Every slot of a power-of-two table holds the context that hashes to it. -/
structure FullTable (s : System) : Prop where
  size : ∃ k, s.storage.slot.length = 2 ^ k
  placed :
    ∀ index, index < s.storage.slot.length →
      ∃ ctx,
        s.storage.slotAt index = some ctx ∧
          s.storage.hash (s.contexts ctx).handle = index

/--
Registering a context in a full table doubles the table, keeps every context
in the slot of its handle, keeps every lookup, and registers the context.
-/
def GrowthSucceeds
    (s : System)
    (ctx : ContextId) : Prop :=
  ∃ handle after,
    handleRegister s ctx = .ok (handle, after) ∧
    after.storage.slot.length = 2 * s.storage.slot.length ∧
    (∀ index other,
      s.storage.slotAt index = some other →
        after.storage.slotAt (after.storage.hash (s.contexts other).handle) =
          some other) ∧
    (∀ other live,
      handleLookup s other = some live →
        handleLookup after other = some live) ∧
    after.storage.slotAt (after.storage.hash handle) = some ctx

namespace FullTable

variable {s : System}

/-- A power-of-two table has slots. -/
theorem nonempty
    (full : FullTable s) :
    0 < s.storage.slot.length := by
  obtain ⟨k, size⟩ := full.size
  rw [size]
  exact Nat.two_pow_pos k

/-- No handle finds a free slot. -/
theorem occupied
    (full : FullTable s)
    (handle : UInt32) :
    s.storage.slotAt (s.storage.hash handle) ≠ none := by
  obtain ⟨ctx, holds, _⟩ :=
    full.placed _ (HandleStorage.hash_lt full.nonempty handle)
  rw [holds]
  exact Option.some_ne_none ctx

/-- The scan of a full table finds nothing. -/
theorem probe_eq_none
    (full : FullTable s)
    (turns : Nat)
    (handle : UInt32) :
    s.storage.probe turns handle = none := by
  cases found : s.storage.probe turns handle with
  | none =>
      rfl
  | some handle =>
      exact absurd (HandleStorage.slotAt_of_probe found) (full.occupied handle)

/-- Rehashing stops at the first context, whatever was moved before. -/
theorem rehash_fails
    (full : FullTable s)
    {slots : List (Option ContextId)}
    (some_mem : ∃ ctx, some ctx ∈ slots)
    (newSlot : List (Option ContextId)) :
    rehash s slots newSlot =
      .error (.assertion "kHandleStorage->slot[hash] == nullptr") := by
  obtain ⟨ctx, member⟩ := some_mem
  induction slots with
  | nil =>
      cases member
  | cons slot rest inductionHypothesis =>
      cases slot with
      | none =>
          simp only [List.mem_cons, reduceCtorEq, false_or] at member
          exact inductionHypothesis member
      | some other =>
          simp only [rehash, full.occupied, ↓reduceIte]

/-- The growth step fails one of its assertions. -/
theorem growSlots_fails
    (full : FullTable s) :
    ∃ expression, growSlots s = .error (.assertion expression) := by
  obtain ⟨ctx, holds, _⟩ := full.placed 0 full.nonempty
  have member : some ctx ∈ s.storage.slot := by
    have found : s.storage.slot[0]? = some (some ctx) := by
      simpa [HandleStorage.slotAt, Option.join_eq_some_iff] using holds
    exact List.mem_of_getElem? found
  dsimp only [growSlots]
  split
  · rw [full.rehash_fails ⟨ctx, member⟩]
    exact ⟨_, rfl⟩
  · exact ⟨_, rfl⟩

end FullTable

/-- `HandleRegister` never gets a context into a full table. -/
theorem not_growthSucceeds
    (s : System)
    (ctx : ContextId)
    (full : FullTable s) :
    (∃ expression, handleRegister s ctx = .error (.assertion expression)) ∧
      ¬ GrowthSucceeds s ctx := by
  obtain ⟨expression, fails⟩ := full.growSlots_fails
  have firstTurn (turns : Nat) :
      registerLoop ctx (turns + 1) s = .error (.assertion expression) := by
    unfold registerLoop
    rw [full.probe_eq_none, fails]
  have stops : handleRegister s ctx = .error (.assertion expression) :=
    firstTurn 25
  refine ⟨⟨expression, stops⟩, ?_⟩
  rintro ⟨handle, after, registers, _⟩
  rw [stops] at registers
  cases registers

/-- Four services in the default table, each in the slot of its handle. -/
def fullSystem : System :=
  { soloSystem with
    contexts := fun ctx =>
      { soloContext with handle := if ctx = 0 then 4 else UInt32.ofNat ctx }
    nextContext := 4
    storage :=
      { handleInit 0 with
        handleIndex := 5
        slot := [some 0, some 1, some 2, some 3] } }

theorem fullTable_fullSystem : FullTable fullSystem := by
  refine ⟨⟨2, rfl⟩, ?_⟩
  intro index inTable
  have cases : index = 0 ∨ index = 1 ∨ index = 2 ∨ index = 3 := by
    have small : index < 4 := inTable
    omega
  rcases cases with isIndex | isIndex | isIndex | isIndex
  all_goals
    subst isIndex
    exact ⟨_, rfl, by decide⟩

theorem not_growthSucceeds_four :
    (∃ expression, handleRegister fullSystem 4 = .error (.assertion expression)) ∧
      ¬ GrowthSucceeds fullSystem 4 :=
  not_growthSucceeds fullSystem 4 fullTable_fullSystem

/-- The fifth service of a node meets the failing assertion. -/
theorem register_fifth_fails :
    handleRegister fullSystem 4 =
        .error (.assertion "kHandleStorage->slot[hash] == nullptr") ∧
      ¬ ∀ s ctx, FullTable s → GrowthSucceeds s ctx := by
  have fails :
      handleRegister fullSystem 4 =
        .error (.assertion "kHandleStorage->slot[hash] == nullptr") :=
    rfl
  refine ⟨fails, ?_⟩
  intro holds
  obtain ⟨handle, after, registers, _⟩ :=
    holds fullSystem 4 fullTable_fullSystem
  rw [fails] at registers
  cases registers

end SkynetCpp
