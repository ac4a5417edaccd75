import SkynetCpp.HashidRuns

namespace SkynetCpp

open Foundation

/-!
# The shape of the hash of ids

What `hashid.h` keeps true of its own arrays: which nodes the chain of a bucket
visits, what a free node looks like, and what `count` counts.  A run is any
sequence of insertions and removals after `hashid_init`.
-/

namespace Hashid

/-- Following the chain of a bucket comes to a node. -/
def InChain
    (hi : Hashid)
    (b c : Nat) : Prop :=
  ∃ steps, walk hi.next (hi.bucket b) steps = some c

/-- An id may be inserted: it is no node's, and no sum of the search overflows. -/
structure Insertable
    (hi : Hashid)
    (id : Int) : Prop where
  nonneg : 0 ≤ id
  distinct : id ∉ hi.keys
  notFull : hi.full = false
  fits : hi.ProbesFit id

/-- A call on the table that returns. -/
inductive Step : Hashid → HashidCall → Hashid → Prop where
  | insert
      {hi next : Hashid}
      {id answer : Int}
      (insertable : hi.Insertable id)
      (returned : hi.insert id = .ok (answer, next)) :
      Step hi (.insert id) next
  | remove
      {hi next : Hashid}
      {id answer : Int}
      (returned : hi.remove id = .ok (answer, next)) :
      Step hi (.remove id) next

/-- What holds of the table between any two calls. -/
structure WellFormed
    (hi : Hashid) : Prop where
  /-- The bucket of every id is in `hash`. -/
  buckets : ∀ id, hi.slot id < hi.hash.length
  /--
  The chain of a bucket ends in null, and visits without repetition the nodes
  whose id is not -1 and belongs to the bucket.
  -/
  chain :
    ∀ b,
      ∃ nodes,
        Chain hi.next (hi.bucket b) nodes ∧
          nodes.Nodup ∧
            ∀ c,
              c ∈ nodes ↔
                ∃ id, hi.keys[c]? = some id ∧ id ≠ -1 ∧ hi.slot id = b
  /-- A node that is in no chain has id -1 and next null. -/
  free :
    ∀ c, c < hi.id.length →
      (∀ b, ¬ hi.InChain b c) →
        hi.id[c]? = some { id := -1, next := none }
  /-- `count` is the number of nodes with id not -1, and `cap` that of all nodes. -/
  count : hi.count = hi.keys.countP (· ≠ -1)
  cap : hi.cap = hi.keys.length
  /-- No assertion of `hashid_insert` fails. -/
  inserts :
    ∀ id, hi.Insertable id → ∃ next, hi.insert id = .ok (-1, next)
  /-- A removal meets no null pointer and ends. -/
  removes : ∀ id, ∃ next, hi.remove id = .ok (-1, next)

/-- The table holds some map from ids to indices. -/
def Mirrored (hi : Hashid) : Prop :=
  ∃ index, HashidRun.Mirrors { hi := hi, index := index }

end Hashid

namespace HashidRun

variable {t : HashidRun}

/-- Exactly the ids that some node has are live. -/
theorem Mirrors.index_eq_none_iff
    (mirrors : t.Mirrors)
    {id : Int}
    (nonneg : 0 ≤ id) :
    t.index id = none ↔ id ∉ t.hi.keys := by
  rw [Option.eq_none_iff_forall_ne_some, List.mem_iff_getElem?, not_exists]
  apply forall_congr'
  intro c
  rw [ne_eq, mirrors.keys, and_iff_right nonneg]

/-- A node is in the chain of a bucket exactly when its id belongs there. -/
theorem Mirrors.listed_iff
    (mirrors : t.Mirrors)
    {nodes : Nat → List Nat}
    (listed :
      ∀ h c, c ∈ nodes h ↔ ∃ id, t.index id = some c ∧ t.hi.slot id = h)
    (b c : Nat) :
    c ∈ nodes b ↔
      ∃ id, t.hi.keys[c]? = some id ∧ id ≠ -1 ∧ t.hi.slot id = b := by
  rw [listed]
  apply exists_congr
  intro id
  rw [mirrors.keys]
  constructor
  · rintro ⟨⟨nonneg, hasKey⟩, isSlot⟩
    exact ⟨hasKey, by omega, isSlot⟩
  · rintro ⟨hasKey, notFree, isSlot⟩
    rcases mirrors.nonneg id (List.mem_of_getElem? hasKey) with
      isFree | nonneg
    · exact absurd isFree notFree
    · exact ⟨⟨nonneg, hasKey⟩, isSlot⟩

/-- A node with id -1 is as `hashid_init` left it. -/
theorem Mirrors.node_of_free
    (mirrors : t.Mirrors)
    {c : Nat}
    (isFree : t.hi.keys[c]? = some (-1)) :
    t.hi.id[c]? = some { id := -1, next := none } := by
  have noNext := mirrors.detached c isFree
  rw [Hashid.keys, List.getElem?_map, Option.map_eq_some_iff] at isFree
  obtain ⟨node, isNode, isKey⟩ := isFree
  rw [Hashid.next, isNode, Option.bind_some] at noNext
  rw [isNode, ← isKey, ← noNext]

/-- A table that holds a map is well formed. -/
theorem Mirrors.wellFormed
    (mirrors : t.Mirrors) :
    t.hi.WellFormed where
  buckets := mirrors.slots
  chain := by
    intro b
    obtain ⟨nodes, chains, listed⟩ := mirrors.chains
    exact
      ⟨nodes b, chains.chain b, chains.noDuplicates b,
        mirrors.listed_iff listed b⟩
  free := by
    intro c inside apart
    rcases mirrors.free_or_live inside with isFree | ⟨id, live⟩
    · exact mirrors.node_of_free isFree
    · obtain ⟨nodes, chains, listed⟩ := mirrors.chains
      have member : c ∈ nodes (t.hi.slot id) := (listed _ c).mpr ⟨id, live, rfl⟩
      exact absurd ((chains.chain _).mem_iff_walk.mp member) (apart _)
  count := mirrors.count
  cap := by
    rw [t.hi.keys_length]
    exact mirrors.cap
  inserts := by
    intro id insertable
    have distinct :=
      (mirrors.index_eq_none_iff insertable.nonneg).mpr insertable.distinct
    obtain ⟨c, next, -, inserted, -⟩ :=
      mirrors.insert insertable.nonneg distinct insertable.notFull
        insertable.fits
    exact ⟨next, inserted⟩
  removes := by
    intro id
    obtain ⟨next, removed, -⟩ := mirrors.remove id
    exact ⟨next, removed⟩

end HashidRun

namespace Hashid

/-- An insertion or a removal leaves a table that holds some map. -/
theorem Mirrored.step
    {hi next : Hashid}
    {call : HashidCall}
    (mirrored : hi.Mirrored)
    (taken : Step hi call next) :
    next.Mirrored := by
  obtain ⟨index, mirrors⟩ := mirrored
  cases taken with
  | insert insertable returned =>
      have distinct :=
        (mirrors.index_eq_none_iff insertable.nonneg).mpr insertable.distinct
      obtain ⟨c, expected, -, inserted, later⟩ :=
        mirrors.insert insertable.nonneg distinct insertable.notFull
          insertable.fits
      obtain ⟨-, rfl⟩ := ok_pair_inj.mp (inserted.symm.trans returned)
      exact ⟨_, later⟩
  | remove returned =>
      obtain ⟨expected, removed, later, -⟩ := mirrors.remove _
      obtain ⟨-, rfl⟩ := ok_pair_inj.mp (removed.symm.trans returned)
      exact ⟨_, later⟩

/--
After `hashid_init` the table is well formed along every sequence of
insertions and removals, and no assertion fails.
-/
theorem hashid_wellFormed
    {max : Int}
    (positive : 1 ≤ max)
    {turns : Nat}
    {initial final : Hashid}
    (initialised : initInt turns max = some initial)
    {past : List (Hashid × HashidCall)}
    (run : Run Step initial past final) :
    ∀ hi ∈ Run.visited past final, hi.WellFormed := by
  obtain ⟨bound, rfl⟩ := (initInt_iff positive initial).mp ⟨turns, initialised⟩
  have mirrored : ∀ hi ∈ Run.visited past final, hi.Mirrored := by
    refine run.invariant_of_step ?_ ?_
    · exact ⟨_, HashidRun.start_mirrors positive bound⟩
    · exact Mirrored.step
  intro hi member
  obtain ⟨index, mirrors⟩ := mirrored hi member
  exact mirrors.wellFormed

theorem insertable_of_small
    {hi : Hashid}
    {id : Int}
    (nonneg : 0 ≤ id)
    (distinct : id ∉ hi.keys)
    (notFull : hi.full = false)
    (small : id + hi.cap ≤ 2 ^ 31) :
    hi.Insertable id where
  nonneg := nonneg
  distinct := distinct
  notFull := notFull
  fits := HashidRun.probesFit_of_small small

/-- Two ids of one bucket are inserted, and the one behind the other is removed. -/
theorem hashid_wellFormed_four :
    ∃ past final,
      Run Step (init 4) past final ∧
        past.map Prod.snd = [.remove 5, .insert 21, .insert 5] ∧
          final.keys = [-1, -1, 21, -1] ∧
            ∀ hi ∈ Run.visited past final, hi.WellFormed := by
  have run :
      ∃ past final,
        Run Step (init 4) past final ∧
          past.map Prod.snd = [.remove 5, .insert 21, .insert 5] ∧
            final.keys = [-1, -1, 21, -1] :=
    ⟨_, _,
      ((Run.nil.snoc
        (.insert
          (insertable_of_small (by decide) (by decide) rfl (by decide))
          rfl)).snoc
        (.insert
          (insertable_of_small (by decide) (by decide) rfl (by decide))
          rfl)).snoc
        (.remove rfl), rfl, rfl⟩
  obtain ⟨past, final, run, calls, isKeys⟩ := run
  have initialised : initInt 28 4 = some (init 4) := rfl
  exact
    ⟨past, final, run, calls, isKeys,
      hashid_wellFormed (by decide) initialised run⟩

end Hashid

end SkynetCpp
