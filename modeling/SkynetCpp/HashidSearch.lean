import SkynetCpp.HashidRuns

namespace SkynetCpp

open Foundation

/-!
# The search for a free node

`hashid_insert` adds the counter of its loop to the id before it takes the
remainder.  The sum is an `int`: beyond `2 ^ 31 - 1` it overflows, and the
remainder of a negative sum is no index.  The search overflows exactly when the
id and the nodes that it finds occupied add up to `2 ^ 31` or more.
-/

namespace Hashid

/-- The turns that the loop of `hashid_insert` takes from a counter on. -/
def probes
    (hi : Hashid)
    (id : Int) : Nat → Int → List Probe
  | 0, _ => []
  | turns + 1, i =>
      if hi.keyAt (hi.probe id i).index = some (-1) then
        [hi.probe id i]
      else
        hi.probe id i :: probes hi id turns (i + 1)

/-- The search of `hashid_insert` for an id. -/
def search
    (hi : Hashid)
    (id : Int) : List Probe :=
  hi.probes id hi.cap.toNat 0

/-- The occupied nodes from one on, around the end, before the first free one. -/
def occupiedFrom (hi : Hashid) : Nat → Nat → Nat
  | 0, _ => 0
  | turns + 1, start =>
      if hi.keys[start % hi.keys.length]? = some (-1) then
        0
      else
        occupiedFrom hi turns (start + 1) + 1

/-- What the search for an id should do. -/
structure SearchRight
    (hi : Hashid)
    (id : Int) : Prop where
  /-- No sum overflows. -/
  exact : ∀ probe ∈ hi.search id, probe.sum = probe.i + id
  inRange : ∀ probe ∈ hi.search id, 0 ≤ probe.index ∧ probe.index < hi.cap
  /-- Every node is probed, unless a free one was found before. -/
  covers :
    ∀ c : Nat, c < hi.cap →
      ∃ i : Nat,
        i < hi.cap ∧
          ((∃ probe ∈ hi.search id, probe.i = i ∧ probe.index = c) ∨
            ∃ probe ∈ hi.search id,
              probe.i < i ∧ hi.keyAt probe.index = some (-1))
  /-- The search ends at a free node. -/
  found :
    ∃ probe,
      (hi.search id).getLast? = some probe ∧
        hi.keyAt probe.index = some (-1)

/-- The table of a positive number of nodes has a free one. -/
structure HasRoom
    (hi : Hashid) : Prop where
  cap : hi.cap = hi.keys.length
  free : -1 ∈ hi.keys

section Probes

variable {hi : Hashid}

/-- Up to the free node that the search will reach, no more than `turns` are occupied. -/
theorem occupiedFrom_lt
    {turns start j : Nat}
    (inside : j < turns)
    (isFree : hi.keys[(start + j) % hi.keys.length]? = some (-1)) :
    hi.occupiedFrom turns start < turns := by
  induction turns generalizing start j with
  | zero =>
      cases inside
  | succ turns inductionHypothesis =>
      unfold occupiedFrom
      split
      · exact Nat.succ_pos turns
      · next occupied =>
          cases j with
          | zero =>
              exact absurd isFree occupied
          | succ j =>
              apply Nat.succ_lt_succ
              apply inductionHypothesis (Nat.lt_of_succ_lt_succ inside)
              rwa [Nat.add_assoc, Nat.add_comm 1]

/-- From every node the search reaches a free one. -/
theorem HasRoom.occupiedFrom_lt_cap
    (room : hi.HasRoom)
    (start : Nat) :
    hi.occupiedFrom hi.keys.length start < hi.keys.length := by
  obtain ⟨c, isFree⟩ := List.mem_iff_getElem?.mp room.free
  have inside : c < hi.keys.length := (List.getElem?_eq_some_iff.mp isFree).1
  obtain ⟨j, inRange, isProbe⟩ := exists_probe (Int.natCast_nonneg start) inside
  apply occupiedFrom_lt inRange
  have index : (start + j) % hi.keys.length = c := by
    rw [← isProbe, ← Int.natCast_add, Nat.add_comm j]
    rfl
  rw [index, isFree]

variable
    (cap : hi.cap = hi.keys.length)
    {id : Nat}
include cap

/-- In range, a turn tests the node that the remainder of its exact sum names. -/
theorem probe_of_fits
    {i : Nat}
    (fits : id + i < 2 ^ 31) :
    (hi.probe id i).sum = i + id ∧
      (hi.probe id i).index = ((id + i) % hi.keys.length : Nat) ∧
        hi.keyAt (hi.probe id i).index =
          hi.keys[(id + i) % hi.keys.length]? := by
  have exact : (hi.probe id i).sum = i + id := by
    rw [probe_sum]
    exact toInt32_of_bounds (by omega) (by omega)
  have index : (hi.probe id i).index = ((id + i) % hi.keys.length : Nat) := by
    rw [probe_index, exact, cap, Int.add_comm, ← Int.natCast_add]
    rfl
  refine ⟨exact, index, ?_⟩
  rw [index, keyAt, if_pos (Int.natCast_nonneg _), Int.toNat_natCast]

omit cap in
/-- Out of range, a turn overflows. -/
theorem probe_overflows
    {i : Nat}
    (exceeds : ¬ id + i < 2 ^ 31) :
    (hi.probe id i).sum ≠ i + id := by
  have bound := toInt32_lt (i + id)
  rw [probe_sum]
  omega

omit cap in
/-- The first turn of a search is taken whatever it finds. -/
theorem probe_mem
    (id i : Int)
    (turns : Nat) :
    hi.probe id i ∈ hi.probes id (turns + 1) i := by
  unfold probes
  split <;> simp

/-- A search that reaches a free node is exact if the sum there is in range. -/
theorem probes_exact_iff
    {turns i : Nat}
    (reached : hi.occupiedFrom turns (id + i) < turns) :
    (∀ probe ∈ hi.probes id turns i, probe.sum = probe.i + id) ↔
      id + i + hi.occupiedFrom turns (id + i) < 2 ^ 31 := by
  induction turns generalizing i with
  | zero =>
      cases reached
  | succ turns inductionHypothesis =>
      by_cases fits : id + i < 2 ^ 31
      · obtain ⟨exact, -, tested⟩ := probe_of_fits cap fits
        rw [occupiedFrom] at reached ⊢
        rw [probes, tested]
        split at reached
        · next isFree =>
            rw [if_pos isFree, if_pos isFree, List.forall_mem_singleton, probe_i]
            exact iff_of_true exact fits
        · next occupied =>
            rw [Nat.add_assoc] at reached
            have later := inductionHypothesis (Nat.lt_of_succ_lt_succ reached)
            rw [if_neg occupied, if_neg occupied, List.forall_mem_cons, probe_i,
              and_iff_right exact, ← Int.natCast_succ, later,
              Nat.add_assoc id i 1]
            omega
      · refine iff_of_false ?_ (by omega)
        intro exact
        exact probe_overflows fits (exact _ (probe_mem id i turns))

/-- The turns of an exact search, by their counters. -/
theorem probes_shape
    {turns i : Nat}
    (reached : hi.occupiedFrom turns (id + i) < turns)
    (exact : ∀ probe ∈ hi.probes id turns i, probe.sum = probe.i + id) :
    hi.probes id turns i =
        (List.range (hi.occupiedFrom turns (id + i) + 1)).map
          (fun j => hi.probe id (i + j : Nat)) ∧
      hi.keyAt
          (hi.probe id (i + hi.occupiedFrom turns (id + i) : Nat)).index =
        some (-1) := by
  induction turns generalizing i with
  | zero =>
      cases reached
  | succ turns inductionHypothesis =>
      have fits : id + i < 2 ^ 31 := by
        by_contra exceeds
        exact probe_overflows exceeds (exact _ (probe_mem id i turns))
      obtain ⟨-, -, tested⟩ := probe_of_fits cap fits
      rw [probes] at exact ⊢
      rw [occupiedFrom] at reached ⊢
      rw [tested] at exact ⊢
      split at reached
      · next isFree =>
          rw [if_pos isFree, if_pos isFree]
          simp [tested, isFree]
      · next occupied =>
          rw [Nat.add_assoc] at reached
          rw [if_neg occupied, List.forall_mem_cons, ← Int.natCast_succ] at exact
          obtain ⟨later, last⟩ :=
            inductionHypothesis (Nat.lt_of_succ_lt_succ reached) exact.2
          rw [if_neg occupied, if_neg occupied, ← Int.natCast_succ, later,
            Nat.add_assoc id i 1, List.range_succ_eq_map (n := _ + 1),
            List.map_cons, List.map_map, Nat.add_zero]
          refine ⟨congrArg (List.cons _) (List.map_congr_left ?_), ?_⟩
          · intro j _
            rw [Function.comp_apply, Nat.add_assoc i 1 j, Nat.add_comm 1 j]
          · rw [Nat.add_comm (hi.occupiedFrom turns _) 1, ← Nat.add_assoc i 1]
            exact last

omit cap in
/-- `insert` takes the node of the last turn, if it is free. -/
theorem freeNode_eq_last
    (id : Int)
    (turns : Nat)
    (i : Int) :
    hi.freeNode id turns i =
      (hi.probes id turns i).getLast?.bind fun probe =>
        if hi.keyAt probe.index = some (-1) then some probe.index.toNat
        else none := by
  induction turns generalizing i with
  | zero =>
      rfl
  | succ turns inductionHypothesis =>
      rw [freeNode, probes]
      by_cases isFree : hi.keyAt (hi.probe id i).index = some (-1)
      · simp [isFree]
      · simp only [if_neg isFree, inductionHypothesis, List.getLast?_cons]
        cases (hi.probes id turns (i + 1)).getLast? with
        | none => simp [isFree]
        | some last => rfl

end Probes

section Search

variable
    {hi : Hashid}
    (room : hi.HasRoom)
    {id : Nat}
include room

theorem HasRoom.search_eq :
    hi.search id = hi.probes id hi.keys.length (0 : Nat) := by
  unfold search
  rw [room.cap, Int.toNat_natCast, Int.natCast_zero]

/-- No sum of the search overflows exactly when the last one is in range. -/
theorem HasRoom.exact_iff :
    (∀ probe ∈ hi.search id, probe.sum = probe.i + id) ↔
      id + hi.occupiedFrom hi.keys.length id < 2 ^ 31 := by
  rw [room.search_eq]
  exact probes_exact_iff room.cap (room.occupiedFrom_lt_cap (id + 0))

/-- An exact search probes one node after the other, up to the free one. -/
theorem HasRoom.search_shape
    (fits : id + hi.occupiedFrom hi.keys.length id < 2 ^ 31) :
    hi.search id =
        (List.range (hi.occupiedFrom hi.keys.length id + 1)).map
          (fun j => hi.probe id (j : Nat)) ∧
      hi.keyAt
          (hi.probe id (hi.occupiedFrom hi.keys.length id : Nat)).index =
        some (-1) := by
  have exact := room.exact_iff.mpr fits
  rw [room.search_eq] at exact ⊢
  have shape :=
    probes_shape room.cap (room.occupiedFrom_lt_cap (id + 0)) exact
  simpa only [Nat.zero_add, Nat.add_zero] using shape

/-- A search whose last sum is in range does what it should. -/
theorem HasRoom.right_of_fits
    (fits : id + hi.occupiedFrom hi.keys.length id < 2 ^ 31) :
    hi.SearchRight id := by
  obtain ⟨shape, last⟩ := room.search_shape fits
  have within : ∀ j ≤ hi.occupiedFrom hi.keys.length id, id + j < 2 ^ 31 := by
    intro j bound
    omega
  have positive : 0 < hi.keys.length :=
    Nat.zero_lt_of_lt (room.occupiedFrom_lt_cap id)
  constructor
  · exact room.exact_iff.mpr fits
  · intro probe member
    rw [shape, List.mem_map] at member
    obtain ⟨j, inside, rfl⟩ := member
    have bound := Nat.le_of_lt_succ (List.mem_range.mp inside)
    obtain ⟨-, index, -⟩ := probe_of_fits room.cap (within j bound)
    rw [index, room.cap]
    have inRange := Nat.mod_lt (id + j) positive
    omega
  · intro c inside
    rw [room.cap, Int.ofNat_lt] at inside
    obtain ⟨j, inRange, isProbe⟩ := exists_probe (Int.natCast_nonneg id) inside
    refine ⟨j, by rw [room.cap]; exact Int.ofNat_lt.mpr inRange, ?_⟩
    rw [shape]
    by_cases bound : j ≤ hi.occupiedFrom hi.keys.length id
    · left
      obtain ⟨-, index, -⟩ := probe_of_fits room.cap (within j bound)
      refine ⟨hi.probe id j, ?_, rfl, ?_⟩
      · exact List.mem_map.mpr
          ⟨j, List.mem_range.mpr (Nat.lt_succ_of_le bound), rfl⟩
      · rw [index, ← isProbe, Int.add_comm, ← Int.natCast_add]
        rfl
    · right
      refine ⟨_, List.mem_map.mpr ⟨_, List.self_mem_range_succ, rfl⟩, ?_, last⟩
      rw [probe_i]
      omega
  · refine ⟨_, ?_, last⟩
    rw [shape, List.range_succ, List.map_append, List.map_singleton,
      List.getLast?_concat]

end Search

/--
The search for a free node does what it should exactly when the id and the
occupied nodes it finds from `id % cap` on add up to less than `2 ^ 31`.
-/
theorem searchRight_iff
    {hi : Hashid}
    (room : hi.HasRoom)
    {id : Int}
    (nonneg : 0 ≤ id) :
    hi.SearchRight id ↔
      id + hi.occupiedFrom hi.keys.length id.toNat < 2 ^ 31 := by
  obtain ⟨n, rfl⟩ := Int.eq_ofNat_of_zero_le nonneg
  rw [Int.toNat_natCast]
  constructor
  · intro right
    have fits := room.exact_iff.mp right.exact
    omega
  · intro fits
    exact room.right_of_fits (by omega)

/-- A table of three nodes after the id 1 was inserted. -/
def oneTaken : Hashid where
  hashmod := 15
  cap := 3
  count := 1
  id :=
    [{ id := -1, next := none }, { id := 1, next := none },
      { id := -1, next := none }]
  hash := (List.replicate 16 none).set 1 (some 1)

/-- An id that meets the occupied node, 3 below the first whose sum overflows. -/
theorem oneTaken_searchRight :
    oneTaken.SearchRight (2 ^ 31 - 4) :=
  (searchRight_iff ⟨rfl, by decide⟩ (by decide)).mpr (by decide)

/--
The id `2 ^ 31 - 1` meets the node that the id 1 occupies: the second sum
overflows, and its remainder is -2.
-/
theorem oneTaken_not_searchRight :
    (init 3).insert 1 = .ok (-1, oneTaken) ∧
      oneTaken.HasRoom ∧
        { i := 1, sum := -2 ^ 31, index := -2 } ∈
            oneTaken.search (2 ^ 31 - 1) ∧
          ¬ oneTaken.SearchRight (2 ^ 31 - 1) := by
  have overflows :
      { i := 1, sum := -2 ^ 31, index := -2 } ∈
        oneTaken.search (2 ^ 31 - 1) := by
    decide
  refine ⟨rfl, ⟨rfl, by decide⟩, overflows, ?_⟩
  intro right
  have exact := right.exact _ overflows
  exact absurd exact (by decide)

end Hashid

end SkynetCpp
