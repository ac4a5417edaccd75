import Mathlib.Data.List.Nodup
import SkynetCpp.Foundation.Bits
import SkynetCpp.Foundation.Chains
import SkynetCpp.Foundation.Run
import SkynetCpp.GateTable

namespace SkynetCpp

open Foundation

/-!
# Runs of the hash of ids

`hashid.h` keeps its nodes in an array, finds a free one by linear probing, and
links the nodes of one bucket in a chain.  The arrays and chains do hold the map
from the live ids to the indices of their nodes over every history of calls; only
what the calls return is never an index.
-/

namespace Hashid

/-- The `next` pointer of a node. -/
def next
    (hi : Hashid)
    (c : Nat) : Option Nat :=
  (hi.id[c]?).bind HashidNode.next

/-- The loop of `hashid_init`, with the `int` that is doubled. -/
def hashcapLoopInt (max : Int) : Nat → Int → Option Int
  | 0, _ => none
  | turns + 1, hashcap =>
      if hashcap < max then
        hashcapLoopInt max turns (toInt32 (hashcap * 2))
      else
        some hashcap

/-- `hashid_init`, if its loop ends within the turns. -/
def initInt
    (turns : Nat)
    (max : Int) : Option Hashid :=
  (hashcapLoopInt max turns 16).map fun hashcap =>
    { hashmod := hashcap - 1
      cap := max
      count := 0
      id := List.replicate max.toNat { id := -1, next := none }
      hash := List.replicate hashcap.toNat none }

/-- No sum that the search for a free node computes exceeds an `int`. -/
def ProbesFit
    (hi : Hashid)
    (id : Int) : Prop :=
  ∀ i : Nat, i < hi.cap →
    (∀ j : Nat, j < i →
      hi.keys[(((j : Int) + id).tmod hi.cap).toNat]? ≠ some (-1)) →
      (i : Int) + id < 2 ^ 31

end Hashid

/-- A call on a hash of ids. -/
inductive HashidCall where
  | insert (id : Int)
  | lookup (id : Int)
  | remove (id : Int)
  deriving Repr, DecidableEq

/-- A hash of ids with the map from the live ids to their indices. -/
structure HashidRun where
  hi : Hashid
  index : Int → Option Nat

/--
A call that returns.  An id that is inserted is not negative and not live, and
the table is not full; its index is that of the node that is taken for it.
-/
inductive HashidRun.Step : HashidRun → HashidCall → HashidRun → Prop where
  | insert
      {t : HashidRun}
      {id answer : Int}
      {c : Nat}
      {hi : Hashid}
      (nonneg : 0 ≤ id)
      (distinct : t.index id = none)
      (notFull : t.hi.full = false)
      (fits : t.hi.ProbesFit id)
      (taken : t.hi.freeNode id t.hi.cap.toNat 0 = some c)
      (returned : t.hi.insert id = .ok (answer, hi)) :
      Step t (.insert id)
        { hi := hi
          index := Function.update t.index id (some c) }
  | lookup
      {t : HashidRun}
      {id answer : Int}
      (returned : t.hi.lookup id = .ok answer) :
      Step t (.lookup id) t
  | remove
      {t : HashidRun}
      {id answer : Int}
      {hi : Hashid}
      (returned : t.hi.remove id = .ok (answer, hi)) :
      Step t (.remove id)
        { hi := hi
          index := Function.update t.index id none }

/-- The hash holds the map: nodes, chains and count are those of the live ids. -/
structure HashidRun.Mirrors (t : HashidRun) : Prop where
  cap : t.hi.cap = t.hi.id.length
  slots : ∀ id, t.hi.slot id < t.hi.hash.length
  keys :
    ∀ id c, t.index id = some c ↔ 0 ≤ id ∧ t.hi.keys[c]? = some id
  nonneg : ∀ key ∈ t.hi.keys, key = -1 ∨ 0 ≤ key
  chains :
    ∃ nodes : Nat → List Nat,
      Chains t.hi.next t.hi.bucket nodes ∧
        ∀ h c, c ∈ nodes h ↔ ∃ id, t.index id = some c ∧ t.hi.slot id = h
  detached : ∀ c, t.hi.keys[c]? = some (-1) → t.hi.next c = none
  count : t.hi.count = t.hi.keys.countP (· ≠ -1)

/-- What a lookup of an id should answer. -/
def HashidRun.answer
    (t : HashidRun)
    (id : Int) : Int :=
  match t.index id with
  | some c => c
  | none => -1

/--
A call returns what it should: an insertion the index of a node that was free
and now has the id, a lookup and a removal the index of the id or -1.
-/
def HashidRun.Right (t : HashidRun) : HashidCall → Prop
  | .insert id =>
      ∃ answer hi,
        t.hi.insert id = .ok (answer, hi) ∧
          0 ≤ answer ∧
          (∀ other, t.index other ≠ some answer.toNat) ∧
          hi.keys[answer.toNat]? = some id
  | .lookup id => t.hi.lookup id = .ok (t.answer id)
  | .remove id =>
      ∃ hi,
        t.hi.remove id = .ok (t.answer id, hi) ∧
          (t.index id = none → hi = t.hi) ∧
          (∀ c, t.index id = some c → hi.keys[c]? = some (-1))

/-- The call looks up or removes an id that is not live. -/
def HashidRun.NotLive (t : HashidRun) : HashidCall → Prop
  | .insert _ => False
  | .lookup id | .remove id => t.index id = none

/-- The live ids have different indices, all of them inside the table. -/
structure HashidRun.Injective
    (t : HashidRun)
    (max : Nat) : Prop where
  inside : ∀ id c, t.index id = some c → 0 ≤ id ∧ c < max
  injective :
    ∀ id other c, t.index id = some c → t.index other = some c → id = other
  full :
    t.hi.full = true ↔ ∀ c, c < max → ∃ id, t.index id = some c

section Map

variable
    {index : Int → Option Nat}
    {keys : List Int}
    {slot : Int → Nat}
    {nodes : Nat → List Nat}
    {id : Int}
    {c : Nat}

/-- Two ids have different nodes. -/
theorem eq_of_keys
    (known : ∀ id c, index id = some c ↔ 0 ≤ id ∧ keys[c]? = some id)
    {other : Int}
    (live : index id = some c)
    (otherLive : index other = some c) :
    other = id := by
  have hasKey := ((known id c).mp live).2
  have otherKey := ((known other c).mp otherLive).2
  rw [hasKey, Option.some.injEq] at otherKey
  exact otherKey.symm

/-- The ids are in their nodes when one more is put into a free node. -/
theorem keys_insert
    (known : ∀ id c, index id = some c ↔ 0 ≤ id ∧ keys[c]? = some id)
    (nonneg : 0 ≤ id)
    (distinct : index id = none)
    (isFree : keys[c]? = some (-1))
    (other : Int)
    (d : Nat) :
    Function.update index id (some c) other = some d ↔
      0 ≤ other ∧ (keys.set c id)[d]? = some other := by
  have inKeys : c < keys.length :=
    (List.getElem?_eq_some_iff.mp isFree).1
  by_cases sameId : other = id
  · subst sameId
    rw [Function.update_self]
    constructor
    · intro isC
      injection isC with isC
      subst isC
      exact ⟨nonneg, List.getElem?_set_self inKeys⟩
    · rintro ⟨_, hasKey⟩
      by_cases sameNode : d = c
      · rw [sameNode]
      · rw [List.getElem?_set_ne (Ne.symm sameNode)] at hasKey
        have live := (known other d).mpr ⟨nonneg, hasKey⟩
        rw [distinct] at live
        cases live
  · rw [Function.update_of_ne sameId, known]
    by_cases sameNode : d = c
    · subst sameNode
      rw [List.getElem?_set_self inKeys, isFree]
      constructor
      · rintro ⟨otherNonneg, isKey⟩
        injection isKey with isKey
        omega
      · rintro ⟨_, isKey⟩
        injection isKey with isKey
        exact absurd isKey.symm sameId
    · rw [List.getElem?_set_ne (Ne.symm sameNode)]

/-- The other ids are in their nodes when the node of one is freed. -/
theorem keys_clear
    (known : ∀ id c, index id = some c ↔ 0 ≤ id ∧ keys[c]? = some id)
    (live : index id = some c)
    (other : Int)
    (d : Nat) :
    Function.update index id none other = some d ↔
      0 ≤ other ∧ (keys.set c (-1))[d]? = some other := by
  have inKeys : c < keys.length :=
    (List.getElem?_eq_some_iff.mp ((known id c).mp live).2).1
  by_cases sameNode : d = c
  · subst sameNode
    rw [List.getElem?_set_self inKeys]
    constructor
    · intro otherLive
      by_cases sameId : other = id
      · rw [sameId, Function.update_self] at otherLive
        cases otherLive
      · rw [Function.update_of_ne sameId] at otherLive
        exact absurd (eq_of_keys known live otherLive) sameId
    · rintro ⟨otherNonneg, isKey⟩
      injection isKey with isKey
      omega
  · rw [List.getElem?_set_ne (Ne.symm sameNode), ← known]
    by_cases sameId : other = id
    · subst sameId
      rw [Function.update_self, live, Option.some.injEq]
      exact ⟨nofun, fun isC => absurd isC.symm sameNode⟩
    · rw [Function.update_of_ne sameId]

/-- The chains list the live ids when one more is in front of its chain. -/
theorem listed_insert
    (listed : ∀ h c, c ∈ nodes h ↔ ∃ id, index id = some c ∧ slot id = h)
    (distinct : index id = none)
    (c h d : Nat) :
    d ∈ Function.update nodes (slot id) (c :: nodes (slot id)) h ↔
      ∃ live, Function.update index id (some c) live = some d ∧
        slot live = h := by
  have later :
      d ∈ nodes h ↔
        ∃ live, live ≠ id ∧ index live = some d ∧ slot live = h := by
    rw [listed]
    refine exists_congr fun live => (and_iff_right_of_imp ?_).symm
    rintro ⟨isLive, _⟩ rfl
    rw [distinct] at isLive
    cases isLive
  have split :
      (∃ live, Function.update index id (some c) live = some d ∧
          slot live = h) ↔
        (d = c ∧ slot id = h) ∨ d ∈ nodes h := by
    rw [later]
    constructor
    · rintro ⟨live, isLive, isSlot⟩
      by_cases same : live = id
      · subst same
        rw [Function.update_self, Option.some.injEq] at isLive
        exact Or.inl ⟨isLive.symm, isSlot⟩
      · rw [Function.update_of_ne same] at isLive
        exact Or.inr ⟨live, same, isLive, isSlot⟩
    · rintro (⟨isC, isSlot⟩ | ⟨live, different, isLive, isSlot⟩)
      · exact ⟨id, by rw [Function.update_self, isC], isSlot⟩
      · exact ⟨live, by rw [Function.update_of_ne different, isLive], isSlot⟩
  rw [split]
  by_cases sameSlot : h = slot id
  · subst sameSlot
    rw [Function.update_self, List.mem_cons]
    exact or_congr_left (and_iff_left rfl).symm
  · rw [Function.update_of_ne sameSlot]
    exact (or_iff_right fun new => sameSlot new.2.symm).symm

/-- The chains without the node of an id list the other ids. -/
theorem listed_clear
    (known : ∀ id c, index id = some c ↔ 0 ≤ id ∧ keys[c]? = some id)
    (listed : ∀ h c, c ∈ nodes h ↔ ∃ id, index id = some c ∧ slot id = h)
    (live : index id = some c)
    (h d : Nat) :
    d ∈ nodes h ∧ d ≠ c ↔
      ∃ other, Function.update index id none other = some d ∧
        slot other = h := by
  rw [listed]
  constructor
  · rintro ⟨⟨other, otherLive, isSlot⟩, notRemoved⟩
    have notId : other ≠ id := by
      rintro rfl
      rw [live, Option.some.injEq] at otherLive
      exact notRemoved otherLive.symm
    exact ⟨other, by rw [Function.update_of_ne notId, otherLive], isSlot⟩
  · rintro ⟨other, otherLive, isSlot⟩
    by_cases sameId : other = id
    · rw [sameId, Function.update_self] at otherLive
      cases otherLive
    · rw [Function.update_of_ne sameId] at otherLive
      refine ⟨⟨other, otherLive, isSlot⟩, ?_⟩
      rintro rfl
      exact sameId (eq_of_keys known live otherLive)

end Map

section Search

variable
    {hi : Hashid}
    {id : Int}

/-- In range, a turn tests the node that the remainder of its exact sum names. -/
theorem keyAt_probe
    {i : Int}
    (nonneg : 0 ≤ i + id)
    (fits : i + id < 2 ^ 31) :
    hi.keyAt (hi.probe id i).index =
      hi.keys[((i + id).tmod hi.cap).toNat]? := by
  have exact : (hi.probe id i).sum = i + id :=
    toInt32_of_bounds (by omega) (by omega)
  rw [Hashid.keyAt, Hashid.probe_index, exact, if_pos]
  exact Int.tmod_nonneg _ nonneg

/-- The search takes the first free node. -/
theorem freeNode_cases
    (hi : Hashid)
    (id : Int)
    (turns : Nat)
    (i : Int) :
    (∃ c, hi.freeNode id turns i = some c ∧ hi.keys[c]? = some (-1)) ∨
      hi.freeNode id turns i = none ∧
        ∀ j : Nat, j < turns →
          hi.keyAt (hi.probe id (i + j)).index ≠ some (-1) := by
  induction turns generalizing i with
  | zero =>
      exact Or.inr ⟨rfl, nofun⟩
  | succ turns inductionHypothesis =>
      unfold Hashid.freeNode
      by_cases isFree : hi.keyAt (hi.probe id i).index = some (-1)
      · rw [if_pos isFree]
        refine Or.inl ⟨_, rfl, ?_⟩
        unfold Hashid.keyAt at isFree
        split at isFree
        · exact isFree
        · cases isFree
      · rw [if_neg isFree]
        rcases inductionHypothesis (i + 1) with found | ⟨notFound, noneFree⟩
        · exact Or.inl found
        · refine Or.inr ⟨notFound, fun j inside => ?_⟩
          cases j with
          | zero =>
              rw [Int.natCast_zero, Int.add_zero]
              exact isFree
          | succ j =>
              have isSame : i + ((j + 1 : Nat) : Int) = i + 1 + j := by
                omega
              rw [isSame]
              exact noneFree j (by omega)

/-- A search that finds nothing has tested one node after the other. -/
theorem not_free_of_noneFree
    (nonneg : 0 ≤ id)
    (fits : hi.ProbesFit id)
    {turns : Nat}
    (within : (turns : Int) ≤ hi.cap)
    (noneFree :
      ∀ j : Nat, j < turns →
        hi.keyAt (hi.probe id ((0 : Int) + j)).index ≠ some (-1)) :
    ∀ j : Nat, j < turns →
      hi.keys[(((j : Int) + id).tmod hi.cap).toNat]? ≠ some (-1) := by
  intro j
  induction j using Nat.strong_induction_on with
  | _ j inductionHypothesis =>
      intro inside
      have inRange : (j : Int) + id < 2 ^ 31 := by
        refine fits j (by omega) fun k before => ?_
        exact inductionHypothesis k before (by omega)
      rw [← keyAt_probe (by omega) inRange, ← Int.zero_add (j : Int)]
      exact noneFree j inside

/-- Every index is tried by a search over as many turns as there are nodes. -/
theorem exists_probe
    (nonneg : 0 ≤ id)
    {cap c : Nat}
    (inside : c < cap) :
    ∃ j : Nat, j < cap ∧ (((j : Int) + id).tmod cap).toNat = c := by
  have positive : (0 : Int) < cap := by omega
  have lower := Int.emod_nonneg ((c : Int) - id) positive.ne'
  have upper := Int.emod_lt_of_pos ((c : Int) - id) positive
  refine ⟨(((c : Int) - id) % cap).toNat, by omega, ?_⟩
  rw [Int.toNat_of_nonneg lower,
    Int.tmod_eq_emod_of_nonneg (by omega), Int.emod_add_emod,
    Int.sub_add_cancel, Int.emod_eq_of_lt (by omega) (by omega),
    Int.toNat_natCast]

end Search

section Writes

variable
    (hi : Hashid)
    {c h : Nat}

theorem Hashid.keys_length :
    hi.keys.length = hi.id.length :=
  List.length_map ..

/-- A written node has its new pointer. -/
theorem Hashid.next_set
    (inside : c < hi.id.length)
    (node : HashidNode) :
    ({ hi with id := hi.id.set c node } : Hashid).next =
      Function.update hi.next c node.next := by
  funext other
  by_cases same : other = c
  · subst same
    simp [Hashid.next, List.getElem?_set_self inside]
  · simp [Hashid.next, List.getElem?_set_ne (Ne.symm same),
      Function.update_of_ne same]

/-- A written node has its new id. -/
theorem Hashid.keys_set
    (node : HashidNode) :
    ({ hi with id := hi.id.set c node } : Hashid).keys =
      hi.keys.set c node.id :=
  List.map_set ..

/-- A written bucket has its new head. -/
theorem Hashid.bucket_set
    (inside : h < hi.hash.length)
    (head : Option Nat) :
    ({ hi with hash := hi.hash.set h head } : Hashid).bucket =
      Function.update hi.bucket h head := by
  funext other
  by_cases same : other = h
  · subst same
    simp [Hashid.bucket, List.getElem?_set_self inside]
  · simp [Hashid.bucket, List.getElem?_set_ne (Ne.symm same),
      Function.update_of_ne same]

end Writes

namespace HashidRun

variable {t : HashidRun}

/-- A node with a key is a node of the table. -/
theorem Mirrors.inside
    {c : Nat}
    {key : Int}
    (hasKey : t.hi.keys[c]? = some key) :
    c < t.hi.id.length := by
  rw [← t.hi.keys_length]
  exact (List.getElem?_eq_some_iff.mp hasKey).1

/-- A node is free or holds a live id. -/
theorem Mirrors.free_or_live
    (mirrors : t.Mirrors)
    {c : Nat}
    (inside : c < t.hi.id.length) :
    t.hi.keys[c]? = some (-1) ∨ ∃ id, t.index id = some c := by
  have inKeys : c < t.hi.keys.length := by
    rwa [t.hi.keys_length]
  have hasKey := List.getElem?_eq_getElem inKeys
  rcases mirrors.nonneg _ (List.getElem_mem inKeys) with isFree | nonneg
  · exact Or.inl (hasKey.trans (congrArg some isFree))
  · exact Or.inr ⟨_, (mirrors.keys _ c).mpr ⟨nonneg, hasKey⟩⟩

/-- No live id has a free node. -/
theorem Mirrors.not_live_of_free
    (mirrors : t.Mirrors)
    {c : Nat}
    (isFree : t.hi.keys[c]? = some (-1))
    (id : Int) :
    t.index id ≠ some c := by
  intro live
  obtain ⟨nonneg, hasKey⟩ := (mirrors.keys id c).mp live
  rw [isFree] at hasKey
  injection hasKey with isKey
  omega

/-- A free node is in no chain. -/
theorem Mirrors.unowned_of_free
    (mirrors : t.Mirrors)
    {nodes : Nat → List Nat}
    (listed :
      ∀ h c, c ∈ nodes h ↔ ∃ id, t.index id = some c ∧ t.hi.slot id = h)
    {c : Nat}
    (isFree : t.hi.keys[c]? = some (-1)) :
    Unowned nodes c := by
  intro h member
  obtain ⟨id, live, _⟩ := (listed h c).mp member
  exact mirrors.not_live_of_free isFree id live

/-- The table is full exactly when every node holds a live id. -/
theorem Mirrors.full_iff
    (mirrors : t.Mirrors) :
    t.hi.full = true ↔ ∀ c, c < t.hi.id.length → ∃ id, t.index id = some c := by
  rw [Hashid.full, decide_eq_true_eq, mirrors.count, mirrors.cap,
    ← t.hi.keys_length, Int.natCast_inj, List.countP_eq_length]
  constructor
  · intro noneFree c inside
    rw [t.hi.keys_length] at inside
    refine (mirrors.free_or_live inside).resolve_left fun isFree => ?_
    simpa using noneFree (-1) (List.mem_of_getElem? isFree)
  · intro allLive key member
    obtain ⟨c, inside, isKey⟩ := List.getElem_of_mem member
    obtain ⟨id, live⟩ := allLive c inside
    obtain ⟨nonneg, hasKey⟩ := (mirrors.keys id c).mp live
    rw [List.getElem?_eq_getElem inside, isKey, Option.some.injEq] at hasKey
    simp only [ne_eq, decide_not, Bool.not_eq_true', decide_eq_false_iff_not]
    omega

theorem Mirrors.isInjective
    (mirrors : t.Mirrors) :
    t.Injective t.hi.id.length where
  inside := by
    intro id c live
    obtain ⟨nonneg, hasKey⟩ := (mirrors.keys id c).mp live
    exact ⟨nonneg, Mirrors.inside hasKey⟩
  injective := by
    intro id other c live otherLive
    exact eq_of_keys mirrors.keys otherLive live
  full := mirrors.full_iff

/-- The search of a table that is not full comes to a free node. -/
theorem Mirrors.exists_freeNode
    (mirrors : t.Mirrors)
    {id : Int}
    (nonneg : 0 ≤ id)
    (notFull : t.hi.full = false)
    (fits : t.hi.ProbesFit id) :
    ∃ c,
      t.hi.freeNode id t.hi.cap.toNat 0 = some c ∧
        t.hi.keys[c]? = some (-1) := by
  rcases freeNode_cases t.hi id t.hi.cap.toNat 0 with
    found | ⟨_, noneFree⟩
  · exact found
  · have isFull : t.hi.full = true := by
      refine mirrors.full_iff.mpr fun c inside => ?_
      refine (mirrors.free_or_live inside).resolve_left fun isFree => ?_
      obtain ⟨j, inRange, isProbe⟩ := exists_probe nonneg inside
      rw [mirrors.cap, Int.toNat_natCast] at noneFree
      refine
        not_free_of_noneFree nonneg fits mirrors.cap.ge noneFree j inRange ?_
      rw [mirrors.cap, isProbe]
      exact isFree
    rw [isFull] at notFull
    cases notFull

/-- An insertion into a table that is not full puts the id into a free node. -/
theorem Mirrors.insert
    (mirrors : t.Mirrors)
    {id : Int}
    (nonneg : 0 ≤ id)
    (distinct : t.index id = none)
    (notFull : t.hi.full = false)
    (fits : t.hi.ProbesFit id) :
    ∃ c hi,
      t.hi.freeNode id t.hi.cap.toNat 0 = some c ∧
        t.hi.insert id = .ok (-1, hi) ∧
        Mirrors { hi := hi, index := Function.update t.index id (some c) } := by
  obtain ⟨c, isTaken, isFree⟩ := mirrors.exists_freeNode nonneg notFull fits
  obtain ⟨nodes, chains, listed⟩ := mirrors.chains
  have inside := Mirrors.inside isFree
  have inKeys : c < t.hi.keys.length := by
    rwa [t.hi.keys_length]
  have noNext := mirrors.detached c isFree
  have unowned := mirrors.unowned_of_free listed isFree
  have inHash := mirrors.slots id
  let h := t.hi.slot id
  let node : HashidNode := { id := id, next := t.hi.bucket h }
  let hi : Hashid :=
    { t.hi with
      count := t.hi.count + 1
      id := t.hi.id.set c node
      hash := t.hi.hash.set h (some c) }
  have isNext : hi.next = Function.update t.hi.next c (t.hi.bucket h) :=
    t.hi.next_set inside node
  have isBucket : hi.bucket = Function.update t.hi.bucket h (some c) :=
    t.hi.bucket_set inHash (some c)
  have isKeys : hi.keys = t.hi.keys.set c id := t.hi.keys_set node
  refine ⟨c, hi, isTaken, ?_, ?_⟩
  · rw [Hashid.insert, isTaken]
    exact if_pos noNext
  · constructor
    · change t.hi.cap = (t.hi.id.set c node).length
      rw [List.length_set]
      exact mirrors.cap
    · intro other
      change t.hi.slot other < (t.hi.hash.set h (some c)).length
      rw [List.length_set]
      exact mirrors.slots other
    · rw [isKeys]
      exact keys_insert mirrors.keys nonneg distinct isFree
    · intro key member
      rw [isKeys] at member
      rcases List.mem_or_eq_of_mem_set member with kept | isNew
      · exact mirrors.nonneg key kept
      · exact Or.inr (isNew ▸ nonneg)
    · refine ⟨Function.update nodes h (c :: nodes h), ?_, ?_⟩
      · rw [isNext, isBucket]
        exact
          (chains.update_next unowned (t.hi.bucket h)).pushFront unowned
            (Function.update_self ..)
      · exact listed_insert listed distinct c
    · intro d free
      change hi.keys[d]? = some (-1) at free
      change hi.next d = none
      have different : d ≠ c := by
        rintro rfl
        rw [isKeys, List.getElem?_set_self inKeys, Option.some.injEq] at free
        omega
      rw [isKeys, List.getElem?_set_ne (Ne.symm different)] at free
      rw [isNext, Function.update_of_ne different]
      exact mirrors.detached d free
    · change t.hi.count + 1 = (hi.keys.countP (· ≠ -1) : Nat)
      have isKey : t.hi.keys[c] = -1 := by
        rw [List.getElem?_eq_getElem inKeys] at isFree
        exact Option.some.inj isFree
      have isLive : id ≠ -1 := by omega
      rw [isKeys, List.countP_set inKeys, isKey, mirrors.count]
      simp [isLive]

/-- The nodes of a chain are nodes of the table, and not too many. -/
theorem Mirrors.chain_inside
    (mirrors : t.Mirrors)
    {nodes : Nat → List Nat}
    (chains : Chains t.hi.next t.hi.bucket nodes)
    (listed :
      ∀ h c, c ∈ nodes h ↔ ∃ id, t.index id = some c ∧ t.hi.slot id = h)
    (h : Nat) :
    (∀ c ∈ nodes h, c < t.hi.id.length) ∧
      (nodes h).length ≤ t.hi.id.length := by
  have inside : ∀ c ∈ nodes h, c < t.hi.id.length := by
    intro c member
    obtain ⟨id, live, _⟩ := (listed h c).mp member
    exact Mirrors.inside ((mirrors.keys id c).mp live).2
  have inRange : nodes h ⊆ List.range t.hi.id.length := by
    intro c member
    exact List.mem_range.mpr (inside c member)
  have short :=
    List.Nodup.length_le_of_subset (chains.noDuplicates h) inRange
  rw [List.length_range] at short
  exact ⟨inside, short⟩

/-- The loop of a lookup runs to the end of its chain. -/
theorem lookupLoop_of_chain
    {hi : Hashid}
    {start : Option Nat}
    {nodes : List Nat}
    {turns : Nat}
    (chain : Chain hi.next start nodes)
    (inside : ∀ c ∈ nodes, c < hi.id.length)
    (enough : nodes.length ≤ turns) :
    hi.lookupLoop turns start = .ok (-1) := by
  induction nodes generalizing start turns with
  | nil =>
      have isNull : start = none := chain
      subst isNull
      cases turns <;> rfl
  | cons c rest inductionHypothesis =>
      obtain ⟨startsHere, later⟩ := chain
      subst startsHere
      obtain ⟨isInside, restInside⟩ := List.forall_mem_cons.mp inside
      cases turns with
      | zero =>
          cases enough
      | succ turns =>
          rw [List.length_cons, Nat.add_le_add_iff_right] at enough
          have isNext : hi.next c = (hi.id[c]).next := by
            rw [Hashid.next, List.getElem?_eq_getElem isInside]
            rfl
          rw [isNext] at later
          unfold Hashid.lookupLoop
          rw [List.getElem?_eq_getElem isInside]
          exact inductionHypothesis later restInside enough

/-- A lookup answers -1, whatever the id. -/
theorem Mirrors.lookup
    (mirrors : t.Mirrors)
    (id : Int) :
    t.hi.lookup id = .ok (-1) := by
  obtain ⟨nodes, chains, listed⟩ := mirrors.chains
  obtain ⟨inside, short⟩ :=
    mirrors.chain_inside chains listed (t.hi.slot id)
  exact lookupLoop_of_chain (chains.chain _) inside short

/--
A node was taken out of its chain and not cleared yet: its pointer may have
changed, and those of the nodes that were in a chain.
-/
structure Unlinked
    (hi unlinked : Hashid)
    (nodes : Nat → List Nat)
    (removed : Nat) : Prop where
  hashmod : unlinked.hashmod = hi.hashmod
  cap : unlinked.cap = hi.cap
  count : unlinked.count = hi.count
  buckets : unlinked.hash.length = hi.hash.length
  keys : unlinked.keys = hi.keys
  kept : ∀ c, Unowned nodes c → unlinked.next c = hi.next c
  chains :
    ∃ nodes',
      Chains unlinked.next unlinked.bucket nodes' ∧
        ∀ h c, c ∈ nodes' h ↔ c ∈ nodes h ∧ c ≠ removed

/-- Without one node of its list, a bucket has all its other nodes. -/
theorem mem_without
    {hi : Hashid}
    {nodes : Nat → List Nat}
    (chains : Chains hi.next hi.bucket nodes)
    {h removed : Nat}
    {earlier rest : List Nat}
    (isList : nodes h = earlier ++ removed :: rest)
    (other d : Nat) :
    d ∈ Function.update nodes h (earlier ++ rest) other ↔
      d ∈ nodes other ∧ d ≠ removed := by
  have noDuplicates := chains.noDuplicates h
  rw [isList, List.nodup_middle, List.nodup_cons] at noDuplicates
  by_cases same : other = h
  · subst same
    rw [Function.update_self, isList]
    constructor
    · intro member
      refine ⟨?_, fun isRemoved => noDuplicates.1 (isRemoved ▸ member)⟩
      rw [List.mem_append] at member
      rw [List.mem_append, List.mem_cons]
      exact member.imp_right Or.inr
    · rintro ⟨member, notRemoved⟩
      rw [List.mem_append, List.mem_cons] at member
      rw [List.mem_append]
      exact member.imp_right fun later => later.resolve_left notRemoved
  · rw [Function.update_of_ne same]
    refine (and_iff_left_of_imp fun member => ?_).symm
    rintro rfl
    exact same (chains.apart member (by rw [isList]; simp))

/-- Passing over a node takes it out of its chain. -/
theorem unlinked_of_passed
    {hi : Hashid}
    {nodes : Nat → List Nat}
    (chains : Chains hi.next hi.bucket nodes)
    {h c removed : Nat}
    {earlier rest : List Nat}
    (isList : nodes h = earlier ++ c :: removed :: rest)
    (inside : c < hi.id.length) :
    Unlinked hi
      { hi with id := hi.id.set c { hi.id[c] with next := hi.next removed } }
      nodes removed := by
  have isNext :=
    hi.next_set inside { hi.id[c] with next := hi.next removed }
  constructor
  · rfl
  · rfl
  · rfl
  · rfl
  · rw [hi.keys_set]
    have isKey : hi.keys[c]? = some hi.id[c].id := by
      rw [Hashid.keys, List.getElem?_map, List.getElem?_eq_getElem inside]
      rfl
    obtain ⟨inKeys, isGet⟩ := List.getElem?_eq_some_iff.mp isKey
    change hi.keys.set c hi.id[c].id = hi.keys
    rw [← isGet, List.set_getElem_self]
  · intro d unowned
    have different : d ≠ c := by
      rintro rfl
      exact unowned h (by rw [isList]; simp)
    rw [isNext, Function.update_of_ne different]
  · refine ⟨Function.update nodes h (earlier ++ c :: rest), ?_, ?_⟩
    · rw [isNext]
      exact chains.unlink isList
    · intro other d
      have shifted : nodes h = (earlier ++ [c]) ++ removed :: rest := by
        rw [isList, List.append_assoc]
        rfl
      have without := mem_without chains shifted other d
      rwa [List.append_assoc] at without

/-- Advancing the head takes the first node out of its chain. -/
theorem unlinked_of_first
    {hi : Hashid}
    {nodes : Nat → List Nat}
    (chains : Chains hi.next hi.bucket nodes)
    {h removed : Nat}
    {rest : List Nat}
    (isList : nodes h = removed :: rest)
    (inHash : h < hi.hash.length) :
    Unlinked hi { hi with hash := hi.hash.set h (hi.next removed) } nodes
      removed := by
  constructor
  · rfl
  · rfl
  · rfl
  · exact List.length_set
  · rfl
  · exact fun _ _ => rfl
  · refine ⟨Function.update nodes h rest, ?_, fun other d => ?_⟩
    · rw [hi.bucket_set inHash]
      exact chains.detach isList
    · have isWhole : nodes h = [] ++ removed :: rest := isList
      exact mem_without chains isWhole other d

/-- Clearing a node that was taken out of its chain forgets its id. -/
theorem Mirrors.clearNode
    (mirrors : t.Mirrors)
    {unlinked : Hashid}
    {nodes : Nat → List Nat}
    (listed :
      ∀ h c, c ∈ nodes h ↔ ∃ id, t.index id = some c ∧ t.hi.slot id = h)
    {id : Int}
    {c : Nat}
    (live : t.index id = some c)
    (isUnlinked : Unlinked t.hi unlinked nodes c) :
    Mirrors
      { hi := unlinked.clearNode c
        index := Function.update t.index id none } := by
  obtain ⟨nonneg, hasKey⟩ := (mirrors.keys id c).mp live
  have inKeys : c < t.hi.keys.length :=
    (List.getElem?_eq_some_iff.mp hasKey).1
  have sameLength : unlinked.id.length = t.hi.id.length := by
    rw [← unlinked.keys_length, isUnlinked.keys, t.hi.keys_length]
  have inside : c < unlinked.id.length := by
    rw [sameLength]
    exact Mirrors.inside hasKey
  have isNext :
      (unlinked.clearNode c).next = Function.update unlinked.next c none :=
    unlinked.next_set inside { id := -1, next := none }
  have isKeys : (unlinked.clearNode c).keys = t.hi.keys.set c (-1) := by
    rw [← isUnlinked.keys]
    exact unlinked.keys_set { id := -1, next := none }
  have sameSlot : ∀ other, (unlinked.clearNode c).slot other = t.hi.slot other := by
    intro other
    change (UInt32.ofInt other &&& UInt32.ofInt unlinked.hashmod).toNat = _
    rw [isUnlinked.hashmod]
    rfl
  constructor
  · change unlinked.cap = (unlinked.id.set c _).length
    rw [List.length_set, sameLength, isUnlinked.cap]
    exact mirrors.cap
  · intro other
    rw [sameSlot]
    change _ < unlinked.hash.length
    rw [isUnlinked.buckets]
    exact mirrors.slots other
  · rw [isKeys]
    exact keys_clear mirrors.keys live
  · intro key member
    rw [isKeys] at member
    rcases List.mem_or_eq_of_mem_set member with kept | isFree
    · exact mirrors.nonneg key kept
    · exact Or.inl isFree
  · obtain ⟨nodes', chains, listed'⟩ := isUnlinked.chains
    refine ⟨nodes', ?_, ?_⟩
    · rw [isNext]
      exact
        chains.update_next (fun h member => ((listed' h c).mp member).2 rfl) none
    · intro h d
      rw [listed', listed_clear mirrors.keys listed live]
      simp only [sameSlot]
  · intro d free
    change (unlinked.clearNode c).keys[d]? = some (-1) at free
    change (unlinked.clearNode c).next d = none
    rw [isNext]
    by_cases sameNode : d = c
    · rw [sameNode, Function.update_self]
    · rw [isKeys, List.getElem?_set_ne (Ne.symm sameNode)] at free
      rw [Function.update_of_ne sameNode,
        isUnlinked.kept d (mirrors.unowned_of_free listed free)]
      exact mirrors.detached d free
  · change unlinked.count - 1 =
      (((unlinked.clearNode c).keys.countP (· ≠ -1) : Nat) : Int)
    have isKey : t.hi.keys[c] = id := by
      rw [List.getElem?_eq_getElem inKeys] at hasKey
      exact Option.some.inj hasKey
    have isLive : id ≠ -1 := by omega
    have counted : 0 < t.hi.keys.countP (· ≠ -1) :=
      List.countP_pos_iff.mpr
        ⟨id, isKey ▸ List.getElem_mem inKeys, by simpa using isLive⟩
    rw [isUnlinked.count, isKeys, List.countP_set inKeys, isKey, mirrors.count,
      if_pos (decide_eq_true isLive), if_neg (by decide)]
    omega

/-- What a removal does: it clears the node of the id, or there is none. -/
inductive Removed
    (hi : Hashid)
    (id : Int)
    (nodes : Nat → List Nat)
    (h : Nat) : Except Fault (Int × Hashid) → Prop where
  | cleared
      {unlinked : Hashid}
      {c : Nat}
      (member : c ∈ nodes h)
      (hasKey : hi.keys[c]? = some id)
      (isUnlinked : Unlinked hi unlinked nodes c) :
      Removed hi id nodes h (.ok (-1, unlinked.clearNode c))
  | missing
      (noKey : ∀ c ∈ nodes h, hi.keys[c]? ≠ some id) :
      Removed hi id nodes h (.ok (-1, hi))

/-- The loop of a removal behind a node of another id. -/
theorem removeLoop_of_chain
    {hi : Hashid}
    {id : Int}
    {nodes : Nat → List Nat}
    {h : Nat}
    (chains : Chains hi.next hi.bucket nodes)
    (inside : ∀ c ∈ nodes h, c < hi.id.length)
    {c turns : Nat}
    {earlier rest : List Nat}
    (isList : nodes h = earlier ++ c :: rest)
    (isChain : Chain hi.next (hi.next c) rest)
    (noKey : ∀ d ∈ earlier ++ [c], hi.keys[d]? ≠ some id)
    (enough : rest.length < turns) :
    Removed hi id nodes h (hi.removeLoop id turns c) := by
  induction rest generalizing c turns earlier with
  | nil =>
      have isInside : c < hi.id.length := inside c (by rw [isList]; simp)
      have isNext : hi.next c = (hi.id[c]).next := by
        rw [Hashid.next, List.getElem?_eq_getElem isInside]
        rfl
      have isNull : (hi.id[c]).next = none := isNext.symm.trans isChain
      obtain ⟨turns, rfl⟩ := Nat.exists_eq_add_of_lt enough
      rw [List.length_nil, Nat.zero_add, Hashid.removeLoop,
        List.getElem?_eq_getElem isInside]
      simp only [isNull]
      exact .missing (by rwa [isList])
  | cons temp rest inductionHypothesis =>
      have isInside : c < hi.id.length := inside c (by rw [isList]; simp)
      have tempInside : temp < hi.id.length :=
        inside temp (by rw [isList]; simp)
      have isNext : hi.next c = (hi.id[c]).next := by
        rw [Hashid.next, List.getElem?_eq_getElem isInside]
        rfl
      have tempNext : hi.next temp = (hi.id[temp]).next := by
        rw [Hashid.next, List.getElem?_eq_getElem tempInside]
        rfl
      have tempKey : hi.keys[temp]? = some (hi.id[temp]).id := by
        rw [Hashid.keys, List.getElem?_map,
          List.getElem?_eq_getElem tempInside]
        rfl
      obtain ⟨isTemp, later⟩ := isChain
      have points : (hi.id[c]).next = some temp := isNext.symm.trans isTemp
      obtain ⟨turns, rfl⟩ :=
        Nat.exists_eq_succ_of_ne_zero (Nat.ne_of_gt (Nat.zero_lt_of_lt enough))
      rw [Hashid.removeLoop, List.getElem?_eq_getElem isInside]
      simp only [points, List.getElem?_eq_getElem tempInside]
      by_cases isId : (hi.id[temp]).id = id
      · rw [if_pos isId, ← tempNext]
        exact
          .cleared (by rw [isList]; simp) (tempKey.trans (congrArg some isId))
            (unlinked_of_passed chains isList isInside)
      · rw [if_neg isId]
        have shifted : nodes h = (earlier ++ [c]) ++ temp :: rest := by
          rw [isList, List.append_assoc]
          rfl
        refine inductionHypothesis shifted later ?_ (by
          rw [List.length_cons] at enough
          omega)
        intro d member
        rw [List.mem_append, List.mem_singleton] at member
        rcases member with isEarlier | isLast
        · exact noKey d isEarlier
        · rw [isLast, tempKey]
          exact fun same => isId (Option.some.inj same)

/-- A removal goes through the chain of the id's bucket. -/
theorem Mirrors.removed
    (mirrors : t.Mirrors)
    {nodes : Nat → List Nat}
    (chains : Chains t.hi.next t.hi.bucket nodes)
    (listed :
      ∀ h c, c ∈ nodes h ↔ ∃ id, t.index id = some c ∧ t.hi.slot id = h)
    (id : Int) :
    Removed t.hi id nodes (t.hi.slot id) (t.hi.remove id) := by
  obtain ⟨inside, short⟩ :=
    mirrors.chain_inside chains listed (t.hi.slot id)
  have chain := chains.chain (t.hi.slot id)
  unfold Hashid.remove
  cases isList : nodes (t.hi.slot id) with
  | nil =>
      rw [isList] at chain
      have isNull : t.hi.bucket (t.hi.slot id) = none := chain
      simp only [isNull]
      exact .missing (by rw [isList]; exact nofun)
  | cons c rest =>
      rw [isList] at chain
      obtain ⟨isFirst, later⟩ := chain
      have isInside : c < t.hi.id.length := inside c (by rw [isList]; simp)
      have isNext : t.hi.next c = (t.hi.id[c]).next := by
        rw [Hashid.next, List.getElem?_eq_getElem isInside]
        rfl
      have hasKey : t.hi.keys[c]? = some (t.hi.id[c]).id := by
        rw [Hashid.keys, List.getElem?_map, List.getElem?_eq_getElem isInside]
        rfl
      simp only [isFirst, List.getElem?_eq_getElem isInside]
      by_cases isId : (t.hi.id[c]).id = id
      · rw [if_pos isId, ← isNext]
        exact
          .cleared (by rw [isList]; simp) (hasKey.trans (congrArg some isId))
            (unlinked_of_first chains isList (mirrors.slots id))
      · rw [if_neg isId]
        have isWhole : nodes (t.hi.slot id) = [] ++ c :: rest := isList
        refine removeLoop_of_chain chains inside isWhole later ?_ ?_
        · intro d member
          rw [List.nil_append, List.mem_singleton] at member
          rw [member, hasKey]
          exact fun same => isId (Option.some.inj same)
        · rw [isList, List.length_cons] at short
          exact short

/-- A removal of a live id frees its node, any other changes nothing. -/
theorem Mirrors.remove
    (mirrors : t.Mirrors)
    (id : Int) :
    ∃ hi,
      t.hi.remove id = .ok (-1, hi) ∧
        Mirrors { hi := hi, index := Function.update t.index id none } ∧
        (t.index id = none → hi = t.hi) := by
  obtain ⟨nodes, chains, listed⟩ := mirrors.chains
  have removed := mirrors.removed chains listed id
  generalize t.hi.remove id = result at removed
  cases removed with
  | @cleared unlinked c member hasKey isUnlinked =>
      have live : t.index id = some c := by
        obtain ⟨other, otherLive, _⟩ := (listed _ c).mp member
        have otherKey := ((mirrors.keys other c).mp otherLive).2
        rw [hasKey, Option.some.injEq] at otherKey
        rw [otherKey]
        exact otherLive
      refine
        ⟨_, rfl, mirrors.clearNode listed live isUnlinked, fun notLive => ?_⟩
      rw [live] at notLive
      cases notLive
  | missing noKey =>
      have notLive : t.index id = none := by
        cases live : t.index id with
        | none =>
            rfl
        | some c =>
            exact
              absurd ((mirrors.keys id c).mp live).2
                (noKey c ((listed _ c).mpr ⟨id, live, rfl⟩))
      refine ⟨t.hi, rfl, ?_, fun _ => rfl⟩
      rw [← notLive, Function.update_eq_self]
      exact mirrors

end HashidRun

section Init

variable
    {max : Int}

/-- A doubled `int` that overflowed never exceeds a positive bound again. -/
theorem hashcapLoopInt_overflowed
    (positive : 0 < max)
    (turns : Nat)
    {hashcap : Int}
    (overflowed : hashcap = 0 ∨ hashcap = -2 ^ 31) :
    Hashid.hashcapLoopInt max turns hashcap = none := by
  induction turns generalizing hashcap with
  | zero =>
      rfl
  | succ turns inductionHypothesis =>
      have small : hashcap < max := by omega
      rw [Hashid.hashcapLoopInt, if_pos small]
      apply inductionHypothesis
      rcases overflowed with isZero | isLeast
      · subst isZero
        exact Or.inl (by decide)
      · subst isLeast
        exact Or.inl (by decide)

/-- A power of two that is doubled within an `int`. -/
theorem toInt32_double
    {k : Nat}
    (small : k < 30) :
    toInt32 ((2 : Int) ^ k * 2) = 2 ^ (k + 1) := by
  have below : 2 ^ (k + 1) < 2 ^ 31 :=
    Nat.pow_lt_pow_right (by decide) (by omega)
  have isCast : (2 : Int) ^ (k + 1) = ((2 ^ (k + 1) : Nat) : Int) := by
    push_cast
    rfl
  rw [← pow_succ, isCast]
  exact
    toInt32_of_bounds
      (Int.le_trans (by decide) (Int.natCast_nonneg (2 ^ (k + 1))))
      (by exact_mod_cast below)

/-- The loop ends in a power of two that an `int` holds. -/
theorem hashcapLoopInt_eq_some
    (positive : 0 < max)
    {turns k : Nat}
    {hashcap : Int}
    (small : k ≤ 30)
    (ended : Hashid.hashcapLoopInt max turns (2 ^ k) = some hashcap) :
    ∃ m ≤ 30, hashcap = 2 ^ m ∧ max ≤ 2 ^ m := by
  induction turns generalizing k with
  | zero =>
      cases ended
  | succ turns inductionHypothesis =>
      rw [Hashid.hashcapLoopInt] at ended
      split at ended
      · by_cases isLast : k = 30
        · subst isLast
          have isLeast : toInt32 ((2 : Int) ^ 30 * 2) = -2 ^ 31 := by decide
          rw [hashcapLoopInt_overflowed positive turns (Or.inr isLeast)] at ended
          cases ended
        · rw [toInt32_double (by omega)] at ended
          exact inductionHypothesis (by omega) ended
      · next reached =>
          injection ended with isHashcap
          exact ⟨k, small, isHashcap.symm, Int.not_lt.mp reached⟩

/-- Up to `2 ^ 30` the doubling stays within an `int`. -/
theorem hashcapLoopInt_eq
    (bound : max ≤ 2 ^ 30)
    {turns k : Nat}
    (small : k ≤ 30)
    (enough : 30 ≤ k + turns) :
    Hashid.hashcapLoopInt max (turns + 1) (2 ^ k) =
      some (Hashid.hashcapLoop max turns (2 ^ k)) := by
  induction turns generalizing k with
  | zero =>
      have isLast : k = 30 := by omega
      subst isLast
      rw [Hashid.hashcapLoopInt, if_neg (Int.not_lt.mpr bound)]
      rfl
  | succ turns inductionHypothesis =>
      rw [Hashid.hashcapLoopInt, Hashid.hashcapLoop]
      by_cases goesOn : (2 : Int) ^ k < max
      · have notLast : k ≠ 30 := by
          rintro rfl
          omega
        rw [if_pos goesOn, if_pos goesOn, toInt32_double (by omega), ← pow_succ]
        exact inductionHypothesis (by omega) (by omega)
      · rw [if_neg goesOn, if_neg goesOn]

/-- More turns do not change where the loop ends. -/
theorem hashcapLoopInt_more
    {turns more : Nat}
    {start hashcap : Int}
    (ended : Hashid.hashcapLoopInt max turns start = some hashcap)
    (isMore : turns ≤ more) :
    Hashid.hashcapLoopInt max more start = some hashcap := by
  induction turns generalizing more start with
  | zero =>
      cases ended
  | succ turns inductionHypothesis =>
      obtain ⟨more, rfl⟩ :=
        Nat.exists_eq_succ_of_ne_zero
          (Nat.ne_of_gt (Nat.lt_of_lt_of_le turns.succ_pos isMore))
      rw [Hashid.hashcapLoopInt] at ended ⊢
      split at ended
      · next goesOn =>
          rw [if_pos goesOn]
          exact inductionHypothesis ended (Nat.le_of_succ_le_succ isMore)
      · next reached =>
          rw [if_neg reached]
          exact ended

/-- `hashid_init` returns exactly up to `2 ^ 30`, with the table of `init`. -/
theorem initInt_iff
    (positive : 0 < max)
    (hi : Hashid) :
    (∃ turns, Hashid.initInt turns max = some hi) ↔
      max ≤ 2 ^ 30 ∧ hi = Hashid.init max := by
  have sixteen : (2 : Int) ^ 4 = 16 := by decide
  constructor
  · rintro ⟨turns, initialised⟩
    obtain ⟨hashcap, ended, isTable⟩ := Option.map_eq_some_iff.mp initialised
    rw [← sixteen] at ended
    obtain ⟨m, small, _, reached⟩ :=
      hashcapLoopInt_eq_some positive (by decide) ended
    have bound : max ≤ 2 ^ 30 := by
      have below : 2 ^ m ≤ 2 ^ 30 := Nat.pow_le_pow_right (by decide) small
      have isCast : (2 : Int) ^ m = ((2 ^ m : Nat) : Int) := by
        push_cast
        rfl
      rw [isCast] at reached
      omega
    refine ⟨bound, ?_⟩
    have known : Hashid.hashcapLoopInt max (27 + 1) (2 ^ 4) = _ :=
      hashcapLoopInt_eq bound (by decide) (by decide)
    have both :=
      (hashcapLoopInt_more ended (Nat.le_add_right turns (27 + 1))).symm.trans
        (hashcapLoopInt_more known (Nat.le_add_left (27 + 1) turns))
    rw [Option.some.injEq, sixteen] at both
    rw [← isTable, both]
    rfl
  · rintro ⟨bound, isTable⟩
    have known : Hashid.hashcapLoopInt max (27 + 1) (2 ^ 4) = _ :=
      hashcapLoopInt_eq bound (by decide) (by decide)
    rw [sixteen] at known
    refine ⟨27 + 1, ?_⟩
    rw [Hashid.initInt, known, isTable]
    rfl

end Init

namespace HashidRun

variable
    {max : Int}
    {past : List (HashidRun × HashidCall)}
    {final : HashidRun}

/-- A hash of ids that `hashid_init` set up, without live ids. -/
def start (max : Int) : HashidRun where
  hi := .init max
  index := fun _ => none

/-- The loop that doubles the size of the hash ends in a power of two. -/
theorem exists_hashcap
    (positive : 0 < max)
    (bound : max ≤ 2 ^ 30) :
    ∃ m ≤ 30, Hashid.hashcapLoop max 27 16 = 2 ^ m := by
  have known : Hashid.hashcapLoopInt max (27 + 1) (2 ^ 4) = _ :=
    hashcapLoopInt_eq bound (by decide) (by decide)
  obtain ⟨m, small, isPower, _⟩ :=
    hashcapLoopInt_eq_some positive (by decide) known
  exact ⟨m, small, isPower⟩

/-- A hash that was set up holds the empty map. -/
theorem start_mirrors
    (positive : 0 < max)
    (bound : max ≤ 2 ^ 30) :
    (start max).Mirrors := by
  obtain ⟨m, small, isPower⟩ := exists_hashcap positive bound
  have free :
      (start max).hi.keys = List.replicate max.toNat (-1) :=
    List.map_replicate
  have isFree (key : Int) (member : key ∈ (start max).hi.keys) : key = -1 := by
    rw [free] at member
    exact List.eq_of_mem_replicate member
  constructor
  · change max = ((List.replicate max.toNat _).length : Nat)
    rw [List.length_replicate]
    omega
  · intro id
    change
      (UInt32.ofInt id &&&
          UInt32.ofInt (Hashid.hashcapLoop max 27 16 - 1)).toNat <
        (List.replicate (Hashid.hashcapLoop max 27 16).toNat none).length
    rw [isPower, List.length_replicate, UInt32.toNat_and]
    have below : 2 ^ m ≤ 2 ^ 30 := Nat.pow_le_pow_right (by decide) small
    have atLeast : 0 < 2 ^ m := Nat.two_pow_pos m
    have isCast : (2 : Int) ^ m = ((2 ^ m : Nat) : Int) := by
      push_cast
      rfl
    have isMask : (UInt32.ofInt ((2 : Int) ^ m - 1)).toNat = 2 ^ m - 1 := by
      have isNat : (2 : Int) ^ m - 1 = ((2 ^ m - 1 : Nat) : Int) := by
        rw [isCast]
        omega
      rw [isNat, Foundation.UInt32.ofInt_natCast, UInt32.toNat_ofNat_of_lt' (by
        change 2 ^ m - 1 < 2 ^ 32
        omega)]
    rw [isMask, isCast, Int.toNat_natCast]
    have masked :
        (UInt32.ofInt id).toNat &&& (2 ^ m - 1) ≤ 2 ^ m - 1 :=
      Nat.and_le_right
    omega
  · intro id c
    constructor
    · intro live
      cases live
    · rintro ⟨nonneg, hasKey⟩
      have isKey := isFree id (List.mem_of_getElem? hasKey)
      omega
  · intro key member
    exact Or.inl (isFree key member)
  · refine ⟨fun _ => [], ?_, fun h c => by simp [start]⟩
    constructor
    · intro h
      change (Hashid.init max).bucket h = none
      simp only [Hashid.bucket, Hashid.init, List.getElem?_replicate]
      split <;> rfl
    · exact fun _ => List.nodup_nil
    · exact fun member => absurd member List.not_mem_nil
  · intro c _
    change ((Hashid.init max).id[c]?).bind HashidNode.next = none
    simp only [Hashid.init, List.getElem?_replicate]
    split <;> rfl
  · change (0 : Int) = ((start max).hi.keys.countP (· ≠ -1) : Nat)
    have noneLive : (start max).hi.keys.countP (· ≠ -1) = 0 := by
      rw [List.countP_eq_zero]
      intro key member
      simp [isFree key member]
    rw [noneLive]
    rfl

/-- A removal keeps the size of the table. -/
theorem Mirrors.remove_cap
    {t : HashidRun}
    (mirrors : t.Mirrors)
    {id answer : Int}
    {hi : Hashid}
    (returned : t.hi.remove id = .ok (answer, hi)) :
    hi.cap = t.hi.cap := by
  obtain ⟨nodes, chains, listed⟩ := mirrors.chains
  have removed := mirrors.removed chains listed id
  rw [returned] at removed
  cases removed with
  | cleared member hasKey isUnlinked =>
      exact isUnlinked.cap
  | missing =>
      rfl

/-- An insertion keeps the size of the table. -/
theorem insert_cap
    {hi inserted : Hashid}
    {id answer : Int}
    (returned : hi.insert id = .ok (answer, inserted)) :
    inserted.cap = hi.cap := by
  unfold Hashid.insert at returned
  split at returned
  · cases returned
  · split at returned
    · cases returned
      rfl
    · cases returned

/-- Every step keeps the hash and the map together. -/
theorem Mirrors.step
    {t t' : HashidRun}
    {call : HashidCall}
    (mirrors : t.Mirrors)
    (taken : Step t call t') :
    t'.Mirrors ∧ t'.hi.cap = t.hi.cap := by
  cases taken with
  | insert nonneg distinct notFull fits isTaken returned =>
      obtain ⟨c, hi, isFree, isInserted, mirrors'⟩ :=
        mirrors.insert nonneg distinct notFull fits
      cases isFree.symm.trans isTaken
      cases isInserted.symm.trans returned
      exact ⟨mirrors', insert_cap returned⟩
  | lookup =>
      exact ⟨mirrors, rfl⟩
  | remove returned =>
      obtain ⟨hi, isRemoved, mirrors', _⟩ := mirrors.remove _
      cases isRemoved.symm.trans returned
      exact ⟨mirrors', mirrors.remove_cap returned⟩

/-- A call that is permitted returns. -/
structure Returns (t : HashidRun) : Prop where
  insert :
    ∀ id,
      0 ≤ id → t.index id = none → t.hi.full = false → t.hi.ProbesFit id →
        ∃ c hi,
          t.hi.freeNode id t.hi.cap.toNat 0 = some c ∧
            t.hi.insert id = .ok (-1, hi)
  lookup : ∀ id, t.hi.lookup id = .ok (-1)
  remove : ∀ id, ∃ hi, t.hi.remove id = .ok (-1, hi)

theorem Mirrors.returns
    {t : HashidRun}
    (mirrors : t.Mirrors) :
    t.Returns where
  insert := by
    intro id nonneg distinct notFull fits
    obtain ⟨c, hi, isTaken, isInserted, _⟩ :=
      mirrors.insert nonneg distinct notFull fits
    exact ⟨c, hi, isTaken, isInserted⟩
  lookup := mirrors.lookup
  remove := by
    intro id
    obtain ⟨hi, isRemoved, _⟩ := mirrors.remove id
    exact ⟨hi, isRemoved⟩

/-- The answer for an id is -1 exactly when it is not live. -/
theorem answer_eq_iff
    (t : HashidRun)
    (id : Int) :
    -1 = t.answer id ↔ t.index id = none := by
  unfold answer
  cases t.index id with
  | none =>
      simp
  | some c =>
      simp only [reduceCtorEq]

/-- What a call returns is right only for an id that is not live. -/
theorem Mirrors.right_iff
    {t t' : HashidRun}
    {call : HashidCall}
    (mirrors : t.Mirrors)
    (taken : Step t call t') :
    t.Right call ↔ t.NotLive call := by
  cases taken with
  | @insert id _ _ _ nonneg distinct notFull fits =>
      refine ⟨?_, False.elim⟩
      rintro ⟨answer, hi, returned, isIndex, _⟩
      obtain ⟨c, inserted, _, isInserted, _⟩ :=
        mirrors.insert nonneg distinct notFull fits
      cases isInserted.symm.trans returned
      exact absurd isIndex (by decide)
  | @lookup id =>
      simp only [Right, NotLive, mirrors.lookup id, Except.ok.injEq]
      exact t.answer_eq_iff id
  | @remove id =>
      obtain ⟨hi, isRemoved, _, same⟩ := mirrors.remove id
      simp only [Right, NotLive, isRemoved, Except.ok.injEq, Prod.mk.injEq]
      constructor
      · rintro ⟨_, ⟨isAnswer, _⟩, _⟩
        exact (t.answer_eq_iff id).mp isAnswer
      · intro notLive
        refine
          ⟨hi, ⟨(t.answer_eq_iff id).mpr notLive, rfl⟩, same, fun c live => ?_⟩
        rw [notLive] at live
        cases live

/--
Over every history of calls the hash holds an injective map from the live ids to
indices, and every permitted call returns; but what a call returns is right
exactly for lookups and removals of ids that are not live.
-/
theorem hashid_right_iff
    (positive : 0 < max)
    {turns : Nat}
    {hi : Hashid}
    (initialised : Hashid.initInt turns max = some hi)
    (run : Run Step { hi := hi, index := fun _ => none } past final) :
    (∀ t ∈ Run.visited past final,
        t.Mirrors ∧ t.Injective max.toNat ∧ t.Returns) ∧
      ∀ t call, (t, call) ∈ past → (t.Right call ↔ t.NotLive call) := by
  obtain ⟨bound, isTable⟩ := (initInt_iff positive hi).mp ⟨turns, initialised⟩
  subst isTable
  have held : ∀ t ∈ Run.visited past final, t.Mirrors ∧ t.hi.cap = max :=
    Run.invariant_of_step run ⟨start_mirrors positive bound, rfl⟩
      fun holds taken =>
        ⟨(holds.1.step taken).1, (holds.1.step taken).2.trans holds.2⟩
  refine ⟨fun t member => ?_, fun t call member => ?_⟩
  · obtain ⟨mirrors, isCap⟩ := held t member
    have isSize : max.toNat = t.hi.id.length := by
      rw [← isCap, mirrors.cap, Int.toNat_natCast]
    refine ⟨mirrors, ?_, mirrors.returns⟩
    rw [isSize]
    exact mirrors.isInjective
  · obtain ⟨next, _, taken⟩ := run.exists_next member
    have wasVisited : t ∈ Run.visited past final :=
      Run.mem_visited.mpr (Or.inr ⟨call, member⟩)
    exact (held t wasVisited).1.right_iff taken

section Four

/-- The search for a node for a small id stays within an `int`. -/
theorem probesFit_of_small
    {hi : Hashid}
    {id : Int}
    (small : id + hi.cap ≤ 2 ^ 31) :
    hi.ProbesFit id := by
  intro i inside _
  omega

/-- Two ids of one bucket are inserted, and the first of them is removed. -/
theorem fourNodes_right :
    ∃ past final,
      Run Step (start 4) past final ∧
        past.map Prod.snd =
          [.lookup 5, .remove 5, .insert 21, .insert 5, .remove 5] ∧
        final.index 21 = some 2 ∧
        final.Injective 4 ∧
        final.hi.keys = [-1, -1, 21, -1] ∧
        (start 4).Right (.remove 5) := by
  have run :
      ∃ past final,
        Run Step (start 4) past final ∧
          past.map Prod.snd =
            [.lookup 5, .remove 5, .insert 21, .insert 5, .remove 5] ∧
          final.index 21 = some 2 ∧
          final.hi.keys = [-1, -1, 21, -1] ∧
          (start 4, HashidCall.remove 5) ∈ past := by
    refine
      ⟨_, _,
        ((((Run.nil.snoc (.remove rfl)).snoc
          (.insert (by decide) rfl rfl (probesFit_of_small (by decide)) rfl
            rfl)).snoc
          (.insert (by decide) rfl rfl (probesFit_of_small (by decide)) rfl
            rfl)).snoc (.remove rfl)).snoc (.lookup rfl), rfl, rfl, rfl, by simp⟩
  obtain ⟨past, final, run, calls, isIndex, isKeys, member⟩ := run
  have initialised : Hashid.initInt 28 4 = some (start 4).hi := rfl
  obtain ⟨held, right⟩ := hashid_right_iff (by decide) initialised run
  exact
    ⟨past, final, run, calls, isIndex, (held final (by simp)).2.1, isKeys,
      (right _ _ member).mpr rfl⟩

/-- An insertion returns -1, and so does a lookup of the id that is live then. -/
theorem fourNodes_not_right :
    ∃ past final inserted,
      Run Step (start 4) past final ∧
        past = [(inserted, .lookup 5), (start 4, .insert 5)] ∧
        inserted.index 5 = some 1 ∧
        ¬ (start 4).Right (.insert 5) ∧
        ¬ inserted.Right (.lookup 5) := by
  obtain ⟨inserted, hi, isInserted, isIndex, isLookup, taken⟩ :
      ∃ inserted hi,
        (start 4).hi.insert 5 = .ok (-1, hi) ∧
          inserted.index 5 = some 1 ∧
          inserted.hi.lookup 5 = .ok (-1) ∧
          Step (start 4) (.insert 5) inserted :=
    ⟨_, _, rfl, rfl, rfl,
      .insert (by decide) rfl rfl (probesFit_of_small (by decide)) rfl rfl⟩
  refine
    ⟨_, inserted, inserted, (Run.nil.snoc taken).snoc (.lookup isLookup), rfl,
      isIndex, ?_, ?_⟩
  · rintro ⟨answer, other, returned, nonneg, _⟩
    cases isInserted.symm.trans returned
    exact absurd nonneg (by decide)
  · intro right
    have isAnswer : inserted.answer 5 = 1 := by
      rw [answer, isIndex]
      rfl
    rw [Right, isLookup, isAnswer] at right
    cases right

end Four

end HashidRun

end SkynetCpp
