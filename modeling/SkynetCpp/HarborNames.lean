import SkynetCpp.HarborServiceCalls

namespace SkynetCpp

open Foundation

/-!
# Names and queues of the harbor service

What is known under a name, the messages that wait for a name or a slave, and
what the functions that move these messages do to them.
-/

section Keys

/-- What two names are compared by. -/
def nameKey (name : List UInt8) : UInt32 × List UInt8 :=
  (nameHash name, nameText name)

/-- The key under which a node is found. -/
def KeyValue.nodeKey (node : KeyValue) : UInt32 × List UInt8 :=
  (node.hash, nameText node.key)

/-- The chain in which a key is looked for. -/
def keyBucket (key : UInt32 × List UInt8) : Nat :=
  key.1.toNat % kHashSize

variable (hash : Hashmap) (name : List UInt8)

/-- `hash_search` looks its key up in a chained table. -/
theorem hashSearch_eq_search :
    hashSearch hash name =
      Buckets.search KeyValue.nodeKey keyBucket hash.node (nameKey name) := by
  have sameTest (node : KeyValue) :
      decide (node.hash = nameHash name ∧ nameText node.key = nameText name) =
        decide (node.nodeKey = nameKey name) := by
    unfold KeyValue.nodeKey nameKey
    simp only [Prod.mk.injEq]
  unfold hashSearch Buckets.search
  simp only [sameTest]
  rfl

/-- A copied name has the key of the name. -/
theorem nameText_take :
    nameText (name.take kGlobalNameLength) = nameText name := by
  unfold nameText
  rw [List.take_take, Nat.min_self]

/-- Names with one key have one node. -/
theorem hashSearch_congr
    {name other : List UInt8}
    (same : nameKey name = nameKey other) :
    hashSearch hash name = hashSearch hash other := by
  rw [hashSearch_eq_search, hashSearch_eq_search, same]

/-- The new node is found, and nothing else changes. -/
theorem hashSearch_hashInsert
    (other : List UInt8) :
    hashSearch (hashInsert hash name).2 other =
      if nameKey other = nameKey name then
        some (hashInsert hash name).1
      else
        hashSearch hash other := by
  have inserted :
      (hashInsert hash name).2.node =
        Buckets.insert KeyValue.nodeKey keyBucket hash.node
          (hashInsert hash name).1 := rfl
  have key : (hashInsert hash name).1.nodeKey = nameKey name := by
    unfold KeyValue.nodeKey nameKey hashInsert
    simp only [nameText_take]
  rw [hashSearch_eq_search, inserted, Buckets.search_insert, key,
    hashSearch_eq_search]
  simp only [eq_comm]

/-- The node of a name is there after the search or the insertion. -/
theorem hashSearch_findOrInsert
    (other : List UInt8) :
    hashSearch (findOrInsert hash name).2 other =
      if nameKey other = nameKey name then
        some (findOrInsert hash name).1
      else
        hashSearch hash other := by
  unfold findOrInsert
  cases found : hashSearch hash name with
  | some node =>
      by_cases same : nameKey other = nameKey name
      · simp only [if_pos same, hashSearch_congr hash same, found]
      · simp only [if_neg same]
  | none =>
      exact hashSearch_hashInsert hash name other

/-- A write to a node changes that node only. -/
theorem hashSearch_modify
    {change : KeyValue → KeyValue}
    (keepsKey : ∀ node, (change node).nodeKey = node.nodeKey)
    (other : List UInt8) :
    hashSearch (hash.modify name change) other =
      if nameKey other = nameKey name then
        (hashSearch hash name).map change
      else
        hashSearch hash other := by
  have modified :
      (hash.modify name change).node =
        Buckets.modify KeyValue.nodeKey keyBucket hash.node (nameKey name)
          change := rfl
  rw [hashSearch_eq_search, hashSearch_eq_search, hashSearch_eq_search,
    modified]
  by_cases same : nameKey other = nameKey name
  · rw [if_pos same, same]
    exact
      Buckets.search_modify_self fun node isNode =>
        (keepsKey node).trans isNode
  · rw [if_neg same]
    exact
      Buckets.search_modify_of_ne
        (fun node isNode => (keepsKey node).trans isNode) same

end Keys

namespace HarborService

variable (h : HarborService)

/-- The handle that a name is bound to, or 0. -/
def nameValue (name : List UInt8) : UInt32 :=
  ((hashSearch h.map name).map KeyValue.value).getD 0

/-- The queue of a name. -/
def nameQueue (name : List UInt8) : Option HarborMsgQueue :=
  (hashSearch h.map name).bind KeyValue.queue

/-- The messages that wait for a name. -/
def nameMessages (name : List UInt8) : List HarborMsg :=
  ((h.nameQueue name).map HarborMsgQueue.contents).getD []

variable {h}

theorem nameValue_findOrInsert
    (name : List UInt8) :
    (findOrInsert h.map name).1.value = h.nameValue name := by
  unfold findOrInsert nameValue
  cases found : hashSearch h.map name with
  | some node =>
      rfl
  | none =>
      rfl

theorem nameQueue_findOrInsert
    (name : List UInt8) :
    (findOrInsert h.map name).1.queue = h.nameQueue name := by
  unfold findOrInsert nameQueue
  cases found : hashSearch h.map name with
  | some node =>
      rfl
  | none =>
      rfl

/-- A write of a node's queue, after the node was found or inserted. -/
theorem nameQueue_of_modify
    (name other : List UInt8)
    {slaves : Harbor}
    {change : KeyValue → KeyValue}
    (keepsKey : ∀ node, (change node).nodeKey = node.nodeKey) :
    nameQueue
        { toHarbor := slaves
          map := (findOrInsert h.map name).2.modify name change } other =
      if nameKey other = nameKey name then
        (change (findOrInsert h.map name).1).queue
      else
        h.nameQueue other := by
  unfold nameQueue
  rw [hashSearch_modify _ _ keepsKey, hashSearch_findOrInsert,
    hashSearch_findOrInsert]
  by_cases same : nameKey other = nameKey name
  · simp [same]
  · simp [same]

theorem nameQueue_congr
    {name other : List UInt8}
    (same : nameKey name = nameKey other) :
    h.nameQueue name = h.nameQueue other := by
  unfold nameQueue
  rw [hashSearch_congr h.map same]

end HarborService

end SkynetCpp
