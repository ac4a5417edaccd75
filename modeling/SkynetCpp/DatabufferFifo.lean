import Mathlib.Tactic.Ring
import SkynetCpp.Databuffer

namespace SkynetCpp

open Foundation

/-!
# Data buffers as byte queues

All data buffers of a gate share one pool.  `Buffers` ties the linked nodes of
all of them to one byte queue for each: a push appends to one queue, a read
takes from the front of one, and the other queues stay as they are.
-/

/-- The head pointers of the free list and of every data buffer. -/
def heads
    (mp : Messagepool)
    (bufs : Nat → Databuffer) : Option Nat → Option Nat
  | none => mp.freelist
  | some k => (bufs k).head

/-- The pointers of the pool and of the data buffers fit to the lists. -/
structure MessagesLinked
    (mp : Messagepool)
    (bufs : Nat → Databuffer)
    (lists : Option Nat → List Nat) : Prop where
  chains : Chains mp.next (heads mp bufs) lists
  /-- The nodes of the lists are those of the allocated blocks. -/
  owned :
    ∀ m, m < mp.pool * MESSAGEPOOL ↔ ∃ owner, m ∈ lists owner
  tail : ∀ k, (bufs k).tail = (lists (some k)).getLast?

/-- The bytes of a node's chunk. -/
def Messagepool.chunk
    (mp : Messagepool)
    (m : Nat) : List UInt8 :=
  (mp.node m).buffer.getD []

/-- The nodes of a data buffer hold these unread bytes. -/
structure Filled
    (mp : Messagepool)
    (db : Databuffer)
    (nodes : List Nat)
    (bytes : List UInt8) : Prop where
  size : ∀ m ∈ nodes, (mp.node m).size = (mp.chunk m).length
  start :
    ∃ offset : Nat,
      db.offset = offset ∧
        offset ≤ ((nodes.map mp.chunk).headD []).length ∧
        bytes = (nodes.flatMap mp.chunk).drop offset

/-- Every data buffer is linked and holds the bytes of its queue. -/
structure Buffers
    (mp : Messagepool)
    (bufs : Nat → Databuffer)
    (contents : Nat → List UInt8) : Prop where
  exists_lists :
    ∃ lists, MessagesLinked mp bufs lists ∧
      ∀ k, Filled mp (bufs k) (lists (some k)) (contents k)
  size : ∀ k, (bufs k).size = (contents k).length

section Pointers

variable
    {mp : Messagepool}
    {bufs : Nat → Databuffer}
    {lists : Option Nat → List Nat}

@[simp] theorem Messagepool.modify_next
    (mp : Messagepool)
    (m : Nat)
    (change : PoolMessage → PoolMessage) :
    (mp.modify m change).next =
      Function.update mp.next m (change (mp.node m)).next := by
  funext other
  by_cases same : other = m
  · subst same
    simp [Messagepool.next, Messagepool.modify]
  · simp [Messagepool.next, Messagepool.modify, same]

@[simp] theorem Messagepool.modify_pool
    (mp : Messagepool)
    (m : Nat)
    (change : PoolMessage → PoolMessage) :
    (mp.modify m change).pool = mp.pool :=
  rfl

@[simp] theorem Messagepool.modify_freelist
    (mp : Messagepool)
    (m : Nat)
    (change : PoolMessage → PoolMessage) :
    (mp.modify m change).freelist = mp.freelist :=
  rfl

/-- A write to one node keeps the others. -/
theorem Messagepool.modify_node_of_ne
    (mp : Messagepool)
    {m other : Nat}
    (change : PoolMessage → PoolMessage)
    (different : other ≠ m) :
    (mp.modify m change).node other = mp.node other :=
  Function.update_of_ne different _ _

/-- The unread bytes depend on the nodes of the list only. -/
theorem Filled.congr
    {mp' : Messagepool}
    {db db' : Databuffer}
    {nodes : List Nat}
    {bytes : List UInt8}
    (filled : Filled mp db nodes bytes)
    (sameNodes :
      ∀ m ∈ nodes,
        (mp'.node m).buffer = (mp.node m).buffer ∧
          (mp'.node m).size = (mp.node m).size)
    (sameOffset : db'.offset = db.offset) :
    Filled mp' db' nodes bytes := by
  have sameChunk : ∀ m ∈ nodes, mp'.chunk m = mp.chunk m := by
    intro m member
    simp only [Messagepool.chunk, (sameNodes m member).1]
  have sameChunks : nodes.map mp'.chunk = nodes.map mp.chunk :=
    List.map_congr_left sameChunk
  obtain ⟨offset, isOffset, bounded, isBytes⟩ := filled.start
  refine ⟨?_, offset, by rw [sameOffset, isOffset], ?_, ?_⟩
  · intro m member
    rw [(sameNodes m member).2, filled.size m member, sameChunk m member]
  · rw [sameChunks]
    exact bounded
  · rw [isBytes, List.flatMap_def, List.flatMap_def, sameChunks]

/-- A node behind the others adds its chunk to the unread bytes. -/
theorem Filled.append_node
    {db : Databuffer}
    {nodes : List Nat}
    {bytes : List UInt8}
    {m : Nat}
    (filled : Filled mp db nodes bytes)
    (isSize : (mp.node m).size = (mp.chunk m).length) :
    Filled mp db (nodes ++ [m]) (bytes ++ mp.chunk m) := by
  obtain ⟨offset, isOffset, bounded, isBytes⟩ := filled.start
  have inside : offset ≤ (nodes.flatMap mp.chunk).length := by
    cases nodes with
    | nil =>
        simpa using bounded
    | cons first rest =>
        simp only [List.map_cons, List.headD_cons] at bounded
        simp only [List.flatMap_cons, List.length_append]
        omega
  refine ⟨?_, offset, isOffset, ?_, ?_⟩
  · intro other member
    rcases List.mem_append.mp member with kept | isNew
    · exact filled.size other kept
    · rw [List.mem_singleton.mp isNew, isSize]
  · cases nodes with
    | nil =>
        simp only [List.map_nil, List.headD_nil, List.length_nil,
          Nat.le_zero] at bounded
        simp [bounded]
    | cons first rest =>
        simpa using bounded
  · rw [List.flatMap_append, List.drop_append_of_le_length inside, ← isBytes]
    simp

/-- Heads after one data buffer was written. -/
theorem heads_update
    (mp : Messagepool)
    (bufs : Nat → Databuffer)
    (k : Nat)
    (db : Databuffer) :
    heads mp (Function.update bufs k db) =
      Function.update (heads mp bufs) (some k) db.head := by
  funext owner
  cases owner with
  | none =>
      rfl
  | some j =>
      by_cases same : j = k
      · subst same
        simp [heads]
      · simp [heads, same]

/-- `_return_message` moves the first node of a buffer to the free list. -/
theorem returnMessage_spec
    {k : Nat}
    {db : Databuffer}
    {m : Nat}
    {rest : List Nat}
    (linked : MessagesLinked mp (Function.update bufs k db) lists)
    (starts : lists (some k) = m :: rest) :
    ∃ db' mp',
      returnMessage db mp = .ok (db', mp') ∧
        MessagesLinked mp' (Function.update bufs k db')
          (Function.update (Function.update lists (some k) rest) none
            (m :: lists none)) ∧
        (∀ other, other ≠ m → mp'.node other = mp.node other) ∧
        db'.offset = db.offset ∧ db'.size = db.size ∧
        db'.header = db.header ∧ mp'.pool = mp.pool := by
  have isHead : db.head = some m := by
    simpa [heads] using linked.chains.head_eq_some starts
  have isTail : db.tail = (m :: rest).getLast? := by
    simpa [starts] using linked.tail k
  have nextStarts : Chain mp.next (mp.next m) rest := by
    have chain := linked.chains.chain (some k)
    rw [starts] at chain
    exact chain.2
  let returned : PoolMessage :=
    { buffer := none, size := 0, next := mp.freelist }
  let mp' : Messagepool :=
    { mp.modify m (fun _ => returned) with freelist := some m }
  -- The three pointer writes, on the lists.
  have detached := linked.chains.detach starts
  have unowned := linked.chains.unowned_of_detach starts
  have relinked := detached.update_next unowned mp.freelist
  have points :
      Function.update mp.next m mp.freelist m =
        Function.update (heads mp (Function.update bufs k db))
          (some k) (mp.next m) none := by
    simp [heads]
  have pushed := relinked.pushFront unowned points
  have linkedAfter :
      ∀ db' : Databuffer,
        db'.head = mp.next m →
        db'.tail = rest.getLast? →
        MessagesLinked mp' (Function.update bufs k db')
          (Function.update (Function.update lists (some k) rest) none
            (m :: lists none)) := by
    intro db' headAfter tailAfter
    refine ⟨?_, ?_, ?_⟩
    · have isNext : mp'.next = Function.update mp.next m mp.freelist :=
        Messagepool.modify_next mp m (fun _ => returned)
      have isHeads :
          heads mp' (Function.update bufs k db') =
            Function.update
              (Function.update
                (heads mp (Function.update bufs k db)) (some k) (mp.next m))
              none (some m) := by
        funext owner
        cases owner with
        | none =>
            rfl
        | some j =>
            by_cases same : j = k
            · subst same
              simp [heads, headAfter]
            · simp [heads, same]
      rw [isNext, isHeads]
      simpa using pushed
    · intro other
      change other < mp.pool * MESSAGEPOOL ↔ _
      rw [linked.owned other]
      constructor
      · rintro ⟨owner, member⟩
        by_cases isMoved : other = m
        · exact ⟨none, by simp [isMoved]⟩
        · cases owner with
          | none =>
              exact ⟨none, by simp [member]⟩
          | some j =>
              refine ⟨some j, ?_⟩
              by_cases same : j = k
              · subst same
                rw [starts] at member
                simpa [isMoved] using member
              · simpa [same] using member
      · rintro ⟨owner, member⟩
        cases owner with
        | none =>
            rcases List.mem_cons.mp (by simpa using member) with
              isMoved | kept
            · exact ⟨some k, by rw [starts, isMoved]; simp⟩
            · exact ⟨none, kept⟩
        | some j =>
            by_cases same : j = k
            · subst same
              exact ⟨some j, by rw [starts]; simp_all⟩
            · exact ⟨some j, by simpa [same] using member⟩
    · intro j
      by_cases same : j = k
      · subst same
        simpa using tailAfter
      · simpa [same] using linked.tail j
  have keptNodes :
      ∀ other, other ≠ m → mp'.node other = mp.node other :=
    fun other different => mp.modify_node_of_ne (fun _ => returned) different
  cases rest with
  | nil =>
      have isNull : mp.next m = none := nextStarts
      refine
        ⟨{ db with head := none, tail := none }, mp', ?_,
          linkedAfter _ isNull.symm rfl, keptNodes, rfl, rfl, rfl, rfl⟩
      simp only [returnMessage, isHead, isNull, isTail,
        List.getLast?_singleton, ↓reduceIte]
      rfl
  | cons second rest =>
      have isSecond : mp.next m = some second := nextStarts.1
      refine
        ⟨{ db with head := mp.next m }, mp', ?_,
          linkedAfter _ rfl (by simpa using isTail), keptNodes,
          rfl, rfl, rfl, rfl⟩
      simp only [returnMessage, isHead, isSecond]
      rfl

/-- A block's nodes but the first one are a chain. -/
theorem allocateBlock_chain
    (mp : Messagepool) :
    Chain (allocateBlock mp).next (allocateBlock mp).freelist
      (List.range' (mp.pool * MESSAGEPOOL + 1) (MESSAGEPOOL - 1)) := by
  have links :
      ∀ node, mp.pool * MESSAGEPOOL + 1 ≤ node →
        node + 1 < mp.pool * MESSAGEPOOL + 1 + (MESSAGEPOOL - 1) →
        (allocateBlock mp).next node = some (node + 1) := by
    intro node above below
    have inBlock :
        mp.pool * MESSAGEPOOL ≤ node ∧
          node < mp.pool * MESSAGEPOOL + MESSAGEPOOL := by
      simp only [MESSAGEPOOL] at above below ⊢
      omega
    have notEnd :
        ¬ (node = mp.pool * MESSAGEPOOL ∨
          node = mp.pool * MESSAGEPOOL + (MESSAGEPOOL - 1)) := by
      simp only [MESSAGEPOOL] at above below ⊢
      omega
    simp only [Messagepool.next, allocateBlock, if_pos inBlock,
      blockMessage, if_neg notEnd]
  have ends :
      0 < MESSAGEPOOL - 1 →
        (allocateBlock mp).next
          (mp.pool * MESSAGEPOOL + 1 + (MESSAGEPOOL - 1) - 1) = none := by
    intro _
    have isLast :
        mp.pool * MESSAGEPOOL + 1 + (MESSAGEPOOL - 1) - 1 =
          mp.pool * MESSAGEPOOL + (MESSAGEPOOL - 1) := by
      omega
    have inBlock :
        mp.pool * MESSAGEPOOL ≤
            mp.pool * MESSAGEPOOL + (MESSAGEPOOL - 1) ∧
          mp.pool * MESSAGEPOOL + (MESSAGEPOOL - 1) <
            mp.pool * MESSAGEPOOL + MESSAGEPOOL := by
      simp only [MESSAGEPOOL]
      omega
    rw [isLast]
    simp only [Messagepool.next, allocateBlock, if_pos inBlock,
      blockMessage, or_true, if_true]
  have chain := Chain.range' _ _ links ends
  simpa [MESSAGEPOOL, allocateBlock] using chain

/-- Old nodes are not in a new block. -/
theorem allocateBlock_node_of_lt
    (mp : Messagepool)
    {m : Nat}
    (isOld : m < mp.pool * MESSAGEPOOL) :
    (allocateBlock mp).node m = mp.node m :=
  if_neg (by omega)

/-- A pool with a free node has it in front of the free list. -/
theorem exists_cons_of_freelist
    (linked : MessagesLinked mp bufs lists)
    {m : Nat}
    (free : mp.freelist = some m) :
    ∃ rest, lists none = m :: rest := by
  have starts : heads mp bufs none = some m := free
  exact linked.chains.exists_eq_cons starts

/-- `databuffer_push` takes a node that no list has any more. -/
theorem takeMessage_spec
    (linked : MessagesLinked mp bufs lists) :
    ∃ m mp' lists',
      takeMessage mp = (m, mp') ∧
        Chains mp'.next (heads mp' bufs) lists' ∧
        Unowned lists' m ∧
        (∀ other, other < mp'.pool * MESSAGEPOOL ↔
          other = m ∨ ∃ owner, other ∈ lists' owner) ∧
        (∀ k, lists' (some k) = lists (some k)) ∧
        ∀ k, ∀ other ∈ lists (some k), mp'.node other = mp.node other := by
  cases free : mp.freelist with
  | some m =>
      obtain ⟨rest, starts⟩ := exists_cons_of_freelist linked free
      have detached := linked.chains.detach starts
      refine
        ⟨m, { mp with freelist := mp.next m },
          Function.update lists none rest, by simp [takeMessage, free], ?_,
          linked.chains.unowned_of_detach starts, ?_, fun k => by simp,
          fun _ _ _ => rfl⟩
      · have isHeads :
            heads { mp with freelist := mp.next m } bufs =
              Function.update (heads mp bufs) none (mp.next m) := by
          funext owner
          cases owner <;> simp [heads]
        rw [isHeads]
        exact detached
      · intro other
        change other < mp.pool * MESSAGEPOOL ↔ _
        rw [linked.owned other]
        constructor
        · rintro ⟨owner, member⟩
          cases owner with
          | none =>
              rw [starts] at member
              rcases List.mem_cons.mp member with isTaken | kept
              · exact Or.inl isTaken
              · exact Or.inr ⟨none, by simpa using kept⟩
          | some k =>
              exact Or.inr ⟨some k, by simpa using member⟩
        · rintro (isTaken | ⟨owner, member⟩)
          · exact ⟨none, by rw [starts, isTaken]; simp⟩
          · cases owner with
            | none =>
                exact ⟨none, by
                  rw [starts]
                  exact List.mem_cons_of_mem _ (by simpa using member)⟩
            | some k =>
                exact ⟨some k, by simpa using member⟩
  | none =>
      have noFree : lists none = [] :=
        linked.chains.head_eq_none_iff.mp free
      have old :
          ∀ owner {other},
            other ∈ lists owner → other < mp.pool * MESSAGEPOOL :=
        fun owner _ member => (linked.owned _).mpr ⟨owner, member⟩
      let fresh :=
        List.range' (mp.pool * MESSAGEPOOL + 1) (MESSAGEPOOL - 1)
      have mem_fresh :
          ∀ {other},
            other ∈ fresh ↔
              mp.pool * MESSAGEPOOL < other ∧
                other < mp.pool * MESSAGEPOOL + MESSAGEPOOL := by
        intro other
        simp only [fresh, List.mem_range'_1, MESSAGEPOOL]
        omega
      refine
        ⟨mp.pool * MESSAGEPOOL, allocateBlock mp,
          Function.update lists none fresh, by simp [takeMessage, free],
          ⟨?_, ?_, ?_⟩, ?_, ?_, fun k => by simp,
          fun k other member => allocateBlock_node_of_lt mp (old (some k) member)⟩
      · intro owner
        cases owner with
        | none =>
            simpa [heads] using allocateBlock_chain mp
        | some k =>
            have chain := linked.chains.chain (some k)
            simp only [ne_eq, reduceCtorEq, not_false_eq_true,
              Function.update_of_ne]
            refine Chain.congr ?_ chain
            intro other member
            rw [Messagepool.next, allocateBlock_node_of_lt mp (old (some k) member),
              Messagepool.next]
      · intro owner
        cases owner with
        | none =>
            simpa using List.nodup_range'
        | some k =>
            simpa using linked.chains.noDuplicates (some k)
      · intro first second other inFirst inSecond
        cases first with
        | none =>
            cases second with
            | none =>
                rfl
            | some k =>
                have isFresh := mem_fresh.mp (by simpa using inFirst)
                have isOld := old (some k) (by simpa using inSecond)
                omega
        | some j =>
            cases second with
            | none =>
                have isFresh := mem_fresh.mp (by simpa using inSecond)
                have isOld := old (some j) (by simpa using inFirst)
                omega
            | some k =>
                exact linked.chains.apart
                  (by simpa using inFirst) (by simpa using inSecond)
      · intro owner member
        cases owner with
        | none =>
            have isFresh := mem_fresh.mp (by simpa using member)
            omega
        | some k =>
            have isOld := old (some k) (by simpa using member)
            omega
      · intro other
        have isPool :
            (allocateBlock mp).pool * MESSAGEPOOL =
              mp.pool * MESSAGEPOOL + MESSAGEPOOL := by
          simp [allocateBlock, Nat.succ_mul]
        rw [isPool]
        constructor
        · intro below
          rcases Nat.lt_trichotomy other (mp.pool * MESSAGEPOOL) with
            isOld | isFirst | isFresh
          · obtain ⟨owner, member⟩ := (linked.owned other).mp isOld
            cases owner with
            | none =>
                simp [noFree] at member
            | some k =>
                exact Or.inr ⟨some k, by simpa using member⟩
          · exact Or.inl isFirst
          · exact Or.inr
              ⟨none, by simpa using mem_fresh.mpr ⟨isFresh, below⟩⟩
        · rintro (isFirst | ⟨owner, member⟩)
          · simp only [MESSAGEPOOL] at isFirst ⊢
            omega
          · cases owner with
            | none =>
                exact (mem_fresh.mp (by simpa using member)).2
            | some k =>
                have isOld := old (some k) (by simpa using member)
                omega

end Pointers

section Queues

variable
    {mp : Messagepool}
    {bufs : Nat → Databuffer}
    {contents : Nat → List UInt8}

/-- The tail pointer of an updated family of data buffers. -/
theorem tail_update
    {lists : Option Nat → List Nat}
    {k : Nat}
    {db : Databuffer}
    (others : ∀ j, j ≠ k → (bufs j).tail = (lists (some j)).getLast?)
    (isTail : db.tail = (lists (some k)).getLast?) :
    ∀ j, (Function.update bufs k db j).tail = (lists (some j)).getLast? := by
  intro j
  by_cases same : j = k
  · subst same
    simpa using isTail
  · simpa [same] using others j same

/-- `databuffer_push` appends the chunk to the queue of its buffer. -/
theorem databufferPush_spec
    (buffers : Buffers mp bufs contents)
    (k : Nat)
    (data : List UInt8) :
    ∃ db' mp',
      databufferPush (bufs k) mp data data.length = .ok (db', mp') ∧
        Buffers mp' (Function.update bufs k db')
          (Function.update contents k (contents k ++ data)) ∧
        db'.header = (bufs k).header := by
  obtain ⟨lists, linked, filled⟩ := buffers.exists_lists
  obtain ⟨m, taken, lists', isTaken, chains, unowned, owned, sameLists,
    sameNodes⟩ := takeMessage_spec linked
  let pushed : PoolMessage :=
    { buffer := some data, size := data.length, next := none }
  let mpPushed := taken.modify m fun _ => pushed
  have isNext : mpPushed.next = Function.update taken.next m none :=
    Messagepool.modify_next taken m fun _ => pushed
  have chainsPushed : Chains mpPushed.next (heads mpPushed bufs) lists' := by
    rw [isNext]
    exact chains.update_next unowned none
  have detached : mpPushed.next m = none := by
    rw [isNext, Function.update_self]
  have notListed : ∀ j, m ∉ lists (some j) := by
    intro j member
    exact unowned (some j) (by rw [sameLists]; exact member)
  have pushedNode : mpPushed.node m = pushed := by
    simp [mpPushed, Messagepool.modify]
  have keptNode :
      ∀ j, ∀ other ∈ lists (some j), mpPushed.node other = mp.node other := by
    intro j other member
    have different : other ≠ m := by
      intro same
      subst same
      exact notListed j member
    rw [← sameNodes j other member]
    exact taken.modify_node_of_ne (fun _ => pushed) different
  have sizes :
      ∀ db' : Databuffer,
        db'.size = (bufs k).size + data.length →
        ∀ j, (Function.update bufs k db' j).size =
          (Function.update contents k (contents k ++ data) j).length := by
    intro db' isSize j
    by_cases same : j = k
    · subst same
      simp [isSize, buffers.size j]
    · simp [same, buffers.size j]
  -- What the new lists hold, whatever the pointers between the nodes are.
  have filledAfter :
      ∀ (mp' : Messagepool) (db' : Databuffer),
        db'.offset = (bufs k).offset →
        (∀ other, (mp'.node other).buffer = (mpPushed.node other).buffer ∧
          (mp'.node other).size = (mpPushed.node other).size) →
        ∀ j, Filled mp' (Function.update bufs k db' j)
          (Function.update lists' (some k) (lists' (some k) ++ [m]) (some j))
          (Function.update contents k (contents k ++ data) j) := by
    intro mp' db' sameOffset sameContent j
    have filledBefore : Filled mp' (bufs j) (lists (some j)) (contents j) :=
      (filled j).congr
        (fun other member => by
          rw [← keptNode j other member]
          exact sameContent other)
        rfl
    by_cases same : j = k
    · subst same
      have isChunk : mp'.chunk m = data := by
        rw [Messagepool.chunk, (sameContent m).1, pushedNode]
        rfl
      have isSize : (mp'.node m).size = (mp'.chunk m).length := by
        rw [(sameContent m).2, pushedNode, isChunk]
      have appended := filledBefore.append_node isSize
      rw [isChunk] at appended
      rw [Function.update_self, Function.update_self, Function.update_self,
        sameLists]
      exact appended.congr (fun _ _ => ⟨rfl, rfl⟩) sameOffset
    · have different : (some j : Option Nat) ≠ some k := by
        simpa using same
      rw [Function.update_of_ne same, Function.update_of_ne same,
        Function.update_of_ne different, sameLists]
      exact filledBefore
  have ownedAfter :
      ∀ other, other < mpPushed.pool * MESSAGEPOOL ↔
        ∃ owner, other ∈
          Function.update lists' (some k) (lists' (some k) ++ [m]) owner := by
    intro other
    change other < taken.pool * MESSAGEPOOL ↔ _
    rw [owned]
    constructor
    · rintro (isPushed | ⟨owner, member⟩)
      · exact ⟨some k, by simp [isPushed]⟩
      · refine ⟨owner, ?_⟩
        by_cases same : owner = some k
        · subst same
          simp [member]
        · simpa [same] using member
    · rintro ⟨owner, member⟩
      by_cases same : owner = some k
      · subst same
        rw [Function.update_self] at member
        rcases List.mem_append.mp member with kept | isNew
        · exact Or.inr ⟨some k, kept⟩
        · exact Or.inl (List.mem_singleton.mp isNew)
      · exact Or.inr ⟨owner, by simpa [same] using member⟩
  have otherTails :
      ∀ j, j ≠ k →
        (bufs j).tail =
          (Function.update lists' (some k) (lists' (some k) ++ [m])
            (some j)).getLast? := by
    intro j different
    simpa [different, sameLists] using linked.tail j
  have isHead : heads mp bufs (some k) = (bufs k).head := rfl
  cases listed : lists (some k) with
  | nil =>
      have noHead : (bufs k).head = none := by
        rw [← isHead]
        exact linked.chains.head_eq_none listed
      have noTail : (bufs k).tail = none := by
        rw [linked.tail k, listed]
        rfl
      let db' : Databuffer :=
        { bufs k with
          size := (bufs k).size + data.length
          head := some m
          tail := some m }
      have listed' : lists' (some k) = [] := by
        rw [sameLists, listed]
      refine
        ⟨db', mpPushed, ?_,
          ⟨⟨Function.update lists' (some k) (lists' (some k) ++ [m]),
            ⟨?_, ownedAfter, ?_⟩,
            filledAfter mpPushed db' rfl fun _ => ⟨rfl, rfl⟩⟩,
            sizes db' rfl⟩, rfl⟩
      · simp only [databufferPush, isTaken, noHead, noTail]
        rfl
      · have points : mpPushed.next m = heads mpPushed bufs (some k) := by
          rw [detached]
          exact noHead.symm
        have joined := chainsPushed.pushFront unowned points
        rw [heads_update]
        simpa [listed'] using joined
      · exact tail_update otherTails (by simp [db', listed'])
  | cons first rest =>
      have someHead : (bufs k).head = some first := by
        rw [← isHead]
        exact linked.chains.head_eq_some listed
      obtain ⟨last, ends⟩ :
          ∃ last, (lists' (some k)).getLast? = some last := by
        rw [sameLists, listed]
        exact ⟨_, List.getLast?_cons⟩
      have someTail : (bufs k).tail = some last := by
        rw [linked.tail k, ← ends, sameLists]
      let db' : Databuffer :=
        { bufs k with
          size := (bufs k).size + data.length
          tail := some m }
      let mpLinked := mpPushed.modify last fun node => { node with next := some m }
      have sameContent :
          ∀ other,
            (mpLinked.node other).buffer = (mpPushed.node other).buffer ∧
              (mpLinked.node other).size = (mpPushed.node other).size := by
        intro other
        by_cases same : other = last
        · subst same
          simp [mpLinked, Messagepool.modify]
        · rw [mpPushed.modify_node_of_ne _ same]
          exact ⟨rfl, rfl⟩
      refine
        ⟨db', mpLinked, ?_,
          ⟨⟨Function.update lists' (some k) (lists' (some k) ++ [m]),
            ⟨?_, ownedAfter, ?_⟩, filledAfter mpLinked db' rfl sameContent⟩,
            sizes db' rfl⟩, rfl⟩
      · simp only [databufferPush, isTaken, someHead, someTail, db']
        rfl
      · have joined := chainsPushed.append unowned detached ends
        have sameHeads :
            heads mpLinked (Function.update bufs k db') =
              heads mpPushed bufs := by
          rw [heads_update]
          exact Function.update_eq_self (some k) (heads mpPushed bufs)
        rw [sameHeads, Messagepool.modify_next]
        exact joined
      · exact tail_update otherTails (by simp [db'])

variable {lists : Option Nat → List Nat}

/-- The links depend on the head and tail pointers of a buffer only. -/
theorem MessagesLinked.congr
    {k : Nat}
    {db db' : Databuffer}
    (linked : MessagesLinked mp (Function.update bufs k db) lists)
    (sameHead : db'.head = db.head)
    (sameTail : db'.tail = db.tail) :
    MessagesLinked mp (Function.update bufs k db') lists where
  chains := by
    have chains := linked.chains
    rw [heads_update] at chains ⊢
    rw [sameHead]
    exact chains
  owned := linked.owned
  tail :=
    tail_update
      (fun j different => by simpa [different] using linked.tail j)
      (by simpa [sameTail] using linked.tail k)

/-- The bytes behind those of the first node. -/
theorem Filled.tail
    {db db' : Databuffer}
    {m : Nat}
    {rest : List Nat}
    {bytes : List UInt8}
    {offset : Nat}
    (filled : Filled mp db (m :: rest) bytes)
    (isOffset : db.offset = offset)
    (atStart : db'.offset = 0) :
    Filled mp db' rest (bytes.drop ((mp.chunk m).length - offset)) := by
  obtain ⟨other, isOther, bounded, isBytes⟩ := filled.start
  have same : other = offset := by
    have sameInt : (other : Int) = offset := by rw [← isOther, isOffset]
    exact_mod_cast sameInt
  subst same
  refine
    ⟨fun node member => filled.size node (List.mem_cons_of_mem m member),
      0, by simpa using atStart, Nat.zero_le _, ?_⟩
  simp only [List.map_cons, List.headD_cons] at bounded
  rw [isBytes, List.drop_drop, List.flatMap_cons,
    Nat.add_sub_cancel' bounded, List.drop_left, List.drop_zero]

/-- What reading from the chunk of the first node means for the bytes. -/
theorem Filled.first
    {db : Databuffer}
    {m : Nat}
    {rest : List Nat}
    {bytes : List UInt8}
    (filled : Filled mp db (m :: rest) bytes) :
    ∃ offset : Nat,
      db.offset = offset ∧
        offset ≤ (mp.chunk m).length ∧
        (mp.node m).size - db.offset =
          ((mp.chunk m).length - offset : Nat) ∧
        (∀ count, count ≤ (mp.chunk m).length - offset →
          chunkBytes (mp.node m) db.offset count = bytes.take count) := by
  obtain ⟨offset, isOffset, bounded, isBytes⟩ := filled.start
  simp only [List.map_cons, List.headD_cons] at bounded
  refine ⟨offset, isOffset, bounded, ?_, ?_⟩
  · rw [filled.size m (by simp), isOffset]
    omega
  · intro count small
    rw [isBytes, List.flatMap_cons, List.drop_append_of_le_length bounded,
      List.take_append_of_le_length (by simpa using small)]
    simp [chunkBytes, isOffset, Messagepool.chunk]

/-- The other buffers keep their bytes when a node goes back to the pool. -/
theorem others_of_returned
    {mp' : Messagepool}
    {k : Nat}
    {db : Databuffer}
    {m : Nat}
    {rest : List Nat}
    (linked : MessagesLinked mp (Function.update bufs k db) lists)
    (starts : lists (some k) = m :: rest)
    (sameNodes : ∀ other, other ≠ m → mp'.node other = mp.node other)
    (others :
      ∀ j, j ≠ k → Filled mp (bufs j) (lists (some j)) (contents j))
    (j : Nat)
    (different : j ≠ k) :
    Filled mp' (bufs j)
      (Function.update (Function.update lists (some k) rest) none
        (m :: lists none) (some j))
      (contents j) := by
  have sameList :
      Function.update (Function.update lists (some k) rest) none
        (m :: lists none) (some j) = lists (some j) := by
    simp [different]
  rw [sameList]
  refine (others j different).congr ?_ rfl
  intro other member
  have notFirst : other ≠ m := by
    intro same
    subst same
    have sameOwner : some j = some k :=
      linked.chains.apart member (by rw [starts]; simp)
    exact different (by simpa using sameOwner)
  rw [sameNodes other notFirst]
  exact ⟨rfl, rfl⟩

/-- The first node goes back to the pool; the other buffers keep theirs. -/
theorem returnMessage_keeps
    {k : Nat}
    {db : Databuffer}
    {m : Nat}
    {rest : List Nat}
    {bytes : List UInt8}
    {offset : Nat}
    (linked : MessagesLinked mp (Function.update bufs k db) lists)
    (starts : lists (some k) = m :: rest)
    (filled : Filled mp db (m :: rest) bytes)
    (isOffset : db.offset = offset)
    (others :
      ∀ j, j ≠ k → Filled mp (bufs j) (lists (some j)) (contents j)) :
    ∃ db' mp' lists',
      (∀ start, returnMessage { db with offset := start } mp =
        .ok ({ db' with offset := start }, mp')) ∧
        MessagesLinked mp' (Function.update bufs k db') lists' ∧
        lists' (some k) = rest ∧
        Filled mp' { db' with offset := 0 } rest
          (bytes.drop ((mp.chunk m).length - offset)) ∧
        (∀ j, j ≠ k → Filled mp' (bufs j) (lists' (some j)) (contents j)) ∧
        db'.size = db.size ∧ db'.header = db.header ∧ mp'.pool = mp.pool := by
  obtain ⟨db', mp', returned, linked', sameNodes, sameOffset, sameSize,
    sameHeader, samePool⟩ := returnMessage_spec linked starts
  have noDuplicates := linked.chains.noDuplicates (some k)
  rw [starts] at noDuplicates
  refine ⟨db', mp', _, ?_, linked', by simp, ?_, ?_, sameSize, sameHeader,
    samePool⟩
  · intro start
    have isHead : db.head = some m := by
      simpa [heads] using linked.chains.head_eq_some starts
    simp only [returnMessage, isHead] at returned ⊢
    split at returned
    · next isNull =>
        split at returned
        · next isTail =>
            obtain ⟨rfl, rfl⟩ : _ = db' ∧ _ = mp' := by
              simpa [bind, Except.bind] using returned
            simp [bind, Except.bind, isNull, isTail]
        · simp [bind, Except.bind] at returned
    · next notNull =>
        obtain ⟨rfl, rfl⟩ : _ = db' ∧ _ = mp' := by
          simpa [bind, Except.bind] using returned
        simp [bind, Except.bind, notNull]
  · have atStart : ({ db' with offset := 0 } : Databuffer).offset = 0 := rfl
    refine (filled.tail isOffset atStart).congr ?_ rfl
    intro other member
    have different : other ≠ m := by
      intro same
      subst same
      exact (List.nodup_cons.mp noDuplicates).1 member
    rw [sameNodes other different]
    exact ⟨rfl, rfl⟩
  · exact others_of_returned linked starts sameNodes others

/-- One round of the loop of `databuffer_read`, on a buffer with a node. -/
theorem databufferReadLoop_succ
    {db : Databuffer}
    {m : Nat}
    (isHead : db.head = some m)
    (fuel : Nat)
    (sz : Int) :
    databufferReadLoop (fuel + 1) db mp sz =
      (let bsz := (mp.node m).size - db.offset
      if sz < bsz then
        .ok ([chunkBytes (mp.node m) db.offset sz],
          { db with offset := db.offset + sz }, mp)
      else if bsz = sz then do
        let (db', mp') ← returnMessage { db with offset := 0 } mp
        .ok ([chunkBytes (mp.node m) db.offset sz], db', mp')
      else do
        let (db', mp') ← returnMessage db mp
        let (rest, db'', mp'') ←
          databufferReadLoop fuel { db' with offset := 0 } mp' (sz - bsz)
        .ok (chunkBytes (mp.node m) db.offset bsz :: rest, db'', mp'')) := by
  simp only [databufferReadLoop, isHead]

/-- The loop of `databuffer_read` takes the first bytes of its queue. -/
theorem databufferReadLoop_spec
    (fuel : Nat)
    {k sz : Nat}
    {db : Databuffer}
    {bytes : List UInt8}
    (linked : MessagesLinked mp (Function.update bufs k db) lists)
    (filled : Filled mp db (lists (some k)) bytes)
    (others :
      ∀ j, j ≠ k → Filled mp (bufs j) (lists (some j)) (contents j))
    (positive : 0 < sz)
    (enough : sz ≤ bytes.length)
    (fueled : (lists (some k)).length < fuel) :
    ∃ pieces db' mp' lists',
      databufferReadLoop fuel db mp sz = .ok (pieces, db', mp') ∧
        pieces.flatten = bytes.take sz ∧
        MessagesLinked mp' (Function.update bufs k db') lists' ∧
        Filled mp' db' (lists' (some k)) (bytes.drop sz) ∧
        (∀ j, j ≠ k → Filled mp' (bufs j) (lists' (some j)) (contents j)) ∧
        db'.size = db.size ∧ db'.header = db.header := by
  induction fuel generalizing mp lists sz db bytes with
  | zero =>
      omega
  | succ fuel inductionHypothesis =>
      cases starts : lists (some k) with
      | nil =>
          rw [starts] at filled
          obtain ⟨offset, _, _, isBytes⟩ := filled.start
          simp only [List.flatMap_nil, List.drop_nil] at isBytes
          simp [isBytes] at enough
          omega
      | cons m rest =>
          have isHead : db.head = some m := by
            simpa [heads] using linked.chains.head_eq_some starts
          rw [starts] at filled
          obtain ⟨offset, isOffset, bounded, isBsz, isChunk⟩ := filled.first
          simp only [databufferReadLoop_succ isHead, isBsz]
          by_cases within : sz < (mp.chunk m).length - offset
          · -- The chunk of the first node is longer than what is read.
            have isWithin : (sz : Int) < ((mp.chunk m).length - offset : Nat) := by
              exact_mod_cast within
            rw [if_pos isWithin, isChunk sz within.le]
            refine
              ⟨[bytes.take sz], { db with offset := db.offset + sz }, mp, lists,
                rfl, List.flatten_singleton, linked.congr rfl rfl, ?_, others,
                rfl, rfl⟩
            rw [starts]
            obtain ⟨other, isOther, _, isBytes⟩ := filled.start
            refine
              ⟨filled.size, other + sz, by simp [isOther], ?_, ?_⟩
            · have same : other = offset := by
                have sameInt : (other : Int) = offset := by
                  rw [← isOther, isOffset]
                exact_mod_cast sameInt
              simp only [List.map_cons, List.headD_cons]
              omega
            · rw [isBytes, List.drop_drop]
          · have notWithin :
                ¬ (sz : Int) < ((mp.chunk m).length - offset : Nat) := by
              exact_mod_cast within
            rw [if_neg notWithin]
            obtain ⟨db', mp', lists', returned, linked', isRest, filled',
              others', sameSize, sameHeader, _⟩ :=
              returnMessage_keeps linked starts filled isOffset others
            by_cases exactly : (mp.chunk m).length - offset = sz
            · -- The read ends with the first node.
              rw [if_pos (by exact_mod_cast exactly), isChunk sz exactly.ge,
                returned 0]
              refine
                ⟨[bytes.take sz], { db' with offset := 0 }, mp', lists', rfl,
                  List.flatten_singleton, linked'.congr rfl rfl, ?_, others',
                  sameSize, sameHeader⟩
              rw [isRest, ← exactly]
              exact filled'
            · -- The read goes on with the next node.
              have notExactly :
                  ¬ (((mp.chunk m).length - offset : Nat) : Int) = sz := by
                exact_mod_cast exactly
              have isLess : (mp.chunk m).length - offset < sz := by
                omega
              have sameDb : ({ db with offset := db.offset } : Databuffer) = db :=
                rfl
              rw [if_neg notExactly, isChunk _ (Nat.le_refl _)]
              have isReturned := returned db.offset
              rw [sameDb] at isReturned
              have linkedNext :
                  MessagesLinked mp'
                    (Function.update bufs k { db' with offset := 0 }) lists' :=
                linked'.congr rfl rfl
              obtain ⟨pieces, db'', mp'', lists'', rested, isPieces, linked'',
                filled'', others'', sameSize'', sameHeader''⟩ :=
                inductionHypothesis linkedNext
                  (by rw [isRest]; exact filled') others'
                  (Nat.sub_pos_of_lt isLess)
                  (by rw [List.length_drop]; omega)
                  (by
                    rw [isRest]
                    rw [starts, List.length_cons] at fueled
                    omega)
              have isRemaining :
                  (sz : Int) - ((mp.chunk m).length - offset : Nat) =
                    (sz - ((mp.chunk m).length - offset) : Nat) := by
                omega
              refine
                ⟨bytes.take ((mp.chunk m).length - offset) :: pieces, db'', mp'',
                  lists'', ?_, ?_, linked'', ?_, others'',
                  sameSize''.trans sameSize, sameHeader''.trans sameHeader⟩
              · rw [isReturned]
                simp only [bind, Except.bind]
                rw [isRemaining, rested]
              · rw [List.flatten_cons, isPieces, ← List.take_add,
                  Nat.add_sub_cancel' isLess.le]
              · rw [List.drop_drop, Nat.add_sub_cancel' isLess.le] at filled''
                exact filled''

/-- A chain has at most as many nodes as the blocks of the pool. -/
theorem MessagesLinked.length_le
    (linked : MessagesLinked mp bufs lists)
    (owner : Option Nat) :
    (lists owner).length ≤ mp.pool * MESSAGEPOOL := by
  have inside : lists owner ⊆ List.range (mp.pool * MESSAGEPOOL) := by
    intro m member
    exact List.mem_range.mpr ((linked.owned m).mpr ⟨owner, member⟩)
  have short :=
    List.Nodup.length_le_of_subset (linked.chains.noDuplicates owner) inside
  simpa using short

/-- Putting one buffer's queue together with the others'. -/
theorem Buffers.of_update
    {k : Nat}
    {db : Databuffer}
    {bytes : List UInt8}
    (linked : MessagesLinked mp (Function.update bufs k db) lists)
    (filled : Filled mp db (lists (some k)) bytes)
    (others :
      ∀ j, j ≠ k → Filled mp (bufs j) (lists (some j)) (contents j))
    (isSize : db.size = bytes.length)
    (otherSizes : ∀ j, j ≠ k → (bufs j).size = (contents j).length) :
    Buffers mp (Function.update bufs k db)
      (Function.update contents k bytes) := by
  refine ⟨⟨lists, linked, ?_⟩, ?_⟩
  · intro j
    by_cases same : j = k
    · subst same
      simpa using filled
    · simpa [same] using others j same
  · intro j
    by_cases same : j = k
    · subst same
      simpa using isSize
    · simpa [same] using otherSizes j same

/-- `databuffer_read` takes the first bytes of the queue of its buffer. -/
theorem databufferRead_spec
    (buffers : Buffers mp bufs contents)
    {k sz : Nat}
    (positive : 0 < sz)
    (enough : sz ≤ (contents k).length) :
    ∃ db' mp',
      databufferRead (bufs k) mp sz = .ok ((contents k).take sz, db', mp') ∧
        Buffers mp' (Function.update bufs k db')
          (Function.update contents k ((contents k).drop sz)) ∧
        db'.header = (bufs k).header := by
  obtain ⟨lists, linked, filled⟩ := buffers.exists_lists
  let started : Databuffer := { bufs k with size := (bufs k).size - sz }
  have linkedStarted : MessagesLinked mp (Function.update bufs k started) lists := by
    have same : MessagesLinked mp (Function.update bufs k (bufs k)) lists := by
      simpa using linked
    exact same.congr rfl rfl
  have filledStarted : Filled mp started (lists (some k)) (contents k) :=
    (filled k).congr (fun _ _ => ⟨rfl, rfl⟩) rfl
  obtain ⟨pieces, db', mp', lists', isRead, isPieces, linked', filled', others',
    sameSize, sameHeader⟩ :=
    databufferReadLoop_spec (mp.pool * MESSAGEPOOL + 1)
      linkedStarted filledStarted (fun j _ => filled j) positive enough
      (Nat.lt_succ_of_le (linked.length_le (some k)))
  have guarded : (bufs k).size ≥ sz := by
    rw [buffers.size k]
    exact_mod_cast enough
  refine
    ⟨db', mp', ?_,
      Buffers.of_update linked' filled' others' ?_ fun j _ => buffers.size j,
      sameHeader⟩
  · rw [databufferRead, if_pos guarded, isRead, ← isPieces]
    rfl
  · rw [sameSize, List.length_drop]
    simp only [started]
    rw [buffers.size k]
    omega

/-- The loop of `databuffer_clear` returns every node to the pool. -/
theorem databufferClearLoop_spec
    (fuel : Nat)
    {k : Nat}
    {db : Databuffer}
    (linked : MessagesLinked mp (Function.update bufs k db) lists)
    (others :
      ∀ j, j ≠ k → Filled mp (bufs j) (lists (some j)) (contents j))
    (fueled : (lists (some k)).length < fuel) :
    ∃ db' mp' lists',
      databufferClearLoop fuel db mp = .ok (db', mp') ∧
        MessagesLinked mp' (Function.update bufs k .zero) lists' ∧
        lists' (some k) = [] ∧
        ∀ j, j ≠ k → Filled mp' (bufs j) (lists' (some j)) (contents j) := by
  induction fuel generalizing mp lists db with
  | zero =>
      omega
  | succ fuel inductionHypothesis =>
      cases starts : lists (some k) with
      | nil =>
          have isHead : db.head = none := by
            simpa [heads] using linked.chains.head_eq_none starts
          have isTail : db.tail = none := by
            simpa [starts] using linked.tail k
          exact
            ⟨db, mp, lists, by simp only [databufferClearLoop, isHead],
              linked.congr isHead.symm isTail.symm, starts, others⟩
      | cons m rest =>
          have isHead : db.head = some m := by
            simpa [heads] using linked.chains.head_eq_some starts
          obtain ⟨db', mp', returned, linked', sameNodes, _⟩ :=
            returnMessage_spec linked starts
          have shorter :
              (Function.update (Function.update lists (some k) rest) none
                (m :: lists none) (some k)).length < fuel := by
            rw [starts, List.length_cons] at fueled
            simpa using Nat.lt_of_succ_lt_succ fueled
          obtain ⟨last, mpLast, lists', isCleared, cleared⟩ :=
            inductionHypothesis linked'
              (others_of_returned linked starts sameNodes others) shorter
          refine ⟨last, mpLast, lists', ?_, cleared⟩
          simp only [databufferClearLoop, isHead, returned]
          exact isCleared

/-- `databuffer_clear` empties the queue of its buffer. -/
theorem databufferClear_spec
    (buffers : Buffers mp bufs contents)
    (k : Nat) :
    ∃ mp',
      databufferClear (bufs k) mp = .ok (.zero, mp') ∧
        Buffers mp' (Function.update bufs k .zero)
          (Function.update contents k []) := by
  obtain ⟨lists, linked, filled⟩ := buffers.exists_lists
  have same : MessagesLinked mp (Function.update bufs k (bufs k)) lists := by
    simpa using linked
  obtain ⟨db', mp', lists', isCleared, linked', isEmpty, others'⟩ :=
    databufferClearLoop_spec (mp.pool * MESSAGEPOOL + 1) same
      (fun j _ => filled j) (Nat.lt_succ_of_le (linked.length_le (some k)))
  have filled' : Filled mp' .zero (lists' (some k)) [] := by
    rw [isEmpty]
    exact ⟨by simp, 0, rfl, by simp, by simp⟩
  refine
    ⟨mp', ?_,
      Buffers.of_update linked' filled' others' rfl fun j _ => buffers.size j⟩
  simp only [databufferClear, isCleared]
  rfl

/-- Empty buffers over an empty pool. -/
theorem Buffers.zero :
    Buffers .zero (fun _ => .zero) fun _ => [] where
  exists_lists :=
    ⟨fun _ => [],
      { chains :=
          { chain := fun owner => by cases owner <;> rfl
            noDuplicates := fun _ => List.nodup_nil
            apart := fun member => by simp at member }
        owned := fun m => by simp [Messagepool.zero]
        tail := fun _ => rfl },
      fun _ => ⟨by simp, 0, rfl, by simp, by simp⟩⟩
  size := fun _ => rfl

/-- A buffer whose header field is written keeps its queue. -/
theorem Buffers.setHeader
    (buffers : Buffers mp bufs contents)
    (k : Nat)
    (header : Int) :
    Buffers mp (Function.update bufs k { bufs k with header := header })
      contents := by
  obtain ⟨lists, linked, filled⟩ := buffers.exists_lists
  have same : MessagesLinked mp (Function.update bufs k (bufs k)) lists := by
    simpa using linked
  have linked' :
      MessagesLinked mp (Function.update bufs k { bufs k with header := header })
        lists :=
    same.congr rfl rfl
  have filled' :
      Filled mp { bufs k with header := header } (lists (some k))
        (contents k) :=
    (filled k).congr (fun _ _ => ⟨rfl, rfl⟩) rfl
  have written :=
    Buffers.of_update linked' filled' (fun j _ => filled j) (buffers.size k)
      fun j _ => buffers.size j
  simpa using written

end Queues

end SkynetCpp
