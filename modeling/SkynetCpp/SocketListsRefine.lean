import Mathlib.Data.Finset.Card
import SkynetCpp.SocketLists

namespace SkynetCpp

open Foundation

/-!
# Lists in memory refine plain lists

The functions on lists in memory take the same steps as the functions on plain
lists, step by step, and what they assert about `tail` holds.
-/

variable {Worker α β : Type}

section Shows

/-- The nodes of the two lists in memory, and where the lists end. -/
structure LinkedView.Listed
    (l : LinkedView Worker)
    (nodes : Priority → List Nat) : Prop where
  chains : Chains l.next l.head nodes
  tail : ∀ priority, l.tail priority = (nodes priority).getLast?
  below : ∀ priority, ∀ tmp ∈ nodes priority, tmp < l.used

/-- A TCP socket with lists in memory, and the same socket with plain lists. -/
structure LinkedView.Shows
    (l : LinkedView Worker)
    (v : SocketView Worker) : Prop where
  index : v.index = l.index
  c_str : v.c_str = l.c_str
  notes : v.notes = l.notes
  sock : v.sock = { l.sock with high := v.sock.high, low := v.sock.low }
  protocol : l.sock.protocol = .TCP
  lists :
    ∃ nodes,
      l.Listed nodes ∧
        ∀ priority, v.sock.list priority = (nodes priority).map l.node

variable
    {l : LinkedView Worker}
    {v : SocketView Worker}
    {nodes : Priority → List Nat}
    {priority : Priority}

/-- The first node in memory is the first node of the plain list. -/
theorem LinkedView.Listed.first_eq
    (listed : l.Listed nodes) :
    l.first priority = ((nodes priority).map l.node).take 1 := by
  cases shape : nodes priority with
  | nil =>
      simp [LinkedView.first, listed.chains.head_eq_none shape]
  | cons tmp rest =>
      simp [LinkedView.first, listed.chains.head_eq_some shape]

/-- A socket of whose lists only the first nodes are seen. -/
def SocketView.heads (v : SocketView Worker) : SocketView Worker :=
  { v with
    sock :=
      { v.sock with
        high := v.sock.high.take 1
        low := v.sock.low.take 1 } }

theorem LinkedView.Shows.view_eq
    (shows_ : l.Shows v) :
    l.view = v.heads := by
  obtain ⟨nodes, listed, same⟩ := shows_.lists
  have isHigh : v.sock.high = (nodes .high).map l.node := same .high
  have isLow : v.sock.low = (nodes .low).map l.node := same .low
  have sock := shows_.sock
  unfold LinkedView.view SocketView.heads
  rw [listed.first_eq, listed.first_eq, ← isHigh, ← isLow, sock,
    shows_.index, shows_.c_str, shows_.notes]

/-- What a step on the socket may do that leaves the lists alone. -/
structure SocketView.KeepsLists (v v' : SocketView Worker) : Prop where
  index : v'.index = v.index
  c_str : v'.c_str = v.c_str
  high : v'.sock.high = v.sock.high
  low : v'.sock.low = v.sock.low
  protocol : v'.sock.protocol = v.sock.protocol

theorem LinkedView.Shows.put
    {v' : SocketView Worker}
    (shows_ : l.Shows v)
    (keeps : v.KeepsLists v') :
    (l.put v'.heads).Shows v' where
  index := keeps.index.trans shows_.index
  c_str := keeps.c_str.trans shows_.c_str
  notes := rfl
  sock := rfl
  protocol := by
    have protocol := shows_.protocol
    have sock := shows_.sock
    simp only [LinkedView.put, SocketView.heads, keeps.protocol]
    rw [sock]
    exact protocol
  lists := by
    obtain ⟨nodes, listed, same⟩ := shows_.lists
    refine ⟨nodes, ⟨listed.chains, listed.tail, listed.below⟩, fun priority => ?_⟩
    have sameList : v'.sock.list priority = v.sock.list priority := by
      cases priority
      · exact keeps.high
      · exact keeps.low
    rw [sameList]
    exact same priority

end Shows

section HeadsOnly

/--
Code that looks no further than at the first nodes of the lists, and leaves the
lists alone.
-/
def HeadsOnly : SocketAction Worker α → Prop
  | .done _ | .crash => True
  | .step next rest =>
      ∀ input v,
        next input v.heads = (next input v).map SocketView.heads ∧
          (∀ v', next input v = some v' → v.KeepsLists v') ∧
          rest input v.heads = rest input v ∧
          HeadsOnly (rest input v)

theorem SocketView.KeepsLists.refl
    (v : SocketView Worker) :
    v.KeepsLists v :=
  ⟨rfl, rfl, rfl, rfl, rfl⟩

namespace HeadsOnly

theorem pure
    (result : α) :
    HeadsOnly (Pure.pure result : SocketAction Worker α) :=
  trivial

theorem bind
    {action : SocketAction Worker α}
    {after : α → SocketAction Worker β}
    (first : HeadsOnly action)
    (second : ∀ result, HeadsOnly (after result)) :
    HeadsOnly (action >>= after) := by
  induction action with
  | done result =>
      exact second result
  | crash =>
      trivial
  | step next rest inductionHypothesis =>
      intro input v
      obtain ⟨sameNext, keeps, sameRest, later⟩ := first input v
      refine ⟨sameNext, keeps, ?_, inductionHypothesis input v later⟩
      exact congrArg (Program.bind · after) sameRest

theorem ite
    {condition : Prop}
    [Decidable condition]
    {first second : SocketAction Worker α}
    (onFirst : HeadsOnly first)
    (onSecond : HeadsOnly second) :
    HeadsOnly (if condition then first else second) := by
  split
  · exact onFirst
  · exact onSecond

theorem andM
    {first second : SocketAction Worker Bool}
    (onFirst : HeadsOnly first)
    (onSecond : HeadsOnly second) :
    HeadsOnly (first <&&> second) := by
  refine bind onFirst fun result => ?_
  cases result
  · exact pure _
  · exact onSecond

theorem orM
    {first second : SocketAction Worker Bool}
    (onFirst : HeadsOnly first)
    (onSecond : HeadsOnly second) :
    HeadsOnly (first <||> second) := by
  refine bind onFirst fun result => ?_
  cases result
  · exact onSecond
  · exact pure _

theorem act
    {value : OsAnswer → SocketView Worker → α}
    {next : OsAnswer → SocketView Worker → SocketView Worker}
    (sameValue : ∀ input v, value input v.heads = value input v)
    (sameNext : ∀ input v, next input v.heads = (next input v).heads)
    (keeps :
      ∀ input (v : SocketView Worker), v.KeepsLists (next input v)) :
    HeadsOnly (Program.act value next) := by
  intro input v
  refine
    ⟨congrArg some (sameNext input v), ?_,
      congrArg Program.done (sameValue input v), trivial⟩
  rintro v' taken
  cases taken
  exact keeps input v

theorem ask
    {value : OsAnswer → SocketView Worker → α}
    (sameValue : ∀ input v, value input v.heads = value input v) :
    HeadsOnly (Program.ask value) := by
  intro input v
  refine ⟨rfl, ?_, congrArg Program.done (sameValue input v), trivial⟩
  rintro v' taken
  cases taken
  exact .refl v

theorem check
    (condition : Prop)
    [Decidable condition] :
    HeadsOnly (Program.check condition : SocketAction Worker Unit) := by
  intro input v
  dsimp only
  split
  · refine ⟨rfl, ?_, rfl, trivial⟩
    rintro v' taken
    cases taken
    exact .refl v
  · refine ⟨rfl, ?_, rfl, trivial⟩
    rintro v' taken
    cases taken

section Helpers

theorem isEmpty_take
    (list : List WriteBuffer) :
    (list.take 1).isEmpty = list.isEmpty := by
  cases list <;> rfl

theorem loadHigh :
    HeadsOnly (load (·.high.isEmpty) : SocketAction Worker Bool) :=
  ask fun _ v => isEmpty_take v.sock.high

theorem loadLow :
    HeadsOnly (load (·.low.isEmpty) : SocketAction Worker Bool) :=
  ask fun _ v => isEmpty_take v.sock.low

/-- Changes of fields other than the lists and the protocol. -/
theorem store
    {change : Socket Worker → Socket Worker}
    (same :
      ∀ v : SocketView Worker,
        ({ v.heads with sock := change v.heads.sock } : SocketView Worker) =
          SocketView.heads { v with sock := change v.sock })
    (keeps :
      ∀ v : SocketView Worker,
        v.KeepsLists { v with sock := change v.sock }) :
    HeadsOnly (SkynetCpp.store change) :=
  act (fun _ _ => rfl) (fun _ v => same v) fun _ v => keeps v

theorem sendBufferEmpty :
    HeadsOnly (@SkynetCpp.sendBufferEmpty Worker) :=
  andM loadHigh loadLow

theorem canDirectWrite
    (id : Int32) :
    HeadsOnly (@SkynetCpp.canDirectWrite Worker id) :=
  andM (ask fun _ _ => rfl)
    (andM
      (orM
        (andM sendBufferEmpty
          (andM (ask fun _ _ => rfl) (ask fun _ _ => rfl)))
        (ask fun _ _ => rfl))
      (andM (ask fun _ _ => rfl) (ask fun _ _ => rfl)))

theorem socketTrylock
    (caller : Caller Worker) :
    HeadsOnly (SkynetCpp.socketTrylock caller) := by
  refine act (fun _ _ => rfl) (fun _ v => ?_) fun _ v => ?_
  · cases isLocked : v.sock.dw_lock <;> simp [SocketView.heads, isLocked]
  · split
    · exact ⟨rfl, rfl, rfl, rfl, rfl⟩
    · exact .refl v

theorem socketLock
    (caller : Caller Worker)
    (count : Nat) :
    HeadsOnly (SkynetCpp.socketLock caller count) := by
  refine ite (bind ?_ fun _ => pure _) (pure _)
  intro input v
  refine ⟨?_, ?_, rfl, trivial⟩
  · cases isLocked : v.sock.dw_lock <;> simp [SocketView.heads, isLocked]
  · intro v' taken
    dsimp only at taken
    split at taken
    · cases taken
      exact ⟨rfl, rfl, rfl, rfl, rfl⟩
    · cases taken

theorem socketUnlock
    (count : Nat) :
    HeadsOnly (@SkynetCpp.socketUnlock Worker count) :=
  ite (store (fun _ => rfl) fun _ => ⟨rfl, rfl, rfl, rfl, rfl⟩) (pure _)

theorem socketMessage
    (ud : Int32)
    (data : MessageData) :
    HeadsOnly (@SkynetCpp.socketMessage Worker ud data) :=
  ask fun _ _ => rfl

theorem reportError
    (err : String) :
    HeadsOnly (@SkynetCpp.reportError Worker err) :=
  bind (socketMessage _ _) fun _ => pure _

theorem enableWrite
    (enable : Bool) :
    HeadsOnly (@SkynetCpp.enableWrite Worker enable) :=
  act (fun _ _ => rfl) (fun _ _ => rfl) fun _ _ => ⟨rfl, rfl, rfl, rfl, rfl⟩

theorem listUncomplete
    (priority : Priority) :
    HeadsOnly (@SkynetCpp.listUncomplete Worker priority) := by
  refine ask fun _ v => ?_
  cases priority
  · cases shape : v.sock.high <;>
      simp [SocketView.heads, Socket.list, shape]
  · cases shape : v.sock.low <;>
      simp [SocketView.heads, Socket.list, shape]

theorem warnSocket :
    HeadsOnly (@SkynetCpp.warnSocket Worker) := by
  refine bind (ask fun _ _ => rfl) fun wb_size => ?_
  refine bind (ask fun _ _ => rfl) fun warn_size => ite ?_ (pure _)
  exact bind (store (fun _ => rfl) fun _ => ⟨rfl, rfl, rfl, rfl, rfl⟩)
    fun _ => trivial

theorem getUdpAddress :
    HeadsOnly (@SkynetCpp.getUdpAddress Worker) := by
  refine bind (ask fun _ _ => rfl) fun p => ?_
  cases p
  · exact bind (check _) fun _ => pure _
  · exact pure _

theorem writeDirectly
    (buffer : SocketSendbuffer) :
    HeadsOnly (@SkynetCpp.writeDirectly Worker buffer) := by
  refine bind (ask fun _ _ => rfl) fun _ => ite (bind ?_ fun _ => pure _) ?_
  · refine act (fun _ _ => rfl) (fun input v => ?_) fun input v => ?_
    · dsimp only
      split <;> rfl
    · dsimp only
      split <;> exact ⟨rfl, rfl, rfl, rfl, rfl⟩
  · refine bind getUdpAddress fun _ => bind (ask fun _ _ => rfl) fun _ => ?_
    refine ite (pure _) (bind (ask fun _ _ => rfl) fun _ => ite (pure _) ?_)
    refine bind (store (fun _ => rfl) fun _ => ⟨rfl, rfl, rfl, rfl, rfl⟩) ?_
    exact fun _ => pure _

theorem sendDirect
    (caller : Caller Worker)
    (buffer : SocketSendbuffer) :
    HeadsOnly (SkynetCpp.sendDirect caller buffer) := by
  refine bind (andM (canDirectWrite _) (socketTrylock _)) fun locked => ?_
  refine ite (bind (canDirectWrite _) fun may => ite ?_ ?_) (pure _)
  · refine bind (writeDirectly _) fun left => bind (socketUnlock _) fun _ => ?_
    cases left <;> exact pure _
  · exact bind (socketUnlock _) fun _ => pure _

end Helpers

end HeadsOnly

/-- Code that looks no further than at the first nodes does the same. -/
theorem simulates_onSocket
    {action : SocketAction Worker α}
    (headsOnly : HeadsOnly action) :
    (onSocket action).Simulates LinkedView.Shows action := by
  induction action with
  | done result =>
      rfl
  | crash =>
      trivial
  | step next rest inductionHypothesis =>
      intro input l v shows_
      obtain ⟨sameNext, keeps, sameRest, later⟩ := headsOnly input v
      dsimp only
      rw [shows_.view_eq, sameNext, sameRest]
      refine ⟨?_, inductionHypothesis input v later⟩
      cases taken : next input v with
      | none =>
          simp
      | some v' =>
          simpa using shows_.put (keeps v' taken)

end HeadsOnly

section Listed

/-- Writing a node that is not listed changes no listed node. -/
theorem map_update_of_not_mem
    {node : Nat → WriteBuffer}
    {tmp : Nat}
    {tmps : List Nat}
    {written : WriteBuffer}
    (absent : tmp ∉ tmps) :
    tmps.map (Function.update node tmp written) = tmps.map node := by
  refine List.map_congr_left fun other isMember => ?_
  refine Function.update_of_ne ?_ ..
  rintro rfl
  exact absent isMember

variable
    {l : LinkedView Worker}
    {nodes : Priority → List Nat}
    {priority : Priority}

namespace LinkedView.Listed

/-- What a first node points to ends the list exactly when it is the last. -/
theorem next_eq_none_iff
    (listed : l.Listed nodes)
    {tmp : Nat}
    {rest : List Nat}
    (starts : nodes priority = tmp :: rest) :
    l.next tmp = none ↔ rest = [] := by
  have chain := listed.chains.chain priority
  rw [starts] at chain
  cases rest with
  | nil =>
      exact ⟨fun _ => rfl, fun _ => chain.2⟩
  | cons later rest =>
      have points : l.next tmp = some later := chain.2.1
      simp [points]

/-- Where the lists end after the first node of one was taken off. -/
theorem tail_pop
    (listed : l.Listed nodes)
    {tmp : Nat}
    {rest : List Nat}
    (starts : nodes priority = tmp :: rest)
    (other : Priority) :
    (if l.next tmp = none then Function.update l.tail priority none
      else l.tail) other =
      (Function.update nodes priority rest other).getLast? := by
  by_cases same : other = priority
  · subst same
    rw [Function.update_self]
    have isTail := listed.tail other
    cases rest with
    | nil =>
        simp [(listed.next_eq_none_iff starts).mpr rfl]
    | cons later rest =>
        have notLast : l.next tmp ≠ none := by
          simp [listed.next_eq_none_iff starts]
        rw [if_neg notLast, isTail, starts, List.getLast?_cons_cons]
  · rw [Function.update_of_ne same, ← listed.tail other]
    split
    · exact Function.update_of_ne same ..
    · rfl

theorem mem_of_update
    {tmp other : Nat}
    {rest : List Nat}
    {owner : Priority}
    (starts : nodes priority = tmp :: rest)
    (isMember : other ∈ Function.update nodes priority rest owner) :
    other ∈ nodes owner := by
  by_cases same : owner = priority
  · subst same
    rw [Function.update_self] at isMember
    rw [starts]
    exact List.mem_cons_of_mem _ isMember
  · rwa [Function.update_of_ne same] at isMember

/-- The first node of a list is taken off. -/
theorem pop
    (listed : l.Listed nodes)
    {tmp : Nat}
    {rest : List Nat}
    (starts : nodes priority = tmp :: rest)
    (sock : Socket Worker)
    (notes : List SocketNote) :
    LinkedView.Listed
      { l with
        sock := sock
        notes := notes
        head := Function.update l.head priority (l.next tmp)
        tail :=
          if l.next tmp = none then Function.update l.tail priority none
          else l.tail }
      (Function.update nodes priority rest) where
  chains := listed.chains.detach starts
  tail := listed.tail_pop starts
  below owner other isMember :=
    listed.below owner other (mem_of_update starts isMember)

/-- A node that was not allocated is in no list. -/
theorem unowned
    (listed : l.Listed nodes) :
    Unowned nodes l.used := by
  intro owner isMember
  exact Nat.lt_irrefl _ (listed.below owner _ isMember)

/-- Allocating a node changes no list. -/
theorem allocate
    (listed : l.Listed nodes)
    (node : WriteBuffer)
    (next : Option Nat) :
    (l.allocate node next).Listed nodes where
  chains := listed.chains.update_next listed.unowned next
  tail := listed.tail
  below owner tmp isMember :=
    Nat.lt_succ_of_lt (listed.below owner tmp isMember)

/-- What the nodes hold after an allocation. -/
theorem map_allocate
    (listed : l.Listed nodes)
    (node : WriteBuffer)
    (owner : Priority) :
    (nodes owner).map (Function.update l.node l.used node) =
      (nodes owner).map l.node :=
  map_update_of_not_mem (listed.unowned owner)

/-- The list of a pointer that is null has no last node. -/
theorem tail_eq_none_of_head
    (listed : l.Listed nodes)
    (isNull : l.head priority = none) :
    nodes priority = [] :=
  listed.chains.head_eq_none_iff.mp isNull

/-- A new node is put in front of a list. -/
theorem push
    (listed : l.Listed nodes)
    (node : WriteBuffer)
    (sock : Socket Worker) :
    LinkedView.Listed
      { l.allocate node (l.head priority) with
        head := Function.update l.head priority (some l.used)
        tail :=
          if l.head priority = none then
            Function.update l.tail priority (some l.used)
          else l.tail
        sock := sock }
      (Function.update nodes priority (l.used :: nodes priority)) where
  chains :=
    (listed.allocate node (l.head priority)).chains.pushFront listed.unowned
      (by simp [LinkedView.allocate])
  tail owner := by
    by_cases same : owner = priority
    · subst same
      rw [Function.update_self]
      by_cases isNull : l.head owner = none
      · simp [isNull, listed.tail_eq_none_of_head isNull]
      · obtain ⟨tmp, starts⟩ := Option.ne_none_iff_exists'.mp isNull
        obtain ⟨rest, shape⟩ := listed.chains.exists_eq_cons starts
        rw [if_neg isNull, listed.tail, shape, List.getLast?_cons_cons]
    · rw [Function.update_of_ne same, ← listed.tail owner]
      split
      · exact Function.update_of_ne same ..
      · rfl
  below owner tmp isMember := by
    by_cases same : owner = priority
    · subst same
      rw [Function.update_self] at isMember
      rcases List.mem_cons.mp isMember with rfl | isOld
      · exact Nat.lt_succ_self l.used
      · exact Nat.lt_succ_of_lt (listed.below owner tmp isOld)
    · rw [Function.update_of_ne same] at isMember
      exact Nat.lt_succ_of_lt (listed.below owner tmp isMember)

/-- A new node is put behind a list: what is asserted about `tail` holds. -/
theorem append
    (listed : l.Listed nodes)
    (priority : Priority)
    (request : RequestSend Buffer) :
    ∃ l',
      Linked.append priority request l = some l' ∧
        l'.Listed
          (Function.update nodes priority (nodes priority ++ [l.used])) ∧
        l'.node = Function.update l.node l.used (appendNode request) ∧
        l'.index = l.index ∧
        l'.c_str = l.c_str ∧
        l'.notes = l.notes ∧
        l'.sock = l.sock := by
  have allocated := listed.allocate (appendNode request) none
  have below :
      ∀ owner,
        ∀ tmp ∈ Function.update nodes priority (nodes priority ++ [l.used])
          owner,
          tmp < l.used + 1 := by
    intro owner tmp isMember
    by_cases same : owner = priority
    · subst same
      rw [Function.update_self] at isMember
      rcases List.mem_append.mp isMember with isOld | isNew
      · exact Nat.lt_succ_of_lt (listed.below owner tmp isOld)
      · exact List.mem_singleton.mp isNew ▸ Nat.lt_succ_self _
    · rw [Function.update_of_ne same] at isMember
      exact Nat.lt_succ_of_lt (listed.below owner tmp isMember)
  have isTail :
      ∀ owner,
        Function.update l.tail priority (some l.used) owner =
          (Function.update nodes priority (nodes priority ++ [l.used])
            owner).getLast? := by
    intro owner
    by_cases same : owner = priority
    · subst same
      simp
    · rw [Function.update_of_ne same, Function.update_of_ne same]
      exact listed.tail owner
  unfold Linked.append
  cases starts : l.head priority with
  | none =>
      have isNil := listed.tail_eq_none_of_head starts
      refine ⟨_, rfl, ⟨?_, isTail, below⟩, rfl, rfl, rfl, rfl, rfl⟩
      have pushed :=
        allocated.chains.pushFront listed.unowned
          (show _ = l.head priority by simp [LinkedView.allocate, starts])
      rw [isNil] at pushed
      rw [isNil]
      exact pushed
  | some first =>
      obtain ⟨rest, shape⟩ := listed.chains.exists_eq_cons starts
      obtain ⟨last, ends⟩ :
          ∃ last, (nodes priority).getLast? = some last := by
        rw [shape]
        exact ⟨_, List.getLast?_cons ..⟩
      obtain ⟨earlier, isLast⟩ := List.getLast?_eq_some_iff.mp ends
      have endsNull : l.next last = none := by
        have chain := listed.chains.chain priority
        rw [isLast] at chain
        exact chain.next_last
      rw [listed.tail priority, ends]
      dsimp only
      rw [if_pos endsNull]
      refine ⟨_, rfl, ⟨?_, isTail, below⟩, rfl, rfl, rfl, rfl, rfl⟩
      exact
        allocated.chains.append listed.unowned
          (by simp [LinkedView.allocate]) ends

/-- The first node of the low list is all that is left of the high list. -/
theorem raise
    (listed : l.Listed nodes) :
    (Linked.raise l).Listed
      (Function.update
        (Function.update nodes .low ((nodes .low).drop 1))
        .high ((nodes .low).take 1)) := by
  cases shape : nodes .low with
  | nil =>
      have isNull := listed.chains.head_eq_none shape
      refine ⟨?_, ?_, ?_⟩
      · simpa [Linked.raise, isNull] using
          (listed.chains.clear .low).clear .high
      · rintro (_ | _) <;> simp [Linked.raise, isNull]
      · rintro (_ | _) tmp isMember <;> simp at isMember
  | cons tmp rest =>
      have starts := listed.chains.head_eq_some shape
      have taken := listed.chains.detach shape
      have unowned :
          Unowned
            (Function.update (Function.update nodes .low rest) .high []) tmp := by
        intro owner isMember
        by_cases same : owner = .high
        · subst same
          simp at isMember
        · rw [Function.update_of_ne same] at isMember
          exact listed.chains.unowned_of_detach shape owner isMember
      have raised :=
        ((taken.clear .high).update_next unowned none).pushFront unowned
          (show Function.update l.next tmp none tmp =
              Function.update
                (Function.update l.head .low (l.next tmp)) .high none .high by
            simp)
      refine ⟨?_, ?_, ?_⟩
      · simpa [Linked.raise, starts] using raised
      · rintro (_ | _)
        · simp [Linked.raise, starts]
        · have isTail := listed.tail_pop shape .low
          simpa [Linked.raise, starts] using isTail
      · rintro (_ | _) other isMember
        · obtain rfl : other = tmp := by simpa using isMember
          exact listed.below .low other (by simp [shape])
        · refine listed.below .low other ?_
          rw [shape]
          exact List.mem_cons_of_mem _ (by simpa using isMember)

/-- Counting the nodes of a list gives their number. -/
theorem count_eq
    (listed : l.Listed nodes) :
    l.count l.used (l.head priority) = (nodes priority).length := by
  have counted :
      ∀ (tmps : List Nat) (start : Option Nat) (most : Nat),
        Chain l.next start tmps →
        tmps.length ≤ most →
        l.count most start = tmps.length := by
    intro tmps
    induction tmps with
    | nil =>
        intro start most chain _
        obtain rfl : start = none := chain
        cases most <;> rfl
    | cons tmp rest inductionHypothesis =>
        intro start most chain enough
        obtain ⟨rfl, later⟩ := chain
        cases most with
        | zero =>
            simp at enough
        | succ most =>
            have rest_eq :=
              inductionHypothesis (l.next tmp) most later (by simpa using enough)
            simp [LinkedView.count, rest_eq]
  refine counted _ _ _ (listed.chains.chain priority) ?_
  have isSubset : (nodes priority).toFinset ⊆ Finset.range l.used := by
    intro tmp isMember
    exact Finset.mem_range.mpr
      (listed.below priority tmp (List.mem_toFinset.mp isMember))
  have bounded := Finset.card_le_card isSubset
  rwa [List.toFinset_card_of_nodup (listed.chains.noDuplicates priority),
    Finset.card_range] at bounded

end LinkedView.Listed

end Listed

section Refines

/-- Code on lists in memory does what code on plain lists does. -/
abbrev Refines
    (linked : LinkedAction Worker α)
    (plain : SocketAction Worker α) : Prop :=
  linked.Simulates LinkedView.Shows plain

namespace Refines

theorem bind
    {linked : LinkedAction Worker α}
    {plain : SocketAction Worker α}
    {after : α → LinkedAction Worker β}
    {after' : α → SocketAction Worker β}
    (first : Refines linked plain)
    (second : ∀ result, Refines (after result) (after' result)) :
    Refines (linked >>= after) (plain >>= after') :=
  Program.Simulates.bind first second

theorem ite
    {condition : Prop}
    [Decidable condition]
    {first second : LinkedAction Worker α}
    {first' second' : SocketAction Worker α}
    (onFirst : Refines first first')
    (onSecond : Refines second second') :
    Refines
      (if condition then first else second)
      (if condition then first' else second') :=
  Program.Simulates.ite onFirst onSecond

theorem pure
    (result : α) :
    Refines (Pure.pure result)
      (Pure.pure result : SocketAction Worker α) :=
  rfl

theorem socket
    {action : SocketAction Worker α}
    (headsOnly : HeadsOnly action) :
    Refines (onSocket action) action :=
  simulates_onSocket headsOnly

/-- A field other than the lists. -/
theorem load
    {field : Socket Worker → α}
    (same :
      ∀ v : SocketView Worker, field v.heads.sock = field v.sock) :
    Refines (onSocket (SkynetCpp.load field)) (SkynetCpp.load field) :=
  socket (HeadsOnly.ask fun _ v => same v)

/-- The protocol of a socket with lists in memory is TCP. -/
theorem protocol
    {after : Protocol → LinkedAction Worker α}
    {after' : Protocol → SocketAction Worker α}
    (second : Refines (after .TCP) (after' .TCP)) :
    Refines
      (onSocket (SkynetCpp.load (·.protocol)) >>= after)
      (SkynetCpp.load (·.protocol) >>= after') := by
  intro input l v shows_
  have isPlain : v.sock.protocol = .TCP := by
    rw [shows_.sock]
    exact shows_.protocol
  have isLinked : l.view.sock.protocol = .TCP := shows_.protocol
  refine ⟨shows_, ?_⟩
  change
    Refines (after l.view.sock.protocol) (after' v.sock.protocol)
  rw [isPlain, isLinked]
  exact second

end Refines

variable
    {l : LinkedView Worker}
    {v : SocketView Worker}

/-- The fields of a socket besides its lists. -/
theorem LinkedView.Shows.field
    (shows_ : l.Shows v)
    (field : Socket Worker → β)
    (same :
      ∀ (sock : Socket Worker) high low,
        field { sock with high := high, low := low } = field sock) :
    field v.sock = field l.sock := by
  rw [shows_.sock, same]

/-- Nothing is run behind `data = nullptr`. -/
theorem nullData_refines
    {after : MessageData → LinkedAction Worker α}
    {after' : MessageData → SocketAction Worker α} :
    Refines (nullData >>= after) (nullData >>= after') :=
  trivial

theorem forceClose_refines
    (count : Nat) :
    Refines (@Linked.forceClose Worker count) (forceClose count) :=
  nullData_refines

theorem closeWrite_refines
    (count : Nat) :
    Refines (@Linked.closeWrite Worker count) (closeWrite count) := by
  have forced :
      Refines
        (do return some (Report.kSocketRst, ← Linked.forceClose count))
        (do return some (Report.kSocketRst, ← @forceClose Worker count)) :=
    .bind (forceClose_refines count) fun _ => .pure _
  refine .bind (.load fun _ => rfl) fun closing => .ite forced ?_
  refine .bind (.load fun _ => rfl) fun type => .ite forced (.ite ?_ ?_)
  · exact .bind (.socket (.socketMessage _ _)) fun _ => .pure _
  refine .bind (.socket ?_) fun _ => ?_
  · exact .store (fun _ => rfl) fun _ => ⟨rfl, rfl, rfl, rfl, rfl⟩
  refine .bind (.socket (.enableWrite _)) fun _ => .socket ?_
  exact .bind (.ask fun _ _ => rfl) fun _ => .reportError _

/-- Writing the first node in memory writes the first node of the list. -/
theorem LinkedView.Shows.wrote
    {priority : Priority}
    {nodes : Priority → List Nat}
    {tmp : Nat}
    {rest : List Nat}
    (shows_ : l.Shows v)
    (listed : l.Listed nodes)
    (same : ∀ priority, v.sock.list priority = (nodes priority).map l.node)
    (starts : nodes priority = tmp :: rest)
    (n : Nat)
    (notes : List SocketNote) :
    LinkedView.Shows
      { Linked.wrote l priority tmp n with notes := notes }
      { v with
        sock := v.sock.wrote priority (l.node tmp) (rest.map l.node) n
        notes := notes } := by
  have isSize : v.sock.wb_size = l.sock.wb_size :=
    shows_.field Socket.wb_size fun _ _ _ => rfl
  by_cases isAll : n = (l.node tmp).sz
  · have popped :=
      listed.pop starts
        { l.sock with wb_size := l.sock.wb_size - sizeOfBytes n } notes
    simp only [Linked.wrote, Socket.wrote, isAll, if_true]
    refine ⟨shows_.index, shows_.c_str, rfl, ?_, shows_.protocol, ?_⟩
    · rw [isSize]
      cases priority <;>
        simp only [Socket.setList] <;> rw [shows_.sock]
    · rw [isAll] at popped
      refine ⟨_, popped, fun other => ?_⟩
      cases priority <;> cases other <;>
        simp [Socket.list, Socket.setList, ← same, Function.update]
  · simp only [Linked.wrote, Socket.wrote, isAll, if_false]
    refine ⟨shows_.index, shows_.c_str, rfl, ?_, shows_.protocol, ?_⟩
    · rw [isSize]
      cases priority <;>
        simp only [Socket.setList] <;> rw [shows_.sock]
    · refine
        ⟨nodes, ⟨listed.chains, listed.tail, listed.below⟩, fun other => ?_⟩
      have noDuplicates := listed.chains.noDuplicates priority
      rw [starts] at noDuplicates
      have notRest : tmp ∉ rest := (List.nodup_cons.mp noDuplicates).1
      by_cases isOther : other = priority
      · subst isOther
        simp only [starts, List.map_cons, Function.update_self,
          map_update_of_not_mem notRest]
        cases other <;> rfl
      · have notOther : tmp ∉ nodes other := fun isMember =>
          isOther (listed.chains.apart isMember (by simp [starts]))
        simp only [map_update_of_not_mem notOther, ← same other]
        cases priority <;> cases other <;>
          first | rfl | exact (isOther rfl).elim

theorem writeHead_refines
    (priority : Priority) :
    Refines
      (@Linked.writeHead Worker priority) (writeHead priority) := by
  refine Program.Simulates.act ?_ ?_
  · intro input l v shows_
    obtain ⟨nodes, listed, same⟩ := shows_.lists
    cases shape : nodes priority with
    | nil =>
        simp [same, shape, listed.chains.head_eq_none shape]
    | cons tmp rest =>
        simp [same, shape, listed.chains.head_eq_some shape]
  · intro input l v shows_
    obtain ⟨nodes, listed, same⟩ := shows_.lists
    cases shape : nodes priority with
    | nil =>
        simp only [same, shape, listed.chains.head_eq_none shape,
          List.map_nil]
        have isTail : l.tail priority = none := by
          simp [listed.tail, shape]
        have sameTail : Function.update l.tail priority none = l.tail := by
          rw [← isTail, Function.update_eq_self]
        rw [sameTail]
        exact shows_
    | cons tmp rest =>
        simp only [same, shape, listed.chains.head_eq_some shape,
          List.map_cons]
        split
        · split
          · exact shows_
          · exact
              ⟨shows_.index, shows_.c_str, rfl, shows_.sock, shows_.protocol,
                nodes, ⟨listed.chains, listed.tail, listed.below⟩, same⟩
        · exact shows_.wrote listed same shape _ _

theorem sendListTCPLoop_refines
    (priority : Priority)
    (count nodes : Nat) :
    Refines
      (@Linked.sendListTCPLoop Worker priority count nodes)
      (sendListTCPLoop priority count nodes) := by
  induction nodes with
  | zero =>
      exact .pure _
  | succ nodes inductionHypothesis =>
      refine .bind (writeHead_refines priority) fun written => ?_
      cases written with
      | empty | part =>
          exact .pure _
      | failed =>
          exact closeWrite_refines count
      | all =>
          exact inductionHypothesis

theorem sendList_refines
    (priority : Priority)
    (count : Nat) :
    Refines
      (@Linked.sendList Worker priority count) (sendList priority count) := by
  refine .protocol ?_
  simp only [if_true]
  refine .bind (Program.Simulates.ask fun _ l v shows_ => ?_) fun nodes =>
    sendListTCPLoop_refines priority count nodes
  obtain ⟨nodes, listed, same⟩ := shows_.lists
  simp only [listed.count_eq, same priority, List.length_map]

theorem raiseUncomplete_refines :
    Refines (@Linked.raiseUncomplete Worker) raiseUncomplete := by
  refine .bind (.socket .loadHigh) fun empty => ?_
  refine .bind (Program.Simulates.check _) fun _ => ?_
  refine Program.Simulates.act (fun _ _ _ _ => rfl) fun _ l v shows_ => ?_
  obtain ⟨nodes, listed, same⟩ := shows_.lists
  have isLow : v.sock.low = (nodes .low).map l.node := same .low
  refine
    ⟨shows_.index, shows_.c_str, shows_.notes, ?_, shows_.protocol, _,
      listed.raise, ?_⟩
  · rw [shows_.sock]
    rfl
  · rintro (_ | _) <;>
      simp [Socket.list, Linked.raise, isLow, List.map_take]

theorem sentBuffer_refines
    (count : Nat) :
    Refines (@Linked.sentBuffer Worker count) (sentBuffer count) := by
  refine .bind (.load fun v => ?_) fun empty => ?_
  · simp [SocketView.heads, HeadsOnly.isEmpty_take]
  refine .bind (Program.Simulates.check _) fun _ => ?_
  refine .bind (.load fun _ => rfl) fun closing => .ite ?_ ?_
  · exact .bind (forceClose_refines count) fun _ => .pure _
  refine .bind (.socket (.enableWrite _)) fun failed => .ite ?_ ?_
  · exact .socket (.reportError _)
  refine .bind (.load fun _ => rfl) fun warn_size => .ite ?_ (.pure _)
  exact .bind
    (.socket
      (.store (fun _ => rfl) fun _ => ⟨rfl, rfl, rfl, rfl, rfl⟩))
    fun _ => nullData_refines

theorem afterList_refines
    {rest : LinkedAction Worker Outcome}
    {rest' : SocketAction Worker Outcome}
    (goesOn : Refines rest rest')
    (outcome : Outcome) :
    Refines (@Linked.afterList Worker outcome rest) (afterList outcome rest') := by
  match outcome with
  | none =>
      exact goesOn
  | some (report, message) =>
      cases report <;> exact .pure _

theorem sentLow_refines
    (count : Nat) :
    Refines (@Linked.sentLow Worker count) (sentLow count) := by
  refine .bind (.socket (.listUncomplete _)) fun uncomplete => .ite ?_ ?_
  · exact .bind raiseUncomplete_refines fun _ => .pure _
  · exact .bind (.socket .loadLow) fun empty =>
      .ite (sentBuffer_refines count) (.pure _)

theorem sentHigh_refines
    (count : Nat) :
    Refines (@Linked.sentHigh Worker count) (sentHigh count) := by
  refine .bind (.socket .loadHigh) fun empty => .ite ?_ (.pure _)
  refine .bind (.socket .loadLow) fun empty => ?_
  refine .ite (sentBuffer_refines count) ?_
  exact .bind (sendList_refines .low count)
    (afterList_refines (sentLow_refines count))

theorem sendBufferLocked_refines
    (count : Nat) :
    Refines
      (@Linked.sendBuffer_ Worker count) (sendBuffer_ count) := by
  refine .bind (.socket (.listUncomplete _)) fun uncomplete => ?_
  refine .bind (Program.Simulates.check _) fun _ => ?_
  exact .bind (sendList_refines .high count)
    (afterList_refines (sentHigh_refines count))

/-- What a direct write left joins the high list in memory as well. -/
theorem LinkedView.Shows.raiseDirect
    (shows_ : l.Shows v) :
    (Linked.raiseDirect l).Shows { v with sock := raiseDirect v.sock } := by
  obtain ⟨nodes, listed, same⟩ := shows_.lists
  have sameBuffer : v.sock.dw_buffer = l.sock.dw_buffer :=
    shows_.field Socket.dw_buffer fun _ _ _ => rfl
  have sameNode : directNode v.sock = directNode l.sock :=
    shows_.field directNode fun _ _ _ => rfl
  have sameSize : v.sock.wb_size = l.sock.wb_size :=
    shows_.field Socket.wb_size fun _ _ _ => rfl
  unfold Linked.raiseDirect SkynetCpp.raiseDirect
  rw [sameBuffer]
  split
  · rw [sameNode, sameSize]
    refine
      ⟨shows_.index, shows_.c_str, shows_.notes, ?_, shows_.protocol, _,
        listed.push (directNode l.sock) _, ?_⟩
    · rw [shows_.sock]
    · have isHigh : v.sock.high = (nodes .high).map l.node := same .high
      have isLow : v.sock.low = (nodes .low).map l.node := same .low
      rintro (_ | _)
      · simp [Socket.list, LinkedView.allocate, listed.map_allocate, isHigh]
      · simp [Socket.list, LinkedView.allocate, listed.map_allocate, isLow]
  · exact shows_

theorem sendBuffer_refines :
    Refines (@Linked.sendBuffer Worker) sendBuffer := by
  refine .bind (.socket (.socketTrylock _)) fun locked => .ite ?_ (.pure _)
  refine .bind ?_ fun _ => ?_
  · exact Program.Simulates.act (fun _ _ _ _ => rfl)
      fun _ _ _ shows_ => shows_.raiseDirect
  refine .bind (sendBufferLocked_refines 1) fun r => ?_
  exact .bind (.socket (.socketUnlock _)) fun _ => .pure _

/-- A pointer that was never set is the same on both sides. -/
theorem useUnset_refines :
    Refines (@useUnset (LinkedView Worker)) useUnset :=
  .bind (Program.Simulates.ask fun _ _ _ _ => rfl) fun _ =>
    .ite (.pure _) trivial

/-- What `AppendSendbuffer_` asserts holds, and the node joins the list. -/
theorem appendSendbuffer_refines
    (priority : Priority)
    (request : RequestSend Buffer) :
    Refines
      (@Linked.appendSendbuffer Worker priority request)
      (appendSendbuffer priority request) := by
  refine .bind useUnset_refines fun _ => ?_
  refine Program.Simulates.attempt_act (fun _ _ _ _ => rfl) ?_
  intro _ l v shows_
  obtain ⟨nodes, listed, same⟩ := shows_.lists
  obtain ⟨l', appended, listed', sameNode, sameIndex, sameStr, sameNotes,
    sameSock⟩ := listed.append priority request
  have sameSize : v.sock.wb_size = l.sock.wb_size :=
    shows_.field Socket.wb_size fun _ _ _ => rfl
  refine ⟨_, by rw [appended]; rfl, ?_⟩
  refine
    ⟨shows_.index.trans sameIndex.symm, shows_.c_str.trans sameStr.symm,
      shows_.notes.trans sameNotes.symm, ?_, ?_, _,
      ⟨listed'.chains, listed'.tail, listed'.below⟩, ?_⟩
  · simp only [sameSock, Socket.append, sameSize]
    cases priority <;>
      simp only [Socket.setList] <;> rw [shows_.sock]
  · simpa only [sameSock] using shows_.protocol
  · intro other
    have isList := same other
    cases priority <;> cases other <;>
      simp_all [Socket.list, Socket.setList, Socket.append,
        listed.map_allocate]

theorem sendSocketEmpty_refines
    (request : RequestSend Buffer)
    (priority : Priority) :
    Refines
      (@Linked.sendSocketEmpty Worker request)
      (sendSocketEmpty request priority none) := by
  refine .protocol ?_
  simp only [if_true]
  refine .bind (appendSendbuffer_refines .high request) fun _ => ?_
  refine .bind (.socket (.enableWrite _)) fun failed => .ite ?_ ?_
  · exact .socket (.reportError _)
  · exact .socket .warnSocket

theorem sendSocketMore_refines
    (request : RequestSend Buffer)
    (priority : Priority) :
    Refines
      (@Linked.sendSocketMore Worker request priority)
      (sendSocketMore request priority none) := by
  refine .protocol ?_
  simp only [ne_eq, not_true_eq_false, false_and, if_false]
  refine .bind (appendSendbuffer_refines priority request) fun _ => ?_
  exact .socket .warnSocket

theorem sendSocket_refines
    (request : RequestSend Buffer)
    (priority : Priority) :
    Refines
      (@Linked.sendSocket Worker request priority)
      (sendSocket request priority none) := by
  refine .bind (.load fun _ => rfl) fun type => .ite (.pure _) ?_
  refine .bind (.load fun _ => rfl) fun id => .ite (.pure _) ?_
  refine .ite (.pure _) (.ite (.pure _) ?_)
  refine .bind (.load fun _ => rfl) fun closing => .ite (.pure _) ?_
  refine .ite (.pure _) (.bind (.socket .sendBufferEmpty) fun empty => ?_)
  exact .ite (sendSocketEmpty_refines request priority)
    (sendSocketMore_refines request priority)

/-- All threads do on lists in memory what they do on plain lists. -/
theorem linkedThreads_refines
    (thread : Caller Worker)
    (call : WriteCall) :
    Refines (linkedThreads thread call) (writeThreads thread call) := by
  match thread, call with
  | .socketThread, .SendSocket request priority =>
      exact .bind (sendSocket_refines request priority) fun _ => .pure _
  | .socketThread, .SendBuffer =>
      refine .bind (.load fun _ => rfl) fun type => .ite ?_ (.pure _)
      exact .bind sendBuffer_refines fun _ => .pure _
  | .worker worker, .Send buffer =>
      exact .bind (.socket (.sendDirect _ _)) fun _ => .pure _
  | .socketThread, .Send _
  | .worker _, .SendSocket _ _
  | .worker _, .SendBuffer =>
      exact .pure _

end Refines

end SkynetCpp
