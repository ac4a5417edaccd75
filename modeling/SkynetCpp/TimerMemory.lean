import SkynetCpp.Foundation.Chains
import SkynetCpp.TimerLock
import SkynetCpp.TimerOrder
import SkynetCpp.TimerRace

namespace SkynetCpp

open Foundation

/-!
# The nodes of the wheel in memory

`Timeout` links a local variable into the wheel and returns, so that its memory
is used again while the node waits.  Here the lists are pointers into memory,
and `DispatchList` sends what lies there when it comes to a node.  The wheel on
plain lists describes the pointers as long as nothing writes a waiting node.
-/

/-- A `TimerNode` in memory, without its pointer. -/
structure TimerCell where
  expire : UInt32
  handle : UInt32
  session : Int
  /-- The number of the call that wrote the node; ghost state. -/
  call : Option Nat
  deriving Repr, DecidableEq

/-- A response that was handed to `ContextPush`, and in which tick. -/
structure TimerResponse where
  handle : UInt32
  message : Message
  call : Option Nat
  tick : Nat

/-- The timer, with its lists as pointers; a null `tail` is `&head`. -/
structure TimerMemory where
  node : Nat → TimerCell
  next : Nat → Option Nat
  head : TimerSlot → Option Nat
  tail : TimerSlot → Option Nat
  time : UInt32
  updating : Updating
  /-- `current` of `DispatchList`; null outside. -/
  current : Option Nat
  /-- The nodes that were linked and not dispatched; ghost state. -/
  waiting : List Nat
  /-- How often the clock was advanced. -/
  ticks : Nat
  sent : List TimerResponse

namespace TimerMemory

section Wheel

/-- A timer without nodes. -/
def start
    (node : Nat → TimerCell)
    (next : Nat → Option Nat)
    (time : UInt32) : TimerMemory where
  node := node
  next := next
  head := fun _ => none
  tail := fun _ => none
  time := time
  updating := .idle
  current := none
  waiting := []
  ticks := 0
  sent := []

/-- What lies in memory at an address. -/
def read
    (m : TimerMemory)
    (address : Nat) : TimerNode where
  address := address
  expire := (m.node address).expire
  handle := (m.node address).handle
  session := (m.node address).session

/-- Write a node. -/
def write
    (m : TimerMemory)
    (address : Nat)
    (next : Option Nat)
    (cell : TimerCell) : TimerMemory :=
  { m with
    node := Function.update m.node address cell
    next := Function.update m.next address next }

/-- `LinkClear`, without the returned pointer. -/
def linkClear
    (m : TimerMemory)
    (slot : TimerSlot) : TimerMemory :=
  { m with
    head := Function.update m.head slot none
    tail := Function.update m.tail slot none }

/-- `Link`. -/
def link
    (m : TimerMemory)
    (slot : TimerSlot)
    (address : Nat) : TimerMemory :=
  let linked :=
    match m.tail slot with
    | none => { m with head := Function.update m.head slot (some address) }
    | some last => { m with next := Function.update m.next last (some address) }
  { linked with
    tail := Function.update linked.tail slot (some address)
    next := Function.update linked.next address none
    waiting := address :: linked.waiting }

/-- `Timer::AddNode`. -/
def addNode
    (m : TimerMemory)
    (address : Nat) : TimerMemory :=
  m.link (Timer.addSlot (m.node address).expire m.time) address

/-- `Timer::MoveList` in `Update`, on whose lock `AddNode` spins. -/
def moveList
    (m : TimerMemory)
    (level idx : Nat) : Option TimerMemory :=
  match m.head (.level level idx) with
  | none => some (m.linkClear (.level level idx))
  | some _ => none

/-- `Timer::TimerShift` in `Update`. -/
def timerShift (m : TimerMemory) : Option TimerMemory :=
  let ticked := { m with time := m.time + 1, ticks := m.ticks + 1 }
  match LockedTimer.shiftTarget ticked.time with
  | some (level, idx) => ticked.moveList level idx
  | none => some ticked

/-- The near list that `Execute` looks at. -/
def currentSlot (m : TimerMemory) : TimerSlot :=
  .near (m.time &&& TIME_NEAR_MASK).toNat

/-- The body of the loop in `Execute`, as far as `DispatchList`. -/
def detach
    (m : TimerMemory)
    (updating : Updating) : TimerMemory :=
  { m.linkClear m.currentSlot with
    updating := updating
    current := m.head m.currentSlot }

/-- The second `Execute` of `Update`, from its test on. -/
def executeDue (m : TimerMemory) : TimerMemory :=
  match m.head m.currentSlot with
  | none => { m with updating := .idle }
  | some _ => m.detach .due

/-- `ContextPush` of a response. -/
def push
    (m : TimerMemory)
    (handle : UInt32)
    (message : Message)
    (call : Option Nat) : TimerMemory :=
  { m with
    sent :=
      m.sent ++
        [{ handle := handle, message := message, call := call, tick := m.ticks }] }

/--
A turn of `DispatchList`.  Its `delete` gets memory that is not from `new`; if
the process outlives that, the node is gone.
-/
def dispatch
    (m : TimerMemory)
    (address : Nat) : TimerMemory :=
  { m.push (m.node address).handle (Timer.dispatchMessage (m.read address))
      (m.node address).call with
    current := m.next address
    waiting := m.waiting.erase address }

/--
A step of `Update`: a turn of `DispatchList`, or what it does from one
acquisition of the lock to its release.
-/
def update (m : TimerMemory) : Option TimerMemory :=
  match m.current with
  | some address => some (m.dispatch address)
  | none =>
      match m.updating with
      | .idle | .early =>
          match m.head m.currentSlot with
          | none => m.timerShift.map executeDue
          | some _ => some (m.detach .early)
      | .due => some m.executeDue

/-- `Timeout`, with the address of its `timer_node` and the number of the call. -/
def timeout
    (m : TimerMemory)
    (address : Nat)
    (handle : UInt32)
    (time session : Int)
    (call : Nat) : TimerMemory :=
  if time ≤ 0 then
    m.push handle
      { source := 0
        session := session
        data := none
        sz := encodeSz 0 kPtypeResponse }
      (some call)
  else
    (m.write address (m.next address)
      { expire := UInt32.ofInt time + m.time
        handle := handle
        session := session
        call := some call }).addNode address

end Wheel

section Lists

/-- The lists, and under no slot what `DispatchList` has still to visit. -/
def heads (m : TimerMemory) : Option TimerSlot → Option Nat
  | some slot => m.head slot
  | none => m.current

/-- The wheel whose lists are the given nodes, as they lie in memory. -/
def wheel
    (m : TimerMemory)
    (nodes : Option TimerSlot → List Nat) : Timer where
  lists := fun slot => (nodes (some slot)).map m.read
  time := m.time

/-- The pointers form the given lists, and their nodes are waiting. -/
structure Holds
    (m : TimerMemory)
    (nodes : Option TimerSlot → List Nat) : Prop where
  chains : Chains m.next m.heads nodes
  tail : ∀ slot, m.tail slot = (nodes (some slot)).getLast?
  waiting : ∀ {owner address}, address ∈ nodes owner → address ∈ m.waiting

variable
    {m m' : TimerMemory}
    {nodes : Option TimerSlot → List Nat}
    {slot : TimerSlot}
    {address : Nat}

theorem holds_start
    (node : Nat → TimerCell)
    (next : Nat → Option Nat)
    (time : UInt32) :
    Holds (start node next time) fun _ => [] where
  chains :=
    { chain := fun owner => by cases owner <;> rfl
      noDuplicates := fun _ => List.nodup_nil
      apart := fun member => nomatch member }
  tail := fun _ => rfl
  waiting := fun member => nomatch member

/-- A node that is not waiting is on no list. -/
theorem Holds.unowned
    (holds : Holds m nodes)
    (free : address ∉ m.waiting) :
    Unowned nodes address :=
  fun _ member => free (holds.waiting member)

/-- The first node of a list that has none is null. -/
theorem Holds.head_eq_none
    (holds : Holds m nodes)
    (isEmpty : (m.wheel nodes).lists slot = []) :
    m.head slot = none :=
  have noNodes : nodes (some slot) = [] := List.map_eq_nil_iff.mp isEmpty
  holds.chains.head_eq_none noNodes

/-- A list whose first node is null has none. -/
theorem Holds.lists_eq_nil
    (holds : Holds m nodes)
    (isNull : m.head slot = none) :
    nodes (some slot) = [] :=
  holds.chains.head_eq_none_iff.mp isNull

/-- Writing a node that is not waiting leaves the lists alone. -/
theorem Holds.write
    (holds : Holds m nodes)
    (free : address ∉ m.waiting)
    (next : Option Nat)
    (cell : TimerCell) :
    Holds (m.write address next cell) nodes where
  chains := holds.chains.update_next (holds.unowned free) next
  tail := holds.tail
  waiting := holds.waiting

/-- What waits is not changed by writing a node that does not. -/
theorem node_write
    {other : Nat}
    (free : address ∉ m.waiting)
    (isWaiting : other ∈ m.waiting)
    (next : Option Nat)
    (cell : TimerCell) :
    (m.write address next cell).node other = m.node other :=
  Function.update_of_ne (fun same : other = address => free (same ▸ isWaiting)) _ _

/-- Writing a node that is not waiting leaves the wheel alone. -/
theorem Holds.wheel_write
    (holds : Holds m nodes)
    (free : address ∉ m.waiting)
    (next : Option Nat)
    (cell : TimerCell) :
    (m.write address next cell).wheel nodes = m.wheel nodes := by
  have same (slot : TimerSlot) :
      (nodes (some slot)).map (m.write address next cell).read =
        (nodes (some slot)).map m.read := by
    refine List.map_congr_left fun other member => ?_
    unfold read
    rw [node_write free (holds.waiting member)]
  exact congrArg (Timer.mk · m.time) (funext same)

/-- The nodes after one was linked. -/
def appended
    (nodes : Option TimerSlot → List Nat)
    (slot : TimerSlot)
    (address : Nat) : Option TimerSlot → List Nat :=
  Function.update nodes (some slot) (nodes (some slot) ++ [address])

/-- Another first node of a list. -/
theorem heads_update
    (m : TimerMemory)
    (slot : TimerSlot)
    (first : Option Nat) :
    heads { m with head := Function.update m.head slot first } =
      Function.update m.heads (some slot) first := by
  funext owner
  cases owner with
  | none =>
      rfl
  | some other =>
      by_cases same : other = slot
      · subst same
        simp [heads]
      · simp [heads, same]

/-- Another node that `DispatchList` has come to. -/
theorem heads_current
    (m : TimerMemory)
    (current : Option Nat) :
    heads { m with current := current } =
      Function.update m.heads none current := by
  funext owner
  cases owner <;> simp [heads]

/-- `Link` appends a node that is not waiting to a list. -/
theorem Holds.link
    (holds : Holds m nodes)
    (free : address ∉ m.waiting) :
    Holds (m.link slot address) (appended nodes slot address) where
  chains := by
    have unowned := holds.unowned free
    have detached := holds.chains.update_next unowned none
    have points : Function.update m.next address none address = none :=
      Function.update_self _ _ _
    have isTail := holds.tail slot
    unfold TimerMemory.link appended
    cases isLast : m.tail slot with
    | none =>
        have isEmpty : nodes (some slot) = [] :=
          List.getLast?_eq_none_iff.mp (isTail.symm.trans isLast)
        have isNull : m.heads (some slot) = none :=
          holds.chains.head_eq_none isEmpty
        have linked := detached.pushFront unowned (points.trans isNull.symm)
        rw [isEmpty, ← heads_update] at linked
        rw [isEmpty]
        exact linked
    | some last =>
        have ends : (nodes (some slot)).getLast? = some last :=
          isTail.symm.trans isLast
        have different : last ≠ address := by
          intro same
          exact unowned _ (same ▸ List.mem_of_getLast? ends)
        have linked := detached.append unowned points ends
        rw [Function.update_comm different.symm] at linked
        exact linked
  tail := by
    intro other
    have isTail : (m.link slot address).tail =
        Function.update m.tail slot (some address) := by
      unfold TimerMemory.link
      cases m.tail slot <;> rfl
    rw [isTail]
    by_cases same : other = slot
    · subst same
      simp [appended]
    · simp [appended, same, holds.tail]
  waiting := by
    intro owner other member
    have isWaiting : (m.link slot address).waiting = address :: m.waiting := by
      unfold TimerMemory.link
      cases m.tail slot <;> rfl
    rw [isWaiting, List.mem_cons]
    by_cases same : owner = some slot
    · subst same
      simp only [appended, Function.update_self, List.mem_append,
        List.mem_singleton] at member
      exact member.symm.imp_right holds.waiting
    · rw [appended, Function.update_of_ne same] at member
      exact Or.inr (holds.waiting member)

/-- `AddNode` changes pointers only. -/
theorem addNode_frame
    (m : TimerMemory)
    (address : Nat) :
    (m.addNode address).node = m.node ∧
      (m.addNode address).time = m.time ∧
      (m.addNode address).ticks = m.ticks ∧
      (m.addNode address).sent = m.sent := by
  unfold addNode link
  cases m.tail _ <;> exact ⟨rfl, rfl, rfl, rfl⟩

/-- `AddNode` of a node that is not waiting adds it to the wheel. -/
theorem wheel_addNode
    (m : TimerMemory)
    (nodes : Option TimerSlot → List Nat)
    (address : Nat) :
    (m.addNode address).wheel
        (appended nodes (Timer.addSlot (m.node address).expire m.time) address) =
      (m.wheel nodes).addNode (m.read address) := by
  obtain ⟨node, time, _, _⟩ := m.addNode_frame address
  have sameRead : (m.addNode address).read = m.read := by
    unfold read
    rw [node]
  refine congrArg₂ Timer.mk (funext fun other => ?_) time
  rw [sameRead]
  by_cases same : other = Timer.addSlot (m.node address).expire m.time
  · subst same
    rw [appended, Function.update_self, List.map_append]
    exact (if_pos rfl).symm
  · have apart :
        some other ≠ some (Timer.addSlot (m.node address).expire m.time) :=
      fun isSome => same (Option.some.inj isSome)
    rw [appended, Function.update_of_ne apart]
    exact (if_neg same).symm

/-- The nodes after a list was detached. -/
def taken
    (nodes : Option TimerSlot → List Nat)
    (slot : TimerSlot) : Option TimerSlot → List Nat :=
  Function.update (Function.update nodes (some slot) []) none
    (nodes (some slot))

@[simp] theorem taken_none
    (nodes : Option TimerSlot → List Nat)
    (slot : TimerSlot) :
    taken nodes slot none = nodes (some slot) :=
  Function.update_self _ _ _

@[simp] theorem taken_some
    (nodes : Option TimerSlot → List Nat)
    (slot other : TimerSlot) :
    taken nodes slot (some other) =
      if other = slot then [] else nodes (some other) := by
  by_cases same : other = slot
  · subst same
    simp [taken]
  · simp [taken, same]

/-- `Execute` hands the current list over to `DispatchList`. -/
theorem Holds.detach
    (holds : Holds m nodes)
    (idle : m.current = none)
    (updating : Updating) :
    Holds (m.detach updating) (taken nodes m.currentSlot) where
  chains := by
    have isEmpty : nodes none = [] := holds.chains.head_eq_none_iff.mp idle
    have sameHeads :
        (m.detach updating).heads =
          Function.update
            (Function.update m.heads (some m.currentSlot) none) none
            (m.heads (some m.currentSlot)) := by
      rw [← heads_update, ← heads_current]
      rfl
    rw [sameHeads]
    exact holds.chains.pass isEmpty
  tail := by
    intro other
    show Function.update m.tail m.currentSlot none other = _
    by_cases same : other = m.currentSlot
    · subst same
      simp
    · simp [same, holds.tail]
  waiting := by
    intro owner address member
    cases owner with
    | none =>
        rw [taken_none] at member
        exact holds.waiting member
    | some slot =>
        rw [taken_some] at member
        split at member
        · cases member
        · exact holds.waiting member

/-- What is left of the wheel is the wheel without the current list. -/
theorem wheel_detach
    (m : TimerMemory)
    (nodes : Option TimerSlot → List Nat)
    (updating : Updating) :
    (m.detach updating).wheel (taken nodes m.currentSlot) =
      (m.wheel nodes).linkClear m.currentSlot := by
  refine congrArg (Timer.mk · m.time) (funext fun other => ?_)
  rw [taken_some]
  split
  · rfl
  · rfl

/-- A turn of `DispatchList` takes the first node off. -/
theorem Holds.dispatch
    (holds : Holds m nodes)
    (isCurrent : m.current = some address) :
    ∃ rest,
      nodes none = address :: rest ∧
        Holds (m.dispatch address) (Function.update nodes none rest) := by
  have starts : m.heads none = some address := isCurrent
  obtain ⟨rest, listed⟩ := holds.chains.exists_eq_cons starts
  have gone := holds.chains.unowned_of_detach listed
  refine ⟨rest, listed, ?_, fun slot => ?_, fun {owner other} member => ?_⟩
  · have sameHeads :
        (m.dispatch address).heads =
          Function.update m.heads none (m.next address) := by
      rw [← heads_current]
      rfl
    rw [sameHeads]
    exact holds.chains.detach listed
  · rw [Function.update_of_ne (Option.some_ne_none slot)]
    exact holds.tail slot
  · have different : other ≠ address :=
      fun same => gone owner (same ▸ member)
    refine (List.mem_erase_of_ne different).mpr ?_
    cases owner with
    | none =>
        rw [Function.update_self] at member
        exact holds.waiting (listed ▸ List.mem_cons_of_mem _ member)
    | some slot =>
        rw [Function.update_of_ne (Option.some_ne_none slot)] at member
        exact holds.waiting member

/-- `TimerShift` that returns advances the clock, and has nothing to move. -/
theorem Holds.timerShift
    (holds : Holds m nodes)
    (shifted : m.timerShift = some m') :
    m' = { m with time := m.time + 1, ticks := m.ticks + 1 } ∧
      (m.wheel nodes).timerShift =
        { m.wheel nodes with time := m.time + 1 } := by
  rw [LockedTimer.timerShift_target]
  unfold TimerMemory.timerShift at shifted
  cases target : LockedTimer.shiftTarget (m.time + 1) with
  | none =>
      have isTarget :
          LockedTimer.shiftTarget ((m.wheel nodes).time + 1) = none :=
        target
      simp only [target, Option.some.injEq] at shifted
      rw [isTarget]
      exact ⟨shifted.symm, rfl⟩
  | some moved =>
      obtain ⟨level, idx⟩ := moved
      have isTarget :
          LockedTimer.shiftTarget ((m.wheel nodes).time + 1) =
            some (level, idx) :=
        target
      simp only [target, moveList] at shifted
      rw [isTarget]
      cases isNull : m.head (.level level idx) with
      | some first =>
          simp [isNull] at shifted
      | none =>
          simp only [isNull, Option.some.injEq] at shifted
          have isEmpty := holds.lists_eq_nil isNull
          have noTail : m.tail (.level level idx) = none := by
            rw [holds.tail, isEmpty]
            rfl
          constructor
          · rw [← shifted, linkClear, Function.update_eq_self_iff.mpr isNull.symm,
              Function.update_eq_self_iff.mpr noTail.symm]
          · have noNodes :
                (m.wheel nodes).lists (.level level idx) = [] :=
              List.map_eq_nil_iff.mpr isEmpty
            simp only [Timer.moveList, noNodes, List.foldl_nil]
            exact Timer.linkClear_of_nil noNodes

end Lists

section Steps

variable
    {owes owes' : Nat → TimerCell → Prop}
    {base : Nat}
    {m m' : TimerMemory}
    {address : Nat}

/--
The waiting nodes are on the wheel, or on the list that is dispatched.  A
response from what each of them holds is owed in the tick in which it is due.
-/
structure Keeps
    (owes : Nat → TimerCell → Prop)
    (base : Nat)
    (m : TimerMemory)
    (nodes : Option TimerSlot → List Nat)
    (agenda : Agenda TimerNode) : Prop where
  holds : Holds m nodes
  tracks : Timer.Tracks (m.wheel nodes) agenda
  now : agenda.now = base + m.ticks
  pending :
    ∀ entry ∈ agenda.pending,
      ∃ tick, entry.1 = base + tick ∧ owes tick (m.node entry.2.address)
  dispatching : ∀ address ∈ nodes none, owes m.ticks (m.node address)

/-- The timer keeps what is owed. -/
def Owing
    (owes : Nat → TimerCell → Prop)
    (base : Nat)
    (m : TimerMemory) : Prop :=
  ∃ nodes agenda, Keeps owes base m nodes agenda

theorem owing_start
    (node : Nat → TimerCell)
    (next : Nat → Option Nat)
    (time : UInt32) :
    Owing owes time.toNat (start node next time) :=
  ⟨fun _ => [], ⟨time.toNat, []⟩,
    { holds := holds_start node next time
      tracks := Timer.tracks_empty time
      now := rfl
      pending := fun _ member => nomatch member
      dispatching := fun _ member => nomatch member }⟩

theorem Owing.mono
    (owing : Owing owes base m)
    (more : ∀ tick cell, owes tick cell → owes' tick cell) :
    Owing owes' base m := by
  obtain ⟨nodes, agenda, keeps⟩ := owing
  refine ⟨nodes, agenda, keeps.holds, keeps.tracks, keeps.now, ?_, ?_⟩
  · intro entry member
    obtain ⟨tick, isDue, owed⟩ := keeps.pending entry member
    exact ⟨tick, isDue, more _ _ owed⟩
  · exact fun address member => more _ _ (keeps.dispatching address member)

/-- A pending node is waiting. -/
theorem Keeps.waiting
    {nodes : Option TimerSlot → List Nat}
    {agenda : Agenda TimerNode}
    (keeps : Keeps owes base m nodes agenda)
    {entry : Nat × TimerNode}
    (member : entry ∈ agenda.pending) :
    entry.2.address ∈ m.waiting := by
  obtain ⟨slot, listed⟩ :=
    keeps.tracks.sorted.exists_lists (List.mem_map_of_mem member)
  obtain ⟨address, owned, isNode⟩ := List.mem_map.mp listed
  rw [← isNode]
  exact keeps.holds.waiting owned

/-- Writing a node that is not waiting changes nothing that is owed. -/
theorem Owing.write
    (owing : Owing owes base m)
    (free : address ∉ m.waiting)
    (next : Option Nat)
    (cell : TimerCell) :
    Owing owes base (m.write address next cell) := by
  obtain ⟨nodes, agenda, keeps⟩ := owing
  refine ⟨nodes, agenda, keeps.holds.write free next cell, ?_, keeps.now, ?_, ?_⟩
  · rw [keeps.holds.wheel_write free]
    exact keeps.tracks
  · intro entry member
    obtain ⟨tick, isDue, owed⟩ := keeps.pending entry member
    refine ⟨tick, isDue, ?_⟩
    rwa [node_write free (keeps.waiting member)]
  · intro other member
    rw [node_write free (keeps.holds.waiting member)]
    exact keeps.dispatching other member

/-- A node that is linked makes its response owed. -/
theorem Owing.addNode
    (owing : Owing owes base m)
    (free : address ∉ m.waiting)
    {time : Nat}
    (positive : 0 < time)
    (short : time < 2 ^ 31)
    (isExpire : (m.node address).expire = m.time + UInt32.ofNat time)
    (owed : owes (m.ticks + time) (m.node address)) :
    Owing owes base (m.addNode address) := by
  obtain ⟨nodes, agenda, keeps⟩ := owing
  obtain ⟨sameNode, _, sameTicks, _⟩ := m.addNode_frame address
  refine ⟨appended nodes _ address, agenda.schedule time (m.read address),
    keeps.holds.link free, ?_, ?_, ?_, ?_⟩
  · rw [wheel_addNode]
    exact keeps.tracks.addNode positive short isExpire
  · rw [sameTicks]
    exact keeps.now
  · intro entry member
    rw [sameNode]
    rcases List.mem_append.mp member with wasPending | isNew
    · exact keeps.pending entry wasPending
    · rw [List.mem_singleton.mp isNew]
      refine ⟨m.ticks + time, ?_, owed⟩
      rw [keeps.now, Nat.add_assoc]
  · intro other member
    rw [sameNode, sameTicks]
    rw [appended, Function.update_of_ne (Option.some_ne_none _).symm] at member
    exact keeps.dispatching other member

/-- A response that is handed over changes nothing of the wheel. -/
theorem Owing.push
    (owing : Owing owes base m)
    (handle : UInt32)
    (message : Message)
    (call : Option Nat) :
    Owing owes base (m.push handle message call) := by
  obtain ⟨nodes, agenda, keeps⟩ := owing
  exact ⟨nodes, agenda,
    ⟨keeps.holds.chains, keeps.holds.tail, keeps.holds.waiting⟩,
    keeps.tracks, keeps.now, keeps.pending, keeps.dispatching⟩

/-- What `DispatchList` sends is owed. -/
theorem Owing.dispatch
    (owing : Owing owes base m)
    (isCurrent : m.current = some address) :
    Owing owes base (m.dispatch address) ∧ owes m.ticks (m.node address) := by
  obtain ⟨nodes, agenda, keeps⟩ := owing
  obtain ⟨rest, listed, holds⟩ := keeps.holds.dispatch isCurrent
  have owed (other : Nat) (member : other = address ∨ other ∈ rest) :
      owes m.ticks (m.node other) :=
    keeps.dispatching other (listed ▸ List.mem_cons.mpr member)
  refine ⟨⟨Function.update nodes none rest, agenda, holds, ?_, keeps.now,
    keeps.pending, ?_⟩, owed address (Or.inl rfl)⟩
  · exact keeps.tracks
  · intro other member
    rw [Function.update_self] at member
    exact owed other (Or.inr member)

/-- The current list is empty before the clock is advanced. -/
theorem Keeps.idle
    {nodes : Option TimerSlot → List Nat}
    {agenda : Agenda TimerNode}
    (keeps : Keeps owes base m nodes agenda) :
    (m.wheel nodes).lists (m.wheel nodes).currentSlot = [] := by
  have nothing := keeps.tracks.execute_early.1
  rwa [Timer.execute_eq] at nothing

/-- The clock is advanced, and what is due then is on the current list. -/
theorem Keeps.advance
    {nodes : Option TimerSlot → List Nat}
    {agenda : Agenda TimerNode}
    (keeps : Keeps owes base m nodes agenda)
    (shifted : m.timerShift = some m')
    (outside : m.current = none) :
    Owing owes base m'.executeDue ∧ m'.executeDue.sent = m.sent := by
  obtain ⟨isTicked, isShift⟩ := keeps.holds.timerShift shifted
  obtain ⟨handed, tracks⟩ := keeps.tracks.update
  have isUpdate :
      (m.wheel nodes).update =
        ((m'.wheel nodes).lists (m'.wheel nodes).currentSlot,
          (m'.wheel nodes).linkClear (m'.wheel nodes).currentSlot) := by
    have isWheel : (m.wheel nodes).timerShift = m'.wheel nodes := by
      rw [isShift, isTicked]
      rfl
    unfold Timer.update
    rw [Timer.execute_of_nil keeps.idle]
    simp only [List.nil_append]
    rw [isWheel, Timer.execute_eq]
  rw [isUpdate] at handed tracks
  dsimp only at handed tracks
  have holds : Holds m' nodes := by
    rw [isTicked]
    exact ⟨keeps.holds.chains, keeps.holds.tail, keeps.holds.waiting⟩
  have sameNode : m'.node = m.node := by
    rw [isTicked]
  have sameTicks : m'.ticks = m.ticks + 1 := by
    rw [isTicked]
  have sameSent : m'.sent = m.sent := by
    rw [isTicked]
  have sameCurrent : m'.current = none := by
    rw [isTicked]
    exact outside
  have now : agenda.tick.now = base + m'.ticks := by
    rw [sameTicks, ← Nat.add_assoc, ← keeps.now]
    rfl
  have pending (entry : Nat × TimerNode) (member : entry ∈ agenda.tick.pending) :
      ∃ tick, entry.1 = base + tick ∧ owes tick (m'.node entry.2.address) := by
    rw [sameNode]
    exact keeps.pending entry (List.mem_filter.mp member).1
  have due (address : Nat) (member : address ∈ nodes (some m'.currentSlot)) :
      owes m'.ticks (m'.node address) := by
    have listed :
        m'.read address ∈ (m'.wheel nodes).lists (m'.wheel nodes).currentSlot :=
      List.mem_map_of_mem member
    rw [handed] at listed
    obtain ⟨entry, inBatch, isNode⟩ := List.mem_map.mp listed
    obtain ⟨isPending, isDue⟩ := List.mem_filter.mp inBatch
    obtain ⟨tick, isTick, owed⟩ := keeps.pending entry isPending
    have isNow : tick = m'.ticks := by
      have isNext : entry.1 = agenda.now + 1 := of_decide_eq_true isDue
      have isBase := keeps.now
      omega
    rw [isNow, isNode] at owed
    rw [sameNode]
    exact owed
  unfold executeDue
  cases first : m'.head m'.currentSlot with
  | none =>
      have isEmpty := holds.lists_eq_nil first
      have noNodes :
          (m'.wheel nodes).lists (m'.wheel nodes).currentSlot = [] :=
        List.map_eq_nil_iff.mpr isEmpty
      rw [Timer.linkClear_of_nil noNodes] at tracks
      have noneLeft : nodes none = [] :=
        holds.chains.head_eq_none_iff.mp sameCurrent
      refine ⟨⟨nodes, agenda.tick,
        ⟨⟨holds.chains, holds.tail, holds.waiting⟩, tracks, now, pending, ?_⟩⟩,
        sameSent⟩
      rw [noneLeft]
      exact fun _ member => nomatch member
  | some address =>
      refine ⟨⟨taken nodes m'.currentSlot, agenda.tick,
        ⟨holds.detach sameCurrent .due, ?_, now, pending, ?_⟩⟩, sameSent⟩
      · rw [wheel_detach]
        exact tracks
      · rw [taken_none]
        exact due

/-- What `Update` sends is owed when it is sent. -/
theorem Owing.update
    (owing : Owing owes base m)
    (updated : m.update = some m') :
    Owing owes base m' ∧
      (m'.sent = m.sent ∨
        ∃ address,
          owes m.ticks (m.node address) ∧ m'.sent = (m.dispatch address).sent) := by
  unfold TimerMemory.update at updated
  cases outside : m.current with
  | some address =>
      simp only [outside, Option.some.injEq] at updated
      obtain ⟨later, owed⟩ := owing.dispatch outside
      exact updated ▸ ⟨later, Or.inr ⟨address, owed, rfl⟩⟩
  | none =>
      obtain ⟨nodes, agenda, keeps⟩ := owing
      have isNull : m.head m.currentSlot = none :=
        keeps.holds.head_eq_none keeps.idle
      cases phase : m.updating with
      | idle | early =>
          simp only [outside, phase, isNull, Option.map_eq_some_iff] at updated
          obtain ⟨ticked, shifted, isExecuted⟩ := updated
          obtain ⟨later, sameSent⟩ := keeps.advance shifted outside
          exact isExecuted ▸ ⟨later, Or.inl sameSent⟩
      | due =>
          simp only [outside, phase, Option.some.injEq] at updated
          rw [executeDue, isNull] at updated
          subst updated
          exact ⟨⟨nodes, agenda,
            ⟨⟨keeps.holds.chains, keeps.holds.tail, keeps.holds.waiting⟩,
              keeps.tracks, keeps.now, keeps.pending, keeps.dispatching⟩⟩,
            Or.inl rfl⟩

end Steps

end TimerMemory

end SkynetCpp
