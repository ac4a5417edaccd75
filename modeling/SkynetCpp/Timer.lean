import SkynetCpp.Message

namespace SkynetCpp

/-!
# The timer

`timer.cpp` in state-passing form, with the spinlock left out.  A `LinkList`
is the list of its nodes: `LinkClear` takes the whole list and `Link` appends.
Near lists are indexed by the low eight bits of the expiry, level lists by a
level and six bits.
-/

/-- A pending timeout; `address` tells nodes with equal data apart. -/
structure TimerNode where
  address : Nat
  expire : UInt32
  handle : UInt32
  session : Int
  deriving Repr, DecidableEq

/-- The lists of the wheel: `near_[j]` and `t_[i][j]`. -/
inductive TimerSlot where
  | near (index : Nat)
  | level (level index : Nat)
  deriving Repr, DecidableEq

/-- The wheel and its clock. -/
structure Timer where
  lists : TimerSlot → List TimerNode
  time : UInt32

def TIME_NEAR : UInt32 := 0x100
def TIME_NEAR_SHIFT : UInt32 := 8
def TIME_NEAR_MASK : UInt32 := 0xff
def TIME_LEVEL_SHIFT : UInt32 := 6
def TIME_LEVEL_MASK : UInt32 := 0x3f

namespace Timer

/-- A wheel without nodes, as `TimerInit` leaves it. -/
def empty (time : UInt32) : Timer where
  lists := fun _ => []
  time := time

/--
The loop of `AddNode` that looks for the level: the first of three masks under
which the expiry and the clock agree, else the fourth level.
-/
def findLevel
    (expire current : UInt32) : Nat → Nat → UInt32 → Nat
  | 0, i, _ => i
  | turns + 1, i, mask =>
      if expire ||| (mask - 1) = current ||| (mask - 1) then
        i
      else
        findLevel expire current turns (i + 1) (mask <<< TIME_LEVEL_SHIFT)

/-- The list on which `AddNode` links a node. -/
def addSlot (expire current : UInt32) : TimerSlot :=
  if expire ||| TIME_NEAR_MASK = current ||| TIME_NEAR_MASK then
    .near (expire &&& TIME_NEAR_MASK).toNat
  else
    let i := findLevel expire current 3 0 (TIME_NEAR <<< TIME_LEVEL_SHIFT)
    .level i
      ((expire >>> (TIME_NEAR_SHIFT + UInt32.ofNat i * TIME_LEVEL_SHIFT)) &&&
        TIME_LEVEL_MASK).toNat

/-- `Link`. -/
def link
    (timer : Timer)
    (slot : TimerSlot)
    (node : TimerNode) : Timer :=
  { timer with
    lists := fun other =>
      if other = slot then timer.lists other ++ [node]
      else timer.lists other }

/-- `LinkClear`, without the returned list. -/
def linkClear
    (timer : Timer)
    (slot : TimerSlot) : Timer :=
  { timer with
    lists := fun other => if other = slot then [] else timer.lists other }

/-- `Timer::AddNode`. -/
def addNode
    (timer : Timer)
    (node : TimerNode) : Timer :=
  timer.link (addSlot node.expire timer.time) node

/-- `Timer::MoveList`. -/
def moveList
    (timer : Timer)
    (level idx : Nat) : Timer :=
  (timer.lists (.level level idx)).foldl addNode
    (timer.linkClear (.level level idx))

/--
The loop of `TimerShift`: the level and index on which `MoveList` is called,
if any.  A non-zero clock ends the loop by its fourth turn.
-/
def shiftLoop (ct : UInt32) : Nat → Nat → UInt32 → UInt32 → Option (Nat × Nat)
  | 0, _, _, _ => none
  | turns + 1, i, mask, time =>
      if ct &&& (mask - 1) = 0 then
        let idx := time &&& TIME_LEVEL_MASK
        if idx ≠ 0 then
          some (i, idx.toNat)
        else
          shiftLoop ct turns (i + 1)
            (mask <<< TIME_LEVEL_SHIFT) (time >>> TIME_LEVEL_SHIFT)
      else
        none

/-- `Timer::TimerShift`. -/
def timerShift (timer : Timer) : Timer :=
  let ct := timer.time + 1
  let ticked := { timer with time := ct }
  if ct = 0 then
    ticked.moveList 3 0
  else
    match shiftLoop ct 4 0 TIME_NEAR (ct >>> TIME_NEAR_SHIFT) with
    | some (level, idx) => ticked.moveList level idx
    | none => ticked

/-- The near list that `Execute` looks at. -/
def currentSlot (timer : Timer) : TimerSlot :=
  .near (timer.time &&& TIME_NEAR_MASK).toNat

/-- Clearing the current near list leaves it empty. -/
theorem linkClear_currentSlot
    (timer : Timer) :
    (timer.linkClear timer.currentSlot).lists
      (timer.linkClear timer.currentSlot).currentSlot = [] := by
  simp [linkClear, currentSlot]

/--
`Timer::Execute`: the nodes handed to `DispatchList`, in order, and the timer
afterwards.
-/
def execute (timer : Timer) : List TimerNode × Timer :=
  match _listed : timer.lists timer.currentSlot with
  | [] => ([], timer)
  | node :: rest =>
      let later := execute (timer.linkClear timer.currentSlot)
      (node :: rest ++ later.1, later.2)
  termination_by (timer.lists timer.currentSlot).length
  decreasing_by
    rw [linkClear_currentSlot, _listed]
    exact Nat.succ_pos _

/-- `Timer::Update`: the nodes handed to `DispatchList`, and the timer. -/
def update (timer : Timer) : List TimerNode × Timer :=
  let early := timer.execute
  let due := early.2.timerShift.execute
  (early.1 ++ due.1, due.2)

/-- The message that `DispatchList` pushes for a node. -/
def dispatchMessage (node : TimerNode) : Message where
  source := 0
  session := node.session
  data := none
  sz := encodeSz 0 kPtypeResponse

/-- `DispatchList`: the destination and the message of every push. -/
def dispatchList (nodes : List TimerNode) : List (UInt32 × Message) :=
  nodes.map fun node => (node.handle, dispatchMessage node)

/-- An empty near list leaves `Execute` nothing to do. -/
theorem execute_of_nil
    {timer : Timer}
    (idle : timer.lists timer.currentSlot = []) :
    timer.execute = ([], timer) := by
  unfold execute
  split
  · rfl
  · next shape =>
      rw [idle] at shape
      cases shape

/-- Clearing an empty list changes nothing. -/
theorem linkClear_of_nil
    {timer : Timer}
    {slot : TimerSlot}
    (isEmpty : timer.lists slot = []) :
    timer.linkClear slot = timer := by
  unfold linkClear
  congr 1
  funext other
  by_cases same : other = slot
  · subst same
    simp [isEmpty]
  · simp [same]

/-- `Execute` hands over the current near list and clears it. -/
theorem execute_eq
    (timer : Timer) :
    timer.execute =
      (timer.lists timer.currentSlot,
        timer.linkClear timer.currentSlot) := by
  have cleared :
      (timer.linkClear timer.currentSlot).execute =
        ([], timer.linkClear timer.currentSlot) :=
    execute_of_nil timer.linkClear_currentSlot
  unfold execute
  split
  · next shape =>
      rw [linkClear_of_nil shape, shape]
  · next shape =>
      rw [cleared, shape]
      simp

/-- Adding a node appends it to its list. -/
theorem lists_addNode
    (timer : Timer)
    (node : TimerNode)
    (slot : TimerSlot) :
    (timer.addNode node).lists slot =
      timer.lists slot ++
        if addSlot node.expire timer.time = slot then [node] else [] := by
  by_cases here : slot = addSlot node.expire timer.time
  · simp [addNode, link, here]
  · simp [addNode, link, here, Ne.symm here]

@[simp] theorem time_addNode
    (timer : Timer)
    (node : TimerNode) :
    (timer.addNode node).time = timer.time :=
  rfl

/-- Adding nodes one by one appends each to its list, in order. -/
theorem lists_foldl_addNode
    (nodes : List TimerNode)
    (timer : Timer)
    (slot : TimerSlot) :
    (nodes.foldl addNode timer).lists slot =
      timer.lists slot ++
        nodes.filter fun node => addSlot node.expire timer.time = slot := by
  induction nodes generalizing timer with
  | nil =>
      simp
  | cons node rest inductionHypothesis =>
      rw [List.foldl_cons, inductionHypothesis, lists_addNode,
        time_addNode, List.append_assoc]
      congr 1
      by_cases here : addSlot node.expire timer.time = slot
      · simp [here]
      · simp [here]

@[simp] theorem time_foldl_addNode
    (nodes : List TimerNode)
    (timer : Timer) :
    (nodes.foldl addNode timer).time = timer.time := by
  induction nodes generalizing timer with
  | nil =>
      rfl
  | cons node rest inductionHypothesis =>
      rw [List.foldl_cons, inductionHypothesis, time_addNode]

@[simp] theorem time_moveList
    (timer : Timer)
    (level idx : Nat) :
    (timer.moveList level idx).time = timer.time := by
  simp [moveList, linkClear]

/-- Moving a list detaches it and sorts its nodes in again. -/
theorem lists_moveList
    (timer : Timer)
    (level idx : Nat)
    (slot : TimerSlot) :
    (timer.moveList level idx).lists slot =
      (if slot = .level level idx then [] else timer.lists slot) ++
        (timer.lists (.level level idx)).filter
          fun node => addSlot node.expire timer.time = slot := by
  rw [moveList, lists_foldl_addNode]
  rfl

end Timer

end SkynetCpp
