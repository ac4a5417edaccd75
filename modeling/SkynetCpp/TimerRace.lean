import Mathlib.Logic.Function.Iterate
import SkynetCpp.Foundation.Run
import SkynetCpp.TimerWheel

namespace SkynetCpp

open Foundation

/-!
# Timeouts while the clock advances

`Timeout` reads the clock without the lock and links its node later, and
`Execute` gives the lock up while it dispatches a list.  Each step below is one
such access: the read, one `AddNode`, or what the timer thread does between
two releases of the lock.
-/

/-- A `Timeout` that has read the clock and has not called `AddNode` yet. -/
structure TimeoutCall where
  node : TimerNode
  time : Nat
  /-- The clock that was read. -/
  read : UInt32
  positive : 0 < time
  short : time < 2 ^ 31
  isExpire : node.expire = UInt32.ofNat time + read

/-- A node that was linked, with its delay and the ticks before. -/
structure LinkedTimeout where
  node : TimerNode
  time : Nat
  tick : Nat
  deriving Repr, DecidableEq

/-- Where the timer thread has given up the lock. -/
inductive Updating where
  | idle
  /-- In the `DispatchList` of the first `Execute`. -/
  | early
  /-- In the `DispatchList` of the second `Execute`. -/
  | due
  deriving Repr, DecidableEq

/-- The timer with the timeouts that are on their way to it. -/
structure TimerRace where
  timer : Timer
  updating : Updating
  /-- The call that each thread is in. -/
  calls : Nat → Option TimeoutCall
  /-- The next address that `new` returns. -/
  nextNode : Nat
  /-- How often the clock was advanced. -/
  ticks : Nat
  linked : List LinkedTimeout
  /-- The nodes handed to `DispatchList`. -/
  handed : List TimerNode

namespace TimerRace

/-- Detach the current near list, give up the lock and dispatch the nodes. -/
def dispatchList
    (s : TimerRace)
    (updating : Updating) : TimerRace :=
  { s with
    timer := s.timer.linkClear s.timer.currentSlot
    updating := updating
    handed := s.handed ++ s.timer.lists s.timer.currentSlot }

/-- The second `Execute` of `Update`, from its test on. -/
def executeDue (s : TimerRace) : TimerRace :=
  if s.timer.lists s.timer.currentSlot = [] then
    { s with updating := .idle }
  else
    s.dispatchList .due

/-- `TimerShift` in `Update`. -/
def timerShift (s : TimerRace) : TimerRace :=
  { s with
    timer := s.timer.timerShift
    ticks := s.ticks + 1 }

/-- What `Update` does from one acquisition of the lock to its release. -/
def update (s : TimerRace) : TimerRace :=
  match s.updating with
  | .idle | .early =>
      if s.timer.lists s.timer.currentSlot = [] then
        s.timerShift.executeDue
      else
        s.dispatchList .early
  | .due => s.executeDue

/-- `Timer::AddNode` in `Timeout`. -/
def addNode
    (s : TimerRace)
    (thread : Nat)
    (call : TimeoutCall) : TimerRace :=
  { s with
    timer := s.timer.addNode call.node
    calls := Function.update s.calls thread none
    linked :=
      { node := call.node, time := call.time, tick := s.ticks } :: s.linked }

/-- The steps of the threads. -/
inductive Action where
  /-- `Timeout` with a positive time, up to its read of the clock. -/
  | timeout (thread : Nat) (handle : UInt32) (time : Nat) (session : Int)
  | addNode (thread : Nat)
  | update
  deriving Repr, DecidableEq

/-- The call of a `Timeout` that reads the clock now. -/
def readClock
    (s : TimerRace)
    (handle : UInt32)
    (session : Int)
    (time : Nat)
    (valid : 0 < time ∧ time < 2 ^ 31) : TimeoutCall where
  node :=
    { address := s.nextNode
      expire := UInt32.ofNat time + s.timer.time
      handle := handle
      session := session }
  time := time
  read := s.timer.time
  positive := valid.1
  short := valid.2
  isExpire := rfl

/-- One step; a positive `int` is below `2 ^ 31`. -/
def next? (s : TimerRace) : Action → Option TimerRace
  | .timeout thread handle time session =>
      if valid : 0 < time ∧ time < 2 ^ 31 then
        match s.calls thread with
        | some _ => none
        | none =>
            some
              { s with
                calls :=
                  Function.update s.calls thread
                    (some (s.readClock handle session time valid))
                nextNode := s.nextNode + 1 }
      else
        none
  | .addNode thread => (s.calls thread).map (s.addNode thread)
  | .update => some s.update

/-- The clock has not advanced past a call's expiry when the node is linked. -/
def Timely
    (s : TimerRace)
    (action : Action) : Prop :=
  ∀ thread call,
    action = .addNode thread →
      s.calls thread = some call →
        (s.timer.time - call.read).toNat ≤ call.time

/--
Every timeout is dispatched by the time the clock has advanced by its delay
since it was linked.
-/
def OnTime (s : TimerRace) : Prop :=
  ∀ entry ∈ s.linked,
    entry.node ∈ s.handed ∨ s.ticks < entry.tick + entry.time

/-- A timer without nodes, and nobody in a call. -/
def start (time : UInt32) : TimerRace where
  timer := Timer.empty time
  updating := .idle
  calls := fun _ => none
  nextNode := 0
  ticks := 0
  linked := []
  handed := []

/--
The pending nodes sit where `AddNode` would link them now, none has expired,
and each linked node is handed over or pending with its expiry in time.
-/
structure Waits
    (s : TimerRace)
    (nodes : List TimerNode) : Prop where
  sorted : Timer.Sorted s.timer nodes
  near : ∀ node ∈ nodes, (node.expire - s.timer.time).toNat < 2 ^ 31
  deadline :
    ∀ entry ∈ s.linked,
      entry.node ∈ s.handed ∨
        entry.node ∈ nodes ∧
          s.ticks + (entry.node.expire - s.timer.time).toNat ≤
            entry.tick + entry.time

section Ticks

variable {expire time : UInt32}

/-- The ticks that are left until an expiry. -/
theorem toNat_sub_eq
    (expire time : UInt32) :
    (expire - time).toNat = (2 ^ 32 - time.toNat + expire.toNat) % 2 ^ 32 :=
  UInt32.toNat_sub expire time

/-- An expiry that is not now is at least one tick away. -/
theorem toNat_sub_pos
    (later : expire ≠ time) :
    0 < (expire - time).toNat := by
  have expireBound := expire.toNat_lt
  have timeBound := time.toNat_lt
  have different : expire.toNat ≠ time.toNat := fun same =>
    later (UInt32.toNat_inj.mp same)
  rw [toNat_sub_eq]
  omega

/-- A tick brings an expiry that is not now one tick closer. -/
theorem toNat_sub_tick
    (later : expire ≠ time) :
    (expire - time).toNat = (expire - (time + 1)).toNat + 1 := by
  have expireBound := expire.toNat_lt
  have timeBound := time.toNat_lt
  have different : expire.toNat ≠ time.toNat := fun same =>
    later (UInt32.toNat_inj.mp same)
  have ticked : (time + 1).toNat = (time.toNat + 1) % 2 ^ 32 := by
    simp
  rw [toNat_sub_eq, toNat_sub_eq, ticked]
  omega

/-- An expiry that is not now and less than half the range away lies ahead. -/
theorem ahead_of_near
    (later : expire ≠ time)
    (near : (expire - time).toNat < 2 ^ 31) :
    Timer.Ahead time.toNat expire.toNat := by
  refine ⟨(expire - time).toNat, toNat_sub_pos later, near, ?_⟩
  have expireBound := expire.toNat_lt
  have timeBound := time.toNat_lt
  rw [toNat_sub_eq]
  omega

end Ticks

variable
    {s : TimerRace}
    {nodes : List TimerNode}

/-- Nobody is late while no pending node is due now. -/
theorem Waits.onTime
    (waits : s.Waits nodes)
    (later : ∀ node ∈ nodes, node.expire ≠ s.timer.time) :
    s.OnTime := by
  intro entry member
  rcases waits.deadline entry member with handed | ⟨pending, deadline⟩
  · exact Or.inl handed
  · have positive := toNat_sub_pos (later entry.node pending)
    exact Or.inr (by omega)

/-- No pending node is due now when the current near list is empty. -/
theorem Waits.expire_ne
    (waits : s.Waits nodes)
    (idle : s.timer.lists s.timer.currentSlot = []) :
    ∀ node ∈ nodes, node.expire ≠ s.timer.time := by
  have handedOver := waits.sorted.execute_fst
  rw [Timer.execute_eq, idle] at handedOver
  have nothing := List.filter_eq_nil_iff.mp handedOver.symm
  intro node member isNow
  exact nothing node member (by simpa using isNow)

/-- A timer without nodes keeps nobody waiting. -/
theorem waits_start
    (time : UInt32) :
    (start time).Waits [] where
  sorted := Timer.sorted_empty time
  near := by
    intro node member
    cases member
  deadline := by
    intro entry member
    cases member

/-- Handing over the current near list leaves the nodes of other expiries. -/
theorem Waits.dispatchList
    (waits : s.Waits nodes)
    (updating : Updating) :
    (s.dispatchList updating).Waits
      (nodes.filter (·.expire ≠ s.timer.time)) where
  sorted := by
    have left := waits.sorted.execute_snd
    rwa [Timer.execute_eq] at left
  near := by
    intro node member
    exact waits.near node (List.mem_filter.mp member).1
  deadline := by
    have handedOver := waits.sorted.execute_fst
    rw [Timer.execute_eq] at handedOver
    intro entry member
    rcases waits.deadline entry member with handed | ⟨pending, deadline⟩
    · exact Or.inl (List.mem_append_left _ handed)
    · by_cases isNow : entry.node.expire = s.timer.time
      · left
        refine List.mem_append_right _ ?_
        have due :
            entry.node ∈ nodes.filter (·.expire = s.timer.time) :=
          List.mem_filter.mpr ⟨pending, by simpa using isNow⟩
        rwa [← handedOver] at due
      · right
        exact ⟨List.mem_filter.mpr ⟨pending, by simpa using isNow⟩, deadline⟩

/-- Nobody is late once the current near list was handed over. -/
theorem Waits.onTime_dispatchList
    (waits : s.Waits nodes)
    (updating : Updating) :
    (s.dispatchList updating).OnTime := by
  apply (waits.dispatchList updating).onTime
  intro node member
  exact of_decide_eq_true (List.mem_filter.mp member).2

/-- Nobody is late after the second `Execute` looked at the current near list. -/
theorem Waits.executeDue
    (waits : s.Waits nodes) :
    (∃ nodes, s.executeDue.Waits nodes) ∧ s.executeDue.OnTime := by
  unfold TimerRace.executeDue
  split
  · next idle =>
      have idles : ({ s with updating := .idle } : TimerRace).Waits nodes :=
        ⟨waits.sorted, waits.near, waits.deadline⟩
      exact ⟨⟨nodes, idles⟩, idles.onTime (waits.expire_ne idle)⟩
  · exact ⟨⟨_, waits.dispatchList .due⟩, waits.onTime_dispatchList .due⟩

/-- A tick with an empty current near list brings every expiry one tick closer. -/
theorem Waits.timerShift
    (waits : s.Waits nodes)
    (idle : s.timer.lists s.timer.currentSlot = []) :
    s.timerShift.Waits nodes := by
  have later := waits.expire_ne idle
  constructor
  · apply waits.sorted.timerShift
    intro node member
    exact ahead_of_near (later node member) (waits.near node member)
  · intro node member
    have closer := toNat_sub_tick (later node member)
    have near := waits.near node member
    simp only [TimerRace.timerShift, Timer.time_timerShift]
    omega
  · intro entry member
    rcases waits.deadline entry member with handed | ⟨pending, deadline⟩
    · exact Or.inl handed
    · have closer := toNat_sub_tick (later entry.node pending)
      refine Or.inr ⟨pending, ?_⟩
      simp only [TimerRace.timerShift, Timer.time_timerShift]
      omega

/-- The timer thread keeps everybody in time. -/
theorem Waits.update
    (waits : s.Waits nodes) :
    (∃ nodes, s.update.Waits nodes) ∧ s.update.OnTime := by
  have early :
      (∃ nodes,
        (if s.timer.lists s.timer.currentSlot = [] then
          s.timerShift.executeDue
        else s.dispatchList .early).Waits nodes) ∧
        (if s.timer.lists s.timer.currentSlot = [] then
          s.timerShift.executeDue
        else s.dispatchList .early).OnTime := by
    split
    · next idle =>
        exact (waits.timerShift idle).executeDue
    · exact ⟨⟨_, waits.dispatchList .early⟩, waits.onTime_dispatchList .early⟩
  unfold TimerRace.update
  cases s.updating with
  | idle =>
      exact early
  | early =>
      exact early
  | due =>
      exact waits.executeDue

/-- A node that is linked before its expiry is in time. -/
theorem Waits.addNode
    (waits : s.Waits nodes)
    {call : TimeoutCall}
    (timely : (s.timer.time - call.read).toNat ≤ call.time)
    (thread : Nat) :
    (s.addNode thread call).Waits (nodes ++ [call.node]) := by
  have short := call.short
  have left : (call.node.expire - s.timer.time).toNat ≤ call.time := by
    have readBound := call.read.toNat_lt
    have timeBound := s.timer.time.toNat_lt
    have isExpire :
        call.node.expire.toNat = (call.time + call.read.toNat) % 2 ^ 32 := by
      rw [call.isExpire, UInt32.toNat_add, UInt32.toNat_ofNat']
      omega
    rw [toNat_sub_eq] at timely ⊢
    rw [isExpire]
    omega
  constructor
  · exact waits.sorted.addNode call.node
  · intro node member
    rcases List.mem_append.mp member with old | isNew
    · exact waits.near node old
    · rw [List.mem_singleton.mp isNew]
      exact Nat.lt_of_le_of_lt left short
  · intro entry member
    rcases List.mem_cons.mp member with isNew | old
    · subst isNew
      exact Or.inr ⟨by simp, Nat.add_le_add_left left s.ticks⟩
    · rcases waits.deadline entry old with handed | ⟨pending, deadline⟩
      · exact Or.inl handed
      · exact Or.inr ⟨List.mem_append_left _ pending, deadline⟩

/-- A timely step keeps everybody in time. -/
theorem onTime_step
    {action : Action}
    {next : TimerRace}
    (inTime : (∃ nodes, s.Waits nodes) ∧ s.OnTime)
    (timely : s.Timely action)
    (taken : Run.Steps next? s action next) :
    (∃ nodes, next.Waits nodes) ∧ next.OnTime := by
  obtain ⟨⟨nodes, waits⟩, onTime⟩ := inTime
  unfold Run.Steps next? at taken
  cases action with
  | timeout thread handle time session =>
      simp only at taken
      split at taken
      · split at taken
        · cases taken
        · cases taken
          exact ⟨⟨nodes, waits.sorted, waits.near, waits.deadline⟩, onTime⟩
      · cases taken
  | addNode thread =>
      simp only [Option.map_eq_some_iff] at taken
      obtain ⟨call, isCall, isNext⟩ := taken
      subst isNext
      have inTime := timely thread call rfl isCall
      refine ⟨⟨_, waits.addNode inTime thread⟩, ?_⟩
      intro entry member
      rcases List.mem_cons.mp member with isNew | old
      · subst isNew
        exact Or.inr (Nat.lt_add_of_pos_right call.positive)
      · exact onTime entry old
  | update =>
      cases taken
      exact waits.update

section Update

/-- The second `Execute` without interruption. -/
theorem executeDue_uninterrupted
    (s : TimerRace) :
    ∃ turns,
      (TimerRace.update^[turns] s.executeDue) =
        { s with
          timer := s.timer.execute.2
          updating := .idle
          handed := s.handed ++ s.timer.execute.1 } := by
  rw [Timer.execute_eq]
  unfold executeDue
  by_cases idle : s.timer.lists s.timer.currentSlot = []
  · refine ⟨0, ?_⟩
    rw [if_pos idle, Timer.linkClear_of_nil idle, idle, List.append_nil]
    rfl
  · refine ⟨1, ?_⟩
    rw [if_neg idle]
    have cleared := s.timer.linkClear_currentSlot
    show (s.dispatchList .due).executeDue = _
    unfold executeDue
    rw [if_pos (show (s.dispatchList .due).timer.lists
      (s.dispatchList .due).timer.currentSlot = [] from cleared)]
    rfl

/-- An `Update` that nobody interrupts is the `Update` of the timer. -/
theorem update_uninterrupted
    (s : TimerRace)
    (outside : s.updating = .idle) :
    ∃ turns,
      (TimerRace.update^[turns + 1] s) =
        { s with
          timer := s.timer.update.2
          ticks := s.ticks + 1
          handed := s.handed ++ s.timer.update.1 } := by
  have shifts (t : TimerRace)
      (idle : t.timer.lists t.timer.currentSlot = [])
      (early : t.updating = .idle ∨ t.updating = .early) :
      t.update = t.timerShift.executeDue := by
    unfold update
    rcases early with isIdle | isEarly
    · rw [isIdle]
      exact if_pos idle
    · rw [isEarly]
      exact if_pos idle
  by_cases idle : s.timer.lists s.timer.currentSlot = []
  · obtain ⟨turns, rest⟩ := executeDue_uninterrupted s.timerShift
    refine ⟨turns, ?_⟩
    rw [Function.iterate_succ_apply, shifts s idle (Or.inl outside), rest]
    simp only [Timer.update, Timer.execute_of_nil idle, timerShift,
      List.nil_append, outside]
  · have first : s.update = s.dispatchList .early := by
      unfold update
      rw [outside]
      exact if_neg idle
    obtain ⟨turns, rest⟩ :=
      executeDue_uninterrupted (s.dispatchList .early).timerShift
    refine ⟨turns + 1, ?_⟩
    rw [Function.iterate_succ_apply, Function.iterate_succ_apply, first,
      shifts _ s.timer.linkClear_currentSlot (Or.inr rfl), rest]
    simp only [Timer.update, Timer.execute_eq s.timer, timerShift,
      TimerRace.dispatchList, List.append_assoc, outside]

end Update

variable
    {time : UInt32}
    {final : TimerRace}
    {past : List (TimerRace × Action)}

/--
Every timeout is dispatched in time when no clock advanced past an expiry
between the read and the `AddNode` of a call.
-/
theorem onTime_visited
    (run : Run (Run.Steps next?) (start time) past final)
    (timely : ∀ s action, (s, action) ∈ past → s.Timely action) :
    ∀ s ∈ Run.visited past final, s.OnTime := by
  intro s member
  have initially :
      (∃ nodes, (start time).Waits nodes) ∧ (start time).OnTime :=
    ⟨⟨[], waits_start time⟩, fun entry member => by cases member⟩
  exact
    (Run.invariant_visited run initially onTime_step
      (fun inPast => timely _ _ inPast) s member).2

/-- A `Timeout` of two ticks after its read of the clock at 255. -/
def waiting : TimerRace :=
  { start 255 with
    calls :=
      Function.update (start 255).calls 0
        (some ((start 255).readClock 1 5 2 (by decide)))
    nextNode := 1 }

/-- The clock advances to 256 before the node is linked. -/
theorem waiting_onTime :
    ∃ past final,
      Run (Run.Steps next?) (start 255) past final ∧
        final.linked.map LinkedTimeout.tick = [1] ∧
        ∀ s ∈ Run.visited past final, s.OnTime := by
  have reads :
      next? (start 255) (.timeout 0 1 2 5) = some waiting :=
    rfl
  have run :
      Run (Run.Steps next?) (start 255)
        [(waiting.update, .addNode 0), (waiting, .update),
          (start 255, .timeout 0 1 2 5)]
        (waiting.update.addNode 0
          ((start 255).readClock 1 5 2 (by decide))) :=
    ((Run.nil.snoc reads).snoc rfl).snoc rfl
  refine ⟨_, _, run, rfl, onTime_visited run ?_⟩
  intro s action member thread call isAdd isCall
  subst isAdd
  simp only [List.mem_cons, Prod.mk.injEq, reduceCtorEq, and_false, or_false,
    List.not_mem_nil, Action.addNode.injEq] at member
  obtain ⟨rfl, rfl⟩ := member
  have isRead :
      waiting.update.calls 0 =
        some ((start 255).readClock 1 5 2 (by decide)) :=
    rfl
  rw [isRead] at isCall
  cases isCall
  decide

/-- A `Timeout` of one tick during which the clock advances twice is late. -/
theorem late_not_onTime :
    ∃ past final,
      Run (Run.Steps next?) (start 0) past final ∧
        ¬ ∀ s ∈ Run.visited past final, s.OnTime := by
  obtain ⟨past, final, run, late⟩ :=
    Run.exists_of_replay (start 0) next?
      [.timeout 0 1 1 5, .update, .update, .addNode 0, .update]
      (fun s =>
        s.linked.any fun entry =>
          !s.handed.contains entry.node &&
            decide (entry.tick + entry.time ≤ s.ticks))
      (by decide)
  refine ⟨past, final, run, fun holds => ?_⟩
  simp only [List.any_eq_true, Bool.and_eq_true, decide_eq_true_eq] at late
  obtain ⟨entry, member, notHanded, expired⟩ := late
  rcases holds final (by simp) entry member with handed | early
  · simp [handed] at notHanded
  · exact absurd expired (by omega)

end TimerRace

end SkynetCpp
