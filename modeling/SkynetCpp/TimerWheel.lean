import Mathlib.Data.List.Nodup
import SkynetCpp.Foundation.Agenda
import SkynetCpp.TimerBlocks

namespace SkynetCpp

open Foundation

/-!
# The timing wheel against the agenda

Every pending node sits in the list on which `AddNode` would link it now, and
`TimerShift` keeps it so.  The wheel therefore hands over, tick by tick, what
an agenda of due times hands over, in the same order.
-/

namespace Timer

section Sorting

/--
The lists hold exactly the given nodes: every node sits where `AddNode` would
link it now, and nodes of one expiry keep their order.
-/
structure Sorted
    (timer : Timer)
    (nodes : List TimerNode) : Prop where
  placed :
    ∀ slot, ∀ node ∈ timer.lists slot,
      addSlot node.expire timer.time = slot
  kept :
    ∀ expire,
      (timer.lists (addSlot expire timer.time)).filter (·.expire = expire) =
        nodes.filter (·.expire = expire)

variable
    {timer : Timer}
    {nodes : List TimerNode}

theorem sorted_empty
    (time : UInt32) :
    Sorted (empty time) [] where
  placed := by
    intro slot node member
    simp [empty] at member
  kept := by
    intro expire
    simp [empty]

/-- Only the given nodes are on the lists. -/
theorem Sorted.mem
    (sorted : Sorted timer nodes)
    {slot : TimerSlot}
    {node : TimerNode}
    (member : node ∈ timer.lists slot) :
    node ∈ nodes := by
  have here : addSlot node.expire timer.time = slot :=
    sorted.placed slot node member
  have found :
      node ∈ (timer.lists (addSlot node.expire timer.time)).filter
        (·.expire = node.expire) := by
    simpa [here] using member
  rw [sorted.kept] at found
  exact (List.mem_filter.mp found).1

/-- A list holds no node of an expiry that belongs to another list. -/
theorem Sorted.filter_eq_nil
    (sorted : Sorted timer nodes)
    {slot : TimerSlot}
    {expire : UInt32}
    (elsewhere : addSlot expire timer.time ≠ slot) :
    (timer.lists slot).filter (·.expire = expire) = [] := by
  simp only [List.filter_eq_nil_iff, decide_eq_true_eq]
  intro node member isExpire
  have here := sorted.placed slot node member
  rw [isExpire] at here
  exact elsewhere here

/-- Adding a node keeps the lists sorted. -/
theorem Sorted.addNode
    (sorted : Sorted timer nodes)
    (node : TimerNode) :
    Sorted (timer.addNode node) (nodes ++ [node]) where
  placed := by
    intro slot other member
    rw [lists_addNode, List.mem_append] at member
    rcases member with old | isNew
    · exact sorted.placed slot other old
    · by_cases here : addSlot node.expire timer.time = slot
      · simp only [here, ↓reduceIte, List.mem_singleton] at isNew
        subst isNew
        exact here
      · simp [here] at isNew
  kept := by
    intro expire
    rw [time_addNode, lists_addNode, List.filter_append, List.filter_append,
      sorted.kept]
    by_cases isExpire : node.expire = expire
    · simp [isExpire]
    · by_cases here :
          addSlot node.expire timer.time = addSlot expire timer.time
      · simp [here, isExpire]
      · simp [here, isExpire]

/-- A tick that changes no list of a node keeps the lists sorted. -/
theorem Sorted.tick
    (sorted : Sorted timer nodes)
    {ct : UInt32}
    (stay :
      ∀ node ∈ nodes,
        addSlot node.expire ct = addSlot node.expire timer.time) :
    Sorted { timer with time := ct } nodes where
  placed := by
    intro slot node member
    exact (stay node (sorted.mem member)).trans
      (sorted.placed slot node member)
  kept := by
    intro expire
    by_cases present : ∃ node ∈ nodes, node.expire = expire
    · obtain ⟨node, member, isExpire⟩ := present
      have same := stay node member
      rw [isExpire] at same
      simp only [same]
      exact sorted.kept expire
    · have none :
          nodes.filter (·.expire = expire) = [] := by
        simpa using present
      rw [none]
      simp only [List.filter_eq_nil_iff, decide_eq_true_eq]
      intro node member isExpire
      exact present ⟨node, sorted.mem member, isExpire⟩

/--
A tick after which `TimerShift` moves a list keeps the lists sorted when only
nodes of that list change their place.
-/
theorem Sorted.moveList
    (sorted : Sorted timer nodes)
    {ct : UInt32}
    {level idx : Nat}
    (stay :
      ∀ node ∈ nodes,
        addSlot node.expire ct = addSlot node.expire timer.time ∨
          addSlot node.expire timer.time = .level level idx) :
    Sorted (({ timer with time := ct } : Timer).moveList level idx) nodes where
  placed := by
    intro slot node member
    rw [lists_moveList, List.mem_append] at member
    rw [time_moveList]
    rcases member with kept | moved
    · by_cases here : slot = .level level idx
      · simp [here] at kept
      · simp only [here, ↓reduceIte] at kept
        have old := sorted.placed slot node kept
        rcases stay node (sorted.mem kept) with same | isMoved
        · exact same.trans old
        · exact (here (old.symm.trans isMoved)).elim
    · simpa using (List.mem_filter.mp moved).2
  kept := by
    intro expire
    rw [time_moveList, lists_moveList, List.filter_append]
    simp only [List.filter_filter]
    by_cases present : ∃ node ∈ nodes, node.expire = expire
    · obtain ⟨node, member, isExpire⟩ := present
      have choice := stay node member
      rw [isExpire] at choice
      by_cases inMoved : addSlot expire timer.time = .level level idx
      · -- The nodes of this expiry are moved, all of them to one list.
        have unmoved :
            (if addSlot expire ct = .level level idx then []
              else timer.lists (addSlot expire ct)).filter
                (·.expire = expire) = [] := by
          by_cases again : addSlot expire ct = .level level idx
          · simp [again]
          · rw [if_neg again]
            apply sorted.filter_eq_nil
            rw [inMoved]
            exact Ne.symm again
        rw [unmoved, List.nil_append, ← inMoved, ← sorted.kept expire]
        apply List.filter_congr
        intro other _
        by_cases isOther : other.expire = expire
        · simp [isOther]
        · simp [isOther]
      · -- The nodes of this expiry stay where they are.
        have same := choice.resolve_right inMoved
        have none :
            (timer.lists (.level level idx)).filter
              (·.expire = expire) = [] :=
          sorted.filter_eq_nil inMoved
        have noneMoved :
            (timer.lists (.level level idx)).filter
              (fun other =>
                decide (other.expire = expire) &&
                  decide (addSlot other.expire ct = addSlot expire ct)) =
              [] := by
          rw [← List.filter_filter]
          simp only [List.filter_eq_nil_iff, decide_eq_true_eq]
          intro other otherMember isOther
          have inFilter := (List.mem_filter.mp otherMember).1
          simp only [List.filter_eq_nil_iff, decide_eq_true_eq] at none
          exact none other inFilter isOther
        rw [noneMoved, List.append_nil, same, if_neg inMoved]
        exact sorted.kept expire
    · have none :
          nodes.filter (·.expire = expire) = [] := by
        simpa using present
      rw [none, List.append_eq_nil_iff]
      constructor
      · by_cases here : addSlot expire ct = .level level idx
        · simp [here]
        · simp only [here, ↓reduceIte, List.filter_eq_nil_iff,
            decide_eq_true_eq]
          intro node member isExpire
          exact present ⟨node, sorted.mem member, isExpire⟩
      · simp only [List.filter_eq_nil_iff, Bool.and_eq_true,
          decide_eq_true_eq, not_and]
        intro node member isExpire
        exact (present ⟨node, sorted.mem member, isExpire⟩).elim

/-- `TimerShift` advances the clock and moves the list of `cascade`. -/
theorem timerShift_eq
    (timer : Timer) :
    timer.timerShift =
      match cascade (timer.time + 1).toNat with
      | some (level, idx) =>
          ({ timer with time := timer.time + 1 } : Timer).moveList level idx
      | none => { timer with time := timer.time + 1 } := by
  unfold timerShift
  by_cases wraps : timer.time + 1 = 0
  · rw [if_pos wraps, wraps]
    rfl
  · rw [if_neg wraps]
    exact
      congrArg
        (fun found : Option (Nat × Nat) =>
          match found with
          | some (level, idx) =>
              ({ timer with time := timer.time + 1 } : Timer).moveList level idx
          | none => { timer with time := timer.time + 1 })
        (shiftLoop_eq wraps)

@[simp] theorem time_timerShift
    (timer : Timer) :
    timer.timerShift.time = timer.time + 1 := by
  rw [timerShift_eq]
  split <;> simp

/-- `TimerShift` keeps the lists sorted while every expiry lies ahead. -/
theorem Sorted.timerShift
    (sorted : Sorted timer nodes)
    (ahead :
      ∀ node ∈ nodes, Ahead timer.time.toNat node.expire.toNat) :
    Sorted timer.timerShift nodes := by
  have ticked :
      (timer.time + 1).toNat = (timer.time.toNat + 1) % 2 ^ 32 := by
    simp
  have step :
      ∀ node ∈ nodes,
        addSlot node.expire (timer.time + 1) =
            addSlot node.expire timer.time ∨
          ∃ level idx,
            cascade (timer.time + 1).toNat = some (level, idx) ∧
              addSlot node.expire timer.time = .level level idx := by
    intro node member
    simp only [addSlot_eq]
    exact slotOf_succ timer.time.toNat_lt ticked (ahead node member)
  rw [timerShift_eq]
  cases moved : cascade (timer.time + 1).toNat with
  | none =>
      apply sorted.tick
      intro node member
      rcases step node member with same | ⟨level, idx, found, _⟩
      · exact same
      · rw [moved] at found
        cases found
  | some target =>
      apply sorted.moveList
      intro node member
      rcases step node member with same | ⟨level, idx, found, here⟩
      · exact Or.inl same
      · rw [moved] at found
        injection found with found
        subst found
        exact Or.inr here

/-- The current near list belongs to an expiry exactly when it is due now. -/
theorem addSlot_eq_currentSlot_iff
    (timer : Timer)
    (expire : UInt32) :
    addSlot expire timer.time = timer.currentSlot ↔ expire = timer.time := by
  rw [addSlot_eq, currentSlot, UInt32.toNat_and_mask (k := 8) _ rfl,
    slotOf_eq_current_iff, UInt32.toNat_inj]

/-- `Execute` hands over exactly the nodes whose expiry is the clock. -/
theorem Sorted.execute_fst
    (sorted : Sorted timer nodes) :
    timer.execute.1 = nodes.filter (·.expire = timer.time) := by
  have here := (addSlot_eq_currentSlot_iff timer timer.time).mpr rfl
  rw [execute_eq, ← sorted.kept timer.time, here, eq_comm]
  simp only [List.filter_eq_self, decide_eq_true_eq]
  intro node member
  exact (addSlot_eq_currentSlot_iff timer node.expire).mp
    (sorted.placed _ node member)

/-- `Execute` leaves exactly the nodes of other expiries. -/
theorem Sorted.execute_snd
    (sorted : Sorted timer nodes) :
    Sorted timer.execute.2 (nodes.filter (·.expire ≠ timer.time)) := by
  rw [execute_eq]
  constructor
  · intro slot node member
    by_cases here : slot = timer.currentSlot
    · simp [linkClear, here] at member
    · simp only [linkClear, here, ↓reduceIte] at member
      exact sorted.placed slot node member
  · intro expire
    by_cases isDue : expire = timer.time
    · subst isDue
      have here := (addSlot_eq_currentSlot_iff timer timer.time).mpr rfl
      simp only [linkClear, here, ↓reduceIte, List.filter_nil,
        List.filter_filter]
      symm
      simp only [List.filter_eq_nil_iff]
      intro node _
      by_cases isNow : node.expire = timer.time
      · simp [isNow]
      · simp [isNow]
    · have elsewhere : addSlot expire timer.time ≠ timer.currentSlot := by
        rwa [ne_eq, addSlot_eq_currentSlot_iff]
      simp only [linkClear, elsewhere, ↓reduceIte, List.filter_filter]
      rw [sorted.kept expire]
      apply List.filter_congr
      intro node _
      by_cases isExpire : node.expire = expire
      · simp [isExpire, isDue]
      · simp [isExpire]

end Sorting

section Refinement

/-- The wheel holds the pending nodes of an agenda, all within half the range. -/
structure Tracks
    (timer : Timer)
    (agenda : Agenda TimerNode) : Prop where
  clock : timer.time.toNat = agenda.now % 2 ^ 32
  within :
    ∀ entry ∈ agenda.pending,
      agenda.now < entry.1 ∧
        entry.1 < agenda.now + 2 ^ 31 ∧
        entry.2.expire.toNat = entry.1 % 2 ^ 32
  sorted : Sorted timer (agenda.pending.map Prod.snd)

variable
    {timer : Timer}
    {agenda : Agenda TimerNode}

/-- Every pending expiry lies ahead of the clock. -/
theorem Tracks.ahead
    (tracks : Tracks timer agenda) :
    ∀ node ∈ agenda.pending.map Prod.snd,
      Ahead timer.time.toNat node.expire.toNat := by
  intro node member
  obtain ⟨entry, pending, rfl⟩ := List.mem_map.mp member
  obtain ⟨later, soon, isExpire⟩ := tracks.within entry pending
  refine ⟨entry.1 - agenda.now, by omega, by omega, ?_⟩
  rw [isExpire, tracks.clock]
  omega

/-- Adding a node with its expiry a delay ahead schedules it. -/
theorem Tracks.addNode
    (tracks : Tracks timer agenda)
    {node : TimerNode}
    {t : Nat}
    (positive : 0 < t)
    (short : t < 2 ^ 31)
    (isExpire : node.expire = timer.time + UInt32.ofNat t) :
    Tracks (timer.addNode node) (agenda.schedule t node) where
  clock := tracks.clock
  within := by
    intro entry member
    simp only [Agenda.schedule, List.mem_append, List.mem_singleton] at member
    rcases member with old | isNew
    · exact tracks.within entry old
    · subst isNew
      refine ⟨Nat.lt_add_of_pos_right positive, ?_, ?_⟩
      · exact Nat.add_lt_add_left short agenda.now
      · simp [isExpire, tracks.clock, Nat.add_mod]
  sorted := by
    simpa [Agenda.schedule] using tracks.sorted.addNode node

/-- A node's expiry is the next clock value exactly when its entry is due. -/
theorem Tracks.expire_eq_iff
    (tracks : Tracks timer agenda)
    {entry : Nat × TimerNode}
    (member : entry ∈ agenda.pending) :
    entry.2.expire = timer.time + 1 ↔ entry.1 = agenda.now + 1 := by
  obtain ⟨later, soon, isExpire⟩ := tracks.within entry member
  have clock := tracks.clock
  rw [← UInt32.toNat_inj, isExpire]
  simp only [UInt32.toNat_add, clock]
  constructor
  · intro same
    have ticked :
        entry.1 % 2 ^ 32 = (agenda.now % 2 ^ 32 + 1) % 2 ^ 32 := same
    omega
  · intro isDue
    rw [isDue]
    show (agenda.now + 1) % 2 ^ 32 = (agenda.now % 2 ^ 32 + 1) % 2 ^ 32
    omega

/-- The first `Execute` of an update finds nothing to do. -/
theorem Tracks.execute_early
    (tracks : Tracks timer agenda) :
    timer.execute.1 = [] ∧
      Sorted timer.execute.2 (agenda.pending.map Prod.snd) := by
  have noneDue :
      ∀ node ∈ agenda.pending.map Prod.snd, node.expire ≠ timer.time := by
    intro node member isNow
    obtain ⟨t, positive, short, isExpire⟩ := tracks.ahead node member
    have bound := timer.time.toNat_lt
    rw [isNow] at isExpire
    omega
  constructor
  · rw [tracks.sorted.execute_fst]
    simpa [List.filter_eq_nil_iff] using noneDue
  · have left := tracks.sorted.execute_snd
    rwa [List.filter_eq_self.mpr (by simpa using noneDue)] at left

@[simp] theorem time_execute
    (timer : Timer) :
    timer.execute.2.time = timer.time := by
  rw [execute_eq]
  rfl

/-- One update hands over the agenda's batch and ticks the agenda. -/
theorem Tracks.update
    (tracks : Tracks timer agenda) :
    timer.update.1 = agenda.batch ∧ Tracks timer.update.2 agenda.tick := by
  obtain ⟨nothing, sorted⟩ := tracks.execute_early
  have shifted :
      Sorted timer.execute.2.timerShift (agenda.pending.map Prod.snd) := by
    apply sorted.timerShift
    rw [time_execute]
    exact tracks.ahead
  have due (entry : Nat × TimerNode) (member : entry ∈ agenda.pending) :
      (decide (entry.2.expire = timer.time + 1)) =
        decide (entry.1 = agenda.now + 1) := by
    simp [tracks.expire_eq_iff member]
  constructor
  · simp only [Timer.update, nothing, List.nil_append]
    rw [shifted.execute_fst, time_timerShift, time_execute,
      List.filter_map, Agenda.batch]
    congr 1
    exact List.filter_congr due
  · refine ⟨?_, ?_, ?_⟩
    · have clock := tracks.clock
      simp only [Timer.update, time_execute, time_timerShift, Agenda.tick,
        UInt32.toNat_add, clock]
      show (agenda.now % 2 ^ 32 + 1) % 2 ^ 32 = (agenda.now + 1) % 2 ^ 32
      omega
    · intro entry member
      simp only [Agenda.tick, List.mem_filter, decide_eq_true_eq] at member ⊢
      obtain ⟨later, soon, isExpire⟩ := tracks.within entry member.1
      have notDue : entry.1 ≠ agenda.now + 1 := member.2
      exact ⟨by omega, by omega, isExpire⟩
    · have left := shifted.execute_snd
      rw [time_timerShift, time_execute, List.filter_map] at left
      simp only [Timer.update, Agenda.tick]
      convert left using 2
      apply List.filter_congr
      intro entry member
      have same := due entry member
      simp only [Function.comp, ne_eq, decide_not] at same ⊢
      rw [same]

/-- Calls on the timer; an added node comes with the delay of its expiry. -/
inductive Call where
  | addNode (node : TimerNode) (t : Nat)
  | update
  deriving Repr, DecidableEq

/-- The agenda's call that a call stands for. -/
def Call.abstract : Call → Agenda.Call TimerNode
  | .addNode node t => .schedule t node
  | .update => .tick

/-- What every `Update` of a run hands to `DispatchList`. -/
def updates : Timer → List Call → List (List TimerNode)
  | _, [] => []
  | timer, .addNode node _ :: rest => updates (timer.addNode node) rest
  | timer, .update :: rest => timer.update.1 :: updates timer.update.2 rest

/-- The clock that every `Update` of a run leaves. -/
def clocks : Timer → List Call → List UInt32
  | _, [] => []
  | timer, .addNode node _ :: rest => clocks (timer.addNode node) rest
  | timer, .update :: rest =>
      timer.update.2.time :: clocks timer.update.2 rest

/-- The number of `Update` calls of a run. -/
def updateCount : List Call → Nat
  | [] => 0
  | .addNode .. :: rest => updateCount rest
  | .update :: rest => updateCount rest + 1

/-- The addresses of the nodes added by a run. -/
def addresses : List Call → List Nat
  | [] => []
  | .addNode node _ :: rest => node.address :: addresses rest
  | .update :: rest => addresses rest

/--
Every added node expires its delay after the clock at that moment, and the
delay is between 1 and `2 ^ 31 - 1`.
-/
def WellTimed : UInt32 → List Call → Prop
  | _, [] => True
  | time, .addNode node t :: rest =>
      node.expire = time + UInt32.ofNat t ∧ 0 < t ∧ t < 2 ^ 31 ∧
        WellTimed time rest
  | time, .update :: rest => WellTimed (time + 1) rest

@[simp] theorem time_update
    (timer : Timer) :
    timer.update.2.time = timer.time + 1 := by
  simp [Timer.update]

/-- A tracking wheel hands over what its agenda hands over. -/
theorem Tracks.updates_eq
    (tracks : Tracks timer agenda)
    {calls : List Call}
    (wellTimed : WellTimed timer.time calls) :
    updates timer calls = agenda.batches (calls.map Call.abstract) := by
  induction calls generalizing timer agenda with
  | nil =>
      rfl
  | cons call rest inductionHypothesis =>
      cases call with
      | addNode node t =>
          obtain ⟨isExpire, positive, short, later⟩ := wellTimed
          exact inductionHypothesis
            (tracks.addNode positive short isExpire) later
      | update =>
          obtain ⟨handed, ticked⟩ := tracks.update
          simp only [updates, List.map_cons, Call.abstract, Agenda.batches]
          rw [handed,
            inductionHypothesis ticked (by simpa [WellTimed] using wellTimed)]

/-- An empty wheel tracks an empty agenda. -/
theorem tracks_empty
    (time : UInt32) :
    Tracks (empty time) ⟨time.toNat, []⟩ where
  clock := (Nat.mod_eq_of_lt time.toNat_lt).symm
  within := by
    intro entry member
    simp at member
  sorted := sorted_empty time

theorem ticks_abstract
    (calls : List Call) :
    Agenda.ticks (calls.map Call.abstract) = updateCount calls := by
  induction calls with
  | nil =>
      rfl
  | cons call rest inductionHypothesis =>
      cases call <;>
        simp [Call.abstract, Agenda.ticks, updateCount, inductionHypothesis]

theorem map_address_items
    (calls : List Call) :
    (Agenda.items (calls.map Call.abstract)).map TimerNode.address =
      addresses calls := by
  induction calls with
  | nil =>
      rfl
  | cons call rest inductionHypothesis =>
      cases call <;>
        simp [Call.abstract, Agenda.items, addresses, inductionHypothesis]

theorem WellTimed.positive
    {time : UInt32}
    {calls : List Call}
    (wellTimed : WellTimed time calls) :
    Agenda.Positive (calls.map Call.abstract) := by
  induction calls generalizing time with
  | nil =>
      trivial
  | cons call rest inductionHypothesis =>
      cases call with
      | addNode node t =>
          exact ⟨wellTimed.2.1, inductionHypothesis wellTimed.2.2.2⟩
      | update =>
          have later : WellTimed (time + 1) _ := wellTimed
          exact inductionHypothesis later

/-- The `k`-th `Update` of a run, counting from 0, leaves the clock `k + 1` on. -/
theorem getElem?_clocks
    {calls : List Call}
    {k : Nat}
    {clock : UInt32}
    (found : (clocks timer calls)[k]? = some clock) :
    clock = timer.time + UInt32.ofNat (k + 1) := by
  induction calls generalizing timer k with
  | nil =>
      simp [clocks] at found
  | cons call rest inductionHypothesis =>
      cases call with
      | addNode node t =>
          have foundLater :
              (clocks (timer.addNode node) rest)[k]? = some clock :=
            found
          have later := inductionHypothesis foundLater
          exact later
      | update =>
          cases k with
          | zero =>
              simp only [clocks, List.getElem?_cons_zero,
                Option.some.injEq] at found
              simp [← found]
          | succ k =>
              have foundLater :
                  (clocks timer.update.2 rest)[k]? = some clock := by
                simpa [clocks] using found
              rw [inductionHypothesis foundLater, time_update, UInt32.add_assoc, UInt32.add_comm 1,
                UInt32.ofNat_add (k + 1) 1]
              rfl

/-- The delay of an added node is less than half the range. -/
theorem WellTimed.delay_lt
    {time : UInt32}
    {earlier later : List Call}
    {node : TimerNode}
    {t : Nat}
    (wellTimed : WellTimed time (earlier ++ .addNode node t :: later)) :
    t < 2 ^ 31 := by
  induction earlier generalizing time with
  | nil =>
      exact wellTimed.2.2.1
  | cons call rest inductionHypothesis =>
      cases call with
      | addNode other delay =>
          exact inductionHypothesis wellTimed.2.2.2
      | update =>
          have later : WellTimed (time + 1) _ := wellTimed
          exact inductionHypothesis later

/-- The expiry of an added node, counted from the start of the run. -/
theorem WellTimed.expire_eq
    {time : UInt32}
    {earlier later : List Call}
    {node : TimerNode}
    {t : Nat}
    (wellTimed : WellTimed time (earlier ++ .addNode node t :: later)) :
    node.expire = time + UInt32.ofNat (updateCount earlier + t) := by
  induction earlier generalizing time with
  | nil =>
      simpa [updateCount] using wellTimed.1
  | cons call rest inductionHypothesis =>
      cases call with
      | addNode other delay =>
          exact inductionHypothesis wellTimed.2.2.2
      | update =>
          have later : WellTimed (time + 1) _ := wellTimed
          rw [inductionHypothesis later, UInt32.add_assoc, updateCount]
          congr 1
          rw [Nat.add_right_comm, UInt32.ofNat_add _ 1, UInt32.add_comm]
          rfl

/--
Every node added with an expiry `t` ticks ahead, `1 ≤ t ≤ 2 ^ 31 - 1`, is
handed to `DispatchList` exactly once: by the `t`-th `Update` after it was
added, in which the clock becomes its expiry, and by no other.
-/
theorem update_dispatches_exactly_once
    {time : UInt32}
    {earlier later : List Call}
    {node : TimerNode}
    {t : Nat}
    (wellTimed : WellTimed time (earlier ++ .addNode node t :: later))
    (distinct : (addresses (earlier ++ .addNode node t :: later)).Nodup)
    {k : Nat}
    {handed : List TimerNode}
    {clock : UInt32}
    (dispatched :
      (updates (empty time) (earlier ++ .addNode node t :: later))[k]? =
        some handed)
    (ticked :
      (clocks (empty time) (earlier ++ .addNode node t :: later))[k]? =
        some clock) :
    handed.count node =
        (if k + 1 = updateCount earlier + t then 1 else 0) ∧
      (k + 1 = updateCount earlier + t → clock = node.expire) ∧
      (updateCount earlier ≤ k → k + 1 < updateCount earlier + t →
        clock ≠ node.expire) := by
  rw [(tracks_empty time).updates_eq wellTimed] at dispatched
  have positive := wellTimed.positive
  have once :
      (Agenda.items
        ((earlier ++ .addNode node t :: later).map Call.abstract)).Nodup := by
    rw [← map_address_items] at distinct
    exact List.Nodup.of_map _ distinct
  have isClock := getElem?_clocks ticked
  have isExpire := wellTimed.expire_eq
  rw [List.map_append, List.map_cons] at dispatched positive once
  refine ⟨?_, ?_, ?_⟩
  · rw [← ticks_abstract]
    exact Agenda.count_batches positive once dispatched
  · intro isDue
    rw [isClock, isExpire, isDue]
    rfl
  · intro added early same
    rw [isClock, isExpire] at same
    have short := wellTimed.delay_lt
    have sameTicks := congrArg UInt32.toNat same
    simp only [empty, UInt32.toNat_add, UInt32.toNat_ofNat'] at sameTicks
    omega

/-- A node added one tick before the clock wraps, to expire after the wrap. -/
def wrapping : TimerNode where
  address := 1
  expire := 2
  handle := 9
  session := 5

theorem wellTimed_wrapping :
    WellTimed 0xfffffffe
      ([.update] ++ .addNode wrapping 3 :: [.update, .update, .update]) :=
  ⟨by decide, by decide, by decide, trivial⟩

/-- The wrapping node is dispatched by the fourth update of its run. -/
theorem update_dispatches_wrapping :
    [wrapping].count wrapping =
        (if 3 + 1 = updateCount [.update] + 3 then 1 else 0) ∧
      (3 + 1 = updateCount [.update] + 3 → (2 : UInt32) = wrapping.expire) ∧
      (updateCount [.update] ≤ 3 → 3 + 1 < updateCount [.update] + 3 →
        (2 : UInt32) ≠ wrapping.expire) :=
  update_dispatches_exactly_once wellTimed_wrapping (by decide)
    (k := 3)
    (by
      rw [(tracks_empty _).updates_eq wellTimed_wrapping]
      decide)
    (by
      simp [clocks, empty])

end Refinement

end Timer

end SkynetCpp
