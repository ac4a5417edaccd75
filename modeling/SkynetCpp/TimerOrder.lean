import SkynetCpp.TimerWheel

namespace SkynetCpp

open Foundation

/-!
# The order of equal expiries

Nodes of one expiry may enter the wheel at different levels.  As the wheel
hands over what its agenda hands over, the one that was added first is
dispatched first while both are pending.
-/

namespace Timer

/-- The timer after a sequence of calls. -/
def reached : Timer → List Call → Timer
  | timer, [] => timer
  | timer, .addNode node _ :: rest => reached (timer.addNode node) rest
  | timer, .update :: rest => reached timer.update.2 rest

section Reached

variable
    {timer : Timer}
    {agenda : Agenda TimerNode}
    {time : UInt32}

/-- The calls before another one are well timed, and so is that one. -/
theorem WellTimed.split
    {earlier later : List Call}
    (wellTimed : WellTimed time (earlier ++ later)) :
    WellTimed time earlier ∧
      WellTimed (time + UInt32.ofNat (updateCount earlier)) later := by
  induction earlier generalizing time with
  | nil =>
      exact ⟨trivial, by simpa [updateCount] using wellTimed⟩
  | cons call rest inductionHypothesis =>
      cases call with
      | addNode node t =>
          obtain ⟨isExpire, positive, short, others⟩ := wellTimed
          obtain ⟨earlierTimed, laterTimed⟩ := inductionHypothesis others
          exact ⟨⟨isExpire, positive, short, earlierTimed⟩, laterTimed⟩
      | update =>
          have others : WellTimed (time + 1) (rest ++ later) := wellTimed
          obtain ⟨earlierTimed, laterTimed⟩ := inductionHypothesis others
          refine ⟨earlierTimed, ?_⟩
          rw [updateCount, Nat.add_comm, UInt32.ofNat_add, ← UInt32.add_assoc]
          exact laterTimed

/-- The wheel keeps tracking its agenda along well-timed calls. -/
theorem Tracks.reached
    (tracks : Tracks timer agenda)
    {calls : List Call}
    (wellTimed : WellTimed timer.time calls) :
    Tracks (timer.reached calls) (agenda.after (calls.map Call.abstract)) := by
  induction calls generalizing timer agenda with
  | nil =>
      exact tracks
  | cons call rest inductionHypothesis =>
      cases call with
      | addNode node t =>
          obtain ⟨isExpire, positive, short, later⟩ := wellTimed
          exact inductionHypothesis
            (tracks.addNode positive short isExpire) later
      | update =>
          exact inductionHypothesis tracks.update.2
            (by simpa [WellTimed] using wellTimed)

/-- Every update of a run advances the clock by one. -/
theorem time_reached
    (timer : Timer)
    (calls : List Call) :
    (timer.reached calls).time =
      timer.time + UInt32.ofNat (updateCount calls) := by
  induction calls generalizing timer with
  | nil =>
      exact (UInt32.add_zero timer.time).symm
  | cons call rest inductionHypothesis =>
      cases call with
      | addNode node t =>
          exact inductionHypothesis (timer.addNode node)
      | update =>
          rw [updateCount, Nat.add_comm, UInt32.ofNat_add, ← UInt32.add_assoc]
          exact (inductionHypothesis timer.update.2).trans
            (congrArg (· + _) (time_update timer))

/-- A pending node that expires with a new one is due with it. -/
theorem Tracks.due_eq
    (tracks : Tracks timer agenda)
    {first second : TimerNode}
    {due t : Nat}
    (pending : (due, first) ∈ agenda.pending)
    (sameExpire : first.expire = second.expire)
    (isExpire : second.expire = timer.time + UInt32.ofNat t)
    (positive : 0 < t)
    (short : t < 2 ^ 31) :
    due = agenda.now + t := by
  obtain ⟨later, soon, isDue⟩ := tracks.within _ pending
  have clock := tracks.clock
  have same : due % 2 ^ 32 = (agenda.now % 2 ^ 32 + t % 2 ^ 32) % 2 ^ 32 := by
    rw [← isDue, sameExpire, isExpire, UInt32.toNat_add, clock,
      UInt32.toNat_ofNat']
  omega

/-- Every pending node is on one of the lists. -/
theorem Sorted.exists_lists
    {nodes : List TimerNode}
    (sorted : Sorted timer nodes)
    {node : TimerNode}
    (member : node ∈ nodes) :
    ∃ slot, node ∈ timer.lists slot := by
  have kept : node ∈ nodes.filter (·.expire = node.expire) :=
    List.mem_filter.mpr ⟨member, by simp⟩
  rw [← sorted.kept] at kept
  exact ⟨_, (List.mem_filter.mp kept).1⟩

end Reached

section Order

variable
    {time : UInt32}
    {earlier later : List Call}
    {first second : TimerNode}
    {t : Nat}

/-- A node that is added once is not among the nodes of the other calls. -/
theorem not_mem_items_of_nodup
    (distinct : (addresses (earlier ++ .addNode second t :: later)).Nodup) :
    second ∉ Agenda.items (earlier.map Call.abstract) ∧
      second ∉ Agenda.items (later.map Call.abstract) := by
  rw [← map_address_items] at distinct
  have once := List.Nodup.of_map _ distinct
  rw [List.map_append, Agenda.items_append, List.map_cons, Call.abstract,
    Agenda.items, List.nodup_append] at once
  obtain ⟨_, late, apart⟩ := once
  exact ⟨fun member => apart second member second List.mem_cons_self rfl,
    (List.nodup_cons.mp late).1⟩

/--
Of two nodes of one expiry, the first still on a list when the second is added,
the first is dispatched before the second.
-/
theorem update_dispatches_in_order
    (wellTimed : WellTimed time (earlier ++ .addNode second t :: later))
    (distinct : (addresses (earlier ++ .addNode second t :: later)).Nodup)
    (sameExpire : first.expire = second.expire)
    {slot : TimerSlot}
    (pending : first ∈ ((empty time).reached earlier).lists slot)
    {before after : List TimerNode}
    (dispatched :
      (updates (empty time) (earlier ++ .addNode second t :: later)).flatten =
        before ++ second :: after) :
    first ∈ before := by
  obtain ⟨notEarlier, notLater⟩ := not_mem_items_of_nodup distinct
  obtain ⟨earlierTimed, laterTimed⟩ := wellTimed.split
  have tracks := (tracks_empty time).reached earlierTimed
  obtain ⟨isExpire, positive, short, _⟩ := laterTimed
  have isClock := time_reached (empty time) earlier
  rw [show (empty time).time = time from rfl] at isClock
  rw [← isClock] at isExpire
  obtain ⟨⟨due, node⟩, isPending, isFirst⟩ :=
    List.mem_map.mp (tracks.sorted.mem pending)
  obtain rfl : node = first := isFirst
  have isDue :=
    tracks.due_eq isPending sameExpire isExpire positive short
  rw [isDue] at isPending
  rw [(tracks_empty time).updates_eq wellTimed, List.map_append,
    List.map_cons] at dispatched
  exact Agenda.mem_before_of_schedule notEarlier notLater isPending dispatched

/-- Added two ticks ahead, on a level list. -/
def early : TimerNode where
  address := 1
  expire := 0x101
  handle := 9
  session := 5

/-- Added one tick ahead of the same expiry, on a near list. -/
def late : TimerNode where
  address := 2
  expire := 0x101
  handle := 9
  session := 6

/-- The two nodes enter the wheel at different levels and keep their order. -/
theorem update_dispatches_early_late :
    addSlot early.expire 0xff ≠ addSlot late.expire 0x100 ∧
      ∃ before after,
        (updates (empty 0xff)
            ([.addNode early 2, .update] ++
              .addNode late 1 :: [.update])).flatten =
            before ++ late :: after ∧
          early ∈ before := by
  have wellTimed :
      WellTimed 0xff
        ([.addNode early 2, .update] ++ .addNode late 1 :: [.update]) :=
    ⟨by decide, by decide, by decide, by decide, by decide, by decide, trivial⟩
  have sameExpire : early.expire = late.expire := rfl
  have tracks := (tracks_empty 0xff).reached wellTimed.split.1
  obtain ⟨slot, pending⟩ :=
    tracks.sorted.exists_lists (by decide : early ∈ _)
  have dispatched :
      (updates (empty 0xff)
          ([.addNode early 2, .update] ++
            .addNode late 1 :: [.update])).flatten =
        [early] ++ late :: [] := by
    rw [(tracks_empty 0xff).updates_eq wellTimed]
    decide
  exact ⟨by decide, _, _, dispatched,
    update_dispatches_in_order wellTimed (by decide) sameExpire pending
      dispatched⟩

end Order

end Timer

end SkynetCpp
