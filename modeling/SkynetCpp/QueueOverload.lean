import SkynetCpp.Foundation.Run
import SkynetCpp.MessageQueue

namespace SkynetCpp

open Foundation

/-!
# Overload reports of one message queue

`Pop` compares the length that it sees with a threshold: beyond it, it records
the length in `overload_` and doubles the threshold until the length is within.
`Overload` returns what is recorded and forgets it; a `Pop` on an empty queue
starts over with the first threshold.  The log of a run keeps these three
events, and the gauge is the part of the queue that they change.
-/

/-- What a call did with `overload_` and `overload_threshold_`. -/
inductive OverloadEntry where
  /-- A `Pop` found the queue empty. -/
  | emptied
  /-- A `Pop` recorded the length that it saw. -/
  | raised (length : Nat)
  /-- `Overload` returned a value. -/
  | reported (value : Nat)
  deriving Repr, DecidableEq

/-- `overload_` and `overload_threshold_`. -/
structure Gauge where
  overload : Nat
  threshold : Nat
  deriving Repr, DecidableEq

/-- The gauge of a queue. -/
def MessageQueue.gauge (mq : MessageQueue) : Gauge where
  overload := mq.overload
  threshold := mq.overloadThreshold

/-- What one event does to the gauge. -/
inductive Gauge.Takes : Gauge → OverloadEntry → Gauge → Prop where
  | emptied
      {gauge : Gauge} :
      Takes gauge .emptied { gauge with threshold := kMqOverload }
  | raised
      {gauge : Gauge}
      {length doublings : Nat}
      (exceeds : gauge.threshold < length)
      (within : length ≤ gauge.threshold * 2 ^ doublings)
      (least : gauge.threshold * 2 ^ doublings < 2 * length) :
      Takes gauge (.raised length)
        { overload := length, threshold := gauge.threshold * 2 ^ doublings }
  | reported
      {gauge : Gauge}
      (recorded : gauge.overload ≠ 0) :
      Takes gauge (.reported gauge.overload) { gauge with overload := 0 }

/-- What a log does to the gauge. -/
def Gauge.Leads : Gauge → List OverloadEntry → Gauge → Prop
  | gauge, [], final => gauge = final
  | gauge, entry :: rest, final =>
      ∃ next, gauge.Takes entry next ∧ Leads next rest final

/--
The values of a log that a `Pop` recorded and `Overload` then returned, given
the value that is recorded already.
-/
def reports : Option Nat → List OverloadEntry → List Nat
  | _, [] => []
  | _, .emptied :: rest => reports none rest
  | _, .raised length :: rest => reports (some length) rest
  | some _, .reported value :: rest => value :: reports none rest
  | none, .reported _ :: rest => reports none rest

/-- The gauge has doubled its first threshold some times. -/
def Gauge.Doubled (gauge : Gauge) : Prop :=
  ∃ j, gauge.threshold = kMqOverload * 2 ^ j

/-- A doubled threshold lies between two reports. -/
def DoublingApart (earlier later : Nat) : Prop :=
  ∃ j, earlier ≤ kMqOverload * 2 ^ j ∧ kMqOverload * 2 ^ j < later

namespace Gauge

variable
    {gauge next final : Gauge}
    {entry : OverloadEntry}

theorem Takes.doubled
    (doubled : gauge.Doubled)
    (taken : gauge.Takes entry next) :
    next.Doubled := by
  cases taken with
  | emptied =>
      exact ⟨0, (Nat.mul_one kMqOverload).symm⟩
  | @raised length doublings =>
      obtain ⟨j, isThreshold⟩ := doubled
      refine ⟨j + doublings, ?_⟩
      rw [Nat.pow_add, ← Nat.mul_assoc, ← isThreshold]
  | reported =>
      exact doubled

/-- A log can be cut anywhere. -/
theorem leads_append_iff
    {earlier later : List OverloadEntry} :
    gauge.Leads (earlier ++ later) final ↔
      ∃ between, gauge.Leads earlier between ∧ between.Leads later final := by
  induction earlier generalizing gauge with
  | nil =>
      simp [Leads]
  | cons entry rest inductionHypothesis =>
      simp only [List.cons_append, Leads, inductionHypothesis]
      constructor
      · rintro ⟨next, taken, between, first, second⟩
        exact ⟨between, ⟨next, taken, first⟩, second⟩
      · rintro ⟨between, ⟨next, taken, first⟩, second⟩
        exact ⟨next, taken, between, first, second⟩

theorem Leads.doubled
    {log : List OverloadEntry}
    (doubled : gauge.Doubled)
    (leads : gauge.Leads log final) :
    final.Doubled := by
  induction log generalizing gauge with
  | nil =>
      have same : gauge = final := leads
      rwa [← same]
  | cons entry rest inductionHypothesis =>
      obtain ⟨next, taken, later⟩ := leads
      exact inductionHypothesis (taken.doubled doubled) later

/--
While no `Pop` finds the queue empty, every report but the one that is recorded
already exceeds the threshold, and a doubled threshold lies between any two.
-/
theorem Leads.reports_apart
    {segment : List OverloadEntry}
    {recorded : Option Nat}
    (doubled : gauge.Doubled)
    (isRecorded :
      ∀ value ∈ recorded, value = gauge.overload ∧ value ≤ gauge.threshold)
    (leads : gauge.Leads segment final)
    (notEmptied : .emptied ∉ segment) :
    (∀ value ∈ reports recorded segment,
        value ∈ recorded ∨ gauge.threshold < value) ∧
      (reports recorded segment).Pairwise DoublingApart := by
  induction segment generalizing gauge recorded with
  | nil =>
      simp [reports]
  | cons entry rest inductionHypothesis =>
      obtain ⟨next, taken, later⟩ := leads
      rw [List.mem_cons, not_or] at notEmptied
      have nextDoubled := taken.doubled doubled
      cases taken with
      | emptied =>
          exact absurd rfl notEmptied.1
      | @raised length doublings exceeds within least =>
          obtain ⟨above, apart⟩ :=
            @inductionHypothesis _ (some length) nextDoubled
              (by simpa using within) later notEmptied.2
          refine ⟨?_, apart⟩
          intro value member
          right
          rcases above value member with isLength | exceedsLater
          · rwa [← Option.mem_some.mp isLength]
          · exact Nat.lt_of_lt_of_le exceeds
              (Nat.le_trans within (Nat.le_of_lt exceedsLater))
      | reported isPending =>
          obtain ⟨above, apart⟩ :=
            @inductionHypothesis _ none nextDoubled (by simp) later
              notEmptied.2
          have exceeds :
              ∀ value ∈ reports none rest, gauge.threshold < value := by
            intro value member
            exact (above value member).resolve_left (Option.not_mem_none value)
          cases recorded with
          | none =>
              exact ⟨fun value member => Or.inr (exceeds value member), apart⟩
          | some value =>
              obtain ⟨isOverload, within⟩ := isRecorded value rfl
              obtain ⟨j, isThreshold⟩ := doubled
              subst isOverload
              refine ⟨?_, List.pairwise_cons.mpr ⟨?_, apart⟩⟩
              · intro value member
                rcases List.mem_cons.mp member with isFirst | isLater
                · exact Or.inl (congrArg some isFirst.symm)
                · exact Or.inr (exceeds value isLater)
              · intro value member
                have exceeds := exceeds value member
                rw [isThreshold] at within exceeds
                exact ⟨j, within, exceeds⟩

end Gauge

/-- The loop of `Pop` records a length beyond the threshold, and doubles up to it. -/
theorem raiseThreshold_of_exceeds
    {fuel size threshold : Nat}
    (overload : Nat)
    (exceeds : threshold < size)
    (positive : 0 < threshold)
    (enough : size ≤ threshold + fuel) :
    ∃ doublings,
      raiseThreshold fuel size overload threshold =
          (size, threshold * 2 ^ doublings) ∧
        size ≤ threshold * 2 ^ doublings ∧
          threshold * 2 ^ doublings < 2 * size := by
  induction fuel generalizing overload threshold with
  | zero =>
      omega
  | succ fuel inductionHypothesis =>
      rw [raiseThreshold, if_pos exceeds]
      by_cases goesOn : threshold * 2 < size
      · obtain ⟨doublings, raised, within, least⟩ :=
          inductionHypothesis size goesOn (by omega) (by omega)
        have product :
            threshold * 2 * 2 ^ doublings = threshold * 2 ^ (doublings + 1) := by
          rw [Nat.pow_succ, Nat.mul_assoc, Nat.mul_comm 2]
        rw [product] at raised within least
        exact ⟨doublings + 1, raised, within, least⟩
      · refine ⟨1, ?_, by omega, by omega⟩
        cases fuel with
        | zero =>
            rfl
        | succ fuel =>
            rw [raiseThreshold, if_neg goesOn, Nat.pow_one]

/-- A length within the threshold is not recorded. -/
theorem raiseThreshold_of_within
    {fuel size overload threshold : Nat}
    (within : size ≤ threshold) :
    raiseThreshold fuel size overload threshold = (overload, threshold) := by
  cases fuel with
  | zero =>
      rfl
  | succ fuel =>
      rw [raiseThreshold, if_neg (Nat.not_lt.mpr within)]

namespace OverloadRun

/-- The calls of a run, for one queue. -/
inductive Call where
  | push (msg : Message)
  | pop (stack : Option Message)
  | overload
  /-- Anything else that the process does. -/
  | other
  deriving Repr, DecidableEq

/-- The queues with the log of one of them, the oldest event first. -/
structure Logged where
  queues : Queues
  log : List OverloadEntry

/-- What a `Pop` did, given the queue before and after it. -/
def popEntries (before after : MessageQueue) : List OverloadEntry :=
  if before.messageQueue = [] then
    [.emptied]
  else if before.messageQueue.length > before.overloadThreshold then
    [.raised after.overload]
  else
    []

/-- What an `Overload` did, given its answer. -/
def overloadEntries (answer : Nat) : List OverloadEntry :=
  if answer ≠ 0 then [.reported answer] else []

/-- One call on the queue; whatever else happens leaves its messages and gauge alone. -/
inductive Step (queue : QueueId) : Logged → Call → Logged → Prop where
  | push
      {s : Logged}
      {msg : Message}
      {next : Queues}
      (returned : messageQueuePush s.queues queue msg = .ok next) :
      Step queue s (.push msg) { s with queues := next }
  | pop
      {s : Logged}
      {stack answer : Option Message}
      {next : Queues}
      (returned : messageQueuePop s.queues queue stack = (answer, next)) :
      Step queue s (.pop stack)
        { queues := next
          log := s.log ++ popEntries (s.queues.mq queue) (next.mq queue) }
  | overload
      {s : Logged}
      {answer : Nat}
      {next : Queues}
      (returned : messageQueueOverload s.queues queue = (answer, next)) :
      Step queue s .overload
        { queues := next
          log := s.log ++ overloadEntries answer }
  | other
      {s : Logged}
      {next : Queues}
      (sameMessages :
        (next.mq queue).messageQueue = (s.queues.mq queue).messageQueue)
      (sameGauge : (next.mq queue).gauge = (s.queues.mq queue).gauge) :
      Step queue s .other { s with queues := next }

/-- The number of messages in the queue. -/
def Logged.length
    (s : Logged)
    (queue : QueueId) : Nat :=
  (s.queues.mq queue).messageQueue.length

/-- The gauge of the queue. -/
def Logged.gauge
    (s : Logged)
    (queue : QueueId) : Gauge :=
  (s.queues.mq queue).gauge

/-- What the overload reports of a queue promise. -/
structure WellFormed
    (queue : QueueId)
    (s : Logged) : Prop where
  /-- The threshold is the first one doubled some times. -/
  doubled : (s.gauge queue).Doubled
  /-- Both `int`s are in range. -/
  fits :
    (s.gauge queue).overload ≤ 2 ^ 30 ∧ (s.gauge queue).threshold ≤ 2 ^ 30
  /-- After a `Pop` the length that it saw is within the threshold. -/
  within :
    ∀ stack answer next,
      messageQueuePop s.queues queue stack = (answer, next) →
        s.length queue ≤ (next.mq queue).overloadThreshold
  /--
  Between two Pops that find the queue empty, what is recorded and then
  reported exceeds the first threshold and increases, a doubled threshold
  between any two.
  -/
  reports :
    ∀ before segment after,
      s.log = before ++ segment ++ after → .emptied ∉ segment →
        (∀ value ∈ reports none segment, kMqOverload < value) ∧
          (reports none segment).Pairwise (· < ·) ∧
            (reports none segment).Pairwise DoublingApart

/-- The log explains the gauge, and both `int`s are in range. -/
structure Explained
    (queue : QueueId)
    (s : Logged) : Prop where
  leads :
    Gauge.Leads { overload := 0, threshold := kMqOverload } s.log (s.gauge queue)
  overload : (s.gauge queue).overload ≤ 2 ^ 30
  threshold : (s.gauge queue).threshold ≤ 2 ^ 30

variable
    {queue : QueueId}
    {s : Logged}

/-- What a `Pop` does to the gauge of its queue. -/
inductive Popped (before after : MessageQueue) : Prop where
  | emptied
      (isEmpty : before.messageQueue = [])
      (gauge : after.gauge = { before.gauge with threshold := kMqOverload })
      (entries : popEntries before after = [.emptied])
  | kept
      (within : before.messageQueue.length ≤ before.overloadThreshold)
      (gauge : after.gauge = before.gauge)
      (entries : popEntries before after = [])
  | raised
      {doublings : Nat}
      (exceeds : before.overloadThreshold < before.messageQueue.length)
      (within :
        before.messageQueue.length ≤ before.overloadThreshold * 2 ^ doublings)
      (least :
        before.overloadThreshold * 2 ^ doublings <
          2 * before.messageQueue.length)
      (gauge :
        after.gauge =
          { overload := before.messageQueue.length
            threshold := before.overloadThreshold * 2 ^ doublings })
      (entries :
        popEntries before after = [.raised before.messageQueue.length])

theorem messageQueuePop_popped
    {s next : Queues}
    {stack answer : Option Message}
    (positive : 0 < (s.mq queue).overloadThreshold)
    (returned : messageQueuePop s queue stack = (answer, next)) :
    Popped (s.mq queue) (next.mq queue) := by
  have isNext : next = (messageQueuePop s queue stack).2 := by
    rw [returned]
  subst isNext
  unfold messageQueuePop
  cases shape : (s.mq queue).messageQueue with
  | nil =>
      refine .emptied shape ?_ ?_
      · simp [MessageQueue.gauge]
      · simp [popEntries, shape]
  | cons front rest =>
      dsimp only
      rw [Queues.modify_mq_self, ← shape]
      have notEmpty : (s.mq queue).messageQueue ≠ [] := by
        rw [shape]
        exact List.cons_ne_nil front rest
      by_cases exceeds :
          (s.mq queue).overloadThreshold < (s.mq queue).messageQueue.length
      · obtain ⟨doublings, raised, within, least⟩ :=
          raiseThreshold_of_exceeds (s.mq queue).overload exceeds positive
            (Nat.le_add_left _ _)
        refine .raised exceeds within least ?_ ?_
        · simp only [MessageQueue.gauge, raised]
        · rw [popEntries, if_neg notEmpty, if_pos exceeds, raised]
      · have within := Nat.le_of_not_lt exceeds
        refine .kept within ?_ ?_
        · simp only [MessageQueue.gauge, raiseThreshold_of_within within]
        · rw [popEntries, if_neg notEmpty, if_neg exceeds]

/-- The events of a `Pop` are what it did to the gauge. -/
theorem Popped.leads
    {before after : MessageQueue}
    (popped : Popped before after) :
    before.gauge.Leads (popEntries before after) after.gauge := by
  cases popped with
  | emptied isEmpty gauge entries =>
      rw [gauge, entries]
      exact ⟨_, .emptied, rfl⟩
  | kept within gauge entries =>
      rw [gauge, entries]
      exact rfl
  | raised exceeds within least gauge entries =>
      rw [gauge, entries]
      exact ⟨_, .raised exceeds within least, rfl⟩

/-- The events of an `Overload` are what it did to the gauge. -/
theorem messageQueueOverload_leads
    {s next : Queues}
    {answer : Nat}
    (returned : messageQueueOverload s queue = (answer, next)) :
    (s.mq queue).gauge.Leads (overloadEntries answer) (next.mq queue).gauge ∧
      (next.mq queue).overload ≤ (s.mq queue).overload ∧
      (next.mq queue).overloadThreshold = (s.mq queue).overloadThreshold := by
  unfold messageQueueOverload at returned
  split at returned
  · next recorded =>
      obtain ⟨rfl, rfl⟩ := Prod.mk.inj returned
      rw [overloadEntries, if_pos recorded, Queues.modify_mq_self]
      exact ⟨⟨_, .reported recorded, rfl⟩, Nat.zero_le _, rfl⟩
  · obtain ⟨rfl, rfl⟩ := Prod.mk.inj returned
    exact ⟨rfl, Nat.le_refl _, rfl⟩

/-- A push leaves the gauge alone. -/
theorem messageQueuePush_gauge
    {s next : Queues}
    {msg : Message}
    (returned : messageQueuePush s queue msg = .ok next) :
    (next.mq queue).gauge = (s.mq queue).gauge :=
  messageQueuePush_field MessageQueue.gauge (fun _ _ => rfl)
    (fun _ _ _ => rfl) returned queue

namespace Explained

theorem doubled
    (explained : Explained queue s) :
    (s.gauge queue).Doubled :=
  explained.leads.doubled ⟨0, (Nat.mul_one kMqOverload).symm⟩

theorem positive
    (explained : Explained queue s) :
    0 < (s.queues.mq queue).overloadThreshold := by
  obtain ⟨j, isThreshold⟩ := explained.doubled
  have isPositive : 0 < kMqOverload * 2 ^ j :=
    Nat.mul_pos (by decide) (Nat.two_pow_pos j)
  rw [← isThreshold] at isPositive
  exact isPositive

end Explained

/-- A doubled threshold below `2 ^ 31` is at most `2 ^ 30`. -/
theorem doubled_le
    {gauge : Gauge}
    (doubled : gauge.Doubled)
    (below : gauge.threshold < 2 ^ 31) :
    gauge.threshold ≤ 2 ^ 30 := by
  obtain ⟨j, isThreshold⟩ := doubled
  have isPower : gauge.threshold = 2 ^ (10 + j) := by
    rw [isThreshold, Nat.pow_add]
    rfl
  rw [isPower] at below ⊢
  have exponent := (Nat.pow_lt_pow_iff_right (by decide)).mp below
  exact Nat.pow_le_pow_right (by decide) (Nat.le_of_lt_succ exponent)

/-- A `Pop` on a queue of at most `2 ^ 30` messages keeps both `int`s in range. -/
theorem Explained.popped_fits
    {after : MessageQueue}
    (explained : Explained queue s)
    (short : s.length queue ≤ 2 ^ 30)
    (popped : Popped (s.queues.mq queue) after) :
    after.gauge.overload ≤ 2 ^ 30 ∧ after.gauge.threshold ≤ 2 ^ 30 := by
  have doubled := popped.leads.doubled explained.doubled
  cases popped with
  | emptied _ gauge =>
      rw [gauge]
      have first : kMqOverload ≤ 2 ^ 30 := by decide
      exact ⟨explained.overload, first⟩
  | kept _ gauge =>
      rw [gauge]
      exact ⟨explained.overload, explained.threshold⟩
  | raised _ _ least gauge =>
      rw [gauge] at doubled ⊢
      have short : (s.queues.mq queue).messageQueue.length ≤ 2 ^ 30 := short
      exact ⟨short, doubled_le doubled (Nat.lt_of_lt_of_le least (by omega))⟩

/-- Each call on a queue of at most `2 ^ 30` messages is explained by its events. -/
theorem Explained.step
    {next : Logged}
    {call : Call}
    (explained : Explained queue s)
    (short : s.length queue ≤ 2 ^ 30)
    (taken : Step queue s call next) :
    Explained queue next := by
  have kept
      {later : Queues}
      (sameGauge : (later.mq queue).gauge = (s.queues.mq queue).gauge) :
      Explained queue { s with queues := later } := by
    constructor
    · change Gauge.Leads _ s.log (later.mq queue).gauge
      rw [sameGauge]
      exact explained.leads
    · change (later.mq queue).gauge.overload ≤ 2 ^ 30
      rw [sameGauge]
      exact explained.overload
    · change (later.mq queue).gauge.threshold ≤ 2 ^ 30
      rw [sameGauge]
      exact explained.threshold
  cases taken with
  | push returned =>
      exact kept (messageQueuePush_gauge returned)
  | other _ sameGauge =>
      exact kept sameGauge
  | pop returned =>
      have popped := messageQueuePop_popped explained.positive returned
      obtain ⟨overload, threshold⟩ := explained.popped_fits short popped
      exact
        ⟨Gauge.leads_append_iff.mpr ⟨_, explained.leads, popped.leads⟩,
          overload, threshold⟩
  | overload returned =>
      obtain ⟨events, overload, threshold⟩ :=
        messageQueueOverload_leads returned
      have leads := Gauge.leads_append_iff.mpr ⟨_, explained.leads, events⟩
      exact
        ⟨leads, Nat.le_trans overload explained.overload,
          Nat.le_trans (Nat.le_of_eq threshold) explained.threshold⟩

/-- A queue whose gauge its log explains keeps its promise. -/
theorem Explained.wellFormed
    (explained : Explained queue s) :
    WellFormed queue s where
  doubled := explained.doubled
  fits := ⟨explained.overload, explained.threshold⟩
  within := by
    intro stack answer next returned
    have popped := messageQueuePop_popped explained.positive returned
    change (s.queues.mq queue).messageQueue.length ≤ (next.mq queue).gauge.threshold
    cases popped with
    | emptied isEmpty =>
        rw [isEmpty]
        exact Nat.zero_le _
    | kept within gauge =>
        rw [gauge]
        exact within
    | raised _ within _ gauge =>
        rw [gauge]
        exact within
  reports := by
    intro before segment after isLog notEmptied
    have leads := explained.leads
    rw [isLog] at leads
    obtain ⟨last, leads, -⟩ := Gauge.leads_append_iff.mp leads
    obtain ⟨first, leads, during⟩ := Gauge.leads_append_iff.mp leads
    have doubled := leads.doubled ⟨0, (Nat.mul_one kMqOverload).symm⟩
    obtain ⟨above, apart⟩ :=
      @Gauge.Leads.reports_apart _ _ _ none doubled (by simp) during notEmptied
    refine ⟨?_, apart.imp ?_, apart⟩
    · intro value member
      have exceeds := (above value member).resolve_left (Option.not_mem_none value)
      obtain ⟨j, isThreshold⟩ := doubled
      have atLeast : kMqOverload * 1 ≤ kMqOverload * 2 ^ j :=
        Nat.mul_le_mul_left kMqOverload (Nat.two_pow_pos j)
      omega
    · rintro earlier later ⟨j, below, exceeds⟩
      exact Nat.lt_of_le_of_lt below exceeds

/--
Along every run of `Push`, `Pop` and `Overload` calls on a constructed queue of
at most `2 ^ 30` messages, a backlog is reported at most once per doubling.
-/
theorem overload_wellFormed
    {handle : UInt32}
    {initial : Queues}
    {past : List (Logged × Call)}
    {final : Logged}
    (constructed : initial.mq queue = newMessageQueue handle)
    (run : Run (Step queue) { queues := initial, log := [] } past final)
    (short : ∀ state ∈ Run.visited past final, state.length queue ≤ 2 ^ 30) :
    ∀ state ∈ Run.visited past final, WellFormed queue state := by
  have start : Explained queue { queues := initial, log := [] } := by
    have gauge :
        (initial.mq queue).gauge = { overload := 0, threshold := kMqOverload } := by
      rw [constructed]
      rfl
    have first : kMqOverload ≤ 2 ^ 30 := by decide
    constructor
    · exact gauge.symm
    · change (initial.mq queue).gauge.overload ≤ 2 ^ 30
      rw [gauge]
      exact Nat.zero_le _
    · change (initial.mq queue).gauge.threshold ≤ 2 ^ 30
      rw [gauge]
      exact first
  have preserved
      {state next : Logged}
      {call : Call}
      (explained : Explained queue state)
      (isShort : state.length queue ≤ 2 ^ 30)
      (taken : Step queue state call next) :
      Explained queue next :=
    explained.step isShort taken
  have explained :=
    run.invariant_visited start preserved fun inPast =>
      short _ (Run.mem_visited.mpr (Or.inr ⟨_, inPast⟩))
  intro state member
  exact (explained state member).wellFormed

/-- A constructed queue, linked nowhere. -/
def lone : Queues where
  mq := fun _ => newMessageQueue 1
  head := none
  tail := none

/-- A message without a payload. -/
def blank : Message where
  source := 1
  session := 0
  data := none
  sz := 0

/--
A run on the lone queue that ends with this many messages, this gauge and this
log; no `Pop` takes a message off, so the queue was never longer.
-/
def Reached
    (messages : Nat)
    (gauge : Gauge)
    (log : List OverloadEntry) : Prop :=
  ∃ past final,
    Run (Step 0) { queues := lone, log := [] } past final ∧
      (∀ state ∈ Run.visited past final, state.length 0 ≤ messages) ∧
        (final.queues.mq 0).inGlobal = kMqInGlobal ∧
          final.length 0 = messages ∧
            final.gauge 0 = gauge ∧
              final.log = log

namespace Reached

variable
    {messages : Nat}
    {gauge : Gauge}
    {log : List OverloadEntry}

/-- The first `Pop` finds the queue empty, and a message comes. -/
theorem first :
    Reached 1 { overload := 0, threshold := kMqOverload } [.emptied] := by
  have start : Run (Step 0) { queues := lone, log := [] } [] _ := .nil
  have run :=
    (start.snoc (@Step.pop 0 _ none _ _ rfl)).snoc (@Step.push 0 _ blank _ rfl)
  refine ⟨_, _, run, ?_, rfl, rfl, rfl, rfl⟩
  simp [Run.visited, Logged.length]
  decide

theorem push
    (reached : Reached messages gauge log) :
    Reached (messages + 1) gauge log := by
  obtain ⟨past, final, run, short, linked, length, isGauge, isLog⟩ := reached
  have notZero : (final.queues.mq 0).inGlobal ≠ 0 := by
    rw [linked]
    decide
  have returned := messageQueuePush.eq_1 final.queues 0 blank
  rw [if_neg notZero] at returned
  refine ⟨_, _, run.snoc (.push returned), ?_, ?_, ?_, ?_, isLog⟩
  · intro state member
    rcases List.mem_cons.mp member with isFinal | earlier
    · subst isFinal
      simp [Logged.length, ← length]
    · exact Nat.le_succ_of_le (short state earlier)
  · simpa using linked
  · simpa [Logged.length] using length
  · simpa [Logged.gauge, MessageQueue.gauge] using isGauge

theorem pushes
    (reached : Reached messages gauge log)
    (count : Nat) :
    Reached (messages + count) gauge log := by
  induction count with
  | zero =>
      exact reached
  | succ count inductionHypothesis =>
      exact inductionHypothesis.push

/-- A `Pop` records a length beyond the threshold and doubles the threshold. -/
theorem raised
    (reached : Reached messages gauge log)
    (exceeds : gauge.threshold < messages)
    (within : messages ≤ gauge.threshold * 2) :
    Reached messages
      { overload := messages, threshold := gauge.threshold * 2 }
      (log ++ [.raised messages]) := by
  obtain ⟨past, final, run, short, linked, length, isGauge, isLog⟩ := reached
  have threshold : (final.queues.mq 0).overloadThreshold = gauge.threshold :=
    congrArg Gauge.threshold isGauge
  have messagesLength :
      (final.queues.mq 0).messageQueue.length = messages := length
  obtain ⟨front, rest, shape⟩ :=
    List.exists_cons_of_length_pos
      (Nat.lt_of_lt_of_eq (Nat.zero_lt_of_lt exceeds) messagesLength.symm)
  have raising :
      raiseThreshold messages messages (final.queues.mq 0).overload
          gauge.threshold = (messages, gauge.threshold * 2) := by
    cases messages with
    | zero =>
        cases exceeds
    | succ before =>
        rw [raiseThreshold, if_pos exceeds, raiseThreshold_of_within within]
  rw [shape] at messagesLength
  have popped (stack : Option Message) :
      messageQueuePop final.queues 0 stack =
        (some front,
          final.queues.modify 0 fun mq =>
            { mq with
              overload := messages
              overloadThreshold := gauge.threshold * 2 }) := by
    simp only [messageQueuePop, shape, messagesLength, threshold, raising]
  have entries :
      popEntries (final.queues.mq 0)
          ((final.queues.modify 0 fun mq =>
            { mq with
              overload := messages
              overloadThreshold := gauge.threshold * 2 }).mq 0) =
        [.raised messages] := by
    rw [popEntries, if_neg (by simp [shape]),
      if_pos (by rw [shape, messagesLength, threshold]; exact exceeds),
      Queues.modify_mq_self]
  refine ⟨_, _, run.snoc (.pop (popped none)), ?_, ?_, ?_, ?_, ?_⟩
  · intro state member
    rcases List.mem_cons.mp member with isFinal | earlier
    · subst isFinal
      simp [Logged.length, shape, ← messagesLength]
    · exact short state earlier
  · simpa using linked
  · simp [Logged.length, shape, ← messagesLength]
  · simp [Logged.gauge, MessageQueue.gauge]
  · simp only [entries, isLog]

/-- `Overload` returns what is recorded. -/
theorem reported
    (reached : Reached messages gauge log)
    (recorded : gauge.overload ≠ 0) :
    Reached messages { gauge with overload := 0 }
      (log ++ [.reported gauge.overload]) := by
  obtain ⟨past, final, run, short, linked, length, isGauge, isLog⟩ := reached
  have overload : (final.queues.mq 0).overload = gauge.overload :=
    congrArg Gauge.overload isGauge
  have threshold : (final.queues.mq 0).overloadThreshold = gauge.threshold :=
    congrArg Gauge.threshold isGauge
  have returned := messageQueueOverload.eq_1 final.queues 0
  rw [overload, if_pos recorded] at returned
  refine ⟨_, _, run.snoc (.overload returned), ?_, ?_, ?_, ?_, ?_⟩
  · intro state member
    rcases List.mem_cons.mp member with isFinal | earlier
    · subst isFinal
      simpa [Logged.length] using Nat.le_of_eq length
    · exact short state earlier
  · simpa using linked
  · simpa [Logged.length] using length
  · simp [Logged.gauge, MessageQueue.gauge, threshold]
  · rw [isLog, overloadEntries, if_pos recorded]

end Reached

/-- A backlog of 2049 messages that is reported twice, a doubling apart. -/
theorem overload_wellFormed_backlog :
    ∃ past final,
      Run (Step 0) { queues := lone, log := [] } past final ∧
        final.log =
          [.emptied, .raised 1025, .reported 1025, .raised 2049,
            .reported 2049] ∧
          ∀ state ∈ Run.visited past final, WellFormed 0 state := by
  have once := (Reached.first.pushes 1024).raised (by decide) (by decide)
  have twice :=
    ((once.reported (by decide)).pushes 1024).raised (by decide) (by decide)
  obtain ⟨past, final, run, short, _, _, _, isLog⟩ :=
    twice.reported (by decide)
  refine ⟨past, final, run, isLog, ?_⟩
  refine overload_wellFormed rfl run ?_
  intro state member
  exact Nat.le_trans (short state member) (by decide)

end OverloadRun

end SkynetCpp
