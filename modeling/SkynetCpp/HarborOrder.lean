import SkynetCpp.HarborRun

namespace SkynetCpp

open Foundation

/-!
# The order of the messages to a slave

Messages leave for a slave in the order in which they could first go to it,
unless a name is bound to one of its handles while its handshake goes on.
-/

namespace HarborRun

/--
The record is that of the calls and of the queues; messages whose handle was
known leave in the order in which they were accepted, a message released by a
name does not leave before what was waiting, and nothing leaves on a
connection whose handshake is not over.
-/
structure InOrder (t : HarborRun) : Prop where
  sent : t.sent.map Prod.snd = remoteSends t.calls
  carried : ∀ entry ∈ t.sent, Carries entry.1.message entry.2.message
  waiting :
    ∀ id, (t.harbor.s id).messages = (t.waiting id).map Outgoing.message
  direct :
    ∀ id,
      ((t.sentTo id).filter Outgoing.direct).Pairwise
        fun earlier later => earlier.accepted < later.accepted
  released :
    ∀ id,
      (t.sentTo id ++ t.waiting id).Pairwise
        fun earlier later =>
          earlier.direct = false → earlier.entered ≤ later.entered
  ready :
    ∀ send ∈ remoteSends t.calls, send.status ≠ .handshake

/-- No name with messages is bound to a handle whose slave is shaking hands. -/
def BindsReady (t : HarborRun) (input : HarborInput) : Prop :=
  ∀ name handle,
    t.harbor.arrival input.msg input.session input.source =
        .bound name handle →
      t.harbor.nameMessages name ≠ [] →
        (t.harbor.s (handle >>> kHandleRemoteShift).toNat).status ≠ .handshake

/-- The order in which messages go to a slave. -/
def Precedes (earlier later : Outgoing) : Prop :=
  earlier.entered ≤ later.entered ∧
    (earlier.direct → later.direct → earlier.accepted < later.accepted)

/-- Everything sent to a slave, and then everything waiting, is in order. -/
structure Ordered (t : HarborRun) : Prop extends Tied t where
  trail : ∀ id, (t.sentTo id ++ t.waiting id).Pairwise Precedes
  past :
    ∀ id, ∀ o ∈ t.sentTo id ++ t.waiting id,
      o.entered < t.clock ∧ (o.direct → o.accepted = o.entered)
  ready :
    ∀ send ∈ remoteSends t.calls, send.status ≠ .handshake

theorem Ordered.inOrder
    {t : HarborRun}
    (ordered : t.Ordered) :
    t.InOrder where
  sent := ordered.sent
  carried := ordered.carried
  waiting := ordered.waiting
  direct := by
    intro id
    have sentPart := (List.pairwise_append.mp (ordered.trail id)).1
    rw [List.pairwise_filter]
    exact
      sentPart.imp fun precedes earlierDirect laterDirect =>
        precedes.2 earlierDirect laterDirect
  released := by
    intro id
    exact (ordered.trail id).imp fun precedes _ => precedes.1
  ready := ordered.ready

section Steps

variable
    {t t' : HarborRun}
    {input : HarborInput}
    {brought : Arrival}

/-- What enters in a step enters together, behind everything else. -/
theorem entering_spec
    (brought : Arrival) :
    (t.entering brought).Pairwise Precedes ∧
      ∀ o ∈ t.entering brought,
        o.entered = t.clock ∧ (o.direct → o.accepted = t.clock) := by
  cases brought with
  | nothing =>
      exact ⟨.nil, fun _ impossible => absurd impossible List.not_mem_nil⟩
  | message id m =>
      refine ⟨List.pairwise_singleton _ _, ?_⟩
      intro o member
      rw [List.mem_singleton.mp member]
      exact ⟨rfl, fun _ => rfl⟩
  | unbound name m =>
      exact ⟨.nil, fun _ impossible => absurd impossible List.not_mem_nil⟩
  | bound name handle =>
      refine ⟨?_, ?_⟩
      · unfold entering
        rw [List.pairwise_map]
        refine List.pairwise_of_forall ?_
        intro earlier later
        exact ⟨Nat.le_refl _, fun impossible => absurd impossible (by simp)⟩
      · intro o member
        obtain ⟨waiting, _, rfl⟩ := List.mem_map.mp member
        exact ⟨rfl, fun impossible => absurd impossible (by simp)⟩

/-- The messages sent in a step are those of one slave. -/
theorem sentTo_append
    {messages : List Outgoing}
    {made : Outgoing → RemoteSend}
    {id : Nat}
    (isMade : ∀ o, (made o).slave = id)
    (sent : t'.sent = t.sent ++ messages.map fun o => (o, made o))
    (other : Nat) :
    t'.sentTo other =
      t.sentTo other ++ if other = id then messages else [] := by
  have ofMessages (messages : List Outgoing) :
      ((messages.map fun o => (o, made o)).filter
          fun entry => entry.2.slave = other).map Prod.fst =
        if other = id then messages else [] := by
    induction messages with
    | nil =>
        simp
    | cons o rest inductionHypothesis =>
        by_cases same : other = id
        · rw [if_pos same] at inductionHypothesis ⊢
          simp only [List.map_cons, isMade, same, decide_true,
            List.filter_cons_of_pos, List.cons.injEq, true_and]
          rw [same] at inductionHypothesis
          exact inductionHypothesis
        · rw [if_neg same] at inductionHypothesis ⊢
          have different : (made o).slave ≠ other := by
            rw [isMade]
            exact fun isOther => same isOther.symm
          simp only [List.map_cons, different, decide_false,
            Bool.false_eq_true, not_false_eq_true, List.filter_cons_of_neg]
          exact inductionHypothesis
  unfold sentTo
  rw [sent, List.filter_append, List.map_append, ofMessages]

/-- Nothing waits for a slave whose connection is ready. -/
theorem Tied.waiting_eq_nil
    (tied : t.Tied)
    {id : Nat}
    (connected : (t.harbor.s id).fd ≠ 0)
    (notHandshake : (t.harbor.s id).status ≠ .handshake) :
    t.waiting id = [] := by
  have slave := tied.wellFormed.slaves id
  have notWait : (t.harbor.s id).status ≠ .wait := fun isWait =>
    connected (slave.connected.mpr (Or.inl isWait))
  exact
    tied.nothingWaits (slave.settled notWait notHandshake).queue_eq_none

/-- What departs in a guarded step does not meet a handshake. -/
theorem Tied.ready_of_guard
    (tied : t.Tied)
    (guarded : t.BindsReady input)
    (isArrival :
      t.harbor.arrival input.msg input.session input.source = brought)
    {id : Nat}
    (isTarget : target brought = some id)
    (isReady :
      ∀ m, brought = .message id m → (t.harbor.s id).status ≠ .handshake)
    (something : t.entering brought ≠ []) :
    (t.harbor.s id).status ≠ .handshake := by
  cases brought with
  | nothing =>
      cases isTarget
  | message other m =>
      cases isTarget
      exact isReady m rfl
  | unbound name m =>
      cases isTarget
  | bound name handle =>
      cases isTarget
      refine guarded name handle isArrival ?_
      rw [← tied.entering_bound name handle]
      intro noMessages
      exact something (List.map_eq_nil_iff.mp noMessages)

/-- In a guarded step, only new messages come behind those sent and waiting. -/
theorem trail_sublist
    (tied : t.Tied)
    (guarded : t.BindsReady input)
    (isArrival :
      t.harbor.arrival input.msg input.session input.source = brought)
    (moves : Moves t brought t')
    (id : Nat) :
    (t'.sentTo id ++ t'.waiting id).Sublist
      ((t.sentTo id ++ t.waiting id) ++ t.entering brought) := by
  cases moves with
  | stays sends sent waiting =>
      have sameSent : t'.sentTo id = t.sentTo id := by
        unfold sentTo
        rw [sent]
      rw [sameSent]
      refine List.Sublist.trans ?_ (List.sublist_append_left _ _)
      rcases waiting id with same | released
      · rw [same]
      · rw [released]
        exact (List.nil_sublist _).append_left _
  | leaves other made isMade sends sent flushed others =>
      rw [sentTo_append (fun o => (isMade o).1) sent id]
      refine List.Sublist.trans ?_ (List.sublist_append_left _ _)
      by_cases same : id = other
      · subst same
        rw [if_pos rfl, flushed, List.append_nil]
      · rw [if_neg same, others id same, List.append_nil]
  | enters other isTarget sends sent waiting others =>
      have sameSent : t'.sentTo id = t.sentTo id := by
        unfold sentTo
        rw [sent]
      rw [sameSent]
      by_cases same : id = other
      · subst same
        rw [waiting, List.append_assoc]
      · rw [others id same]
        exact List.sublist_append_left _ _
  | departs other isTarget connected isReady made isMade sends sent waiting =>
      rw [sentTo_append (fun o => (isMade o).1) sent id, waiting id]
      by_cases same : id = other
      · subst same
        rw [if_pos rfl]
        by_cases nothing : t.entering brought = []
        · rw [nothing, List.append_nil, List.append_nil]
        · rw [tied.waiting_eq_nil connected
            (tied.ready_of_guard guarded isArrival isTarget isReady nothing),
            List.append_nil, List.append_nil]
      · rw [if_neg same, List.append_nil]
        exact List.sublist_append_left _ _

/-- A guarded step keeps everything in order. -/
theorem ordered_next
    (ordered : t.Ordered)
    (guarded : t.BindsReady input)
    (stepped : t.next? input = some t') :
    t'.Ordered := by
  have tied := ordered.toTied
  obtain ⟨tied', moves⟩ := moves_of_next tied stepped
  have clock : t'.clock = t.clock + 1 := by
    obtain ⟨h', calls, _, rfl⟩ := next?_eq_some_iff.mp stepped
    rfl
  generalize isArrival :
    t.harbor.arrival input.msg input.session input.source = brought at moves
  have sublist := trail_sublist tied guarded isArrival moves
  obtain ⟨together, behind⟩ := entering_spec (t := t) brought
  refine ⟨tied', ?_, ?_, ?_⟩
  · intro id
    refine List.Pairwise.sublist (sublist id) ?_
    refine
      List.pairwise_append.mpr ⟨ordered.trail id, together, ?_⟩
    intro earlier isEarlier later isLater
    obtain ⟨before, atOnce⟩ := ordered.past id earlier isEarlier
    obtain ⟨now, accepted⟩ := behind later isLater
    refine ⟨?_, ?_⟩
    · rw [now]
      exact Nat.le_of_lt before
    · intro earlierDirect laterDirect
      rw [accepted laterDirect, atOnce earlierDirect]
      exact before
  · intro id o member
    rw [clock]
    rcases List.mem_append.mp ((sublist id).subset member) with old | new
    · obtain ⟨before, atOnce⟩ := ordered.past id o old
      exact ⟨Nat.lt_succ_of_lt before, atOnce⟩
    · obtain ⟨now, accepted⟩ := behind o new
      refine ⟨?_, fun isDirect => ?_⟩
      · rw [now]
        exact Nat.lt_succ_self _
      · rw [accepted isDirect, now]
  · intro send member
    cases moves with
    | stays sends sent waiting =>
        rw [sends] at member
        exact ordered.ready send member
    | leaves id made isMade sends sent flushed others =>
        rw [sends, List.mem_append, List.mem_map] at member
        rcases member with earlier | ⟨o, _, rfl⟩
        · exact ordered.ready send earlier
        · rw [(isMade o).2]
          simp
    | enters id isTarget sends sent waiting others =>
        rw [sends] at member
        exact ordered.ready send member
    | departs id isTarget connected isReady made isMade sends sent waiting =>
        rw [sends, List.mem_append, List.mem_map] at member
        rcases member with earlier | ⟨o, isEntering, rfl⟩
        · exact ordered.ready send earlier
        · rw [(isMade o).2]
          exact
            tied.ready_of_guard guarded isArrival isTarget isReady
              (List.ne_nil_of_mem isEntering)

/-- A name bound during the handshake sends its messages too early. -/
theorem bindsReady_of_inOrder
    (tied : t.Tied)
    (stepped : t.next? input = some t')
    (inOrder : t'.InOrder) :
    t.BindsReady input := by
  intro name handle isArrival something shaking
  obtain ⟨h', calls, ran, rfl⟩ := next?_eq_some_iff.mp stepped
  have met := HarborService.mainloop_meets tied.wellFormed ran
  rw [isArrival] at met
  obtain ⟨names, released⟩ := met
  split at released
  · next noQueue =>
      apply something
      unfold HarborService.nameMessages
      rw [noQueue]
      rfl
  · cases released with
    | dropped isDown _ _ =>
        rw [shaking] at isDown
        cases isDown
    | delivered _ isWait _ _ _ =>
        rw [shaking] at isWait
        cases isWait
    | queued _ isWait _ _ _ _ _ _ =>
        rw [shaking] at isWait
        cases isWait
    | sent connected sends slaves =>
        obtain ⟨m, rest, shape⟩ := List.exists_cons_of_ne_nil something
        refine
          inOrder.ready
            { slave := (handle >>> kHandleRemoteShift).toNat
              status :=
                (t.harbor.s (handle >>> kHandleRemoteShift).toNat).status
              fd := (t.harbor.s (handle >>> kHandleRemoteShift).toNat).fd
              message := HarborService.addressed handle m }
            ?_ shaking
        unfold after
        rw [remoteSends_append, List.mem_append, sends, shape, List.map_cons,
          remoteSends_sendRemote]
        exact Or.inr List.mem_cons_self

end Steps

theorem start_ordered
    {harbor_id : Int}
    {slave : UInt32}
    {h : HarborService}
    (initialised : HarborService.harborInit harbor_id slave = some h) :
    (start h).Ordered where
  toTied := start_tied initialised
  trail := fun _ => .nil
  past := fun _ _ impossible => absurd impossible List.not_mem_nil
  ready := fun _ impossible => absurd impossible List.not_mem_nil

/--
In a run of the harbor service the messages for every slave leave in order
exactly when no name with messages is bound during the slave's handshake.
-/
theorem inOrder_visited_iff
    {harbor_id : Int}
    {slave : UInt32}
    {h : HarborService}
    {past : List (HarborRun × HarborInput)}
    {final : HarborRun}
    (initialised : HarborService.harborInit harbor_id slave = some h)
    (run : Run (Run.Steps next?) (start h) past final) :
    (∀ t ∈ Run.visited past final, t.InOrder) ↔
      ∀ t input, (t, input) ∈ past → t.BindsReady input :=
  Run.property_visited_iff run (start_ordered initialised) ordered_next
    Ordered.inOrder
    fun ordered stepped inOrder =>
      bindsReady_of_inOrder ordered.toTied stepped inOrder

section Early

/-- `S 7 2`, and `N a` from a service of harbor 2. -/
def connectThenBind : List HarborInput :=
  [inputOf (.harbor [83, 32, 55, 32, 50]) 0x1000001,
    inputOf (.harbor [78, 32, 97]) 0x2000005]

instance
    (t : HarborRun)
    (input : HarborInput) : Decidable (t.BindsReady input) :=
  match brought :
    t.harbor.arrival input.msg input.session input.source with
  | .bound name handle =>
      decidable_of_iff
        (t.harbor.nameMessages name ≠ [] →
          (t.harbor.s (handle >>> kHandleRemoteShift).toNat).status ≠
            .handshake) <| by
        unfold BindsReady
        rw [brought]
        simp
  | .nothing | .message _ _ | .unbound _ _ =>
      isTrue (fun name handle bound => by rw [brought] at bound; cases bound)

/-- A message of one byte for the service 5 of harbor 2. -/
def toSlave (byte : UInt8) : HarborInput :=
  inputOf
    (.system
      { destination := { name := List.replicate 16 0, handle := 0x2000005 }
        message := some [byte]
        sz := 1
        type := 3 })
    0x1000002

/--
Two messages wait for the slave that shakes hands, and one for a name; the
handshake byte lets the two go, `N a` then the third, and a fourth goes at once.
-/
def shakeThenBind : List HarborInput :=
  [inputOf (.harbor [83, 32, 55, 32, 50]) 0x1000001, toSlave 1, toSlave 2,
    toName, inputOf (.socket { type := 1, id := 7, ud := 1, buffer := [2] }) 0,
    inputOf (.harbor [78, 32, 97]) 0x2000005, toSlave 3]

/-- The four messages of that run leave, and they are in order. -/
theorem shakeThenBind_inOrder :
    ∃ past final,
      Run (Run.Steps next?) (start harborOne) past final ∧
        (final.sentTo 2).map Outgoing.direct = [true, true, false, true] ∧
        ∀ t ∈ Run.visited past final, t.InOrder := by
  have initialised :
      HarborService.harborInit 1 0x1000001 = some harborOne := rfl
  obtain ⟨past, final, run, facts⟩ :=
    Run.exists_of_recorded (start harborOne) next? shakeThenBind
      (fun past final =>
        past.all (fun step => decide (step.1.BindsReady step.2)) &&
          decide
            ((final.sentTo 2).map Outgoing.direct = [true, true, false, true]))
      (by decide +kernel)
  simp only [Bool.and_eq_true, List.all_eq_true, decide_eq_true_eq] at facts
  exact
    ⟨past, final, run, facts.2,
      (inOrder_visited_iff initialised run).mpr
        fun t input member => facts.1 (t, input) member⟩

/-- A name bound during the handshake overtakes it. -/
theorem connectThenBind_not_inOrder :
    ∃ past final,
      Run (Run.Steps next?) (start harborOne) past final ∧
        ¬ final.InOrder := by
  have early :
      (Run.replay next? (start harborOne) (toName :: connectThenBind)).any
          (fun t =>
            (remoteSends t.calls).any fun send => send.status = .handshake) =
        true := by
    decide +kernel
  obtain ⟨past, final, run, isEarly⟩ :=
    Run.exists_of_replay (start harborOne) next? (toName :: connectThenBind) _
      early
  refine ⟨past, final, run, ?_⟩
  intro inOrder
  obtain ⟨send, member, shaking⟩ := List.any_eq_true.mp isEarly
  exact inOrder.ready send member (of_decide_eq_true shaking)

end Early

end HarborRun

end SkynetCpp
