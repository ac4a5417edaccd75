import SkynetCpp.HarborMainloop
import SkynetCpp.Foundation.Run

namespace SkynetCpp

open Foundation

/-!
# Runs of the harbor service

A run of the harbor's mainloop with a record of the messages under way: when
each was accepted, when it could first go to its slave, and whether its handle
was known from the start.  The record follows the queues and the calls of
`send_remote`.
-/

/-- A message that the harbor accepted for a slave. -/
structure Outgoing where
  /-- The step that brought the message. -/
  accepted : Nat
  /-- The step in which it could go to its slave. -/
  entered : Nat
  /-- Whether it was addressed by a handle or by a bound name. -/
  direct : Bool
  message : HarborMsg
  deriving Repr, DecidableEq

/-- A message in a queue and the message that is sent for it. -/
structure Carries (m sent : HarborMsg) : Prop where
  source : sent.header.source = m.header.source
  session : sent.header.session = m.header.session
  buffer : sent.buffer = m.buffer
  size : sent.size = m.size

/-- One message to `mainloop`, and what the code meets while it runs. -/
structure HarborInput where
  msg : HarborMessage
  session : Int
  source : UInt32
  unknown : HarborUnknown

/-- The harbor service with a record of its messages. -/
structure HarborRun where
  harbor : HarborService
  /-- The number of steps so far. -/
  clock : Nat
  /-- What waits for a name, with the step that brought it. -/
  named : UInt32 × List UInt8 → List (Nat × HarborMsg)
  /-- What waits for a slave. -/
  waiting : Nat → List Outgoing
  sent : List (Outgoing × RemoteSend)
  calls : List HarborCall

namespace HarborRun

/-- The messages that a step lets go to their slave. -/
def entering (t : HarborRun) : Arrival → List Outgoing
  | .nothing => []
  | .message _ m =>
      [{ accepted := t.clock, entered := t.clock, direct := true, message := m }]
  | .unbound _ _ => []
  | .bound name _ =>
      (t.named (nameKey name)).map fun waiting =>
        { accepted := waiting.1
          entered := t.clock
          direct := false
          message := waiting.2 }

/-- The slave that they go to. -/
def target : Arrival → Option Nat
  | .nothing => none
  | .message id _ => some id
  | .unbound _ _ => none
  | .bound _ handle => some (handle >>> kHandleRemoteShift).toNat

/--
The messages that leave with the calls of `send_remote`: those that enter, or
those that wait for the slave.
-/
def leaving
    (t : HarborRun)
    (brought : Arrival) : List RemoteSend → List Outgoing
  | [] => []
  | send :: _ =>
      match brought with
      | .nothing => t.waiting send.slave
      | _ => t.entering brought

/-- What waits for a slave after a step. -/
def waitingAfter
    (t : HarborRun)
    (brought : Arrival)
    (h' : HarborService)
    (sends : List RemoteSend)
    (id : Nat) : List Outgoing :=
  if (h'.s id).queue = none then
    []
  else if target brought = some id ∧ sends = [] then
    t.waiting id ++ t.entering brought
  else
    t.waiting id

/-- What waits for the names after a step. -/
def namedAfter
    (t : HarborRun) : Arrival → UInt32 × List UInt8 → List (Nat × HarborMsg)
  | .nothing => t.named
  | .message _ _ => t.named
  | .unbound name m =>
      Function.update t.named (nameKey name)
        (t.named (nameKey name) ++ [(t.clock, m)])
  | .bound name _ => Function.update t.named (nameKey name) []

/-- The record that a step leaves. -/
def after
    (t : HarborRun)
    (brought : Arrival)
    (h' : HarborService)
    (calls : List HarborCall) : HarborRun where
  harbor := h'
  clock := t.clock + 1
  named := t.namedAfter brought
  waiting := t.waitingAfter brought h' (remoteSends calls)
  sent :=
    t.sent ++
      (t.leaving brought (remoteSends calls)).zip (remoteSends calls)
  calls := t.calls ++ calls

/-- One step of `mainloop`. -/
def next? (t : HarborRun) (input : HarborInput) : Option HarborRun :=
  match
    t.harbor.mainloop input.msg input.session input.source input.unknown with
  | .error _ => none
  | .ok (h', calls) =>
      some
        (t.after (t.harbor.arrival input.msg input.session input.source) h'
          calls)

/-- What was sent for a slave, in order. -/
def sentTo (t : HarborRun) (id : Nat) : List Outgoing :=
  (t.sent.filter fun entry => entry.2.slave = id).map Prod.fst

/-- A harbor service that has just been initialised. -/
def start (h : HarborService) : HarborRun where
  harbor := h
  clock := 0
  named := fun _ => []
  waiting := fun _ => []
  sent := []
  calls := []

/-- The record agrees with the calls and the queues. -/
structure Tied (t : HarborRun) : Prop where
  wellFormed : t.harbor.WellFormed
  sent : t.sent.map Prod.snd = remoteSends t.calls
  carried : ∀ entry ∈ t.sent, Carries entry.1.message entry.2.message
  waiting :
    ∀ id, (t.harbor.s id).messages = (t.waiting id).map Outgoing.message
  named :
    ∀ name,
      t.harbor.nameMessages name =
        (t.named (nameKey name)).map Prod.snd

section Steps

variable {t t' : HarborRun} {input : HarborInput}

/-- A step of the run is one of `mainloop`, whose record is kept. -/
theorem next?_eq_some_iff :
    t.next? input = some t' ↔
      ∃ h' calls,
        t.harbor.mainloop input.msg input.session input.source input.unknown =
            .ok (h', calls) ∧
          t' =
            t.after (t.harbor.arrival input.msg input.session input.source) h'
              calls := by
  unfold next?
  cases
      t.harbor.mainloop input.msg input.session input.source input.unknown with
  | error fault =>
      simp
  | ok result =>
      obtain ⟨h', calls⟩ := result
      constructor
      · intro stepped
        exact ⟨h', calls, rfl, (Option.some.inj stepped).symm⟩
      · rintro ⟨next, made, same, rfl⟩
        cases same
        rfl

/-- Nothing waits for a slave without a queue. -/
theorem Tied.nothingWaits
    (tied : t.Tied)
    {id : Nat}
    (nothing : (t.harbor.s id).queue = none) : t.waiting id = [] := by
  have messages := tied.waiting id
  rw [Slave.WellFormed.messages_eq_nil nothing] at messages
  exact List.map_eq_nil_iff.mp messages.symm

/-- A slave whose queue stays, and that no message goes to, keeps its record. -/
theorem waitingAfter_same
    (tied : t.Tied)
    {brought : Arrival}
    {h' : HarborService}
    {sends : List RemoteSend}
    {id : Nat}
    (same : (h'.s id).queue = (t.harbor.s id).queue)
    (notTarget : ¬(target brought = some id ∧ sends = [])) :
    t.waitingAfter brought h' sends id = t.waiting id := by
  unfold waitingAfter
  rw [if_neg notTarget, same]
  split
  · next nothing =>
      exact (tied.nothingWaits nothing).symm
  · rfl

theorem waitingAfter_released
    {brought : Arrival}
    {h' : HarborService}
    {sends : List RemoteSend}
    {id : Nat}
    (released : (h'.s id).queue = none) :
    t.waitingAfter brought h' sends id = [] :=
  if_pos released

/-- Every message that leaves is paired with its call. -/
theorem zip_made
    (messages : List Outgoing)
    (made : Outgoing → RemoteSend) :
    messages.zip (messages.map made) = messages.map fun o => (o, made o) := by
  induction messages with
  | nil =>
      rfl
  | cons o rest inductionHypothesis =>
      exact congrArg ((o, made o) :: ·) inductionHypothesis

/-- What leaves, with a call for each of its messages. -/
theorem zip_leaving
    {brought : Arrival}
    {messages : List Outgoing}
    {made : Outgoing → RemoteSend}
    (isLeaving :
      messages ≠ [] → t.leaving brought (messages.map made) = messages) :
    (t.leaving brought (messages.map made)).zip (messages.map made) =
      messages.map fun o => (o, made o) := by
  by_cases nothing : messages = []
  · subst nothing
    exact List.zip_nil_right
  · rw [isLeaving nothing, zip_made]

/-- What a step does to the record of one slave. -/
inductive Moves
    (t : HarborRun)
    (brought : Arrival)
    (t' : HarborRun) : Prop where
  | stays
      (sends : remoteSends t'.calls = remoteSends t.calls)
      (sent : t'.sent = t.sent)
      (waiting : ∀ id, t'.waiting id = t.waiting id ∨ t'.waiting id = [])
  | leaves
      (id : Nat)
      (made : Outgoing → RemoteSend)
      (isMade : ∀ o, (made o).slave = id ∧ (made o).status = .header)
      (sends :
        remoteSends t'.calls = remoteSends t.calls ++ (t.waiting id).map made)
      (sent : t'.sent = t.sent ++ (t.waiting id).map fun o => (o, made o))
      (flushed : t'.waiting id = [])
      (others : ∀ other, other ≠ id → t'.waiting other = t.waiting other)
  | enters
      (id : Nat)
      (isTarget : target brought = some id)
      (sends : remoteSends t'.calls = remoteSends t.calls)
      (sent : t'.sent = t.sent)
      (waiting : t'.waiting id = t.waiting id ++ t.entering brought)
      (others : ∀ other, other ≠ id → t'.waiting other = t.waiting other)
  | departs
      (id : Nat)
      (isTarget : target brought = some id)
      (connected : (t.harbor.s id).fd ≠ 0)
      (isReady :
        ∀ m, brought = .message id m →
          (t.harbor.s id).status ≠ .handshake)
      (made : Outgoing → RemoteSend)
      (isMade :
        ∀ o, (made o).slave = id ∧ (made o).status = (t.harbor.s id).status)
      (sends :
        remoteSends t'.calls =
          remoteSends t.calls ++ (t.entering brought).map made)
      (sent : t'.sent = t.sent ++ (t.entering brought).map fun o => (o, made o))
      (waiting : ∀ other, t'.waiting other = t.waiting other)

variable
    {brought : Arrival}
    {h' : HarborService}
    {calls : List HarborCall}

/-- A step without calls of `send_remote` records no message as sent. -/
theorem after_unsent
    (t : HarborRun)
    (brought : Arrival)
    (h' : HarborService)
    (unsent : remoteSends calls = []) :
    remoteSends (t.after brought h' calls).calls = remoteSends t.calls ∧
      (t.after brought h' calls).sent = t.sent := by
  unfold after
  dsimp only
  rw [unsent, List.zip_nil_right, remoteSends_append, unsent, List.append_nil,
    List.append_nil]
  exact ⟨rfl, rfl⟩

/-- The calls of `send_remote` of a step are recorded with their messages. -/
theorem after_sent
    (t : HarborRun)
    (brought : Arrival)
    (h' : HarborService)
    {messages : List Outgoing}
    {made : Outgoing → RemoteSend}
    (sends : remoteSends calls = messages.map made)
    (isLeaving :
      messages ≠ [] → t.leaving brought (messages.map made) = messages) :
    remoteSends (t.after brought h' calls).calls =
        remoteSends t.calls ++ messages.map made ∧
      (t.after brought h' calls).sent =
        t.sent ++ messages.map fun o => (o, made o) := by
  unfold after
  dsimp only
  rw [sends, zip_leaving isLeaving, remoteSends_append, sends]
  exact ⟨rfl, rfl⟩

/-- The sent messages stay those of the calls. -/
theorem Tied.sent_append
    (tied : t.Tied)
    {messages : List Outgoing}
    {made : Outgoing → RemoteSend}
    (carries : ∀ o ∈ messages, Carries o.message (made o).message)
    (sends :
      remoteSends t'.calls = remoteSends t.calls ++ messages.map made)
    (sent : t'.sent = t.sent ++ messages.map fun o => (o, made o)) :
    t'.sent.map Prod.snd = remoteSends t'.calls ∧
      ∀ entry ∈ t'.sent, Carries entry.1.message entry.2.message := by
  refine ⟨?_, ?_⟩
  · rw [sent, sends, List.map_append, tied.sent, List.map_map]
    rfl
  · intro entry member
    rw [sent, List.mem_append, List.mem_map] at member
    rcases member with earlier | ⟨o, isMessage, rfl⟩
    · exact tied.carried entry earlier
    · exact carries o isMessage

/-- Names whose queues stay keep their messages. -/
theorem nameMessages_of_nameQueue
    {h : HarborService}
    {name : List UInt8}
    (same : h'.nameQueue name = h.nameQueue name) :
    h'.nameMessages name = h.nameMessages name := by
  unfold HarborService.nameMessages
  rw [same]

/-- The record of the names follows their queues. -/
theorem Tied.named_after
    (tied : t.Tied)
    (met : HarborService.Meets t.harbor calls h' brought)
    (name : List UInt8) :
    h'.nameMessages name =
      (t.namedAfter brought (nameKey name)).map Prod.snd := by
  cases brought with
  | nothing =>
      have names : h'.nameQueue name = t.harbor.nameQueue name := by
        cases met with
        | quiet _ names _ => exact names name
        | flush _ _ _ names _ _ _ => exact names name
      rw [nameMessages_of_nameQueue names]
      exact tied.named name
  | message id m =>
      have names : h'.nameQueue name = t.harbor.nameQueue name := by
        cases met with
        | refused _ same _ => rw [same]
        | queued _ _ names _ _ _ _ _ =>
            exact HarborService.nameQueue_of_map names name
        | sent _ same _ _ => rw [same]
      rw [nameMessages_of_nameQueue names]
      exact tied.named name
  | unbound other m =>
      obtain ⟨queue, _, contents, names⟩ := HarborService.Awaits.queued met
      by_cases same : nameKey name = nameKey other
      · have isQueue := names name
        rw [if_pos same] at isQueue
        unfold HarborService.nameMessages
        rw [isQueue, namedAfter, same, Function.update_self, List.map_append,
          ← tied.named other]
        exact contents
      · have isQueue := names name
        rw [if_neg same] at isQueue
        rw [nameMessages_of_nameQueue isQueue, namedAfter,
          Function.update_of_ne same]
        exact tied.named name
  | bound other handle =>
      obtain ⟨names, _⟩ := met
      by_cases same : nameKey name = nameKey other
      · have isQueue := names name
        rw [if_pos same] at isQueue
        unfold HarborService.nameMessages
        rw [isQueue, namedAfter, same, Function.update_self]
        rfl
      · have isQueue := names name
        rw [if_neg same] at isQueue
        rw [nameMessages_of_nameQueue isQueue, namedAfter,
          Function.update_of_ne same]
        exact tied.named name

/-- An unchanged queue and its record still agree. -/
theorem Tied.waiting_same
    (tied : t.Tied)
    {sends : List RemoteSend}
    {id : Nat}
    (same : (h'.s id).queue = (t.harbor.s id).queue)
    (notTarget : ¬(target brought = some id ∧ sends = [])) :
    (h'.s id).messages =
      (t.waitingAfter brought h' sends id).map Outgoing.message := by
  rw [waitingAfter_same tied same notTarget, ← tied.waiting id]
  unfold Slave.messages
  rw [same]

/-- A released queue and its record are both empty. -/
theorem waiting_released
    {sends : List RemoteSend}
    {id : Nat}
    (released : (h'.s id).queue = none) :
    (h'.s id).messages =
      (t.waitingAfter brought h' sends id).map Outgoing.message := by
  rw [waitingAfter_released released,
    Slave.WellFormed.messages_eq_nil released]
  rfl

/-- The messages that enter are those that waited for the name. -/
theorem Tied.entering_bound
    (tied : t.Tied)
    (name : List UInt8)
    (handle : UInt32) :
    (t.entering (.bound name handle)).map Outgoing.message =
      t.harbor.nameMessages name := by
  rw [tied.named name, entering, List.map_map]
  rfl

/-- A step with a record of its own part keeps the whole record in agreement. -/
theorem Tied.of_parts
    (tied : t.Tied)
    (met : HarborService.Meets t.harbor calls h' brought)
    {messages : List Outgoing}
    {made : Outgoing → RemoteSend}
    (carries : ∀ o ∈ messages, Carries o.message (made o).message)
    (sends : remoteSends calls = messages.map made)
    (isLeaving :
      messages ≠ [] → t.leaving brought (messages.map made) = messages)
    (waiting :
      ∀ id,
        (h'.s id).messages =
          (t.waitingAfter brought h' (remoteSends calls) id).map
            Outgoing.message) :
    (t.after brought h' calls).Tied := by
  obtain ⟨allSends, allSent⟩ := after_sent t brought h' sends isLeaving
  obtain ⟨sent, carried⟩ := tied.sent_append carries allSends allSent
  exact
    { wellFormed := met.wellFormed tied.wellFormed
      sent := sent
      carried := carried
      waiting := waiting
      named := tied.named_after met }

/-- A step without calls of `send_remote` keeps the record in agreement. -/
theorem Tied.of_unsent
    (tied : t.Tied)
    (met : HarborService.Meets t.harbor calls h' brought)
    (unsent : remoteSends calls = [])
    (waiting :
      ∀ id,
        (h'.s id).messages =
          (t.waitingAfter brought h' (remoteSends calls) id).map
            Outgoing.message) :
    (t.after brought h' calls).Tied := by
  obtain ⟨allSends, allSent⟩ :=
    after_unsent t brought h' unsent
  exact
    { wellFormed := met.wellFormed tied.wellFormed
      sent := by rw [allSent, allSends, tied.sent]
      carried := by rw [allSent]; exact tied.carried
      waiting := waiting
      named := tied.named_after met }

/-- A step without a message for another harbor. -/
theorem passive_moves
    (tied : t.Tied)
    (passive : HarborService.Passive t.harbor calls h') :
    (t.after .nothing h' calls).Tied ∧
      Moves t .nothing (t.after .nothing h' calls) := by
  have notTarget (id : Nat) (sends : List RemoteSend) :
      ¬(target .nothing = some id ∧ sends = []) := by
    rintro ⟨impossible, _⟩
    cases impossible
  have met : HarborService.Meets t.harbor calls h' .nothing := passive
  cases passive with
  | quiet unsent names slaves =>
      refine ⟨?_, ?_⟩
      · refine tied.of_unsent met unsent ?_
        intro id
        rcases (slaves id).2 with same | settled
        · exact tied.waiting_same same (notTarget id _)
        · exact waiting_released settled.queue_eq_none
      · obtain ⟨sends, sent⟩ := after_unsent t .nothing h' unsent
        refine .stays sends sent ?_
        intro id
        rcases (slaves id).2 with same | settled
        · exact Or.inl (waitingAfter_same tied same (notTarget id _))
        · exact Or.inr (waitingAfter_released settled.queue_eq_none)
  | flush id fd sends names others unready settled =>
      let made (o : Outgoing) : RemoteSend :=
        { slave := id, status := .header, fd := fd, message := o.message }
      have isMade : remoteSends calls = (t.waiting id).map made := by
        rw [sends, tied.waiting id, List.map_map]
        rfl
      have isLeaving :
          t.waiting id ≠ [] →
            t.leaving .nothing ((t.waiting id).map made) = t.waiting id := by
        intro something
        obtain ⟨first, rest, shape⟩ := List.exists_cons_of_ne_nil something
        rw [shape, List.map_cons]
        exact shape
      have kept (other : Nat) (different : other ≠ id) :
          (h'.s other).queue = (t.harbor.s other).queue := by
        rw [others other different]
      obtain ⟨allSends, allSent⟩ :=
        after_sent t .nothing h' isMade isLeaving
      refine ⟨?_, ?_⟩
      · refine
          tied.of_parts met (fun _ _ => ⟨rfl, rfl, rfl, rfl⟩) isMade isLeaving
            ?_
        intro other
        by_cases same : other = id
        · subst same
          exact waiting_released settled.queue_eq_none
        · exact tied.waiting_same (kept other same) (notTarget other _)
      · refine
          .leaves id made (fun _ => ⟨rfl, rfl⟩) allSends allSent
            (waitingAfter_released settled.queue_eq_none) ?_
        intro other different
        exact waitingAfter_same tied (kept other different) (notTarget other _)

/-- A step with a message for a slave. -/
theorem takes_moves
    (tied : t.Tied)
    {id : Nat}
    {m : HarborMsg}
    (takes : HarborService.Takes t.harbor id m calls h') :
    (t.after (.message id m) h' calls).Tied ∧
      Moves t (.message id m) (t.after (.message id m) h' calls) := by
  have met : HarborService.Meets t.harbor calls h' (.message id m) := takes
  have notTarget (other : Nat) (different : other ≠ id)
      (sends : List RemoteSend) :
      ¬(target (.message id m) = some other ∧ sends = []) := by
    rintro ⟨isTarget, _⟩
    exact different (Option.some.inj isTarget).symm
  cases takes with
  | refused unsent same nothing =>
      subst same
      obtain ⟨sends, sent⟩ :=
        after_unsent t (.message id m) t.harbor unsent
      have waiting (other : Nat) :
          t.waitingAfter (.message id m) t.harbor (remoteSends calls) other =
            t.waiting other := by
        by_cases isSlave : other = id
        · subst isSlave
          rw [waitingAfter_released nothing, tied.nothingWaits nothing]
        · exact waitingAfter_same tied rfl (notTarget other isSlave _)
      refine ⟨tied.of_unsent met unsent ?_, .stays sends sent fun other => ?_⟩
      · intro other
        rw [waiting other]
        exact tied.waiting other
      · exact Or.inl (waiting other)
  | queued unsent unready names others queue slave shape contents =>
      obtain ⟨sends, sent⟩ :=
        after_unsent t (.message id m) h' unsent
      have waiting :
          t.waitingAfter (.message id m) h' (remoteSends calls) id =
            t.waiting id ++ t.entering (.message id m) := by
        unfold waitingAfter
        rw [slave, if_neg (by simp), if_pos ⟨rfl, unsent⟩]
      have kept (other : Nat) (different : other ≠ id) :
          (h'.s other).queue = (t.harbor.s other).queue := by
        rw [others other different]
      refine ⟨tied.of_unsent met unsent ?_, .enters id rfl sends sent waiting ?_⟩
      · intro other
        by_cases isSlave : other = id
        · subst isSlave
          rw [waiting, slave, List.map_append, ← tied.waiting other]
          exact contents
        · exact
            tied.waiting_same (kept other isSlave) (notTarget other isSlave _)
      · intro other different
        exact
          waitingAfter_same tied (kept other different)
            (notTarget other different _)
  | sent isSent same connected settled =>
      subst same
      let made (o : Outgoing) : RemoteSend :=
        { slave := id
          status := (t.harbor.s id).status
          fd := (t.harbor.s id).fd
          message := o.message }
      have isMade :
          remoteSends calls = (t.entering (.message id m)).map made := isSent
      have waiting (other : Nat) :
          t.waitingAfter (.message id m) t.harbor (remoteSends calls) other =
            t.waiting other := by
        refine waitingAfter_same tied rfl ?_
        rintro ⟨_, unsent⟩
        rw [isSent] at unsent
        cases unsent
      obtain ⟨allSends, allSent⟩ :=
        after_sent t (.message id m) t.harbor isMade fun _ => rfl
      refine
        ⟨?_, .departs id rfl connected (fun _ _ => settled.ne_handshake) made
          (fun _ => ⟨rfl, rfl⟩) allSends allSent waiting⟩
      refine
        tied.of_parts met (fun _ _ => ⟨rfl, rfl, rfl, rfl⟩) isMade
          (fun _ => rfl) ?_
      intro other
      rw [waiting other]
      exact tied.waiting other

/-- A step with a message for a name that is not bound. -/
theorem awaits_moves
    (tied : t.Tied)
    {name : List UInt8}
    {m : HarborMsg}
    (awaits : HarborService.Awaits t.harbor name m calls h') :
    (t.after (.unbound name m) h' calls).Tied ∧
      Moves t (.unbound name m) (t.after (.unbound name m) h' calls) := by
  have met : HarborService.Meets t.harbor calls h' (.unbound name m) := awaits
  have notTarget (id : Nat) (sends : List RemoteSend) :
      ¬(target (.unbound name m) = some id ∧ sends = []) := by
    rintro ⟨impossible, _⟩
    cases impossible
  have kept (id : Nat) : (h'.s id).queue = (t.harbor.s id).queue := by
    rw [awaits.slaves]
  obtain ⟨sends, sent⟩ :=
    after_unsent t (.unbound name m) h' awaits.unsent
  refine ⟨?_, .stays sends sent fun id => ?_⟩
  · exact
      tied.of_unsent met awaits.unsent
        fun id => tied.waiting_same (kept id) (notTarget id _)
  · exact Or.inl (waitingAfter_same tied (kept id) (notTarget id _))

/-- A step with the handle of a name. -/
theorem bound_moves
    (tied : t.Tied)
    {name : List UInt8}
    {handle : UInt32}
    (met : HarborService.Meets t.harbor calls h' (.bound name handle)) :
    (t.after (.bound name handle) h' calls).Tied ∧
      Moves t (.bound name handle) (t.after (.bound name handle) h' calls) := by
  have entering := tied.entering_bound name handle
  have notTarget (other : Nat)
      (different : other ≠ (handle >>> kHandleRemoteShift).toNat)
      (sends : List RemoteSend) :
      ¬(target (.bound name handle) = some other ∧ sends = []) := by
    rintro ⟨isTarget, _⟩
    exact different (Option.some.inj isTarget).symm
  -- An unchanged slave that nothing waits for, or that nothing enters for.
  have unchanged
      (unsent : remoteSends calls = [])
      (slaves : h'.s = t.harbor.s)
      (ended :
        (t.harbor.s (handle >>> kHandleRemoteShift).toNat).queue = none ∨
          t.entering (.bound name handle) = [])
      (other : Nat) :
      t.waitingAfter (.bound name handle) h' (remoteSends calls) other =
        t.waiting other := by
    by_cases isSlave : other = (handle >>> kHandleRemoteShift).toNat
    · have same : (h'.s other).queue = (t.harbor.s other).queue := by
        rw [slaves]
      by_cases nothing : (t.harbor.s other).queue = none
      · rw [waitingAfter_released (same.trans nothing),
          tied.nothingWaits nothing]
      · rcases ended with noQueue | noMessages
        · exact absurd (isSlave ▸ noQueue) nothing
        · unfold waitingAfter
          rw [same, if_neg nothing, noMessages, List.append_nil, ite_self]
    · refine waitingAfter_same tied ?_ (notTarget other isSlave _)
      rw [slaves]
  have stays
      (unsent : remoteSends calls = [])
      (slaves : h'.s = t.harbor.s)
      (ended :
        (t.harbor.s (handle >>> kHandleRemoteShift).toNat).queue = none ∨
          t.entering (.bound name handle) = []) :
      (t.after (.bound name handle) h' calls).Tied ∧
        Moves t (.bound name handle)
          (t.after (.bound name handle) h' calls) := by
    obtain ⟨sends, sent⟩ :=
      after_unsent t (.bound name handle) h' unsent
    refine ⟨tied.of_unsent met unsent ?_, .stays sends sent fun other => ?_⟩
    · intro other
      rw [unchanged unsent slaves ended other, slaves]
      exact tied.waiting other
    · exact Or.inl (unchanged unsent slaves ended other)
  obtain ⟨names, released⟩ := id met
  split at released
  · next noQueue =>
      obtain ⟨silent, slaves⟩ := released
      have noMessages : t.entering (.bound name handle) = [] := by
        unfold HarborService.nameMessages at entering
        rw [noQueue] at entering
        exact List.map_eq_nil_iff.mp entering
      exact stays (by rw [silent]; rfl) slaves (Or.inr noMessages)
  · cases released with
    | dropped isDown unsent slaves =>
        exact
          stays unsent slaves
            (Or.inl
              ((tied.wellFormed.slaves _).queue_eq_none_of_down isDown))
    | delivered isLocal isWait delivered others slave =>
        have unsent : remoteSends calls = [] := by
          rw [delivered, remoteSends_map_deliver]
        have nothing :
            (h'.s (handle >>> kHandleRemoteShift).toNat).queue = none := by
          rw [slave]
        have kept (other : Nat)
            (different : other ≠ (handle >>> kHandleRemoteShift).toNat) :
            (h'.s other).queue = (t.harbor.s other).queue := by
          rw [others other different]
        obtain ⟨sends, sent⟩ :=
          after_unsent t (.bound name handle) h' unsent
        refine ⟨tied.of_unsent met unsent ?_, .stays sends sent ?_⟩
        · intro other
          by_cases isSlave : other = (handle >>> kHandleRemoteShift).toNat
          · rw [isSlave]
            exact waiting_released nothing
          · exact
              tied.waiting_same (kept other isSlave)
                (notTarget other isSlave _)
        · intro other
          by_cases isSlave : other = (handle >>> kHandleRemoteShift).toNat
          · rw [isSlave]
            exact Or.inr (waitingAfter_released nothing)
          · exact
              Or.inl
                (waitingAfter_same tied (kept other isSlave)
                  (notTarget other isSlave _))
    | queued isRemote isWait silent others queue slave shape contents =>
        have unsent : remoteSends calls = [] := by
          rw [silent]
          rfl
        have waiting :
            t.waitingAfter (.bound name handle) h' (remoteSends calls)
                (handle >>> kHandleRemoteShift).toNat =
              t.waiting (handle >>> kHandleRemoteShift).toNat ++
                t.entering (.bound name handle) := by
          unfold waitingAfter
          rw [slave, if_neg (by simp), if_pos ⟨rfl, unsent⟩]
        have kept (other : Nat)
            (different : other ≠ (handle >>> kHandleRemoteShift).toNat) :
            (h'.s other).queue = (t.harbor.s other).queue := by
          rw [others other different]
        obtain ⟨sends, sent⟩ :=
          after_unsent t (.bound name handle) h' unsent
        refine
          ⟨tied.of_unsent met unsent ?_, .enters _ rfl sends sent waiting ?_⟩
        · intro other
          by_cases isSlave : other = (handle >>> kHandleRemoteShift).toNat
          · rw [isSlave, waiting, slave, List.map_append, ← tied.waiting,
              entering]
            exact contents
          · exact
              tied.waiting_same (kept other isSlave)
                (notTarget other isSlave _)
        · intro other different
          exact
            waitingAfter_same tied (kept other different)
              (notTarget other different _)
    | sent connected isSent slaves =>
        let made (o : Outgoing) : RemoteSend :=
          { slave := (handle >>> kHandleRemoteShift).toNat
            status := (t.harbor.s (handle >>> kHandleRemoteShift).toNat).status
            fd := (t.harbor.s (handle >>> kHandleRemoteShift).toNat).fd
            message := HarborService.addressed handle o.message }
        have isMade :
            remoteSends calls =
              (t.entering (.bound name handle)).map made := by
          rw [isSent, remoteSends_map_sendRemote, ← entering, List.map_map]
          rfl
        have isLeaving :
            t.entering (.bound name handle) ≠ [] →
              t.leaving (.bound name handle)
                  ((t.entering (.bound name handle)).map made) =
                t.entering (.bound name handle) := by
          intro something
          obtain ⟨first, rest, shape⟩ := List.exists_cons_of_ne_nil something
          rw [shape, List.map_cons]
          exact shape
        have waiting (other : Nat) :
            t.waitingAfter (.bound name handle) h' (remoteSends calls) other =
              t.waiting other := by
          by_cases noMessages : t.entering (.bound name handle) = []
          · have unsent : remoteSends calls = [] := by
              rw [isMade, noMessages]
              rfl
            exact unchanged unsent slaves (Or.inr noMessages) other
          · refine waitingAfter_same tied (by rw [slaves]) ?_
            rintro ⟨_, unsent⟩
            rw [isMade, List.map_eq_nil_iff] at unsent
            exact noMessages unsent
        obtain ⟨allSends, allSent⟩ :=
          after_sent t (.bound name handle) h' isMade isLeaving
        refine
          ⟨?_, .departs _ rfl connected (by rintro m ⟨⟩) made
            (fun _ => ⟨rfl, rfl⟩) allSends allSent waiting⟩
        refine
          tied.of_parts met (fun _ _ => ⟨rfl, rfl, rfl, rfl⟩) isMade isLeaving
            ?_
        intro other
        rw [waiting other, slaves]
        exact tied.waiting other

/-- Every step keeps the record in agreement, and moves messages in one way. -/
theorem moves_of_next
    (tied : t.Tied)
    (stepped : t.next? input = some t') :
    t'.Tied ∧
      Moves t (t.harbor.arrival input.msg input.session input.source) t' := by
  obtain ⟨h', calls, ran, rfl⟩ := next?_eq_some_iff.mp stepped
  have met := HarborService.mainloop_meets tied.wellFormed ran
  revert met
  cases t.harbor.arrival input.msg input.session input.source with
  | nothing =>
      intro met
      exact passive_moves tied met
  | message id m =>
      intro met
      exact takes_moves tied met
  | unbound name m =>
      intro met
      exact awaits_moves tied met
  | bound name handle =>
      intro met
      exact bound_moves tied met

end Steps

/-- What holds of a new slave, and stays when it is closed, holds at first. -/
theorem harborInit_slaves
    {harbor_id : Int}
    {slave : UInt32}
    {h : HarborService}
    (holds : Slave → Prop)
    (fresh : holds HarborService.noSlave)
    (closed :
      ∀ s, holds s → holds { s with status := .down, fd := 0, queue := none })
    (initialised : HarborService.harborInit harbor_id slave = some h) :
    (∀ id, holds (h.s id)) ∧ ∀ name, h.nameQueue name = none := by
  have closing (ids : List Nat) (h : HarborService)
      (slaves : ∀ id, holds (h.s id))
      (names : ∀ name, h.nameQueue name = none) :
      let closed :=
        ids.foldl
          (fun h id =>
            if id = 0 then h else (h.lift (closeHarbor h.toHarbor id)).1) h
      (∀ id, holds (closed.s id)) ∧ ∀ name, closed.nameQueue name = none := by
    induction ids generalizing h with
    | nil =>
        exact ⟨slaves, names⟩
    | cons id ids inductionHypothesis =>
        rw [List.foldl_cons]
        split
        · exact inductionHypothesis h slaves names
        · refine inductionHypothesis _ ?_ names
          intro other
          by_cases same : other = id
          · subst same
            have isClosed :
                ((h.lift (closeHarbor h.toHarbor other)).1).s other =
                  { h.s other with status := .down, fd := 0, queue := none } := by
              simp only [HarborService.lift, closeHarbor, Harbor.modify_s_self]
            rw [isClosed]
            exact closed _ (slaves other)
          · have kept :
                ((h.lift (closeHarbor h.toHarbor id)).1).s other = h.s other :=
              closeHarbor_s_of_ne same
            rw [kept]
            exact slaves other
  unfold HarborService.harborInit at initialised
  split at initialised
  · cases initialised
  · cases initialised
    split
    · exact closing _ _ (fun _ => fresh) fun _ => rfl
    · exact ⟨fun _ => fresh, fun _ => rfl⟩

/-- A service that was initialised has nothing waiting anywhere. -/
theorem harborInit_spec
    {harbor_id : Int}
    {slave : UInt32}
    {h : HarborService}
    (initialised : HarborService.harborInit harbor_id slave = some h) :
    (∀ id, (h.s id).WellFormed ∧ (h.s id).queue = none) ∧
      ∀ name, h.nameQueue name = none := by
  refine
    harborInit_slaves (fun s => s.WellFormed ∧ s.queue = none) ?_ ?_ initialised
  · refine ⟨⟨?_, fun queued => absurd rfl queued, ?_⟩, rfl⟩
    · exact ⟨fun _ => Or.inl rfl, fun _ => rfl⟩
    · intro queue impossible
      cases impossible
  · intro s _
    exact ⟨(Slave.Settled.closed rfl rfl rfl).wellFormed, rfl⟩

theorem start_tied
    {harbor_id : Int}
    {slave : UInt32}
    {h : HarborService}
    (initialised : HarborService.harborInit harbor_id slave = some h) :
    (start h).Tied := by
  obtain ⟨slaves, names⟩ := harborInit_spec initialised
  refine ⟨⟨fun id => (slaves id).1, ?_⟩, rfl, ?_, ?_, ?_⟩
  · intro name queue queued
    have isQueue : h.nameQueue name = some queue := queued
    rw [names name] at isQueue
    cases isQueue
  · intro entry impossible
    cases impossible
  · intro id
    exact Slave.WellFormed.messages_eq_nil (slaves id).2
  · intro name
    have isQueue : h.nameQueue name = none := names name
    change h.nameMessages name = []
    unfold HarborService.nameMessages
    rw [isQueue]
    rfl

/-- The service of harbor 1, for a slave service on the same node. -/
def harborOne : HarborService where
  id := 1
  slave := 0x1000001
  s := fun _ => HarborService.noSlave
  map := { node := fun _ => [] }

/-- Nothing unknown matters to an input. -/
def inputOf
    (msg : HarborMessage)
    (source : UInt32) : HarborInput where
  msg := msg
  session := 0
  source := source
  unknown := .zero

/-- A message for the global name `a`. -/
def toName : HarborInput :=
  inputOf
    (.system
      { destination := { name := 97 :: List.replicate 15 0, handle := 0 }
        message := some [1]
        sz := 1
        type := 3 })
    0x1000002

end HarborRun

end SkynetCpp
