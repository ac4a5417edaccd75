import Mathlib.Tactic.IntervalCases
import SkynetCpp.HarborRun

namespace SkynetCpp

open Foundation

/-!
# Handing over the messages of a name

The messages that wait for a global name, once the name is bound to a handle:
they are delivered in this node, sent on a connection, or wait for one, and
each must leave once, in order, for the handle.
-/

namespace HarborRun

/-- Nothing is sent to a slave by handle yet, but it may still be. -/
def Unready (s : Slave) : Prop :=
  s.status = .wait ∨ s.status = .handshake

/-- `dispatch_queue` as it runs when the connection of a slave becomes ready. -/
def readied
    (h : HarborService)
    (id : Nat)
    (fd : Int) : Except Fault (HarborService × List HarborCall) :=
  (h.modify id fun s => { s with fd := fd, status := .header }).dispatchQueue id

/--
What must become of the messages of a name in the step from `t` to `t'`, in
which it is bound to a handle.
-/
inductive Handed
    (t : HarborRun)
    (handle : UInt32)
    (messages : List HarborMsg)
    (calls : List HarborCall)
    (t' : HarborRun) : Prop where
  /-- They are delivered to the handle, behind what was waiting for its slave. -/
  | delivered
      (calls_eq :
        calls =
          ((t.harbor.s (handle >>> kHandleRemoteShift).toNat).messages ++
            messages).map (HarborService.deliver handle))
      (released :
        (t'.harbor.s (handle >>> kHandleRemoteShift).toNat).queue = none)
  /-- They are sent, addressed to the handle. -/
  | sent
      (status : HarborStatus)
      (fd : Int)
      (calls_eq :
        calls =
          messages.map fun m =>
            .sendRemote
              { slave := (handle >>> kHandleRemoteShift).toNat
                status := status
                fd := fd
                message := HarborService.addressed handle m })
      (slaves : t'.harbor.s = t.harbor.s)
  /--
  They wait, and however the run goes on, they are sent, addressed to the
  handle, when the connection of their slave becomes ready.
  -/
  | waiting
      (silent : calls = [])
      (later :
        ∀ past u fd,
          Run (Run.Steps next?) t' past u →
            (∀ state ∈ Run.visited past u,
              Unready
                (state.harbor.s (handle >>> kHandleRemoteShift).toNat)) →
            0 < (handle >>> kHandleRemoteShift).toNat → fd ≠ 0 →
              ∃ h made after,
                readied u.harbor (handle >>> kHandleRemoteShift).toNat fd =
                    .ok (h, made) ∧
                  (remoteSends made).map RemoteSend.message =
                    (t.harbor.s
                        (handle >>> kHandleRemoteShift).toNat).messages ++
                      messages.map (HarborService.addressed handle) ++ after ∧
                  (h.s (handle >>> kHandleRemoteShift).toNat).queue = none)

/-- The messages of a name are handed over, and the name keeps none. -/
def HandsOver
    (t : HarborRun)
    (name : List UInt8)
    (handle : UInt32)
    (t' : HarborRun) : Prop :=
  t'.harbor.nameMessages name = [] ∧
    ∃ calls,
      t'.calls = t.calls ++ calls ∧
        Handed t handle ((t.named (nameKey name)).map Prod.snd) calls t'

/--
No message waits for the name, or the messages need not wait for a connection,
or the handle adds nothing to their destination.
-/
def NeedsNoAddress
    (t : HarborRun)
    (name : List UInt8)
    (handle : UInt32) : Prop :=
  t.named (nameKey name) = [] ∨
    (handle >>> kHandleRemoteShift).toNat =
      (t.harbor.slave >>> kHandleRemoteShift).toNat ∨
    (t.harbor.s (handle >>> kHandleRemoteShift).toNat).fd ≠ 0 ∨
    (handle >>> kHandleRemoteShift).toNat = 0 ∨
    handle &&& kHandleMask = 0

section Address

/-- A message that waits for a name has no handle in its destination yet. -/
theorem unaddressed_masked
    (type : UInt32) :
    (type <<< kHandleRemoteShift) &&& kHandleMask = 0 := by
  apply UInt32.eq_of_toBitVec_eq
  simp only [kHandleRemoteShift, kHandleMask]
  ext index bound
  interval_cases index <;> simp

/-- A destination is completed by the low bits of the handle. -/
theorem masked_or
    {destination : UInt32}
    (handle : UInt32)
    (noHandle : destination &&& kHandleMask = 0) :
    (destination ||| (handle &&& kHandleMask)) &&& kHandleMask =
      handle &&& kHandleMask := by
  have distributed :
      (destination ||| (handle &&& kHandleMask)) &&& kHandleMask =
        (destination &&& kHandleMask) ||| (handle &&& kHandleMask) := by
    apply UInt32.eq_of_toBitVec_eq
    simp only [kHandleMask]
    ext index bound
    interval_cases index <;> simp
  rw [distributed, noHandle, UInt32.zero_or]

/-- A message is complete as it is only when the handle adds nothing. -/
theorem addressed_eq_self_iff
    {handle : UInt32}
    {m : HarborMsg}
    (noHandle : m.header.destination &&& kHandleMask = 0) :
    HarborService.addressed handle m = m ↔ handle &&& kHandleMask = 0 := by
  constructor
  · intro same
    have destination :=
      congrArg (fun m : HarborMsg => m.header.destination &&& kHandleMask) same
    rw [← masked_or handle noHandle]
    exact destination.trans noHandle
  · intro nothing
    unfold HarborService.addressed
    rw [nothing, UInt32.or_zero]

/-- The messages that wait for the names have no handle. -/
def Unaddressed (t : HarborRun) : Prop :=
  ∀ key, ∀ entry ∈ t.named key,
    entry.2.header.destination &&& kHandleMask = 0

theorem unaddressed_next
    {t t' : HarborRun}
    {input : HarborInput}
    (unaddressed : t.Unaddressed)
    (stepped : t.next? input = some t') :
    t'.Unaddressed := by
  obtain ⟨h', calls, _, rfl⟩ := next?_eq_some_iff.mp stepped
  intro key entry member
  change
    entry ∈
      t.namedAfter (t.harbor.arrival input.msg input.session input.source) key
    at member
  cases isArrival :
      t.harbor.arrival input.msg input.session input.source with
  | nothing =>
      rw [isArrival] at member
      exact unaddressed key entry member
  | message id m =>
      rw [isArrival] at member
      exact unaddressed key entry member
  | bound name handle =>
      rw [isArrival, namedAfter] at member
      by_cases same : key = nameKey name
      · subst same
        rw [Function.update_self] at member
        cases member
      · rw [Function.update_of_ne same] at member
        exact unaddressed key entry member
  | unbound name m =>
      rw [isArrival, namedAfter] at member
      by_cases same : key = nameKey name
      · subst same
        rw [Function.update_self, List.mem_append] at member
        rcases member with old | new
        · exact unaddressed _ entry old
        · rw [List.mem_singleton.mp new]
          cases message : input.msg with
          | socket _ => simp [HarborService.arrival, message] at isArrival
          | other _ => simp [HarborService.arrival, message] at isArrival
          | harbor msg =>
              simp only [HarborService.arrival, message] at isArrival
              split at isArrival
              · cases isArrival
              · cases isArrival
          | system rmsg =>
              simp only [HarborService.arrival, message] at isArrival
              split at isArrival
              · cases isArrival
                exact unaddressed_masked _
              · split at isArrival
                · cases isArrival
                · cases isArrival
      · rw [Function.update_of_ne same] at member
        exact unaddressed key entry member

end Address

section Waiting

variable {t t' : HarborRun} {input : HarborInput} {id : Nat}

theorem Unready.not_settled
    {s : Slave}
    (unready : Unready s) :
    ¬ s.Settled := by
  intro settled
  rcases unready with isWait | isHandshake
  · cases settled with
    | ready _ status _ => simp [isWait] at status
    | closed _ status _ => simp [isWait] at status
  · exact settled.ne_handshake isHandshake

theorem messages_of_queue
    {s s' : Slave}
    (same : s'.queue = s.queue) :
    s'.messages = s.messages := by
  unfold Slave.messages
  rw [same]

theorem messages_of_contents
    {s : Slave}
    {queue : HarborMsgQueue} :
    Slave.messages { s with queue := some queue } = queue.contents :=
  rfl

/-- While a slave of another node stays unready, messages only come behind. -/
theorem messages_next
    (tied : t.Tied)
    (remote : id ≠ (t.harbor.slave >>> kHandleRemoteShift).toNat)
    (unready : Unready (t'.harbor.s id))
    (stepped : t.next? input = some t') :
    t'.harbor.slave = t.harbor.slave ∧
      ∃ more,
        (t'.harbor.s id).messages = (t.harbor.s id).messages ++ more := by
  obtain ⟨h', calls, ran, rfl⟩ := next?_eq_some_iff.mp stepped
  have met := HarborService.mainloop_meets tied.wellFormed ran
  refine ⟨HarborService.mainloop_slave ran, ?_⟩
  have kept (same : h'.s id = t.harbor.s id) :
      ∃ more, (h'.s id).messages = (t.harbor.s id).messages ++ more :=
    ⟨[], by rw [same, List.append_nil]⟩
  change Unready (h'.s id) at unready
  change ∃ more, (h'.s id).messages = (t.harbor.s id).messages ++ more
  cases isArrival :
      t.harbor.arrival input.msg input.session input.source with
  | nothing =>
      rw [isArrival] at met
      cases met with
      | quiet unsent names slaves =>
          rcases (slaves id).2 with same | settled
          · exact ⟨[], by rw [messages_of_queue same, List.append_nil]⟩
          · exact absurd settled unready.not_settled
      | flush flushed fd sends names others waited settled =>
          by_cases isFlushed : id = flushed
          · subst isFlushed
            exact absurd settled unready.not_settled
          · exact kept (others id isFlushed)
  | message target m =>
      rw [isArrival] at met
      cases met with
      | refused unsent same nothing =>
          exact kept (by rw [same])
      | queued unsent waited names others queue slave shape contents =>
          by_cases isTarget : id = target
          · subst isTarget
            rw [slave, messages_of_contents]
            exact ⟨[m], contents⟩
          · exact kept (others id isTarget)
      | sent sends same connected settled =>
          exact kept (by rw [same])
  | unbound name m =>
      rw [isArrival] at met
      exact kept (by rw [HarborService.Awaits.slaves met])
  | bound name handle =>
      rw [isArrival] at met
      obtain ⟨_, released⟩ := met
      split at released
      · exact kept (by rw [released.2])
      · cases released with
        | dropped isDown unsent slaves =>
            exact kept (by rw [slaves])
        | delivered isLocal isWait delivered others slave =>
            by_cases isTarget : id = (handle >>> kHandleRemoteShift).toNat
            · exact absurd (isTarget.trans isLocal) remote
            · exact kept (others id isTarget)
        | queued isRemote isWait silent others queue slave shape contents =>
            by_cases isTarget : id = (handle >>> kHandleRemoteShift).toNat
            · rw [isTarget, slave, messages_of_contents]
              exact ⟨_, contents⟩
            · exact kept (others id isTarget)
        | sent connected sends slaves =>
            exact kept (by rw [slaves])

/-- However long a slave stays unready, messages only come behind. -/
theorem messages_visited
    {past : List (HarborRun × HarborInput)}
    {u : HarborRun}
    (tied : t.Tied)
    (remote : id ≠ (t.harbor.slave >>> kHandleRemoteShift).toNat)
    (run : Run (Run.Steps next?) t past u)
    (unready :
      ∀ state ∈ Run.visited past u, Unready (state.harbor.s id)) :
    u.Tied ∧ u.harbor.slave = t.harbor.slave ∧
      ∃ more,
        (u.harbor.s id).messages = (t.harbor.s id).messages ++ more := by
  induction run with
  | nil =>
      exact ⟨tied, rfl, [], (List.append_nil _).symm⟩
  | @snoc past last next input earlier taken inductionHypothesis =>
      obtain ⟨lastTied, sameSlave, more, isLast⟩ :=
        inductionHypothesis fun state member =>
          unready state (List.mem_cons_of_mem _ member)
      obtain ⟨sameNode, added, isNext⟩ :=
        messages_next lastTied (by rw [sameSlave]; exact remote)
          (unready next List.mem_cons_self) taken
      refine
        ⟨(moves_of_next lastTied taken).1, sameNode.trans sameSlave,
          more ++ added, ?_⟩
      rw [isNext, isLast, List.append_assoc]

/-- A connection that becomes ready sends what waits for it. -/
theorem readied_eq
    {h : HarborService}
    (fd : Int)
    (wellFormed : (h.s id).WellFormed)
    (connected : fd ≠ 0) :
    ∃ flushed made,
      readied h id fd = .ok (flushed, made) ∧
        remoteSends made =
          (h.s id).messages.map
            (fun m =>
              { slave := id, status := .header, fd := fd, message := m }) ∧
        (flushed.s id).queue = none := by
  have slave :
      (h.modify id fun s => { s with fd := fd, status := .header }).s id =
        { h.s id with fd := fd, status := .header } :=
    HarborService.modify_s_self _
  have dispatched :
      readied h id fd =
        .ok
          ((h.modify id fun s => { s with fd := fd, status := .header }).modify
            id fun s => { s with queue := none },
            (HarborService.flushSends
              (h.modify id fun s => { s with fd := fd, status := .header })
              id).map .sendRemote) := by
    refine HarborService.dispatchQueue_eq ?_ ?_
    · rw [slave]
      exact connected
    · rw [slave]
      exact wellFormed.queue
  refine ⟨_, _, dispatched, ?_, ?_⟩
  · have sends := remoteSends_map_sendRemote (fun send : RemoteSend => send)
    rw [sends, List.map_id', HarborService.flushSends, slave]
    rfl
  · rw [HarborService.modify_s_self]

end Waiting

section Bound

variable
    {t : HarborRun}
    {h' : HarborService}
    {calls : List HarborCall}
    {name : List UInt8}
    {handle : UInt32}

/-- What waits for a name is what the service queued for it. -/
theorem Tied.named_eq_nil
    (tied : t.Tied)
    (noQueue : t.harbor.nameQueue name = none) :
    t.named (nameKey name) = [] := by
  have messages := tied.named name
  unfold HarborService.nameMessages at messages
  rw [noQueue] at messages
  exact List.map_eq_nil_iff.mp messages.symm

/-- Completing the destinations of messages that need no completing. -/
theorem map_addressed_eq_self
    (unaddressed : t.Unaddressed)
    (nothing : handle &&& kHandleMask = 0)
    (key : UInt32 × List UInt8) :
    ((t.named key).map Prod.snd).map (HarborService.addressed handle) =
      (t.named key).map Prod.snd := by
  rw [List.map_map]
  refine List.map_congr_left ?_
  intro entry member
  exact (addressed_eq_self_iff (unaddressed key entry member)).mpr nothing

/-- The messages of a name that need no address are handed over. -/
theorem handed_of_needsNoAddress
    (tied : t.Tied)
    (unaddressed : t.Unaddressed)
    (met : HarborService.Meets t.harbor calls h' (.bound name handle))
    (sameNode : h'.slave = t.harbor.slave)
    (notDown :
      (t.harbor.s (handle >>> kHandleRemoteShift).toNat).status ≠ .down)
    (needsNo : t.NeedsNoAddress name handle) :
    t.Handed handle ((t.named (nameKey name)).map Prod.snd) calls
      (t.after (.bound name handle) h' calls) := by
  have slave := tied.wellFormed.slaves (handle >>> kHandleRemoteShift).toNat
  have tied' := (bound_moves tied met).1
  obtain ⟨_, released⟩ := met
  split at released
  · next noQueue =>
      rw [tied.named_eq_nil noQueue]
      exact .sent .wait 0 released.1 released.2
  · rw [tied.named name] at released
    cases released with
    | dropped isDown unsent slaves =>
        exact absurd isDown notDown
    | delivered isLocal isWait delivered others isSlave =>
        refine .delivered delivered ?_
        change (h'.s (handle >>> kHandleRemoteShift).toNat).queue = none
        rw [isSlave]
    | sent connected sends slaves =>
        exact .sent _ _ sends slaves
    | queued isRemote isWait silent others queue isSlave shape contents =>
        refine .waiting silent ?_
        intro past u fd run unready positive connected
        obtain ⟨lastTied, _, more, isLast⟩ :=
          messages_visited tied'
            (by
              change _ ≠ (h'.slave >>> kHandleRemoteShift).toNat
              rw [sameNode]
              exact isRemote)
            run unready
        obtain ⟨flushed, made, dispatched, sends, empty⟩ :=
          readied_eq fd
            (lastTied.wellFormed.slaves (handle >>> kHandleRemoteShift).toNat)
            connected
        refine ⟨flushed, made, more, dispatched, ?_, empty⟩
        have start :
            ((t.after (.bound name handle) h' calls).harbor.s
                (handle >>> kHandleRemoteShift).toNat).messages =
              (t.harbor.s (handle >>> kHandleRemoteShift).toNat).messages ++
                (t.named (nameKey name)).map Prod.snd := by
          change (h'.s (handle >>> kHandleRemoteShift).toNat).messages = _
          rw [isSlave, messages_of_contents, contents]
        have complete :
            ((t.named (nameKey name)).map Prod.snd).map
                (HarborService.addressed handle) =
              (t.named (nameKey name)).map Prod.snd := by
          rcases needsNo with nothing | isLocal | isConnected | isZero | isNone
          · rw [nothing]
            rfl
          · exact absurd isLocal isRemote
          · exact
              absurd (slave.connected.mpr (Or.inl isWait)) isConnected
          · omega
          · exact map_addressed_eq_self unaddressed isNone _
        rw [sends, List.map_map, complete, ← start, ← isLast]
        exact List.map_id' _

/-- Messages that wait without their address are not handed over. -/
theorem needsNoAddress_of_handed
    (tied : t.Tied)
    (unaddressed : t.Unaddressed)
    (met : HarborService.Meets t.harbor calls h' (.bound name handle))
    (notDown :
      (t.harbor.s (handle >>> kHandleRemoteShift).toNat).status ≠ .down)
    (handed :
      t.Handed handle ((t.named (nameKey name)).map Prod.snd) calls
        (t.after (.bound name handle) h' calls)) :
    t.NeedsNoAddress name handle := by
  have slave := tied.wellFormed.slaves (handle >>> kHandleRemoteShift).toNat
  by_contra needsAddress
  unfold NeedsNoAddress at needsAddress
  simp only [not_or, not_not] at needsAddress
  obtain ⟨something, isRemote, closed, positive, someHandle⟩ := needsAddress
  have someMessage : (t.named (nameKey name)).map Prod.snd ≠ [] := by
    simpa using something
  obtain ⟨_, released⟩ := met
  split at released
  · next noQueue =>
      exact something (tied.named_eq_nil noQueue)
  · rw [tied.named name] at released
    cases released with
    | dropped isDown unsent slaves =>
        exact notDown isDown
    | delivered isLocal isWait delivered others isSlave =>
        exact isRemote isLocal
    | sent connected sends slaves =>
        exact connected closed
    | queued _ isWait silent others queue isSlave shape contents =>
        cases handed with
        | delivered calls_eq released =>
            rw [silent] at calls_eq
            have nothing := (List.map_eq_nil_iff.mp calls_eq.symm)
            exact someMessage (List.append_eq_nil_iff.mp nothing).2
        | sent status fd calls_eq slaves =>
            rw [silent] at calls_eq
            exact someMessage (List.map_eq_nil_iff.mp calls_eq.symm)
        | waiting _ later =>
            have waits :
                Unready
                  ((t.after (.bound name handle) h' calls).harbor.s
                    (handle >>> kHandleRemoteShift).toNat) := by
              change Unready (h'.s (handle >>> kHandleRemoteShift).toNat)
              rw [isSlave]
              exact Or.inl isWait
            obtain ⟨flushed, made, after, dispatched, sends, _⟩ :=
              later [] _ 1 .nil
                (by
                  intro state member
                  rw [List.mem_singleton.mp member]
                  exact waits)
                (Nat.pos_of_ne_zero positive) (by decide)
            have wellFormed :
                (h'.s (handle >>> kHandleRemoteShift).toNat).WellFormed := by
              rw [isSlave]
              exact ⟨slave.connected, fun _ => Or.inl isWait, fun _ same =>
                Option.some.inj same ▸ shape⟩
            obtain ⟨_, _, isDispatched, isSent, _⟩ :=
              readied_eq 1 wellFormed (by decide)
            cases dispatched.symm.trans isDispatched
            have waiting :
                (h'.s (handle >>> kHandleRemoteShift).toNat).messages =
                  (t.harbor.s (handle >>> kHandleRemoteShift).toNat).messages ++
                    (t.named (nameKey name)).map Prod.snd := by
              rw [isSlave, messages_of_contents, contents]
            have same :
                (t.named (nameKey name)).map Prod.snd =
                  ((t.named (nameKey name)).map Prod.snd).map
                      (HarborService.addressed handle) ++
                    after := by
              rw [isSent, List.map_map, waiting, List.append_assoc] at sends
              exact
                List.append_cancel_left ((List.map_id' _).symm.trans sends)
            obtain ⟨entry, rest, isFirst⟩ :=
              List.exists_cons_of_ne_nil something
            rw [isFirst] at same
            have complete : HarborService.addressed handle entry.2 = entry.2 :=
              (List.cons.inj same).1.symm
            have noHandle :=
              unaddressed (nameKey name) entry
                (isFirst ▸ List.mem_cons_self)
            exact someHandle ((addressed_eq_self_iff noHandle).mp complete)

end Bound

/-- What a run keeps: the record, and that nothing waiting for a name has a handle. -/
structure Kept (t : HarborRun) : Prop extends Tied t where
  unaddressed : t.Unaddressed

theorem kept_of_run
    {harbor_id : Int}
    {slave : UInt32}
    {h : HarborService}
    {past : List (HarborRun × HarborInput)}
    {t : HarborRun}
    (initialised : HarborService.harborInit harbor_id slave = some h)
    (run : Run (Run.Steps next?) (start h) past t) :
    t.Kept := by
  have starts : (start h).Kept :=
    ⟨start_tied initialised, fun _ _ impossible =>
      absurd impossible List.not_mem_nil⟩
  exact
    Run.invariant_of_step run starts
      (fun kept stepped =>
        ⟨(moves_of_next kept.toTied stepped).1,
          unaddressed_next kept.unaddressed stepped⟩)
      t List.mem_cons_self

/-- A valid command `N` is a step, which hands over what needs no address. -/
theorem Kept.handsOver
    {t : HarborRun}
    (kept : t.Kept)
    {msg name : List UInt8}
    (isName : boundName msg = some name)
    (session : Int)
    (handle : UInt32)
    (unknown : HarborUnknown)
    (notDown :
      (t.harbor.s (handle >>> kHandleRemoteShift).toNat).status ≠ .down) :
    ∃ t',
      t.next?
          { msg := .harbor msg
            session := session
            source := handle
            unknown := unknown } =
        some t' ∧
        (HandsOver t name handle t' ↔ NeedsNoAddress t name handle) := by
  have isArrival :
      t.harbor.arrival (.harbor msg) session handle = .bound name handle := by
    unfold HarborService.arrival
    dsimp only
    rw [isName]
  obtain ⟨h', calls, updated, _⟩ :=
    HarborService.updateName_releases kept.wellFormed name handle
  have ran :
      t.harbor.mainloop (.harbor msg) session handle unknown =
        .ok (h', calls) :=
    (HarborService.harborCommand_of_boundName isName handle _).trans updated
  have met := HarborService.mainloop_meets kept.wellFormed ran
  have stepped :
      t.next?
          { msg := .harbor msg
            session := session
            source := handle
            unknown := unknown } =
        some (t.after (.bound name handle) h' calls) :=
    next?_eq_some_iff.mpr ⟨h', calls, ran, by rw [isArrival]⟩
  rw [isArrival] at met
  refine ⟨_, stepped, ?_, ?_⟩
  · rintro ⟨_, made, sameCalls, handed⟩
    have isMade : made = calls := List.append_cancel_left sameCalls.symm
    subst isMade
    exact
      needsNoAddress_of_handed kept.toTied kept.unaddressed met notDown handed
  · intro needsNo
    refine ⟨?_, calls, rfl, ?_⟩
    · have noQueue := met.1 name
      rw [if_pos rfl] at noQueue
      change h'.nameMessages name = []
      unfold HarborService.nameMessages
      rw [noQueue]
      rfl
    · exact
        handed_of_needsNoAddress kept.toTied kept.unaddressed met
          (HarborService.mainloop_slave ran) notDown needsNo

/--
In every run, the messages of a name are handed over when it is bound, to a
handle whose slave is not down, exactly when none of them needs its
destination completed after it has waited for a connection.
-/
theorem handsOver_iff
    {harbor_id : Int}
    {slave : UInt32}
    {h : HarborService}
    {past : List (HarborRun × HarborInput)}
    {t : HarborRun}
    {msg name : List UInt8}
    (initialised : HarborService.harborInit harbor_id slave = some h)
    (run : Run (Run.Steps next?) (start h) past t)
    (isName : boundName msg = some name)
    (session : Int)
    (handle : UInt32)
    (unknown : HarborUnknown)
    (notDown :
      (t.harbor.s (handle >>> kHandleRemoteShift).toNat).status ≠ .down) :
    ∃ t',
      t.next?
          { msg := .harbor msg
            session := session
            source := handle
            unknown := unknown } =
        some t' ∧
        (HandsOver t name handle t' ↔ NeedsNoAddress t name handle) :=
  (kept_of_run initialised run).handsOver isName session handle unknown notDown

/-- The run of `toName`: one message waits for the name. -/
theorem exists_toName :
    ∃ t,
      Run (Run.Steps next?) (start harborOne) [(start harborOne, toName)] t ∧
        t.named (nameKey (97 :: List.replicate 15 0)) ≠ [] ∧
        t.harbor.s = harborOne.s ∧ t.harbor.slave = harborOne.slave := by
  obtain ⟨t, stepped⟩ :
      ∃ t, (start harborOne).next? toName = some t := ⟨_, rfl⟩
  have unbound :
      harborOne.arrival toName.msg toName.session toName.source =
        .unbound (97 :: List.replicate 15 0)
          (HarborService.unaddressed 0x1000002 3 0 [1] 1) := by
    decide +kernel
  refine ⟨t, .snoc .nil stepped, ?_⟩
  obtain ⟨h', calls, ran, rfl⟩ := next?_eq_some_iff.mp stepped
  have tied : (start harborOne).Tied :=
    start_tied (show HarborService.harborInit 1 0x1000001 = some harborOne from rfl)
  have met := HarborService.mainloop_meets tied.wellFormed ran
  refine ⟨?_, ?_, HarborService.mainloop_slave ran⟩
  · change
      HarborRun.namedAfter (start harborOne)
          (harborOne.arrival toName.msg toName.session toName.source)
          (nameKey (97 :: List.replicate 15 0)) ≠
        []
    rw [unbound, namedAfter, Function.update_self]
    simp
  · change
      HarborService.Meets harborOne calls h'
        (harborOne.arrival toName.msg toName.session toName.source)
      at met
    rw [unbound] at met
    exact HarborService.Awaits.slaves met

/-- Bound to a service of this node, the message is handed over. -/
theorem toName_handsOver :
    ∃ t t',
      t.named (nameKey (97 :: List.replicate 15 0)) ≠ [] ∧
        t.next? (inputOf (.harbor [78, 32, 97]) 0x1000005) = some t' ∧
        HandsOver t (97 :: List.replicate 15 0) 0x1000005 t' := by
  obtain ⟨t, run, something, slaves, slave⟩ := exists_toName
  have initialised :
      HarborService.harborInit 1 0x1000001 = some harborOne := rfl
  have isName :
      boundName [78, 32, 97] = some (97 :: List.replicate 15 0) := by
    decide
  obtain ⟨t', stepped, handsOver⟩ :=
    handsOver_iff initialised run isName 0 0x1000005 .zero
      (by
        rw [slaves]
        simp [harborOne, HarborService.noSlave])
  refine ⟨t, t', something, stepped, handsOver.mpr (Or.inr (Or.inl ?_))⟩
  rw [slave]
  decide

/-- Bound to a service of a harbor without a connection, it is not. -/
theorem toName_not_handsOver :
    ∃ t past t',
      Run (Run.Steps next?) (start harborOne) past t ∧
        t.next? (inputOf (.harbor [78, 32, 97]) 0x2000005) = some t' ∧
        ¬ HandsOver t (97 :: List.replicate 15 0) 0x2000005 t' := by
  obtain ⟨t, run, something, slaves, slave⟩ := exists_toName
  have initialised :
      HarborService.harborInit 1 0x1000001 = some harborOne := rfl
  have isName :
      boundName [78, 32, 97] = some (97 :: List.replicate 15 0) := by
    decide
  obtain ⟨t', stepped, handsOver⟩ :=
    (kept_of_run initialised run).handsOver isName 0 0x2000005 .zero
      (by
        rw [slaves]
        simp [harborOne, HarborService.noSlave])
  refine ⟨t, _, t', run, stepped, fun handed => ?_⟩
  rcases handsOver.mp handed with nothing | isLocal | connected | isZero | none
  · exact something nothing
  · rw [slave] at isLocal
    exact absurd isLocal (by decide)
  · rw [slaves] at connected
    exact connected rfl
  · exact absurd isZero (by decide)
  · exact absurd none (by decide)

end HarborRun

end SkynetCpp
