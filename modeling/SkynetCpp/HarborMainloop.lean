import SkynetCpp.HarborServiceSteps

namespace SkynetCpp

/-!
# The steps of the harbor's mainloop

Each message that `mainloop` gets brings nothing for another harbor, a message
for a slave, a message for a name that is not bound, or the handle of a name.
What a step does to the queues and what it sends follow from that, and the
service stays well formed.
-/

/-- What a message to the harbor service brings. -/
inductive Arrival where
  | nothing
  | message (slave : Nat) (m : HarborMsg)
  | unbound (name : List UInt8) (m : HarborMsg)
  | bound (name : List UInt8) (handle : UInt32)
  deriving Repr, DecidableEq

/-- The global name of a valid command `N`. -/
def boundName (msg : List UInt8) : Option (List UInt8) :=
  let name := msg.drop 2
  if msg.headD 0 = 78 ∧ 0 < name.length ∧ name.length < kGlobalNameLength then
    some (name ++ List.replicate (kGlobalNameLength - name.length) 0)
  else
    none

namespace HarborService

variable {h h' : HarborService} {calls : List HarborCall}

/-- The handle that a remote message is for, or 0. -/
def resolved
    (h : HarborService)
    (destination : RemoteName) : UInt32 :=
  if destination.handle = 0 then
    h.nameValue destination.name
  else
    destination.handle

/-- What a message brings to the service in a state. -/
def arrival
    (h : HarborService)
    (msg : HarborMessage)
    (session : Int)
    (source : UInt32) : Arrival :=
  match msg with
  | .socket _ => .nothing
  | .other _ => .nothing
  | .harbor msg =>
      match boundName msg with
      | some name => .bound name source
      | none => .nothing
  | .system rmsg =>
      let type := UInt32.ofInt rmsg.type
      let message := rmsg.message.getD []
      let handle := h.resolved rmsg.destination
      let harbor_id := (handle >>> kHandleRemoteShift).toNat
      if handle = 0 then
        .unbound rmsg.destination.name
          (unaddressed source type session message rmsg.sz.toNat)
      else if (harbor_id : Int) = h.id then
        .nothing
      else
        .message harbor_id
          (handleMessage source handle type session message rmsg.sz.toNat)

/-- What a step does, by what its message brings. -/
def Meets
    (h : HarborService)
    (calls : List HarborCall)
    (h' : HarborService) : Arrival → Prop
  | .nothing => Passive h calls h'
  | .message id m => Takes h id m calls h'
  | .unbound name m => Awaits h name m calls h'
  | .bound name handle =>
      (∀ other,
        h'.nameQueue other =
          if nameKey other = nameKey name then none else h.nameQueue other) ∧
        if h.nameQueue name = none then
          calls = [] ∧ h'.s = h.s
        else
          Releases h handle (h.nameMessages name) calls h'

section Preservation

theorem Passive.wellFormed
    (passive : Passive h calls h')
    (wellFormed : h.WellFormed) :
    h'.WellFormed := by
  cases passive with
  | quiet _ names slaves =>
      refine ⟨fun id => (slaves id).1, ?_⟩
      intro name queue queued
      exact wellFormed.names name queue ((names name).symm.trans queued)
  | flush id fd _ names others _ settled =>
      refine ⟨?_, ?_⟩
      · intro other
        by_cases same : other = id
        · subst same
          exact settled.wellFormed
        · rw [others other same]
          exact wellFormed.slaves other
      · intro name queue queued
        exact wellFormed.names name queue ((names name).symm.trans queued)

theorem Takes.wellFormed
    {id : Nat}
    {m : HarborMsg}
    (takes : Takes h id m calls h')
    (wellFormed : h.WellFormed) :
    h'.WellFormed := by
  cases takes with
  | refused _ same _ =>
      subst same
      exact wellFormed
  | queued _ unready names others queue slave shape _ =>
      refine ⟨?_, ?_⟩
      · intro other
        by_cases same : other = id
        · subst same
          rw [slave]
          refine
            ⟨(wellFormed.slaves other).connected, fun _ => unready, ?_⟩
          intro waiting isQueue
          cases isQueue
          exact shape
        · rw [others other same]
          exact wellFormed.slaves other
      · intro name waiting queued
        exact
          wellFormed.names name waiting
            ((nameQueue_of_map names name).symm.trans queued)
  | sent _ same _ _ =>
      subst same
      exact wellFormed

theorem Awaits.wellFormed
    {name : List UInt8}
    {m : HarborMsg}
    (awaits : Awaits h name m calls h')
    (wellFormed : h.WellFormed) :
    h'.WellFormed := by
  obtain ⟨queue, shape, contents, names⟩ := awaits.queued
  refine ⟨?_, ?_⟩
  · intro id
    rw [awaits.slaves]
    exact wellFormed.slaves id
  · intro other waiting queued
    rw [names other] at queued
    split at queued
    · cases queued
      refine ⟨shape, ?_⟩
      rw [contents]
      simp
    · exact wellFormed.names other waiting queued

theorem Releases.slaves_wellFormed
    {handle : UInt32}
    {messages : List HarborMsg}
    (releases : Releases h handle messages calls h')
    (wellFormed : h.WellFormed)
    (id : Nat) :
    (h'.s id).WellFormed := by
  cases releases with
  | dropped _ _ slaves =>
      rw [slaves]
      exact wellFormed.slaves id
  | delivered _ isWait _ others slave =>
      by_cases same : id = (handle >>> kHandleRemoteShift).toNat
      · rw [same, slave]
        refine ⟨(wellFormed.slaves _).connected, fun _ => Or.inl isWait, ?_⟩
        intro queue isQueue
        cases isQueue
      · rw [others id same]
        exact wellFormed.slaves id
  | queued _ isWait _ others queue slave shape _ =>
      by_cases same : id = (handle >>> kHandleRemoteShift).toNat
      · rw [same, slave]
        refine ⟨(wellFormed.slaves _).connected, fun _ => Or.inl isWait, ?_⟩
        intro waiting isQueue
        cases isQueue
        exact shape
      · rw [others id same]
        exact wellFormed.slaves id
  | sent _ _ slaves =>
      rw [slaves]
      exact wellFormed.slaves id

theorem Meets.wellFormed
    {brought : Arrival}
    (met : Meets h calls h' brought)
    (wellFormed : h.WellFormed) :
    h'.WellFormed := by
  cases brought with
  | nothing =>
      exact Passive.wellFormed met wellFormed
  | message id m =>
      exact Takes.wellFormed met wellFormed
  | unbound name m =>
      exact Awaits.wellFormed met wellFormed
  | bound name handle =>
      obtain ⟨names, released⟩ := met
      refine ⟨?_, ?_⟩
      · intro id
        split at released
        · rw [released.2]
          exact wellFormed.slaves id
        · exact released.slaves_wellFormed wellFormed id
      · intro other queue queued
        rw [names other] at queued
        split at queued
        · cases queued
        · exact wellFormed.names other queue queued

end Preservation

section Mainloop

/-- A command binds a name, connects a slave, or does nothing. -/
theorem harborCommand_meets
    {msg stack : List UInt8}
    {source : UInt32}
    (wellFormed : h.WellFormed)
    (done : h.harborCommand msg source stack = .ok (h', calls)) :
    Meets h calls h'
      (match boundName msg with
        | some name => .bound name source
        | none => .nothing) := by
  unfold harborCommand at done
  dsimp only at done
  split at done
  · next isName =>
      have long (valid : ¬((msg.length : Int) - 2 ≤ 0 ∨
          (kGlobalNameLength : Int) ≤ (msg.length : Int) - 2)) :
          0 < (msg.drop 2).length ∧
            (msg.drop 2).length < kGlobalNameLength := by
        rw [List.length_drop]
        omega
      have short (invalid : (msg.length : Int) - 2 ≤ 0 ∨
          (kGlobalNameLength : Int) ≤ (msg.length : Int) - 2) :
          ¬(0 < (msg.drop 2).length ∧
            (msg.drop 2).length < kGlobalNameLength) := by
        rw [List.length_drop]
        have limit : kGlobalNameLength = 16 := rfl
        omega
      split at done
      · next invalid =>
          cases done
          have noName : boundName msg = none :=
            if_neg fun valid => short invalid valid.2
          rw [noName]
          exact .of_same wellFormed rfl
      · next valid =>
          have isBound :
              boundName msg =
                some
                  (msg.drop 2 ++
                    List.replicate (kGlobalNameLength - (msg.drop 2).length) 0) :=
            if_pos ⟨isName, long valid⟩
          rw [isBound]
          obtain ⟨next, made, updated, names, released⟩ :=
            updateName_releases wellFormed
              (msg.drop 2 ++
                List.replicate (kGlobalNameLength - (msg.drop 2).length) 0)
              source
          rw [done] at updated
          cases updated
          exact ⟨names, released⟩
  all_goals
    have noName : boundName msg = none := by
      refine if_neg fun valid => ?_
      simp_all
    rw [noName]
  · split at done
    · cases done
    · exact connectCommand_passive wellFormed done
  · split at done
    · cases done
    · exact connectCommand_passive wellFormed done
  · cases done
    exact .of_same wellFormed rfl

/-- A valid command `N` binds its name. -/
theorem harborCommand_of_boundName
    {msg name : List UInt8}
    (isName : boundName msg = some name)
    (source : UInt32)
    (stack : List UInt8) :
    h.harborCommand msg source stack = h.updateName name source := by
  unfold boundName at isName
  dsimp only at isName
  split at isName
  · next valid =>
      cases isName
      obtain ⟨isCommand, positive, short⟩ := valid
      rw [List.length_drop] at positive short
      have long : ¬((msg.length : Int) - 2 ≤ 0 ∨
          (kGlobalNameLength : Int) ≤ (msg.length : Int) - 2) := by
        omega
      unfold harborCommand
      dsimp only
      rw [isCommand]
      exact if_neg long
  · cases isName

/-- A bound name has its node already. -/
theorem findOrInsert_of_bound
    {name : List UInt8}
    (isBound : h.nameValue name ≠ 0) :
    { h with map := (findOrInsert h.map name).2 } = h := by
  unfold nameValue at isBound
  unfold findOrInsert
  cases found : hashSearch h.map name with
  | none =>
      rw [found] at isBound
      exact absurd rfl isBound
  | some node =>
      rfl

/-- `mainloop` does what the message it gets asks for. -/
theorem mainloop_meets
    {msg : HarborMessage}
    {session : Int}
    {source : UInt32}
    {unknown : HarborUnknown}
    (wellFormed : h.WellFormed)
    (done : h.mainloop msg session source unknown = .ok (h', calls)) :
    Meets h calls h' (h.arrival msg session source) := by
  cases msg with
  | socket message =>
      simp only [mainloop] at done
      split at done
      · exact pushSocketData_passive wellFormed done
      · split at done
        · split at done
          · cases done
            exact .of_same wellFormed rfl
          · cases done
            exact .of_same wellFormed rfl
        · cases done
          exact .of_same wellFormed rfl
  | harbor msg =>
      exact harborCommand_meets wellFormed done
  | other type =>
      simp only [mainloop] at done
      split at done
      · cases done
        exact .of_same wellFormed rfl
      · cases done
        exact .of_same wellFormed rfl
  | system rmsg =>
      have byHandle (handle : UInt32) :=
        remoteSendHandle_cases wellFormed source handle
          (UInt32.ofInt rmsg.type) session (rmsg.message.getD [])
          rmsg.sz.toNat
      have byName :=
        remoteSendName_cases wellFormed source rmsg.destination.name
          (UInt32.ofInt rmsg.type) session (rmsg.message.getD [])
          rmsg.sz.toNat
      have sameHandle :
          h.resolved rmsg.destination ≠ 0 →
            (h', calls) =
              (h.remoteSendHandle source (h.resolved rmsg.destination)
                (UInt32.ofInt rmsg.type) session (rmsg.message.getD [])
                rmsg.sz.toNat).2 := by
        intro isResolved
        unfold resolved at isResolved ⊢
        simp only [mainloop] at done
        split at done
        · next isName =>
            rw [if_pos isName] at isResolved ⊢
            dsimp only at byName
            rw [if_neg isResolved, findOrInsert_of_bound isResolved] at byName
            rw [← byName]
            exact (Except.ok.inj done).symm
        · next isHandle =>
            rw [if_neg isHandle]
            exact (Except.ok.inj done).symm
      unfold arrival
      dsimp only
      by_cases unbound : h.resolved rmsg.destination = 0
      · rw [if_pos unbound]
        unfold resolved at unbound
        simp only [mainloop] at done
        split at done
        · next isName =>
            rw [if_pos isName] at unbound
            dsimp only at byName
            rw [if_pos unbound, Except.ok.inj done] at byName
            exact byName
        · next isHandle =>
            rw [if_neg isHandle] at unbound
            exact absurd unbound isHandle
      · rw [if_neg unbound]
        have taken := byHandle (h.resolved rmsg.destination)
        dsimp only at taken
        rw [← sameHandle unbound] at taken
        split
        · next isLocal =>
            rw [if_pos isLocal] at taken
            obtain ⟨unsent, same⟩ := taken
            dsimp only at same
            subst same
            exact .of_same wellFormed unsent
        · next isRemote =>
            rw [if_neg isRemote] at taken
            exact taken

end Mainloop

section Node

/-- Receiving data leaves the harbor's own data as they are. -/
theorem slave_of_pushSocketData
    {slaves slaves' : Harbor}
    {message : SkynetSocketMessage}
    {unknown : HarborUnknown}
    {actions : List HarborAction}
    (done :
      SkynetCpp.pushSocketData slaves message unknown = .ok (slaves', actions)) :
    slaves'.slave = slaves.slave := by
  let Keeps : Harbor → List HarborAction → Harbor → Prop :=
    fun h _ h' => h'.slave = h.slave
  have content
      (h : Harbor) (id : Nat) (round : Nat) (buffer : List UInt8)
      (size : Int) :
      (SkynetCpp.contentCase h id unknown round buffer size).1.slave =
        h.slave := by
    unfold contentCase
    dsimp only
    split
    · rfl
    · split
      · rfl
      · rfl
  have header
      (h : Harbor) (id : Nat) (round : Nat) (buffer : List UInt8)
      (size : Int) :
      (headerCase h id unknown round buffer size).1.slave = h.slave := by
    unfold headerCase
    dsimp only
    split
    · rfl
    · split
      · rfl
      · split
        · rfl
        · exact content _ id round _ _
  have handshake
      (h : Harbor) (id : Nat) (round : Nat) (buffer : List UInt8)
      (size : Int) (h' : Harbor) (actions : List HarborAction)
      (flow : PushFlow)
      (isCase :
        SkynetCpp.handshakeCase h id unknown round buffer size =
          .ok (h', actions, flow)) :
      h'.slave = h.slave := by
    unfold SkynetCpp.handshakeCase at isCase
    dsimp only at isCase
    split at isCase
    · cases isCase
      rfl
    · obtain ⟨⟨flushed, sent⟩, dispatched, rest⟩ := bind_eq_ok_iff.mp isCase
      have same : flushed.slave = h.slave := by
        unfold Harbor.dispatchQueue at dispatched
        dsimp only at dispatched
        split at dispatched
        · cases dispatched
        · split at dispatched
          · cases dispatched
            rfl
          · obtain ⟨made, _, isFlushed⟩ := bind_eq_ok_iff.mp dispatched
            cases isFlushed
            rfl
      dsimp only at rest
      split at rest
      · cases rest
        exact same
      · cases rest
        exact (header flushed id round _ _).trans same
  unfold SkynetCpp.pushSocketData at done
  split at done
  · cases done
  · split at done
    · cases done
      rfl
    · next id found =>
        have kept : Keeps slaves actions slaves' :=
          pushSocketDataLoop_relates (fun _ => rfl)
            (fun _ _ _ _ _ first second => second.trans first)
            (fun h round buffer size h' actions flow isCase =>
              handshake h id round buffer size h' actions flow isCase)
            (fun h round buffer size => header h id round buffer size)
            (fun h round buffer size => content h id round buffer size) done
        exact kept

theorem dispatchQueue_slave
    {id : Nat}
    (done : h.dispatchQueue id = .ok (h', calls)) :
    h'.slave = h.slave := by
  unfold dispatchQueue at done
  dsimp only at done
  split at done
  · cases done
  · split at done
    · cases done
      rfl
    · obtain ⟨made, _, isFlushed⟩ := bind_eq_ok_iff.mp done
      cases isFlushed
      rfl

theorem dispatchNameQueue_slave
    {node : KeyValue}
    {queue : HarborMsgQueue}
    (done : h.dispatchNameQueue node queue = .ok (h', calls)) :
    h'.slave = h.slave := by
  unfold dispatchNameQueue at done
  dsimp only at done
  split at done
  · split at done
    · cases done
      rfl
    · obtain ⟨merged, _, rest⟩ := bind_eq_ok_iff.mp done
      split at rest
      · obtain ⟨made, _, isDelivered⟩ := bind_eq_ok_iff.mp rest
        cases isDelivered
        rfl
      · cases rest
        rfl
  · obtain ⟨made, _, isSent⟩ := bind_eq_ok_iff.mp done
    cases isSent
    rfl

theorem harborCommand_slave
    {msg stack : List UInt8}
    {source : UInt32}
    (done : h.harborCommand msg source stack = .ok (h', calls)) :
    h'.slave = h.slave := by
  have connect (accepted : Bool) (name : List UInt8)
      (connected :
        h.connectCommand accepted name stack = .ok (h', calls)) :
      h'.slave = h.slave := by
    unfold connectCommand at connected
    dsimp only at connected
    split at connected
    · cases connected
      rfl
    · split at connected
      · cases connected
        rfl
      · split at connected
        · obtain ⟨⟨next, made⟩, dispatched, isReady⟩ :=
            bind_eq_ok_iff.mp connected
          have kept := dispatchQueue_slave dispatched
          cases isReady
          exact kept
        · cases connected
          rfl
  unfold harborCommand at done
  dsimp only at done
  split at done
  · split at done
    · cases done
      rfl
    · unfold updateName at done
      dsimp only at done
      split at done
      · cases done
        rfl
      · obtain ⟨⟨next, made⟩, dispatched, isReleased⟩ :=
          bind_eq_ok_iff.mp done
        have kept := dispatchNameQueue_slave dispatched
        cases isReleased
        exact kept
  · split at done
    · cases done
    · exact connect false _ done
  · split at done
    · cases done
    · exact connect true _ done
  · cases done
    rfl

/-- No message changes which service is the slave service. -/
theorem mainloop_slave
    {msg : HarborMessage}
    {session : Int}
    {source : UInt32}
    {unknown : HarborUnknown}
    (done : h.mainloop msg session source unknown = .ok (h', calls)) :
    h'.slave = h.slave := by
  have byHandle (h : HarborService) (source destination type : UInt32)
      (session : Int) (msg : List UInt8) (sz : Nat) :
      (h.remoteSendHandle source destination type session msg sz).2.1.slave =
        h.slave := by
    unfold remoteSendHandle
    dsimp only
    split
    · rfl
    · split
      · split
        · rfl
        · rfl
      · rfl
  cases msg with
  | socket message =>
      simp only [mainloop] at done
      split at done
      · have written :=
          congrArg (Except.map (writtenOut unknown.stack)) done
        rw [pushSocketData_writtenOut] at written
        exact slave_of_pushSocketData written
      · split at done
        · split at done
          · cases done
            rfl
          · cases done
            rfl
        · cases done
          rfl
  | harbor msg =>
      exact harborCommand_slave done
  | other type =>
      simp only [mainloop] at done
      split at done
      · cases done
        rfl
      · cases done
        rfl
  | system rmsg =>
      simp only [mainloop] at done
      split at done
      · have sent := Except.ok.inj done
        have isNext := congrArg Prod.fst sent
        dsimp only at isNext
        rw [← isNext]
        unfold remoteSendName
        dsimp only
        split
        · rfl
        · exact byHandle _ source _ _ session _ _
      · have sent := Except.ok.inj done
        have isNext := congrArg Prod.fst sent
        dsimp only at isNext
        rw [← isNext]
        exact byHandle h source _ _ session _ _

end Node

end HarborService

end SkynetCpp
